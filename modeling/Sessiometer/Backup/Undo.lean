import Sessiometer.Backup.Advance
import Sessiometer.Backup.Restore
import Sessiometer.Roster.Planned

/-! # What a restore brings back

The newest retentions are what has last been replaced, whatever failed and wherever a verb was cut short, so
that a replaced configuration is put back by its place in the list. -/

namespace Sessiometer.Backup

open Effects

/-! ## The newest retentions -/

section Newest

variable [FromTomlStr] {s s' : Store} {found entries : List (List Char × Stamp)} {texts : List String}
  {new : Option String}

/-- The newest retentions, what they hold, and nothing else above any of them. -/
structure Newest (s : Store) (entries : List (List Char × Stamp)) (texts : List String) : Prop where
  sorted : entries.Pairwise (fun a b => b.2 < a.2)
  decoded : ∀ x ∈ entries, stampOf x.1 = some x.2
  contents : entries.map (fun x => s.files (entry x.1)) = texts.map (fun text => some (.text text))
  others : ∀ name stamp, s.Holds name stamp → (name, stamp) ∈ entries ∨ ∀ x ∈ entries, stamp < x.2
  qualified : ∀ text ∈ texts, qualifies text = true

/-- The newest of the ring is what has last been retained, as far as the ring is deep. -/
def Tells (s : Store) (history : List String) : Prop :=
  ∃ entries, Newest s entries (history.take ringDepth)

theorem Newest.held (h : Newest s entries texts) : ∀ x ∈ entries, s.Holds x.1 x.2 := by
  intro x hx
  refine ⟨h.decoded x hx, ?_⟩
  have hmem : s.files (entry x.1) ∈ entries.map (fun x => s.files (entry x.1)) := List.mem_map_of_mem hx
  rw [h.contents] at hmem
  obtain ⟨text, -, heq⟩ := List.mem_map.mp hmem
  rw [← heq]
  simp

/-- What is there is among the first of the newest, or below all of them. -/
theorem Newest.among {name : List Char} {stamp : Stamp} (h : Newest s entries texts) (n : ℕ)
    (hname : s.Holds name stamp) : (name, stamp) ∈ entries.take n ∨ ∀ x ∈ entries.take n, stamp < x.2 := by
  rcases h.others name stamp hname with hmem | hbelow
  · have hsplit := List.take_append_drop n entries
    have hsorted := h.sorted
    rw [← hsplit, List.pairwise_append] at hsorted
    rw [← hsplit] at hmem
    rcases List.mem_append.mp hmem with htake | hdrop
    · exact .inl htake
    · exact .inr fun x hx => hsorted.2.2 x hx _ hdrop
  · exact .inr fun x hx => hbelow x (List.mem_of_mem_take hx)

theorem tells_nil (s : Store) : Tells s [] :=
  ⟨[], .nil, by simp, rfl, fun _ _ _ => .inr (by simp), by simp⟩

theorem Newest.sameRing (h : Newest s entries texts) (hs : SameRing s s') : Newest s' entries texts := by
  have hfiles : ∀ x ∈ entries, s'.files (entry x.1) = s.files (entry x.1) :=
    fun x hx => hs x.1 (by simp [h.decoded x hx])
  refine ⟨h.sorted, h.decoded, ?_, ?_, h.qualified⟩
  · rw [List.map_congr_left hfiles]
    exact h.contents
  · intro name stamp hname
    apply h.others name stamp
    refine ⟨hname.1, ?_⟩
    rw [← hs name (by simp [hname.1])]
    exact hname.2

/-- Of the newest retentions, only one that is beyond the depth of the ring may go. -/
theorem Newest.stays (h : Newest s entries texts) (hnew : Advance s s' new) :
    ∀ x ∈ entries.take (ringDepth - 1), s'.Holds x.1 x.2 := by
  intro x hx
  have hheld := h.held x (List.mem_of_mem_take hx)
  cases hnew with
  | same hs =>
    refine ⟨hheld.1, ?_⟩
    rw [hs x.1 (by simp [hheld.1])]
    exact hheld.2
  | @added target stamp text replaced decoded above here kept full =>
    by_contra hgone
    obtain ⟨names, hnodup, hlength, hall⟩ := full x.1 x.2 hheld hgone
    -- what is left above it is the new one, and those before it in the list
    have hsub : names ⊆ target :: ((entries.take (ringDepth - 1)).erase x).map Prod.fst := by
      intro name hname
      rw [List.mem_cons]
      by_cases htarget : name = target
      · exact .inl htarget
      · refine .inr ?_
        obtain ⟨stamp', hstill, hle⟩ := hall name hname
        have hold : s.Holds name stamp' := by
          refine ⟨hstill.1, ?_⟩
          rw [← kept name stamp' htarget hstill]
          exact hstill.2
        rcases h.among (ringDepth - 1) hold with htake | hbelow
        · have hne : (name, stamp') ≠ x := by
            rintro rfl
            exact hgone hstill
          exact List.mem_map.mpr ⟨_, (List.mem_erase_of_ne hne).mpr htake, rfl⟩
        · exact absurd (hbelow x hx) (not_lt.mpr hle)
    have hle := (List.subperm_of_subset hnodup hsub).length_le
    have herase := List.length_erase_of_mem hx
    have hpos : 0 < (entries.take (ringDepth - 1)).length := List.length_pos_of_mem hx
    have htake : (entries.take (ringDepth - 1)).length ≤ ringDepth - 1 := List.length_take_le _ _
    rw [List.length_cons, List.length_map] at hle
    omega

/-- What a turn adds comes first. -/
theorem Tells.advance {history : List String} (h : Tells s history) (hnew : Advance s s' new) :
    Tells s' (new.toList ++ history) := by
  obtain ⟨entries, h⟩ := h
  have hstays := h.stays hnew
  cases hnew with
  | same hs => exact ⟨entries, h.sameRing hs⟩
  | @added target stamp text replaced decoded above here kept full =>
    have hdepth : ringDepth = ringDepth - 1 + 1 := by decide
    have hfiles : ∀ x ∈ entries.take (ringDepth - 1), s'.files (entry x.1) = s.files (entry x.1) := by
      intro x hx
      apply kept x.1 x.2 _ (hstays x hx)
      intro htarget
      have hlt := above x.1 x.2 (h.held x (List.mem_of_mem_take hx))
      have heq : x.2 = stamp := by
        apply Option.some.inj
        rw [← h.decoded x (List.mem_of_mem_take hx), htarget, decoded]
      exact absurd heq hlt.ne
    have htake : (([text] ++ history).take ringDepth) =
        text :: ((history.take ringDepth).take (ringDepth - 1)) := by
      rw [List.take_take, List.singleton_append, hdepth, List.take_succ_cons]
      rfl
    refine ⟨(target, stamp) :: entries.take (ringDepth - 1), ?_⟩
    rw [show (some text).toList = [text] from rfl, htake]
    constructor
    · rw [List.pairwise_cons]
      refine ⟨?_, h.sorted.sublist (List.take_sublist _ _)⟩
      intro x hx
      exact above x.1 x.2 (h.held x (List.mem_of_mem_take hx))
    · intro x hx
      rcases List.mem_cons.mp hx with rfl | hx
      · exact decoded
      · exact h.decoded x (List.mem_of_mem_take hx)
    · have hmap := congrArg (List.take (ringDepth - 1)) h.contents
      rw [← List.map_take, ← List.map_take] at hmap
      rw [List.map_cons, List.map_cons, here, List.map_congr_left hfiles, hmap]
    · intro name stamp' hname
      by_cases htarget : name = target
      · rw [htarget, Option.some.inj ((hname.1.symm.trans (htarget ▸ decoded)))]
        exact .inl List.mem_cons_self
      · have hold : s.Holds name stamp' := by
          refine ⟨hname.1, ?_⟩
          rw [← kept name stamp' htarget hname]
          exact hname.2
        rcases h.among (ringDepth - 1) hold with htake | hbelow
        · exact .inl (List.mem_cons_of_mem _ htake)
        · refine .inr ?_
          intro x hx
          rcases List.mem_cons.mp hx with rfl | hx
          · exact above name stamp' hold
          · exact hbelow x hx
    · intro text' hmem
      rcases List.mem_cons.mp hmem with rfl | hmem
      · exact (Option.filter_eq_some_iff.mp replaced).2
      · exact h.qualified text' (List.mem_of_mem_take hmem)

/-- Every listing begins with the newest. -/
theorem Newest.listed (h : Newest s entries texts) (hfound : Found s found) : entries <+: found := by
  have hsub : ∀ x ∈ entries, x ∈ found := fun x hx => (hfound.held x.1 x.2).mp (h.held x hx)
  have hothers : ∀ y ∈ found, y ∈ entries ∨ ∀ x ∈ entries, y.2 < x.2 :=
    fun y hy => h.others y.1 y.2 ((hfound.held y.1 y.2).mpr hy)
  have hstrict := h.sorted
  have hsorted := hfound.sorted
  have hdistinct := hfound.distinct
  clear hfound h
  induction entries generalizing found with
  | nil => exact List.nil_prefix
  | cons x entries ih =>
    rw [List.pairwise_cons] at hstrict
    cases found with
    | nil => exact absurd (hsub x List.mem_cons_self) List.not_mem_nil
    | cons y found =>
      rw [List.pairwise_cons] at hsorted
      rw [List.map_cons, List.nodup_cons] at hdistinct
      have hle : x.2 ≤ y.2 := by
        rcases List.mem_cons.mp (hsub x List.mem_cons_self) with rfl | hmem
        · exact le_refl _
        · exact hsorted.1 x hmem
      have hhead : y = x := by
        rcases hothers y List.mem_cons_self with hmem | hbelow
        · rcases List.mem_cons.mp hmem with heq | hmem
          · exact heq
          · exact absurd (hstrict.1 y hmem) (not_lt.mpr hle)
        · exact absurd (hbelow x List.mem_cons_self) (not_lt.mpr hle)
      rw [hhead, List.prefix_cons_inj]
      apply ih _ _ hstrict.2 hsorted.2 hdistinct.2
      · intro z hz
        rcases List.mem_cons.mp (hsub z (List.mem_cons_of_mem _ hz)) with heq | hmem
        · have hlt := hstrict.1 z hz
          rw [heq, hhead] at hlt
          exact absurd hlt (lt_irrefl _)
        · exact hmem
      · intro z hz
        rcases hothers z (List.mem_cons_of_mem _ hz) with hmem | hbelow
        · rcases List.mem_cons.mp hmem with heq | hmem
          · rw [heq, ← hhead] at hz
            exact absurd (List.mem_map_of_mem hz) hdistinct.1
          · exact .inl hmem
        · exact .inr fun x' hx' => hbelow x' (List.mem_cons_of_mem _ hx')

end Newest

/-! ## The verbs -/

section Verbs

variable [StrDebug] [TomlText] {s s' : Store} {text : String} {config : Config}

theorem qualifies_iff : qualifies text = true ↔
    ∃ config, Config.fromTomlStr text = .ok config ∧ config.roster ≠ [] := by
  unfold qualifies
  have hread : FromTomlStr.fromTomlStr text = (Config.fromTomlStr text).toOption.map Config.roster := rfl
  rw [hread]
  cases Config.fromTomlStr text with
  | error e => simp [Except.toOption]
  | ok config =>
    cases hroster : config.roster with
    | nil => simp [Except.toOption, hroster]
    | cons a roster => simp [Except.toOption, hroster]

/-- What is written is read as what it was written from, where the reader reads the lines that were
spelled. -/
theorem fromTomlStr_rendered {lines : List Toml.Line} (h : Config.parse lines = .ok config)
    (hlines : TomlText.lines (rendered config) = some config.render) :
    Config.fromTomlStr (rendered config) = .ok config := by
  unfold Config.fromTomlStr
  rw [hlines]
  exact parse_render (valid_of_parse h)

theorem parse_of_fromTomlStr (h : Config.fromTomlStr text = .ok config) :
    ∃ lines, Config.parse lines = .ok config := by
  unfold Config.fromTomlStr at h
  split at h
  · cases h
  · next lines _ => exact ⟨lines, h⟩

theorem wp_accountsAt {G : Device SaveSeams Store} (hG : ∀ o r, G o s r s) (path : Path) :
    wp disk G (accountsAt path) s (fun _ s' => s' = s) := by
  rintro text s₁ ⟨rfl, -⟩
  exact ⟨hG _ _, rfl⟩

theorem wp_described {G : Device SaveSeams Store} (hG : ∀ o r, G o s r s)
    (found : List (List Char × Stamp)) : wp disk G (described found) s (fun retained s' =>
      s' = s ∧ retained.map (fun b => (b.name, b.takenAt)) = found) := by
  induction found with
  | nil => exact ⟨rfl, rfl⟩
  | cons x found ih =>
    obtain ⟨name, stamp⟩ := x
    unfold described
    rw [wp_bind]
    apply wp_mono (wp_accountsAt hG _)
    rintro accounts s₁ rfl
    rw [wp_bind]
    apply wp_mono ih
    rintro retained s₂ ⟨rfl, hmap⟩
    exact ⟨rfl, by rw [List.map_cons, hmap]⟩

/-- To list the ring leaves everything. -/
theorem wp_list {G : Device SaveSeams Store} (hG : ∀ o r, G o s r s) :
    wp disk G list s (fun retained s' =>
      s' = s ∧ Found s (retained.map (fun b => (b.name, b.takenAt)))) := by
  rintro names s₁ ⟨rfl, hnodup, hnames⟩
  refine ⟨hG _ _, ?_⟩
  change wp disk G (described (newestFirst (decoded names))) s₁ _
  apply wp_mono (wp_described hG _)
  rintro retained s₂ ⟨rfl, hmap⟩
  rw [hmap]
  exact ⟨rfl, found_newestFirst hnodup hnames⟩

/-- What the entry under an index loads as. -/
def loadedAt (s : Store) (found : List (List Char × Stamp)) (index : ℕ) :
    Option (Except ConfigFileError Config) :=
  ((if index = 0 then none else found[index - 1]?).bind
    fun x => (s.files (entry x.1)).bind File.text?).map Config.fromTomlStr

/-- A restore saves what its entry loads as, and refuses where there is nothing to save. -/
def Proceeds (G : Device SaveSeams Store) (Q : Except RestoreError Unit → Store → Prop) (s : Store) :
    Option (Except ConfigFileError Config) → Prop
  | some (.ok config) => wp disk G (saveTo (rendered config)).run s (fun r s' => Q (r.mapError .save) s')
  | _ => ∀ e, (∀ e', e ≠ .save e') → Q (.error e) s

theorem wp_restoreEntry {G : Device SaveSeams Store} {chosen : ListedBackup}
    {Q : Except RestoreError Unit → Store → Prop} (hG : ∀ o r, G o s r s)
    (h : Proceeds G Q s (((s.files (entry chosen.name)).bind File.text?).map Config.fromTomlStr)) :
    wp disk G (restoreEntry chosen).run s Q := by
  unfold restoreEntry
  rw [wp_except_bind]
  rintro text s₁ ⟨rfl, rfl⟩
  refine ⟨hG _ _, ?_⟩
  dsimp only
  generalize (s₁.files (entry chosen.name)).bind File.text? = text at h
  cases text with
  | none => exact h _ (fun e' => by simp)
  | some text =>
    rw [Option.map_some] at h
    change wp disk G (restoreText text).run s₁ Q
    unfold restoreText
    cases hload : Config.fromTomlStr text with
    | error e =>
      rw [hload] at h
      exact h _ (fun e' => by simp)
    | ok restored =>
      rw [hload] at h
      dsimp only
      rw [wp_except_bind, ExceptT.run_lift, map_eq_pure_bind, wp_bind]
      apply wp_mono (wp_accountsAt hG _)
      rintro accounts s₂ rfl
      exact wp_adapt.mpr h

theorem wp_configRestoreAt {G : Device SaveSeams Store} {index : ℕ}
    {Q : Except RestoreError Unit → Store → Prop} (hG : ∀ o r, G o s r s)
    (h : ∀ found, Found s found → Proceeds G Q s (loadedAt s found index)) :
    wp disk G (configRestoreAt index).run s Q := by
  unfold configRestoreAt
  rw [wp_except_bind, ExceptT.run_lift, map_eq_pure_bind, wp_bind]
  apply wp_mono (wp_list hG)
  rintro retained s₁ ⟨rfl, hfound⟩
  have hproceeds := h _ hfound
  have hnth : (if index = 0 then none else (retained.map (fun b => (b.name, b.takenAt)))[index - 1]?) =
      (nth retained index).map (fun b => (b.name, b.takenAt)) := by
    unfold nth
    split
    · rfl
    · exact List.getElem?_map ..
  unfold loadedAt at hproceeds
  rw [hnth] at hproceeds
  refine wp_pure.mpr ?_
  dsimp only
  cases hchosen : nth retained index with
  | none =>
    rw [hchosen] at hproceeds
    exact hproceeds _ (fun e' => by simp)
  | some chosen =>
    rw [hchosen] at hproceeds
    exact wp_restoreEntry hG hproceeds

/-! ## Runs of the verbs -/

/-- Every verb that writes a configuration saves it; a restore saves a retained one. -/
inductive SavingVerb where
  | save (text : String)
  | restore (index : ℕ)

def SavingVerb.program : SavingVerb → Restoring Unit
  | .save text => ExceptT.adapt RestoreError.save (saveTo text)
  | .restore index => configRestoreAt index

/-- What is in the ring that was not. -/
def Adds (s s' : Store) : Option String → Prop
  | none => ∀ name stamp, s'.Holds name stamp → s.Holds name stamp
  | some text => ∃ name stamp, s'.Holds name stamp ∧ ¬ s.Holds name stamp ∧
      s'.files (entry name) = some (.text text)

/-- A verb, which may be left unfinished at any operation, with what it has added to the ring; or what others
do outside the ring. -/
inductive UndoStep : Store → Option String → Store → Prop
  | verb {s s' : Store} {verb : SavingVerb} {tr : List (Occurrence SaveSeams)}
      {q : Prog SaveSeams (Except RestoreError Unit)} {new : Option String} :
      Steps disk verb.program.run s tr q s' → Adds s s' new → UndoStep s new s'
  | edited {s s' : Store} : (∀ name, s'.files (entry name) = s.files (entry name)) → UndoStep s none s'

/-- What the run has added to the ring, the last first. -/
def history (added : List (Option String)) : List String := (added.filterMap id).reverse

theorem adds_of_advance {new : Option String} (h : Advance s s' new) : Adds s s' new := by
  cases h with
  | same hs =>
    intro name stamp hname
    refine ⟨hname.1, ?_⟩
    rw [← hs name (by simp [hname.1])]
    exact hname.2
  | @added target stamp text replaced decoded above here kept full =>
    refine ⟨target, stamp, ⟨decoded, by simp [here]⟩, ?_, here⟩
    intro hold
    exact lt_irrefl _ (above target stamp hold)

/-- Nothing else than what has been retained has been added. -/
theorem advance_of_adds {new new' : Option String} (h : Advance s s' new') (hnew : Adds s s' new) :
    new = new' := by
  cases h with
  | same hs =>
    cases new with
    | none => rfl
    | some text =>
      obtain ⟨name, stamp, hheld, hnot, -⟩ := hnew
      refine absurd ⟨hheld.1, ?_⟩ hnot
      rw [← hs name (by simp [hheld.1])]
      exact hheld.2
  | @added target stamp text replaced decoded above here kept full =>
    cases new with
    | none =>
      have hold := hnew target stamp ⟨decoded, by simp [here]⟩
      exact absurd (above target stamp hold) (lt_irrefl _)
    | some text' =>
      obtain ⟨name, stamp', hheld, hnot, hfile⟩ := hnew
      by_cases hname : name = target
      · rw [hname, here] at hfile
        simpa using hfile.symm
      · refine absurd ⟨hheld.1, ?_⟩ hnot
        rw [← kept name stamp' hname hheld]
        exact hheld.2

/-- A verb leaves the ring advanced at each of its operations; where it fails the configuration and every
retention are left, and where it does not, what it replaced has been retained. -/
theorem wp_verb (verb : SavingVerb) : wp disk (Advances s) verb.program.run s (fun r s' =>
    match r with
    | .error _ => Keeps s s'
    | .ok () => Advance s s' s.replaced) := by
  have hG : ∀ o r, Advances s o s r s := fun o r => (SameRing.refl s).advances
  have hsave : ∀ text, wp disk (Advances s) (saveTo text).run s (fun r s' =>
      match r.mapError RestoreError.save with
      | .error _ => Keeps s s'
      | .ok () => Advance s s' s.replaced) := by
    intro text
    have hring := (wp_iff_guaranteed.mp (@wp_saveTo_ring _ s text))
    apply wp_iff_guaranteed.mpr
    refine ⟨hring.1, ?_⟩
    intro r s' he
    have hwhole := wp_exec (@wp_saveTo _ s text) he
    cases r with
    | error e => exact hwhole
    | ok u => exact hring.2 _ _ he
  cases verb with
  | save text => exact wp_adapt.mpr (hsave text)
  | restore index =>
    apply wp_configRestoreAt hG
    intro found hfound
    unfold Proceeds
    split
    · exact hsave _
    · exact fun e _ => Keeps.refl s

theorem UndoStep.advance {new : Option String} (h : UndoStep s new s') : Advance s s' new := by
  cases h with
  | edited hfiles => exact .same (fun name _ => hfiles name)
  | verb hs hnew =>
    have hI : ∃ new', Advance s s' new' :=
      wp_always (I := fun w => ∃ new', Advance s w new') (fun o w r w' _ _ h => h) (wp_verb _)
        (SameRing.refl s).advances hs
    obtain ⟨new', hadvance⟩ := hI
    rw [advance_of_adds hadvance hnew]
    exact hadvance

theorem runs_tells {s₀ : Store} {added : List (Option String)} (hr : Runs UndoStep s₀ added s) :
    Tells s (history added) := by
  refine hr.invariant (I := fun added s => Tells s (history added)) (tells_nil s₀) ?_
  intro added s₁ new s₂ ih hs
  have hadvance := ih.advance hs.advance
  have hhistory : history (added ++ [new]) = new.toList ++ history added := by
    unfold history
    rw [List.filterMap_append, List.reverse_append]
    cases new <;> rfl
  rw [hhistory]
  exact hadvance

/-- The entry at a place of the history is the one under that index, and it loads. -/
theorem Tells.loadedAt {told : List String} {n : ℕ} {found : List (List Char × Stamp)}
    (h : Tells s told) (hn : n < ringDepth) (htext : told[n]? = some text) (hfound : Found s found) :
    loadedAt s found (n + 1) = some (Config.fromTomlStr text) := by
  obtain ⟨entries, h⟩ := h
  have htake : (told.take ringDepth)[n]? = some text := by
    rw [List.getElem?_take_of_lt hn]
    exact htext
  have hfile := congrArg (fun files => files[n]?) h.contents
  simp only [List.getElem?_map, htake, Option.map_some] at hfile
  obtain ⟨x, hx, hfile⟩ := Option.map_eq_some_iff.mp hfile
  obtain ⟨rest, rfl⟩ := h.listed hfound
  have hlisted : (entries ++ rest)[n]? = some x := by
    rw [List.getElem?_append_left (List.getElem?_eq_some_iff.mp hx).1]
    exact hx
  unfold Backup.loadedAt
  rw [if_neg (Nat.succ_ne_zero n), Nat.add_sub_cancel, hlisted, Option.bind_some, hfile]
  rfl

end Verbs

/-! ## A save that is undone -/

section Sample

/-- A configuration of one account. -/
def oneAccount : Config := { Roster.firstRun with roster := [⟨"A", "A", true⟩] }

theorem valid_oneAccount : oneAccount.Valid := by
  apply Roster.firstRun_valid.withRoster
  · intro a ha
    rw [List.mem_singleton.mp ha]
    constructor <;> decide
  · exact List.nodup_singleton _

/-- Every text is that configuration. -/
local instance sampleText : TomlText := ⟨fun _ => some oneAccount.render, fun _ => "A"⟩

theorem fromTomlStr_sample (text : String) : Config.fromTomlStr text = .ok oneAccount :=
  parse_render valid_oneAccount

theorem replaced_fullRing : fullRing.replaced = some "A" := by
  unfold Store.replaced
  rw [show (fullRing.files configFile).bind File.text? = some "A" from rfl, Option.filter_some, if_pos]
  exact qualifies_iff.mpr ⟨oneAccount, fromTomlStr_sample "A", by decide⟩

theorem exec_save_sample : Exec disk (SavingVerb.save "B").program.run fullRing (.ok ()) overfullRing := by
  have hqualifies : qualifies "A" = true := qualifies_iff.mpr ⟨oneAccount, fromTomlStr_sample "A", by decide⟩
  have hcontents : Exec disk (qualifyingContents configFile) fullRing (some "A") fullRing := by
    refine exec_perform_iff.mpr ⟨some "A", fullRing, ⟨rfl, rfl⟩, exec_pure_iff.mpr ⟨?_, rfl⟩⟩
    rw [Option.filter_some, if_pos hqualifies]
  have hretain : Exec disk retainIfQualifying.run fullRing (.ok (some (sampleEntry 9)))
      (fullRing.retaining (sampleEntry 9) "A") := by
    unfold retainIfQualifying
    apply exec_except_bind (exec_lift hcontents)
    dsimp only
    rw [map_eq_pure_bind]
    exact exec_except_bind exec_retain (exec_pure_iff.mpr ⟨rfl, rfl⟩)
  have hfree : (fullRing.retaining (sampleEntry 9) "A").files configFile.tmp = none := by decide +kernel
  have hlock : Exec disk acquireWriteLock fullRing true fullRing :=
    exec_perform_iff.mpr ⟨true, fullRing, rfl, exec_pure_iff.mpr ⟨rfl, rfl⟩⟩
  have hsave : Exec disk (saveTo "B").run fullRing (.ok ()) overfullRing := by
    unfold saveTo
    apply exec_except_bind (exec_ensurePrivateDir .config fullRing)
    apply exec_except_bind (exec_lift hlock)
    apply exec_except_bind hretain
    apply exec_except_bind (exec_lift (exec_writePrivateFile hfree))
    exact exec_lift (exec_prune_stuck lists_overfullRing)
  change Exec disk (ExceptT.adapt RestoreError.save (saveTo "B")).run fullRing (.ok ()) overfullRing
  exact exec_adapt hsave

end Sample

end Sessiometer.Backup
