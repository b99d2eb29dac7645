import Sessiometer.Backup.RingRuns

/-! # What one save does to the ring

A save adds what it replaces above all the others, or nothing; what it takes out is older than as many
retentions as the ring is deep. It is so after each of its operations, whatever fails. -/

namespace Sessiometer.Backup

open Effects

/-! ## Advancing -/

section Advance

variable [FromTomlStr]

/-- The text that a save is to retain. -/
def Store.replaced (s : Store) : Option String :=
  ((s.files configFile).bind File.text?).filter qualifies

def SameRing (s s' : Store) : Prop :=
  ∀ name, stampOf name ≠ none → s'.files (entry name) = s.files (entry name)

/-- Nothing has been added to the ring, or what was to be replaced has, above all the others; and what is gone
from it is older than as many as the ring is deep. -/
inductive Advance (s s' : Store) : Option String → Prop
  | same : SameRing s s' → Advance s s' none
  | added {target : List Char} {stamp : Stamp} {text : String}
      (replaced : s.replaced = some text) (decoded : stampOf target = some stamp)
      (above : ∀ name stamp', s.Holds name stamp' → stamp' < stamp)
      (here : s'.files (entry target) = some (.text text))
      (kept : ∀ name stamp', name ≠ target → s'.Holds name stamp' →
        s'.files (entry name) = s.files (entry name))
      (full : ∀ name stamp', s.Holds name stamp' → ¬ s'.Holds name stamp' →
        ∃ names : List (List Char), names.Nodup ∧ names.length = ringDepth ∧
          ∀ name' ∈ names, ∃ stamp'', s'.Holds name' stamp'' ∧ stamp' ≤ stamp'') :
      Advance s s' (some text)

/-- Every operation leaves the ring advanced. -/
def Advances (s₀ : Store) : Device SaveSeams Store := fun _ _ _ s' => ∃ new, Advance s₀ s' new

/-- The text has been retained, and nothing has been pruned. -/
structure Fresh (s s' : Store) (target : List Char) (stamp : Stamp) (text : String) : Prop where
  replaced : s.replaced = some text
  decoded : stampOf target = some stamp
  above : ∀ name stamp', s.Holds name stamp' → stamp' < stamp
  here : s'.files (entry target) = some (.text text)
  kept : ∀ name, name ≠ target → stampOf name ≠ none → s'.files (entry name) = s.files (entry name)

variable {s₀ s s' : Store} {target : List Char} {stamp : Stamp} {text rendered contents : String} {path : Path}

omit [FromTomlStr] in
theorem SameRing.refl (s : Store) : SameRing s s := fun _ _ => rfl

omit [FromTomlStr] in
theorem SameRing.trans {s'' : Store} (h : SameRing s s') (h' : SameRing s' s'') : SameRing s s'' :=
  fun name hname => (h' name hname).trans (h name hname)

omit [FromTomlStr] in
theorem Apart.sameRing (h : Apart path s s') (hpath : ∀ name, path = entry name → stampOf name = none) :
    SameRing s s' := by
  intro name hname
  apply h.files
  intro heq
  exact hname (hpath name heq.symm)

theorem SameRing.advances (h : SameRing s₀ s') : ∃ new, Advance s₀ s' new := ⟨none, .same h⟩

theorem Fresh.sameRing (h : Fresh s₀ s target stamp text) (hs : SameRing s s') :
    Fresh s₀ s' target stamp text := by
  have htarget : stampOf target ≠ none := by simp [h.decoded]
  refine ⟨h.replaced, h.decoded, h.above, ?_, ?_⟩
  · rw [hs target htarget]
    exact h.here
  · intro name hne hname
    rw [hs name hname]
    exact h.kept name hne hname

/-- What a retention is named was free. -/
theorem Fresh.free (h : Fresh s₀ s target stamp text) : s₀.files (entry target) = none := by
  by_contra hsome
  exact lt_irrefl _ (h.above target stamp ⟨h.decoded, hsome⟩)

/-- To unlink the retention leaves the ring as it was before. -/
theorem Fresh.taken_back (h : Fresh s₀ s target stamp text) {r : Bool}
    (hd : disk (.removeFile (entry target)) s r s') : SameRing s₀ s' ∨ Fresh s₀ s' target stamp text := by
  cases r with
  | false =>
    rw [show s' = s from hd]
    exact .inr h
  | true =>
    rw [show s' = s.remove (entry target) from hd.2]
    refine .inl ?_
    intro name hname
    by_cases heq : name = target
    · rw [heq, h.free]
      exact Function.update_self ..
    · rw [← h.kept name heq hname]
      exact (apart_remove s (entry target)).files _ (fun h => heq (congrArg Path.name h))

theorem Fresh.advance (h : Fresh s₀ s target stamp text) : Advance s₀ s (some text) := by
  apply Advance.added h.replaced h.decoded h.above h.here
  · intro name stamp' hne hname
    apply h.kept name hne
    rw [hname.1]
    simp
  · intro name stamp' hname hgone
    have hne : name ≠ target := by
      rintro rfl
      exact hname.2 h.free
    have hkept := h.kept name hne (by simp [hname.1])
    refine absurd ⟨hname.1, ?_⟩ hgone
    rw [hkept]
    exact hname.2

theorem Fresh.advances (h : Fresh s₀ s target stamp text) : ∃ new, Advance s₀ s new := ⟨some text, h.advance⟩

/-! ## Writing -/

omit [FromTomlStr] in
/-- What is written is staged beside the path, and renamed to it, under any guarantee. -/
theorem wp_writePrivateFile_any {G : Device SaveSeams Store}
    (htmp : ∀ o s₁ r s₂, Apart path.tmp s s₂ → G o s₁ r s₂)
    (hrename : ∀ o s₁ r s₂, Written path contents s s₂ → G o s₁ r s₂) :
    wp disk G (writePrivateFile path contents).run s (fun r s' =>
      match r with
      | .ok () => Written path contents s s'
      | .error _ => Apart path.tmp s s') := by
  unfold writePrivateFile
  rw [wp_except_bind]
  intro r s₁ hd
  have hremoved := apart_removed hd
  refine ⟨htmp _ _ _ _ hremoved, ?_⟩
  change wp disk G ((ExceptT.lift (stage path.tmp contents) >>= fun staged => _ : Saving Unit)).run _ _
  rw [wp_except_bind]
  intro r s₂ hd
  cases r with
  | false =>
    have hstage : Apart path.tmp s₁ s₂ := by
      rcases hd with rfl | ⟨-, file, rfl⟩
      · exact ⟨fun _ _ => rfl, rfl⟩
      · exact apart_put s₁ _ file
    exact ⟨htmp _ _ _ _ (hremoved.trans hstage), hremoved.trans hstage⟩
  | true =>
    obtain ⟨-, rfl⟩ := hd
    have hstage := hremoved.trans (apart_put s₁ path.tmp (.text contents))
    refine ⟨htmp _ _ _ _ hstage, ?_⟩
    change wp disk G ((ExceptT.lift (rename path.tmp path) >>= fun renamed =>
      if renamed then pure () else throw .io : Saving Unit)).run _ _
    rw [wp_except_bind]
    intro r s₃ hd
    cases r with
    | false =>
      rw [show s₃ = _ from hd]
      exact ⟨htmp _ _ _ _ hstage, hstage⟩
    | true =>
      obtain ⟨file, hfile, rfl⟩ := hd
      have htext : file = .text contents := by
        have hput : (s₁.put path.tmp (.text contents)).files path.tmp = some (.text contents) :=
          Function.update_self ..
        exact Option.some.inj (hfile.symm.trans hput)
      have hwritten : Written path contents s ((s₁.put path.tmp (.text contents)).move path.tmp path file) := by
        rw [htext]
        refine ⟨?_, Function.update_self .., hstage.clock⟩
        intro p hp hpath
        have hmoved : ((s₁.put path.tmp (.text contents)).move path.tmp path (.text contents)).files p =
            (s₁.put path.tmp (.text contents)).files p := by
          unfold Store.move
          dsimp only
          rw [Function.update_of_ne hpath, Function.update_of_ne hp]
        rw [hmoved]
        exact hstage.files p hp
      exact ⟨hrename _ _ _ _ hwritten, hwritten⟩

omit [FromTomlStr] in
theorem Written.sameRing (h : Written configFile contents s s') : SameRing s s' := by
  intro name _
  apply h.files _ _ (entry_ne_configFile name)
  intro heq
  cases congrArg Path.dir heq

omit [FromTomlStr] in
theorem apart_config_tmp (h : Apart configFile.tmp s s') : SameRing s s' :=
  h.sameRing (fun _ => stampOf_config_tmp)

omit [FromTomlStr] in
theorem apart_entry_tmp {name : List Char} (h : Apart (entry name).tmp s s') : SameRing s s' :=
  h.sameRing (fun _ => stampOf_entry_tmp)

/-- To replace the configuration leaves the ring. -/
theorem wp_replace_ring (h : ∀ s', SameRing s s' → ∃ new, Advance s₀ s' new) :
    wp disk (Advances s₀) (writePrivateFile configFile rendered).run s (fun _ s' => SameRing s s') := by
  apply wp_mono (wp_writePrivateFile_any ?_ ?_)
  · intro r s' hr
    cases r with
    | error e => exact apart_config_tmp hr
    | ok u => exact Written.sameRing hr
  · intro o s₁ r s₂ hapart
    exact h s₂ (apart_config_tmp hapart)
  · intro o s₁ r s₂ hwritten
    exact h s₂ hwritten.sameRing

/-! ## Retaining -/

/-- What an attempt to retain has come to. -/
def Tried (s₀ : Store) (text : String) (r : Except SaveError (List Char)) (s' : Store) : Prop :=
  match r with
  | .error _ => True
  | .ok target => ∃ stamp, Fresh s₀ s' target stamp text

theorem wp_stampFor_ring {Q : Stamp → Store → Prop}
    (hQ : ∀ (stamp : Stamp) (s' : Store), s'.files = s₀.files → stamp.nanos < 10 ^ nanosDigits →
      (∀ name stamp', s₀.Holds name stamp' → stamp' < stamp) → Q stamp s') :
    wp disk (Advances s₀) stampFor s₀ Q := by
  rintro clock s₁ ⟨rfl, hnanos⟩
  have hsame : SameRing s₀ { s₀ with clock := clock } := fun _ _ => rfl
  refine ⟨hsame.advances, ?_⟩
  rintro names s₂ ⟨rfl, -, hnames⟩
  refine ⟨hsame.advances, ?_⟩
  have hclamped := @lt_clamped clock (decoded names)
  apply hQ (clamped clock (decoded names)) { s₀ with clock := clock } rfl
  · apply nanos_clamped hnanos
    intro x hx
    exact (named_of_stampOf (mem_decoded.mp hx).2).nanos
  · intro name stamp' hheld
    exact hclamped.2 (name, stamp') (mem_decoded.mpr ⟨(hnames name).mpr hheld.2, hheld.1⟩)

theorem wp_retain_ring (htext : s₀.replaced = some text) :
    wp disk (Advances s₀) (retain text).run s₀ (Tried s₀ text) := by
  unfold retain
  rw [wp_except_bind]
  intro r s₁ hd
  obtain rfl : s₁ = s₀ := hd
  refine ⟨(SameRing.refl s₁).advances, ?_⟩
  cases r with
  | error e => trivial
  | ok u =>
    change wp disk (Advances s₁) ((ExceptT.lift stampFor >>= _ : Saving _)).run s₁ _
    rw [wp_except_bind, ExceptT.run_lift, map_eq_pure_bind, wp_bind]
    apply wp_stampFor_ring
    intro stamp s₂ hfiles hnanos habove
    have hsame : SameRing s₁ s₂ := fun name _ => by rw [hfiles]
    change wp disk (Advances s₁) ((representable stamp >>= _ : Saving _)).run _ _
    unfold representable
    by_cases hsecs : 10 ^ secsDigits ≤ stamp.secs
    · rw [if_pos hsecs]
      trivial
    · rw [if_neg hsecs, pure_bind, wp_except_bind]
      have hdecoded := stampOf_fileName ⟨not_le.mp hsecs, hnanos⟩
      have hfresh : ∀ s₃, Written (entry (fileName stamp)) text s₂ s₃ →
          Fresh s₁ s₃ (fileName stamp) stamp text := by
        intro s₃ hwritten
        refine ⟨htext, hdecoded, habove, hwritten.here, ?_⟩
        intro name hne hname
        rw [hwritten.files, hfiles]
        · intro heq
          exact hname (stampOf_entry_tmp heq.symm)
        · exact fun heq => hne (congrArg Path.name heq)
      apply wp_mono (wp_writePrivateFile_any ?_ ?_)
      · intro r s₃ hr
        cases r with
        | error e => trivial
        | ok u =>
          have hadded := hfresh s₃ hr
          change wp disk (Advances s₁)
            ((ExceptT.lift (ownerOnlyDeviation (entry (fileName stamp))) >>= _ : Saving _)).run _ _
          rw [wp_except_bind]
          intro r s₄ hd
          obtain rfl : s₄ = s₃ := hd
          refine ⟨hadded.advances, ?_⟩
          cases r with
          | error e => trivial
          | ok deviates =>
            cases deviates with
            | false => exact ⟨stamp, hadded⟩
            | true =>
              change wp disk (Advances s₁)
                ((ExceptT.lift (removeFile (entry (fileName stamp))) >>= _ : Saving _)).run _ _
              rw [wp_except_bind]
              intro r s₅ hd
              refine ⟨?_, trivial⟩
              rcases hadded.taken_back hd with hback | hstill
              · exact hback.advances
              · exact hstill.advances
      · intro o s₃ r s₄ hapart
        exact (hsame.trans (apart_entry_tmp hapart)).advances
      · intro o s₃ r s₄ hwritten
        exact (hfresh s₄ hwritten).advances

/-- What is retained is what is to be replaced, and nothing is where nothing is to be. -/
def TriedIf (s₀ : Store) (r : Except SaveError (Option (List Char))) (s' : Store) : Prop :=
  match r with
  | .error _ => True
  | .ok none => s₀.replaced = none ∧ s' = s₀
  | .ok (some target) => ∃ stamp text, Fresh s₀ s' target stamp text

theorem wp_retainIfQualifying_ring :
    wp disk (Advances s₀) retainIfQualifying.run s₀ (TriedIf s₀) := by
  unfold retainIfQualifying
  rw [wp_except_bind]
  rintro contents s₁ ⟨rfl, hread⟩
  refine ⟨(SameRing.refl s₁).advances, ?_⟩
  change wp disk _ (Prog.pure (Except.ok (contents.filter qualifies))) s₁ _
  have hreplaced : s₁.replaced = contents.filter qualifies := by
    unfold Store.replaced
    rw [← hread]
  cases hfilter : contents.filter qualifies with
  | none => exact ⟨hreplaced.trans hfilter, rfl⟩
  | some text =>
    change wp disk _ (some <$> retain text : Saving (Option (List Char))).run s₁ _
    rw [map_eq_pure_bind, wp_except_bind]
    apply wp_mono (wp_retain_ring (hreplaced.trans hfilter))
    rintro r s' hr
    cases r with
    | error e => trivial
    | ok target =>
      obtain ⟨stamp, hfresh⟩ := hr
      exact ⟨stamp, text, hfresh⟩

/-! ## Pruning -/

/-- The entries that a prune finds, the newest of which it leaves. -/
structure Found (s : Store) (found : List (List Char × Stamp)) : Prop where
  sorted : found.Pairwise (fun a b => b.2 ≤ a.2)
  distinct : (found.map Prod.fst).Nodup
  held : ∀ name stamp, s.Holds name stamp ↔ (name, stamp) ∈ found

/-- Some of the names are gone from the ring, and no others. -/
def Dropped (names : List (List Char)) (s s' : Store) : Prop :=
  ∀ name, stampOf name ≠ none → s'.files (entry name) = s.files (entry name) ∨
    name ∈ names ∧ s'.files (entry name) = none

omit [FromTomlStr] in
theorem found_newestFirst {names : List (List Char)} (hnodup : names.Nodup)
    (hnames : ∀ name, name ∈ names ↔ s.files (entry name) ≠ none) :
    Found s (newestFirst (decoded names)) := by
  refine ⟨pairwise_newestFirst _, nodup_newestFirst hnodup, ?_⟩
  intro name stamp
  rw [mem_newestFirst, mem_decoded, hnames name]
  exact and_comm

/-- Where only entries beyond the depth of the ring are gone, the ring has advanced. -/
theorem Fresh.pruned {found : List (List Char × Stamp)} (h : Fresh s₀ s target stamp text)
    (hfound : Found s found) (hd : Dropped ((found.drop ringDepth).map Prod.fst) s s') :
    Advance s₀ s' (some text) := by
  have hsplit := List.take_append_drop ringDepth found
  have hsorted := hfound.sorted
  have hdistinct := hfound.distinct
  rw [← hsplit, List.pairwise_append] at hsorted
  rw [← hsplit, List.map_append, List.nodup_append] at hdistinct
  have hleft : ∀ x ∈ found.take ringDepth, s'.Holds x.1 x.2 := by
    intro x hx
    have hheld := (hfound.held x.1 x.2).mpr (List.mem_of_mem_take hx)
    have hstamp : stampOf x.1 ≠ none := by simp [hheld.1]
    rcases hd x.1 hstamp with hsame | ⟨hmem, -⟩
    · refine ⟨hheld.1, ?_⟩
      rw [hsame]
      exact hheld.2
    · exact absurd rfl (hdistinct.2.2 x.1 (List.mem_map_of_mem hx) x.1 hmem)
  have hbeyond : ∀ name stamp', s.Holds name stamp' → ¬ s'.Holds name stamp' →
      (name, stamp') ∈ found.drop ringDepth := by
    intro name stamp' hname hgone
    have hmem := (hfound.held name stamp').mp hname
    rw [← hsplit] at hmem
    rcases List.mem_append.mp hmem with htake | hdrop
    · exact absurd (hleft _ htake) hgone
    · exact hdrop
  have hfull : ∀ name stamp', s.Holds name stamp' → ¬ s'.Holds name stamp' →
      ∃ names : List (List Char), names.Nodup ∧ names.length = ringDepth ∧
        ∀ name' ∈ names, ∃ stamp'', s'.Holds name' stamp'' ∧ stamp' ≤ stamp'' := by
    intro name stamp' hname hgone
    have hdrop := hbeyond name stamp' hname hgone
    have hlong : 0 < (found.drop ringDepth).length := List.length_pos_of_mem hdrop
    rw [List.length_drop] at hlong
    refine ⟨(found.take ringDepth).map Prod.fst, hdistinct.1, ?_, ?_⟩
    · rw [List.length_map, List.length_take]
      omega
    · intro name' hname'
      obtain ⟨x, hx, rfl⟩ := List.mem_map.mp hname'
      exact ⟨x.2, hleft x hx, hsorted.2.2 x hx _ hdrop⟩
  have hheld : ∀ name stamp', name ≠ target → s₀.Holds name stamp' → s.Holds name stamp' := by
    intro name stamp' hne hname
    refine ⟨hname.1, ?_⟩
    rw [h.kept name hne (by simp [hname.1])]
    exact hname.2
  have hhere : s'.files (entry target) = some (.text text) := by
    rcases hd target (by simp [h.decoded]) with hsame | ⟨hmem, hnone⟩
    · exact hsame.trans h.here
    · -- the newest is never beyond the depth of the ring
      have hnewest : s.Holds target stamp := ⟨h.decoded, by simp [h.here]⟩
      have hgone : ¬ s'.Holds target stamp := fun hstill => hstill.2 hnone
      obtain ⟨names, hnodup, hlength, hall⟩ := hfull target stamp hnewest hgone
      have htarget : ∀ name ∈ names, name = target := by
        intro name hname
        by_contra hne
        obtain ⟨stamp'', hstill, hle⟩ := hall name hname
        have hsome : s'.files (entry name) ≠ none := hstill.2
        rcases hd name (by simp [hstill.1]) with hsame | ⟨-, hnone'⟩
        · have hold : s₀.Holds name stamp'' := by
            refine ⟨hstill.1, ?_⟩
            rw [← h.kept name hne (by simp [hstill.1]), ← hsame]
            exact hsome
          exact absurd (h.above name stamp'' hold) (not_lt.mpr hle)
        · exact hsome hnone'
      obtain ⟨name, hname⟩ := List.exists_mem_of_length_pos (show 0 < names.length by
        rw [hlength]
        decide)
      obtain ⟨stamp'', hstill, -⟩ := hall name hname
      rw [htarget name hname] at hstill
      exact absurd hnone hstill.2
  apply Advance.added h.replaced h.decoded h.above hhere
  · intro name stamp' hne hname
    rcases hd name (by simp [hname.1]) with hsame | ⟨-, hnone⟩
    · rw [hsame]
      exact h.kept name hne (by simp [hname.1])
    · exact absurd hnone hname.2
  · intro name stamp' hname hgone
    have hne : name ≠ target := by
      rintro rfl
      exact hname.2 h.free
    exact hfull name stamp' (hheld name stamp' hne hname) hgone

omit [FromTomlStr] in
theorem Dropped.refl (names : List (List Char)) (s : Store) : Dropped names s s := fun _ _ => .inl rfl

omit [FromTomlStr] in
theorem Dropped.removed {names : List (List Char)} {name : List Char} {r : Bool} (h : Dropped names s s')
    {s'' : Store} (hname : name ∈ names ∨ stampOf name = none)
    (hd : disk (.removeFile (entry name)) s' r s'') : Dropped names s s'' := by
  intro name' hname'
  have hremoved := apart_removed hd
  by_cases heq : name' = name
  · rcases hname with hmem | hnone
    · cases r with
      | false =>
        rw [show s'' = s' from hd]
        exact h name' hname'
      | true =>
        refine .inr ⟨heq ▸ hmem, ?_⟩
        rw [heq, show s'' = s'.remove (entry name) from hd.2]
        exact Function.update_self ..
    · rw [heq] at hname'
      exact absurd hnone hname'
  · rw [hremoved.files _ (fun h => heq (congrArg Path.name h))]
    exact h name' hname'

omit [FromTomlStr] in
theorem wp_removeAll_any {G : Device SaveSeams Store} {names dropped : List (List Char)}
    (hG : ∀ o s₁ r s₂, Dropped dropped s s₂ → G o s₁ r s₂)
    (hnames : ∀ name ∈ names, name ∈ dropped ∨ stampOf name = none) (hs : Dropped dropped s s') :
    wp disk G (removeAll names) s' (fun _ s'' => Dropped dropped s s'') := by
  induction names generalizing s' with
  | nil => exact hs
  | cons name names ih =>
    intro r s₁ hd
    have hremoved := hs.removed (hnames name List.mem_cons_self) hd
    exact ⟨hG _ _ _ _ hremoved, ih (fun name' h => hnames name' (List.mem_cons_of_mem _ h)) hremoved⟩

/-- A prune leaves the ring advanced, whatever fails and wherever it is cut short. -/
theorem wp_prune_ring (h : Fresh s₀ s target stamp text) :
    wp disk (Advances s₀) prune s (fun _ s' => Advance s₀ s' (some text)) := by
  unfold prune
  rw [wp_bind]
  rintro names s₁ ⟨rfl, hnodup, hnames⟩
  refine ⟨h.advances, ?_⟩
  have hfound := found_newestFirst hnodup hnames
  have hG : ∀ o s₂ r s₃, Dropped (((newestFirst (decoded names)).drop ringDepth).map Prod.fst) s₁ s₃ →
      Advances s₀ o s₂ r s₃ := fun o s₂ r s₃ hd => ⟨some text, h.pruned hfound hd⟩
  change wp disk _ (removeAll _ >>= fun _ => sweepBelow _) s₁ _
  rw [wp_bind]
  apply wp_mono (wp_removeAll_any hG (fun name hname => .inl hname) (.refl _ s₁))
  intro u s₂ hdropped
  unfold sweepBelow
  split
  · unfold sweepAbandonedTemps
    rw [wp_bind]
    rintro names' s₃ ⟨rfl, -⟩
    refine ⟨⟨some text, h.pruned hfound hdropped⟩, ?_⟩
    apply wp_mono (wp_removeAll_any hG ?_ hdropped)
    · intro u s₄ hd
      exact h.pruned hfound hd
    · intro name hname
      exact .inr (stampOf_stranded (List.mem_filter.mp hname).2).1
  · exact h.pruned hfound hdropped

/-- A save leaves the ring advanced at each of its operations, and has retained what it replaced where it
reports success. -/
theorem wp_saveTo_ring : wp disk (Advances s₀) (saveTo rendered).run s₀ (fun r s' =>
    match r with
    | .error _ => True
    | .ok () => Advance s₀ s' s₀.replaced) := by
  unfold saveTo
  rw [wp_except_bind]
  intro r s₁ hd
  obtain rfl : s₁ = s₀ := hd
  refine ⟨(SameRing.refl s₁).advances, ?_⟩
  cases r with
  | error e => trivial
  | ok u =>
    change wp disk (Advances s₁) ((ExceptT.lift acquireWriteLock >>= _ : Saving _)).run _ _
    rw [wp_except_bind]
    intro r s₂ hd
    obtain rfl : s₂ = s₁ := hd
    refine ⟨(SameRing.refl s₂).advances, ?_⟩
    cases r with
    | false => trivial
    | true =>
      change wp disk (Advances s₂) ((retainIfQualifying >>= _ : Saving _)).run _ _
      rw [wp_except_bind]
      apply wp_mono wp_retainIfQualifying_ring
      rintro r s₃ hr
      cases r with
      | error e => trivial
      | ok retention =>
        change wp disk (Advances s₂)
          ((ExceptT.lift (writePrivateFile configFile rendered).run >>= _ : Saving _)).run _ _
        rw [wp_except_bind, ExceptT.run_lift, map_eq_pure_bind, wp_bind]
        cases retention with
        | none =>
          obtain ⟨hnone, rfl⟩ := hr
          apply wp_mono (wp_replace_ring (fun s' h => h.advances))
          intro written s₄ hsame
          cases written with
          | error e => trivial
          | ok u =>
            change Advance s₃ s₄ s₃.replaced
            rw [hnone]
            exact .same hsame
        | some target =>
          obtain ⟨stamp, text, hfresh⟩ := hr
          apply wp_mono (wp_replace_ring (fun s' h => (hfresh.sameRing h).advances))
          intro written s₄ hsame
          have hfresh' := hfresh.sameRing hsame
          cases written with
          | error e =>
            change wp disk (Advances s₂)
              ((ExceptT.lift (rollBack (some target)) >>= fun _ => throw e : Saving Unit)).run s₄ _
            rw [wp_except_bind, ExceptT.run_lift, map_eq_pure_bind, wp_bind]
            unfold rollBack
            rw [wp_bind]
            intro r s₅ hd
            refine ⟨?_, trivial⟩
            rcases hfresh'.taken_back hd with hback | hstill
            · exact hback.advances
            · exact hstill.advances
          | ok u =>
            change wp disk (Advances s₂)
              (ExceptT.lift (commit (some target)) : Saving Unit).run s₄ _
            rw [ExceptT.run_lift, map_eq_pure_bind, wp_bind]
            apply wp_mono (wp_prune_ring hfresh')
            intro _ s₅ hadvance
            change Advance s₂ s₅ s₂.replaced
            rw [hfresh.replaced]
            exact hadvance

end Advance

end Sessiometer.Backup
