import Sessiometer.Roster.Kept
import Sessiometer.Swap.Script

/-! # Runs of the verbs

One verb after another, each perhaps cut short, with others at work and the file perhaps lost. -/

namespace Sessiometer.Roster

open Effects

section Verbs

variable [StrDebug] {pid : ℕ} {m m' : Machine} {c : Config} {verb : RosterVerb}

/-- What an append-only verb starts from. -/
def Based (base c : Config) : Prop := base.Valid ∧ FirstRun c base

/-- The stash is written, then the roster that names it. -/
theorem wp_land {base : Config} {p : ExceptT VerbError Seam CaptureReport} {β : Type}
    {rest : CaptureReport → Verb β} (hm : Kept m) (hbase : Based base m.last)
    (happend : ∀ c', Appended m.last c' → verb.Changes m.last c') (hp : Delivers pid base p)
    (hrest : ∀ rep m', wp (crowded pid) (Keeping verb m.last) (rest rep).run m' (fun _ _ => True)) :
    wp (crowded pid) (Keeping verb m.last) (onSeams p >>= fun rep => save rep.config >>= fun _ => rest rep).run
      m (fun _ _ => True) := by
  rw [wp_except_bind]
  refine wp_onSeams (hp m.world) ?_
  intro r m' hlands ho
  cases r with
  | error e => trivial
  | ok rep =>
    obtain ⟨uuid, stash, roster, hblank, hplan, hconfig, hstash⟩ := hlands rep rfl
    have hkept := hm.others ho
    have hbesides : Besides uuid base rep.config := by
      rw [hconfig]
      exact ⟨rfl, hplan.rows⟩
    have huuids : uuids rep.config.roster =
        if uuid ∈ uuids base.roster then uuids base.roster else uuids base.roster ++ [uuid] := by
      rw [hconfig]
      exact hplan.accountUuids
    have hlisted : ∀ u ∈ uuids base.roster, u ∈ m'.listed := by
      intro u hu
      rw [Machine.listed, ho.last]
      rcases hbase.2 with rfl | ⟨-, rfl⟩
      · exact hu
      · cases hu
    dsimp only
    rw [wp_except_bind]
    refine wp_save hkept ?_ ?_ (happend _ ⟨base, uuid, hbase.2, hbesides, huuids⟩) ?_ ?_
    · rw [ho.last]
      exact changes_refl verb m.last
    · rw [hconfig]
      exact hplan.valid hbase.1 hblank
    · intro u hu
      rw [huuids] at hu
      by_cases hmem : uuid ∈ uuids base.roster
      · rw [if_pos hmem] at hu
        exact hkept.stashed u (hlisted u hu)
      · rw [if_neg hmem, List.mem_append, List.mem_singleton] at hu
        rcases hu with hu | rfl
        · exact hkept.stashed u (hlisted u hu)
        · exact hstash
    · intro r m'' _ _
      cases r with
      | error e => trivial
      | ok u => exact hrest rep m''

/-- What was loaded, or the configuration of a first run where no account was ever saved. -/
theorem based {existing : Option Config} (hsome : ∀ d, existing = some d → d.Valid ∧ d = c)
    (hnone : existing = none → c.roster = []) : Based (existing.getD firstRun) c := by
  cases existing with
  | some d =>
    obtain ⟨hvalid, hd⟩ := hsome d rfl
    exact ⟨hvalid, .inl hd⟩
  | none => exact ⟨firstRun_valid, .inr ⟨hnone rfl, rfl⟩⟩

/-- The way that both append-only verbs begin. -/
theorem wp_append {β : Type} {rest : Option Config → Verb β} (hm : Kept m)
    (h : ∀ existing m', Kept m' → m'.last = m.last → Based (existing.getD firstRun) m.last →
      wp (crowded pid) (Keeping verb c) (rest existing).run m' (fun _ _ => True)) :
    wp (crowded pid) (Keeping verb c) (loadExisting >>= fun existing =>
      admitAppendOnly existing.isSome >>= fun _ => rest existing).run m (fun _ _ => True) := by
  rw [wp_except_bind]
  refine wp_loadExisting hm ?_
  intro r m₁ h₁ hloaded
  cases r with
  | error e => trivial
  | ok existing =>
    have hm₁ := hm.others h₁
    dsimp only
    rw [wp_except_bind]
    refine wp_admitAppendOnly hm₁ ?_
    intro r m₂ h₂ hadmitted
    cases r with
    | error e => trivial
    | ok u =>
      refine h existing m₂ (hm₁.others h₂) (h₂.last.trans h₁.last) (based ?_ ?_)
      · rintro d rfl
        exact hloaded d rfl
      · intro hnone
        rw [← h₁.last]
        exact hadmitted rfl hnone

theorem wp_done {β : Type} {p : Verb β} (h : wp (crowded pid) (Keeping verb c) p.run m (fun _ _ => True)) :
    wp (crowded pid) (Keeping verb c) (p >>= fun _ => pure ()).run m (fun _ _ => True) := by
  rw [wp_except_bind]
  refine wp_mono h ?_
  intro r m' _
  cases r <;> trivial

theorem wp_capture (label : Option String) (hm : Kept m) :
    wp (crowded pid) (Keeping (.capture label) m.last) (RosterVerb.capture label).program m
      (fun _ _ => True) := by
  refine wp_done (wp_append hm ?_)
  intro existing m' hm' hlast hbase
  rw [← hlast] at hbase ⊢
  exact wp_land hm' hbase (fun _ => .inr) (delivers_captureLocked existing label) fun _ _ => trivial

theorem wp_login (label : Option String) (hm : Kept m) :
    wp (crowded pid) (Keeping (.login label) m.last) (RosterVerb.login label).program m
      (fun _ _ => True) := by
  refine wp_done (wp_append hm ?_)
  intro existing m₁ hm₁ hlast hbase
  rw [wp_except_bind]
  refine wp_loginAccount ?_
  intro r m₂ h₂
  cases r with
  | error e => trivial
  | ok harvest =>
    cases harvest with
    | none => trivial
    | some captured =>
      have hlast' : m.last = m₂.last := (h₂.last.trans hlast).symm
      rw [hlast'] at hbase ⊢
      dsimp only
      rw [map_eq_pure_bind, wp_except_bind]
      refine wp_mono (wp_land (hm₁.others h₂) hbase (fun _ => .inr)
        (delivers_reconcile captured existing label) fun _ _ => trivial) ?_
      intro r m' _
      cases r <;> trivial

theorem wp_setEnabled (query : Option String) (enabled : Bool) (hm : Kept m) :
    wp (crowded pid) (Keeping (.setEnabled query enabled) m.last)
      (RosterVerb.setEnabled query enabled).program m (fun _ _ => True) := by
  cases query with
  | none => trivial
  | some query =>
    refine wp_except_bind.mpr (wp_load hm ?_)
    intro r m₁ h₁ hloaded
    cases r with
    | error e => trivial
    | ok config =>
      obtain ⟨hvalid, rfl⟩ := hloaded config rfl
      refine wp_except_bind.mpr ?_
      cases hplan : applyEnabled m.last.roster query enabled with
      | error e => trivial
      | ok plan =>
        cases plan with
        | none => trivial
        | some roster =>
          obtain ⟨hvalid', hsame, uuid, hrows⟩ := valid_applyEnabled hvalid hplan
          refine wp_save (hm.others h₁) (h₁.last ▸ changes_refl _ _) hvalid'
            (.inr ⟨uuid, ⟨rfl, hrows⟩, hsame⟩) ?_ fun _ _ _ _ => trivial
          intro u hu
          have hu' : u ∈ m.listed := by
            rw [Machine.listed, ← hsame]
            exact hu
          exact h₁.holding.stashed (hm.stashed u hu')

theorem wp_remove (query : Option String) (hm : Kept m) :
    wp (crowded pid) (Keeping (.remove query) m.last) (RosterVerb.remove query).program m
      (fun _ _ => True) := by
  cases query with
  | none => trivial
  | some query =>
    refine wp_except_bind.mpr (wp_load hm ?_)
    intro r m₁ h₁ hloaded
    cases r with
    | error e => trivial
    | ok config =>
      obtain ⟨hvalid, rfl⟩ := hloaded config rfl
      refine wp_except_bind.mpr ?_
      cases hplan : applyRemove m.last.roster query with
      | error e => trivial
      | ok plan =>
        obtain ⟨roster, removed⟩ := plan
        obtain ⟨hvalid', hmem, herase, hrows⟩ := valid_applyRemove hvalid hplan
        have hnodup : m.listed.Nodup := hvalid.accounts.2
        refine wp_except_bind.mpr (wp_save (hm.others h₁) (h₁.last ▸ changes_refl _ _) hvalid'
          (.inr ⟨removed.accountUuid, List.mem_map_of_mem hmem, ⟨rfl, hrows⟩, herase⟩) ?_ ?_)
        · intro u hu
          exact h₁.holding.stashed (hm.stashed u (List.erase_subset (herase ▸ hu)))
        · intro r m₂ _ hsaved
          cases r with
          | error e => trivial
          | ok u =>
            refine wp_deleteStash ?_ fun _ _ => trivial
            have hlisted : m₂.listed = m.listed.erase removed.accountUuid := by
              rw [Machine.listed, hsaved rfl]
              exact herase
            rw [hlisted]
            exact hnodup.not_mem_erase

theorem wp_verb (verb : RosterVerb) (hm : Kept m) :
    wp (crowded pid) (Keeping verb m.last) verb.program m (fun _ _ => True) := by
  cases verb with
  | capture label => exact wp_capture label hm
  | login label => exact wp_login label hm
  | setEnabled query enabled => exact wp_setEnabled query enabled hm
  | remove query => exact wp_remove query hm

end Verbs

/-! ## One verb after another -/

section Runs

inductive Turn where
  | verb (verb : RosterVerb)
  | others

def Turn.removes : Turn → Bool
  | .verb (.remove _) => true
  | _ => false

variable [StrDebug] {pid : ℕ} {m m' : Machine} {turns : List Turn}

/-- A verb may be cut short after any of its operations. -/
inductive TurnStep (pid : ℕ) : Machine → Turn → Machine → Prop
  | verb {m m' : Machine} {verb : RosterVerb} {tr : List (Occurrence VerbSeams)}
      {rest : Prog VerbSeams (Except VerbError Unit)} :
      Steps (crowded pid) verb.program m tr rest m' → TurnStep pid m (.verb verb) m'
  | others {m m' : Machine} : Others m m' → TurnStep pid m .others m'

/-- Every verb, wherever it is cut short, keeps the file and the stashes in step. -/
theorem verb_keeps {verb : RosterVerb} {tr : List (Occurrence VerbSeams)}
    {rest : Prog VerbSeams (Except VerbError Unit)} (hm : Kept m)
    (hs : Steps (crowded pid) verb.program m tr rest m') : Good verb m.last m' :=
  wp_always (fun _ _ _ _ hgood _ hkeep => hkeep hgood) (wp_verb verb hm) ⟨hm, changes_refl verb m.last⟩ hs

omit [StrDebug] in
/-- A verb other than a removal lists what was listed, ahead of what it adds. -/
theorem appended_listed {c c' : Config} (h : Appended c c') : uuids c.roster <+: uuids c'.roster ∧
    (uuids c.roster ≠ [] → settings c' = settings c) := by
  obtain ⟨base, uuid, hbase, hbesides, huuids⟩ := h
  rcases hbase with rfl | ⟨hnil, rfl⟩
  · refine ⟨?_, fun _ => hbesides.1⟩
    rw [huuids]
    by_cases hmem : uuid ∈ uuids base.roster
    · simp [hmem]
    · simp [hmem]
  · rw [hnil]
    exact ⟨List.nil_prefix, fun hne => absurd rfl hne⟩

omit [StrDebug] in
theorem changes_listed {verb : RosterVerb} {c c' : Config} (h : verb.Changes c c')
    (hverb : (Turn.verb verb).removes = false) : uuids c.roster <+: uuids c'.roster ∧
      (uuids c.roster ≠ [] → settings c' = settings c) := by
  have hsame : uuids c.roster <+: uuids c.roster ∧ (uuids c.roster ≠ [] → settings c = settings c) :=
    ⟨List.prefix_rfl, fun _ => rfl⟩
  cases verb with
  | capture label =>
    rcases h with rfl | h
    · exact hsame
    · exact appended_listed h
  | login label =>
    rcases h with rfl | h
    · exact hsame
    · exact appended_listed h
  | setEnabled query enabled =>
    rcases h with rfl | ⟨uuid, hbesides, huuids⟩
    · exact hsame
    · exact ⟨huuids ▸ List.prefix_rfl, fun _ => hbesides.1⟩
  | remove query => cases hverb

omit [StrDebug] in
theorem changes_length {verb : RosterVerb} {c c' : Config} (h : verb.Changes c c') :
    (uuids c.roster).length ≤ (uuids c'.roster).length + if (Turn.verb verb).removes then 1 else 0 := by
  cases hverb : (Turn.verb verb).removes with
  | false => exact (changes_listed h hverb).1.length_le
  | true =>
    cases verb with
    | remove query =>
      rcases h with rfl | ⟨uuid, hmem, -, huuids⟩
      · simp
      · rw [huuids, List.length_erase_of_mem hmem]
        simp only [if_true]
        omega
    | _ => cases hverb

theorem turn_kept {turn : Turn} (hm : Kept m) (ht : TurnStep pid m turn m') :
    Kept m' ∧ (turn.removes = false → m.listed <+: m'.listed ∧
        (m.listed ≠ [] → settings m'.last = settings m.last)) ∧
      m.listed.length ≤ m'.listed.length + if turn.removes then 1 else 0 := by
  cases ht with
  | verb hs =>
    obtain ⟨hkept, hchanges⟩ := verb_keeps hm hs
    exact ⟨hkept, changes_listed hchanges, changes_length hchanges⟩
  | others ho =>
    have hlisted : m'.listed = m.listed := by
      rw [Machine.listed, ho.last]
      rfl
    refine ⟨hm.others ho, fun _ => ⟨hlisted ▸ List.prefix_rfl, fun _ => by rw [ho.last]⟩, ?_⟩
    rw [hlisted]
    exact Nat.le_add_right _ _

end Runs

/-! ## A first capture -/

section Sample

/-- A machine whose Claude Code is logged in, with a configuration that lists no account. -/
def newMachine : Machine :=
  ⟨atRest (captured (some ⟨[1]⟩) []) "aaaa-1111", some firstRun.render, firstRun⟩

/-- The machine when nothing fails and nobody else is at work. -/
def steadily : Handler VerbSeams Machine
  | .inl o, m => let (r, w) := calmly 1 o m.world; (r, { m with world := w })
  | .inr .load, m => (loaded m.file, m)
  | .inr (.save config), m =>
    ((.ok () : Except LoadError Unit), { m with file := some config.render, last := config })
  | .inr .observe, m => (PriorConfiguration.present, m)
  | .inr (.deleteCredential service), m =>
    ((.ok () : Except Error Unit),
      { m with world := m.world.setStores (removeCredential m.world.stores service) })
  | .inr (.deleteOauthAccount service), m =>
    ((.ok () : Except Error Unit),
      { m with world := m.world.setStores (removeOauthAccount m.world.stores service) })
  | .inr .loginAccount, m => ((.ok none : Except Error (Option StashedAccount)), m)

theorem steadily_refines : steadily.Refines (machine 1) := by
  intro o m
  cases o with
  | inl o => exact ⟨_, calmly_refines 1 o m.world, rfl⟩
  | inr o =>
    cases o with
    | load => exact ⟨rfl, .inr rfl⟩
    | save config => rfl
    | observe => exact ⟨rfl, fun h => nomatch h⟩
    | deleteCredential service => exact ⟨_, rfl, rfl⟩
    | deleteOauthAccount service => exact ⟨_, rfl, rfl⟩
    | loginAccount => rfl

theorem kept_newMachine : Kept newMachine where
  file := by
    rintro lines hlines
    obtain rfl := Option.some.inj hlines
    exact parse_render firstRun_valid
  stashed := fun uuid hu => nomatch hu

end Sample

end Sessiometer.Roster
