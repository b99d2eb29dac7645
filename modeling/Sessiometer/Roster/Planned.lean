import Sessiometer.Config.Reload
import Sessiometer.Daemon.Roster
import Sessiometer.Roster.Verbs

/-! # What a verb makes of a configuration

A valid configuration stays valid. An account is added at the end, changed in its place, or taken out. -/

namespace Sessiometer.Roster

open Keyed

def uuids (roster : List Account) : List String := roster.map (·.accountUuid)

section Labels

theorem isBlank_strTrim {text : String} (h : strTrim text ≠ "") : isBlank (strTrim text) = false := by
  have hne : (text.toList.dropWhile isWhitespace).rdropWhile isWhitespace ≠ [] := by
    intro hnil
    apply h
    rw [strTrim, hnil]
  unfold isBlank strTrim
  rw [String.toList_ofList, Bool.eq_false_iff]
  intro hall
  exact List.rdropWhile_last_not isWhitespace _ hne (List.all_eq_true.mp hall _ (List.getLast_mem hne))

theorem isBlank_provided {label : Option String} {text : String} (h : provided label = some text) :
    isBlank text = false := by
  obtain ⟨hmap, hne⟩ := Option.filter_eq_some_iff.mp h
  obtain ⟨given, -, rfl⟩ := Option.map_eq_some_iff.mp hmap
  exact isBlank_strTrim (by simpa using hne)

theorem isBlank_given {label : Option String} {other : String} (h : isBlank other = false) :
    isBlank ((provided label).getD other) = false := by
  cases hp : provided label with
  | none => exact h
  | some text => exact isBlank_provided hp

theorem isBlank_accountUuid (o : OauthAccount) : isBlank o.accountUuid = false := by
  have h := o.wellFormed
  unfold accountUuidOf at h
  split at h
  · split at h
    · split at h
      · cases h
      · next hblank =>
        obtain rfl := Except.ok.inj h
        simpa using hblank
    · cases h
  · cases h

end Labels

section Plan

variable [StrDebug] {roster roster' : List Account} {accountUuid stash query : String}
  {label : Option String} {outcome : CaptureOutcome} {enabled : Bool} {removed : Account}

omit [StrDebug] in
theorem uuids_modify (f : Account → Account) (hf : ∀ a, (f a).accountUuid = a.accountUuid) (i : ℕ) :
    uuids (roster.modify i f) = uuids roster := by
  apply List.ext_getElem?
  intro j
  simp only [uuids, List.getElem?_map, List.getElem?_modify]
  cases roster[j]? with
  | none => rfl
  | some a =>
    by_cases hij : i = j <;> simp [hij, hf]

/-- The rows of every other account. -/
def otherRows (uuid : String) (roster : List Account) : List Account :=
  roster.filter fun a => a.accountUuid ≠ uuid

omit [StrDebug] in
theorem otherRows_modify (f : Account → Account) (hf : ∀ a, (f a).accountUuid = a.accountUuid) {i : ℕ}
    {uuid : String} (hi : ∀ a, roster[i]? = some a → a.accountUuid = uuid) :
    otherRows uuid (roster.modify i f) = otherRows uuid roster := by
  induction roster generalizing i with
  | nil => simp [otherRows]
  | cons b roster ih =>
    cases i with
    | zero =>
      obtain rfl : b.accountUuid = uuid := hi b rfl
      simp [otherRows, hf]
    | succ i =>
      have hrest := ih (i := i) fun a ha => hi a (by simpa using ha)
      unfold otherRows at hrest ⊢
      rw [List.modify_succ_cons, List.filter_cons, List.filter_cons, hrest]

omit [StrDebug] in
theorem otherRows_eraseIdx {i : ℕ} (hi : roster[i]? = some removed) :
    otherRows removed.accountUuid (roster.eraseIdx i) = otherRows removed.accountUuid roster := by
  induction roster generalizing i with
  | nil => rfl
  | cons b roster ih =>
    cases i with
    | zero =>
      obtain rfl : b = removed := by simpa using hi
      simp [otherRows]
    | succ i =>
      have hrest := ih (i := i) (by simpa using hi)
      unfold otherRows at hrest ⊢
      rw [List.eraseIdx_cons_succ, List.filter_cons, List.filter_cons, hrest]

/-- What the plan of a capture comes to. -/
structure Planned (roster : List Account) (accountUuid : String) (roster' : List Account)
    (stash : String) : Prop where
  stash : stash = stashPrefix ++ accountUuid
  accountUuids : uuids roster' =
    if accountUuid ∈ uuids roster then uuids roster else uuids roster ++ [accountUuid]
  rows : otherRows accountUuid roster' = otherRows accountUuid roster
  admissible : (∀ a ∈ roster, a.raw.Admissible) → isBlank accountUuid = false →
    ∀ a ∈ roster', a.raw.Admissible

theorem admissible_modify {f : Account → Account} {i : ℕ} (ha : ∀ a ∈ roster, a.raw.Admissible)
    (hf : ∀ a : Account, a.raw.Admissible → (f a).raw.Admissible) :
    ∀ a ∈ roster.modify i f, a.raw.Admissible := by
  intro a hmem
  obtain ⟨j, hj⟩ := List.mem_iff_getElem?.mp hmem
  rw [List.getElem?_modify] at hj
  cases hb : roster[j]? with
  | none =>
    rw [hb] at hj
    cases hj
  | some b =>
    have hadmissible := ha b (List.mem_of_getElem? hb)
    rw [hb] at hj
    by_cases hij : i = j
    · simp only [hij, if_true, Option.map_eq_map, Option.map_some, Option.some.injEq] at hj
      exact hj ▸ hf b hadmissible
    · simp only [hij, if_false, Option.map_eq_map, Option.map_some, Option.some.injEq] at hj
      exact hj ▸ hadmissible

theorem planned (h : planCapture roster accountUuid label = .ok (roster', stash, outcome)) :
    Planned roster accountUuid roster' stash := by
  unfold planCapture at h
  cases hrule : accountUuidViolation accountUuid with
  | some rule =>
    rw [hrule] at h
    cases h
  | none =>
    rw [hrule] at h
    cases hp : rosterPosition roster accountUuid with
    | some i =>
      simp only [hp, Except.ok.injEq, Prod.mk.injEq] at h
      obtain ⟨rfl, rfl, -⟩ := h
      have hmem : accountUuid ∈ uuids roster := by
        by_contra hnot
        rw [rosterPosition_eq, position_eq_none_iff.mpr hnot] at hp
        cases hp
      refine ⟨rfl, ?_, ?_, ?_⟩
      · rw [if_pos hmem]
        exact uuids_modify (fun a => { a with label := (provided label).getD a.label }) (fun _ => rfl) i
      · refine otherRows_modify (fun a => { a with label := (provided label).getD a.label })
          (fun _ => rfl) ?_
        intro a ha
        obtain ⟨b, hb, hkey⟩ := getElem?_of_position (rosterPosition_eq roster accountUuid ▸ hp)
        obtain rfl := Option.some.inj (ha.symm.trans hb)
        exact hkey
      · intro ha _
        exact admissible_modify ha fun a hadm => ⟨hadm.accountUuid, hadm.wellFormed, isBlank_given hadm.label⟩
    | none =>
      simp only [hp, Except.ok.injEq, Prod.mk.injEq] at h
      obtain ⟨rfl, rfl, -⟩ := h
      have hnot : accountUuid ∉ uuids roster := position_eq_none_iff.mp hp
      refine ⟨rfl, ?_, ?_, ?_⟩
      · rw [if_neg hnot]
        simp [uuids]
      · simp [otherRows]
      · intro ha hblank a hmem
        rcases List.mem_append.mp hmem with hold | hnew
        · exact ha a hold
        · rw [List.mem_singleton] at hnew
          subst hnew
          exact ⟨hblank, hrule, isBlank_given hblank⟩

theorem Planned.valid {c : Config} (h : Planned c.roster accountUuid roster' stash) (hc : c.Valid)
    (hblank : isBlank accountUuid = false) : ({ c with roster := roster' } : Config).Valid := by
  obtain ⟨ha, hd⟩ := hc.accounts
  refine hc.withRoster (h.admissible ha hblank) ?_
  have hd' : (uuids roster').Nodup := by
    rw [h.accountUuids]
    by_cases hmem : accountUuid ∈ uuids c.roster
    · rwa [if_pos hmem]
    · rw [if_neg hmem, List.nodup_append]
      refine ⟨hd, List.nodup_singleton _, ?_⟩
      intro x hx y hy hxy
      rw [List.mem_singleton] at hy
      exact hmem (hy ▸ hxy ▸ hx)
  exact hd'

theorem firstRun_valid : firstRun.Valid := by
  have htunables : admitTunables firstRun.raw.tunables = .ok 80 := by
    have hsome : (admitTunables firstRun.raw.tunables).toOption = some 80 := by decide +kernel
    cases h : admitTunables firstRun.raw.tunables with
    | error e => simp [h, Except.toOption] at hsome
    | ok n => simpa [h, Except.toOption] using hsome
  have hjitter : admitJitter firstRun.raw.jitter = .ok ⟨.normal 60, .none, .none, .none⟩ := by
    have h60 : (0 : ℚ) ≤ 60 := by norm_num
    simp [admitJitter, Config.raw, TunablesTable.rawJitter, firstRun, Tunables.default', Jitter.spec,
      parseJitter, nonNegative, defaultPollJitter, h60, bind, Except.bind]
  have hrefresh : admitRefresh firstRun.raw.refresh = .ok firstRun.refresh := rfl
  have hlogin : admitLogin firstRun.raw.login = .ok firstRun.login := rfl
  have hstats : admitStats firstRun.raw.stats = .ok firstRun.stats := rfl
  have hmigration : admitMigration firstRun.raw.migration = .ok firstRun.migration := rfl
  have hcredential : admitCredential firstRun.raw.credential = .ok firstRun.credential := rfl
  unfold Config.Valid Config.validate
  rw [htunables, hjitter, hrefresh, hlogin, hstats, hmigration, hcredential]
  rfl

omit [StrDebug] in
theorem applyEnabled_ok (h : applyEnabled roster query enabled = .ok (some roster')) :
    ∃ i uuid, (∀ a, roster[i]? = some a → a.accountUuid = uuid) ∧
      roster' = roster.modify i fun a => { a with enabled } := by
  unfold applyEnabled at h
  split at h
  · cases h
  · next i _ =>
    split at h
    · cases h
    · refine ⟨i, (roster[i]?.map (·.accountUuid)).getD "", ?_, (Option.some.inj (Except.ok.inj h)).symm⟩
      intro a ha
      rw [ha]
      rfl

theorem valid_applyEnabled {c : Config} (hc : c.Valid)
    (h : applyEnabled c.roster query enabled = .ok (some roster')) :
    ({ c with roster := roster' } : Config).Valid ∧ uuids roster' = uuids c.roster ∧
      ∃ uuid, otherRows uuid roster' = otherRows uuid c.roster := by
  obtain ⟨i, uuid, hi, rfl⟩ := applyEnabled_ok h
  have huuids : uuids (c.roster.modify i fun a => { a with enabled }) = uuids c.roster :=
    uuids_modify (fun a => { a with enabled }) (fun _ => rfl) i
  obtain ⟨ha, hd⟩ := hc.accounts
  refine ⟨hc.withRoster ?_ ?_, huuids, uuid,
    otherRows_modify (fun a => { a with enabled }) (fun _ => rfl) hi⟩
  · exact admissible_modify ha fun a hadm => ⟨hadm.accountUuid, hadm.wellFormed, hadm.label⟩
  · have hd' : (uuids c.roster).Nodup := hd
    rwa [← huuids] at hd'

theorem valid_applyRemove {c : Config} (hc : c.Valid)
    (h : applyRemove c.roster query = .ok (roster', removed)) :
    ({ c with roster := roster' } : Config).Valid ∧ removed ∈ c.roster ∧
      uuids roster' = (uuids c.roster).erase removed.accountUuid ∧
        otherRows removed.accountUuid roster' = otherRows removed.accountUuid c.roster := by
  unfold applyRemove at h
  split at h
  · cases h
  · next i _ =>
    split at h
    · cases h
    · next a hi =>
      obtain ⟨rfl, rfl⟩ := Prod.mk.inj (Except.ok.inj h)
      obtain ⟨ha, hd⟩ := hc.accounts
      have hsub : (c.roster.eraseIdx i).Sublist c.roster := List.eraseIdx_sublist _ _
      refine ⟨hc.withRoster (fun b hb => ha b (hsub.subset hb)) (hd.sublist (hsub.map _)),
        List.mem_of_getElem? hi, ?_, otherRows_eraseIdx hi⟩
      have hlt : i < (uuids c.roster).length := by
        have := (List.getElem?_eq_some_iff.mp hi).1
        simpa [uuids] using this
      have hget : (uuids c.roster)[i] = a.accountUuid := by
        have := (List.getElem?_eq_some_iff.mp hi).2
        simp [uuids, this]
      have hd' : (uuids c.roster).Nodup := hd
      have herase := hd'.erase_getElem i hlt
      rw [hget] at herase
      rw [herase]
      exact (List.eraseIdx_map _ _ _).symm

end Plan

end Sessiometer.Roster
