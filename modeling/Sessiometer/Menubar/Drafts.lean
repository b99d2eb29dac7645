import Mathlib.Data.List.Induction
import Sessiometer.Menubar.Settings

/-! # The drafts of the settings form

What a draft reads as, which drafts are dirty, what a view brings and what a submit carries. -/

namespace Sessiometer.Menubar

/-! ## Numbers -/

section Numbers

theorem whitespaces_of_isDigit {c : Char} (h : c.isDigit = true) : whitespaces c = false := by
  obtain ⟨hlow, hhigh⟩ := Framing.isDigit_iff.mp h
  unfold whitespaces
  simp only [List.mem_cons, List.not_mem_nil, or_false, Bool.or_eq_false_iff, decide_eq_false_iff_not,
    Bool.and_eq_false_iff]
  omega

theorem trimmingCharacters_of_isDigit {cs : Text} (h : ∀ c ∈ cs, c.isDigit = true) :
    trimmingCharacters cs = cs := by
  have hkeep : ∀ ds : Text, (∀ c ∈ ds, c.isDigit = true) → ds.dropWhile whitespaces = ds := by
    intro ds hds
    cases ds with
    | nil => rfl
    | cons d ds => rw [List.dropWhile_cons, whitespaces_of_isDigit (hds d (by simp)), if_neg (by simp)]
  unfold trimmingCharacters
  rw [hkeep cs h, hkeep cs.reverse (by simpa using h), List.reverse_reverse]

theorem parseUInt64_decimal (n : UInt64) : parseUInt64 (trimmingCharacters (decimal n)) = some n := by
  have hdigits : ∀ c ∈ decimal n, c.isDigit = true := fun c hc =>
    Nat.isDigit_of_mem_toDigits (by decide) (by decide) hc
  have hne : decimal n ≠ [] := Nat.toDigits_ne_nil
  have hunsigned : unsigned (decimal n) = (false, decimal n) := by
    unfold unsigned
    split
    · next hcs => exact absurd (hdigits '-' (by simp [hcs])) (by decide)
    · next hcs => exact absurd (hdigits '+' (by simp [hcs])) (by decide)
    · rfl
  have hvalue : Nat.ofDigitChars 10 (decimal n) 0 = n.toNat := Nat.ofDigitChars_ten_toDigits
  have hbound : n.toNat < 18446744073709551616 := n.toNat_lt
  have hplain : ¬(decimal n = [] ∨ (decimal n).any (fun c => !c.isDigit) = true) := by
    simp only [hne, false_or, List.any_eq_true, not_exists, not_and]
    intro c hc
    simp [hdigits c hc]
  rw [trimmingCharacters_of_isDigit hdigits]
  unfold parseUInt64
  simp only [hunsigned]
  rw [if_neg hplain, hvalue, if_neg (by simp; omega)]
  simp

theorem exactlyInt64_eq_some {n : UInt64} {i : Int64} (h : exactlyInt64 n = some i) :
    n.toNat < 9223372036854775808 ∧ i.toUInt64 = n := by
  unfold exactlyInt64 at h
  by_cases hn : n.toNat < 9223372036854775808
  · rw [if_pos hn] at h
    obtain rfl := Option.some.inj h
    exact ⟨hn, UInt64.toUInt64_toInt64 n⟩
  · rw [if_neg hn] at h
    simp at h

end Numbers

/-! ## Tunables by field -/

namespace TunableField

/-- The edit of a field. -/
def get : TunableField → SetTunables → Option Int64
  | pollSecs, tunables => tunables.pollSecs
  | exhaustedPollSecs, tunables => tunables.exhaustedPollSecs
  | nearLimitPollSecs, tunables => tunables.nearLimitPollSecs
  | cooldownSecs, tunables => tunables.cooldownSecs
  | targetMaxSessionUsage, tunables => tunables.targetMaxSessionUsage
  | sessionCeiling, tunables => tunables.sessionCeiling
  | weeklyCeiling, tunables => tunables.weeklyCeiling
  | sessionBlindSwapSecs, tunables => tunables.sessionBlindSwapSecs
  | sessionBlindRiskBand, tunables => tunables.sessionBlindRiskBand
  | sessionVelocityHorizonSecs, tunables => tunables.sessionVelocityHorizonSecs
  | sessionVelocityMinProjectAbove, tunables => tunables.sessionVelocityMinProjectAbove
  | sessionVelocityEmaAlphaPct, tunables => tunables.sessionVelocityEmaAlphaPct
  | monitor401N, tunables => tunables.monitor401N
  | monitorRecoveryM, tunables => tunables.monitorRecoveryM
  | fleetRunwayWarnSecs, tunables => tunables.fleetRunwayWarnSecs

variable {f g : TunableField} {value : Int64} {tunables : SetTunables}

theorem get_empty : f.get .empty = none := by
  cases f <;> rfl

theorem get_set_self : f.get (f.set value tunables) = some value := by
  cases f <;> rfl

theorem get_set_of_ne (h : f ≠ g) : f.get (g.set value tunables) = f.get tunables := by
  cases g <;> cases f <;> first | rfl | exact absurd rfl h

theorem mem_allCases : f ∈ allCases := by
  cases f <;> decide

end TunableField

/-! ## The drafts and the baseline -/

namespace SettingsModel

variable {σ : Type} [SwiftString σ] {m : SettingsModel σ} {field : TunableField} {uuid t : σ}

/-- The number that a draft reads as. -/
def reads (m : SettingsModel σ) (field : TunableField) : Option UInt64 :=
  parseUInt64 (m.normalizedDraft field)

/-- The label that a draft stands for. -/
def labelReads (m : SettingsModel σ) (uuid : σ) : Option σ :=
  (m.labelDrafts uuid).map SwiftString.trimmed

omit [SwiftString σ] in
theorem isDirtyTunable_iff : m.isDirtyTunable field = true ↔
    ∃ v, m.pristineTunables field = some v ∧ m.reads field ≠ some v := by
  unfold isDirtyTunable
  cases hpristine : m.pristineTunables field with
  | none => simp
  | some pristine =>
    have hreads : parseUInt64 (m.normalizedDraft field) = m.reads field := rfl
    simp only [Option.some.injEq, exists_eq_left', hreads]
    cases m.reads field with
    | none => simp
    | some value => simp

omit [SwiftString σ] in
theorem mem_dirtyTunableFields : field ∈ m.dirtyTunableFields ↔
    ∃ v, m.pristineTunables field = some v ∧ m.reads field ≠ some v := by
  unfold dirtyTunableFields
  rw [List.mem_filter, isDirtyTunable_iff]
  exact and_iff_right TunableField.mem_allCases

theorem dirtyLabels_eq_some : m.dirtyLabels uuid = some t ↔
    m.labelReads uuid = some t ∧ m.pristineLabels uuid ≠ some t := by
  unfold dirtyLabels labelReads
  cases m.labelDrafts uuid with
  | none => simp
  | some draft =>
    dsimp only
    by_cases hsame : m.pristineLabels uuid = some (SwiftString.trimmed draft)
    · rw [if_neg (by simpa using hsame)]
      simp only [reduceCtorEq, Option.map_some, Option.some.injEq, false_iff, not_and, not_not]
      rintro rfl
      exact hsame
    · rw [if_pos hsame]
      simp only [Option.map_some, Option.some.injEq]
      constructor
      · rintro rfl
        exact ⟨rfl, hsame⟩
      · exact And.left

/-- Neither the drafts nor the baseline differ. -/
structure Same (m m' : SettingsModel σ) : Prop where
  drafts : m'.drafts = m.drafts
  labelDrafts : m'.labelDrafts = m.labelDrafts
  pristineTunables : m'.pristineTunables = m.pristineTunables
  pristineLabels : m'.pristineLabels = m.pristineLabels

/-! ### Rosters -/

/-- The label of an account in a roster. -/
def labelOf (accounts : List (AccountView σ)) (uuid : σ) : Option σ :=
  (accounts.find? fun account => decide (account.accountUuid = uuid)).map AccountView.label

theorem labelOf_eq_none {accounts : List (AccountView σ)} :
    labelOf accounts uuid = none ↔ uuid ∉ accounts.map AccountView.accountUuid := by
  unfold labelOf
  rw [Option.map_eq_none_iff, List.find?_eq_none]
  simp

theorem labelOf_append_singleton (accounts : List (AccountView σ)) (account : AccountView σ)
    (hnew : account.accountUuid ∉ accounts.map AccountView.accountUuid) :
    labelOf (accounts ++ [account]) =
      Function.update (labelOf accounts) account.accountUuid (some account.label) := by
  funext uuid
  by_cases huuid : uuid = account.accountUuid
  · subst huuid
    have hnone := labelOf_eq_none.mpr hnew
    rw [Function.update_self]
    unfold labelOf at hnone ⊢
    rw [Option.map_eq_none_iff] at hnone
    simp [List.find?_append, hnone]
  · rw [Function.update_of_ne huuid]
    unfold labelOf
    simp [List.find?_append, Ne.symm huuid]

/-- A roster has its labels where it names no account twice. -/
theorem rosterLabels_eq (accounts : List (AccountView σ)) : rosterLabels accounts =
    if (accounts.map AccountView.accountUuid).Nodup then some (labelOf accounts) else none := by
  induction accounts using List.reverseRecOn with
  | nil => rfl
  | append_singleton accounts account ih =>
    unfold rosterLabels at ih ⊢
    rw [List.foldlM_append, ih]
    have hsplit : ((accounts ++ [account]).map AccountView.accountUuid).Nodup ↔
        (accounts.map AccountView.accountUuid).Nodup ∧
          account.accountUuid ∉ accounts.map AccountView.accountUuid := by
      rw [List.map_append, List.map_singleton, (List.perm_append_singleton _ _).nodup_iff,
        List.nodup_cons]
      exact and_comm
    by_cases hnodup : (accounts.map AccountView.accountUuid).Nodup
    · rw [if_pos hnodup]
      by_cases hnew : account.accountUuid ∉ accounts.map AccountView.accountUuid
      · rw [if_pos (hsplit.mpr ⟨hnodup, hnew⟩), labelOf_append_singleton accounts account hnew]
        simp [labelOf_eq_none.mpr hnew]
      · have hold : labelOf accounts account.accountUuid ≠ none := fun h =>
          hnew (labelOf_eq_none.mp h)
        rw [if_neg fun h => hnew (hsplit.mp h).2]
        simp [hold]
    · rw [if_neg hnodup, if_neg fun h => hnodup (hsplit.mp h).1]
      rfl

/-! ### Submits -/

/-- The value that a command carries for a field. -/
def carried (command : ConfigSetCommand σ) (field : TunableField) : Option UInt64 :=
  (field.get command.tunables).map Int64.toUInt64

theorem get_edits (fields : List TunableField) (value : TunableField → Option Int64)
    (edited : SetTunables) : field.get (fields.foldl (fun edited f =>
      (value f).elim edited fun signed => f.set signed edited) edited) =
    if field ∈ fields then (value field).or (field.get edited) else field.get edited := by
  induction fields generalizing edited with
  | nil => simp
  | cons f fields ih =>
    rw [List.foldl_cons, ih]
    by_cases hf : field = f
    · subst hf
      cases hvalue : value field with
      | none => simp
      | some signed => simp [TunableField.get_set_self]
    · have hkept : field.get ((value f).elim edited fun signed => f.set signed edited) =
          field.get edited := by
        cases value f with
        | none => rfl
        | some signed => exact TunableField.get_set_of_ne hf
      rw [hkept]
      simp [hf]

/-- What a submit finds: nothing is sent, or the command carries what is dirty. -/
theorem beginApply_cases (m : SettingsModel σ) : m.Same m.beginApply.1 ∧
    ∀ command, m.beginApply.2 = some command →
      (∀ field ∈ m.dirtyTunableFields, ∃ v, m.reads field = some v ∧ v.toNat < 9223372036854775808) ∧
      (∀ field, carried command field =
        if field ∈ m.dirtyTunableFields then m.reads field else none) ∧
      command.labels = m.dirtyLabels := by
  unfold beginApply
  by_cases hbusy : m.applyPhase = .applying
  · rw [if_pos hbusy]
    exact ⟨⟨rfl, rfl, rfl, rfl⟩, by simp⟩
  rw [if_neg hbusy]
  by_cases hclient : (!m.client) = true
  · rw [if_pos hclient]
    exact ⟨⟨rfl, rfl, rfl, rfl⟩, by simp⟩
  rw [if_neg hclient]
  by_cases hformat : m.dirtyTunableFields.any (fun field => (m.formatError field).isSome) = true
  · rw [if_pos hformat]
    exact ⟨⟨rfl, rfl, rfl, rfl⟩, by simp⟩
  rw [if_neg hformat]
  refine ⟨⟨rfl, rfl, rfl, rfl⟩, fun command hcommand => ?_⟩
  obtain rfl := Option.some.inj hcommand
  have hwhole : ∀ field ∈ m.dirtyTunableFields, ∃ v i, m.reads field = some v ∧
      exactlyInt64 v = some i := by
    intro field hfield
    have hnone : m.formatError field = none := by
      simp only [List.any_eq_true, not_exists, not_and] at hformat
      simpa using hformat field hfield
    have hread : parseUInt64 (m.normalizedDraft field) = m.reads field := rfl
    unfold formatError at hnone
    rw [hread] at hnone
    cases hreads : m.reads field with
    | none =>
      rw [hreads] at hnone
      simp at hnone
    | some v =>
      rw [hreads] at hnone
      cases hexact : exactlyInt64 v with
      | none => simp [hexact] at hnone
      | some i => exact ⟨v, i, rfl, hexact⟩
  refine ⟨fun field hfield => ?_, fun field => ?_, rfl⟩
  · obtain ⟨v, i, hreads, hexact⟩ := hwhole field hfield
    exact ⟨v, hreads, (exactlyInt64_eq_some hexact).1⟩
  · unfold carried edited
    rw [get_edits m.dirtyTunableFields fun field =>
      (parseUInt64 (m.normalizedDraft field)).bind exactlyInt64]
    by_cases hfield : field ∈ m.dirtyTunableFields
    · obtain ⟨v, i, hreads, hexact⟩ := hwhole field hfield
      have hvalue : (parseUInt64 (m.normalizedDraft field)).bind exactlyInt64 = some i := by
        change (m.reads field).bind exactlyInt64 = some i
        rw [hreads]
        exact hexact
      rw [if_pos hfield, if_pos hfield, hvalue, hreads]
      exact congrArg some (exactlyInt64_eq_some hexact).2
    · rw [if_neg hfield, if_neg hfield, TunableField.get_empty]
      rfl

end SettingsModel

end Sessiometer.Menubar
