import Sessiometer.Daemon.Preview
import Sessiometer.Framing.Word64
import Sessiometer.Usage.Response

/-! # The slow window of an exhausted account

The window lies within its bounds and ends by the reset that blocks the account, as long as the time to
that reset fits a word. -/

namespace Sessiometer

open Framing

/-- The soonest known reset of an exhausted axis. -/
def soonestReset (reading : Usage) (weeklyCeiling sessionCeiling : ℚ) : Option Int :=
  let weeklyReset := if atLeast reading.weekly weeklyCeiling then reading.weeklyResetsAt else none
  let sessionReset :=
    if atLeast reading.session sessionCeiling then reading.sessionResetsAt else none
  match weeklyReset, sessionReset with
  | some a, some b => some (min a b)
  | some a, none => some a
  | none, b => b

/-- The seconds that a window lasts, given the time to the soonest reset. -/
def windowSecs (exhaustedPollSecs pollSecs : ℕ) : Option Int → ℕ
  | some delta => (min (max delta pollSecs) exhaustedPollSecs).toNat
  | none => exhaustedPollSecs

theorem exhaustedPollWindow_eq (reading : Usage) (weeklyCeiling sessionCeiling : ℚ) (nowSecs : Int)
    (exhaustedPollSecs pollSecs : ℕ) :
    exhaustedPollWindow reading weeklyCeiling sessionCeiling nowSecs exhaustedPollSecs pollSecs =
      secs (windowSecs exhaustedPollSecs pollSecs
        ((soonestReset reading weeklyCeiling sessionCeiling).map (· - nowSecs))) := by
  unfold exhaustedPollWindow soonestReset
  dsimp only
  generalize (if atLeast reading.weekly weeklyCeiling = true then reading.weeklyResetsAt else none) = a
  generalize (if atLeast reading.session sessionCeiling = true then reading.sessionResetsAt else none) = b
  cases a <;> cases b <;> rfl

/-- `exhausted_poll_window` in 64 bits: `none` where the subtraction overflows. -/
def exhaustedPollWindow64 (reading : Usage) (weeklyCeiling sessionCeiling : ℚ) (nowSecs : Int)
    (exhaustedPollSecs pollSecs : ℕ) : Option ℕ :=
  match soonestReset reading weeklyCeiling sessionCeiling with
  | some resetsAt =>
    (checkedI64 (resetsAt - nowSecs)).map (fun delta => windowSecs exhaustedPollSecs pollSecs (some delta))
  | none => some (windowSecs exhaustedPollSecs pollSecs none)

/-- The same in a build that lets the subtraction wrap. -/
def exhaustedPollWindowWrapped (reading : Usage) (weeklyCeiling sessionCeiling : ℚ) (nowSecs : Int)
    (exhaustedPollSecs pollSecs : ℕ) : ℕ :=
  windowSecs exhaustedPollSecs pollSecs
    ((soonestReset reading weeklyCeiling sessionCeiling).map (fun resetsAt => wrapI64 (resetsAt - nowSecs)))

/-! ## The resets that count -/

/-- The known reset of an exhausted axis. -/
inductive ExhaustedReset (reading : Usage) (weeklyCeiling sessionCeiling : ℚ) (at' : Int) : Prop
  | weekly : atLeast reading.weekly weeklyCeiling = true → reading.weeklyResetsAt = some at' →
      ExhaustedReset reading weeklyCeiling sessionCeiling at'
  | session : atLeast reading.session sessionCeiling = true → reading.sessionResetsAt = some at' →
      ExhaustedReset reading weeklyCeiling sessionCeiling at'

def EarliestReset (reading : Usage) (weeklyCeiling sessionCeiling : ℚ) (at' : Int) : Prop :=
  ExhaustedReset reading weeklyCeiling sessionCeiling at' ∧
    ∀ other, ExhaustedReset reading weeklyCeiling sessionCeiling other → at' ≤ other

section Window

variable {reading : Usage} {weeklyCeiling sessionCeiling : ℚ} {at' nowSecs : Int}
variable {exhaustedPollSecs pollSecs : ℕ}

theorem exhaustedReset_iff : ExhaustedReset reading weeklyCeiling sessionCeiling at' ↔
    (if atLeast reading.weekly weeklyCeiling then reading.weeklyResetsAt else none) = some at' ∨
    (if atLeast reading.session sessionCeiling then reading.sessionResetsAt else none) = some at' := by
  constructor
  · rintro (⟨hweekly, hat⟩ | ⟨hsession, hat⟩)
    · exact .inl (by rw [if_pos hweekly, hat])
    · exact .inr (by rw [if_pos hsession, hat])
  · rintro (h | h)
    · by_cases hweekly : atLeast reading.weekly weeklyCeiling = true
      · rw [if_pos hweekly] at h
        exact .weekly hweekly h
      · rw [if_neg hweekly] at h
        cases h
    · by_cases hsession : atLeast reading.session sessionCeiling = true
      · rw [if_pos hsession] at h
        exact .session hsession h
      · rw [if_neg hsession] at h
        cases h

theorem soonestReset_eq_some :
    soonestReset reading weeklyCeiling sessionCeiling = some at' ↔
      EarliestReset reading weeklyCeiling sessionCeiling at' := by
  unfold EarliestReset soonestReset
  simp only [exhaustedReset_iff]
  generalize (if atLeast reading.weekly weeklyCeiling = true then reading.weeklyResetsAt else none) = a
  generalize (if atLeast reading.session sessionCeiling = true then reading.sessionResetsAt else none) = b
  cases a with
  | none =>
    cases b with
    | none => simp
    | some b =>
      simp only [reduceCtorEq, Option.some.injEq, false_or]
      constructor
      · rintro rfl
        exact ⟨rfl, fun other h => h.le⟩
      · exact fun h => h.1
  | some a =>
    cases b with
    | none =>
      simp only [reduceCtorEq, Option.some.injEq, or_false]
      constructor
      · rintro rfl
        exact ⟨rfl, fun other h => h.le⟩
      · exact fun h => h.1
    | some b =>
      simp only [Option.some.injEq]
      constructor
      · intro h
        refine ⟨by omega, ?_⟩
        rintro other (h' | h') <;> omega
      · rintro ⟨h, hleast⟩
        have ha := hleast a (.inl rfl)
        have hb := hleast b (.inr rfl)
        omega

theorem windowSecs_bounds (h : pollSecs ≤ exhaustedPollSecs) (delta : Option Int) :
    pollSecs ≤ windowSecs exhaustedPollSecs pollSecs delta ∧
      windowSecs exhaustedPollSecs pollSecs delta ≤ exhaustedPollSecs := by
  cases delta with
  | none => exact ⟨h, le_refl _⟩
  | some delta =>
    unfold windowSecs
    dsimp only
    omega

theorem windowSecs_le (delta : Int) :
    windowSecs exhaustedPollSecs pollSecs (some delta) ≤ max delta.toNat pollSecs := by
  unfold windowSecs
  dsimp only
  omega

theorem secs_inj {a b : ℕ} : secs a = secs b ↔ a = b := by
  constructor
  · intro h
    exact Nat.eq_of_mul_eq_mul_right (by decide) h
  · rintro rfl
    rfl

theorem exhaustedPollWindow64_eq_some {window : ℕ} :
    exhaustedPollWindow64 reading weeklyCeiling sessionCeiling nowSecs exhaustedPollSecs pollSecs =
        some window ↔
      (∀ at', EarliestReset reading weeklyCeiling sessionCeiling at' → FitsI64 (at' - nowSecs)) ∧
        exhaustedPollWindow reading weeklyCeiling sessionCeiling nowSecs exhaustedPollSecs pollSecs =
          secs window := by
  rw [exhaustedPollWindow_eq]
  unfold exhaustedPollWindow64
  simp only [← soonestReset_eq_some]
  cases soonestReset reading weeklyCeiling sessionCeiling with
  | none => simp [secs_inj]
  | some resetsAt =>
    simp only [Option.map_eq_some_iff, checkedI64_eq_some, Option.some.injEq, forall_eq', Option.map_some,
      secs_inj]
    constructor
    · rintro ⟨delta, ⟨hfits, rfl⟩, hwindow⟩
      exact ⟨hfits, hwindow⟩
    · rintro ⟨hfits, hwindow⟩
      exact ⟨_, ⟨hfits, rfl⟩, hwindow⟩

end Window

/-! ## The window that is armed -/

namespace Tunables

variable (t : Tunables)

def weeklyLine : ℚ := weeklyEffectiveCeiling (Settings.new t).weeklyCeilingBase

def sessionLine : ℚ := (Settings.new t).sessionCeilingBase

/-- `poll_strategy.base as u64`. -/
def basePollSecs : ℕ := (Settings.new t).pollStrategy.base.floor.toNat

end Tunables

/-- The daemon polls and rotates by the configuration. -/
structure Tuned (t : Tunables) (d : Daemon) : Prop where
  weekly : d.weeklyRotationLine = t.weeklyLine
  session : d.settings.sessionCeilingBase = t.sessionLine
  exhausted : d.settings.exhaustedPollSecs = t.exhaustedPollSecs
  poll : d.settings.pollStrategy.base.floor.toNat = t.basePollSecs

theorem tuned_new (roster : List Account) (t : Tunables) : Tuned t (Daemon.new roster t) :=
  ⟨rfl, rfl, rfl, rfl⟩

/-- The slow window of a reading at a time, as it should be. -/
structure SlowPolled (t : Tunables) (reading : Usage) (nowSecs : Int) : Prop where
  computed : ∃ window,
    exhaustedPollWindow64 reading t.weeklyLine t.sessionLine nowSecs t.exhaustedPollSecs t.basePollSecs =
      some window ∧
    t.basePollSecs ≤ window ∧ window ≤ t.exhaustedPollSecs ∧
    ∀ at', EarliestReset reading t.weeklyLine t.sessionLine at' → nowSecs < at' →
      (window : Int) ≤ max (at' - nowSecs) t.basePollSecs
  armed : ∀ (d : Daemon) (i : ℕ) (active : Option ℕ) (now due : Nanos), Tuned t d →
    (d.accounts i).lastReading = some reading →
    ((d.noteExhaustedPoll i active now nowSecs).accounts i).health.exhaustedPollUntil = some due →
      active ≠ some i ∧
      (∃ window, exhaustedPollWindow64 reading t.weeklyLine t.sessionLine nowSecs t.exhaustedPollSecs
        t.basePollSecs = some window ∧ due = now + secs window) ∧
      ∀ n source readings enabled floor sessionCeiling weeklyCeiling, readings i = some reading →
        sessionCeiling ≤ t.sessionLine → weeklyCeiling ≤ t.weeklyLine →
        pickTarget n source readings enabled floor (some sessionCeiling) weeklyCeiling ≠ some i

section Armed

variable {t : Tunables} {reading : Usage} {nowSecs : Int}

theorem validate_pollSecs {raw : RawTunables} {jitter : RawJitter} (h : validate raw jitter = .ok t) :
    t.basePollSecs ≤ t.exhaustedPollSecs := by
  unfold validate at h
  iterate 8 obtain ⟨_, -, h⟩ := bind_eq_ok h
  obtain ⟨_, hpoll, h⟩ := bind_eq_ok h
  dsimp only at h
  split at h
  · cases h
  · next hexhausted =>
    iterate 2
      split at h
      · cases h
    iterate 7 obtain ⟨_, -, h⟩ := bind_eq_ok h
    have ht := Except.ok.inj h
    have hlow := (range_ok hpoll).1
    subst ht
    change (Int.floor ((raw.pollSecs : Int) : ℚ)).toNat ≤ raw.exhaustedPollSecs.toNat
    rw [Int.floor_intCast]
    omega

/-- An axis at its line, or past it, fails the gate of every lower line. -/
theorem not_below_of_atLeast {x : Option ℚ} {line lower : ℚ} (h : atLeast x line = true) (hle : lower ≤ line) :
    isBelow x (some lower) = false := by
  cases x with
  | none => cases h
  | some v =>
    have hv : line ≤ v := by simpa [atLeast] using h
    simp [isBelow, hle.trans hv]

/-- What is out of the rotation is not selected, under no lines above its own. -/
theorem not_picked {i n source : ℕ} {readings : ℕ → Option Usage} {enabled : ℕ → Bool} {floor : Option ℚ}
    {weeklyLine sessionLine sessionCeiling weeklyCeiling : ℚ} (hreading : readings i = some reading)
    (hout : atLeast reading.weekly weeklyLine = true ∨ atLeast reading.session sessionLine = true)
    (hsession : sessionCeiling ≤ sessionLine) (hweekly : weeklyCeiling ≤ weeklyLine) :
    pickTarget n source readings enabled floor (some sessionCeiling) weeklyCeiling ≠ some i := by
  intro hpick
  unfold pickTarget pickTargetRanked at hpick
  obtain ⟨⟨j, reason⟩, hranked, rfl⟩ := Option.map_eq_some_iff.mp hpick
  obtain ⟨usage, -, hread, hviable⟩ := pickTarget_viable hranked
  rw [hreading] at hread
  cases hread
  unfold isViable at hviable
  simp only [Bool.and_eq_true] at hviable
  rcases hout with h | h
  · have hbelow := not_below_of_atLeast h hweekly
    rw [hviable.1.1.2] at hbelow
    cases hbelow
  · have hbelow := not_below_of_atLeast h hsession
    rw [hviable.1.2] at hbelow
    cases hbelow

theorem noteExhaustedPoll_armed {d : Daemon} {i : ℕ} {active : Option ℕ} {now due : Nanos}
    (hreading : (d.accounts i).lastReading = some reading)
    (hdue : ((d.noteExhaustedPoll i active now nowSecs).accounts i).health.exhaustedPollUntil = some due) :
    d.outOfRotation i active reading = true ∧
      due = now + exhaustedPollWindow reading d.weeklyRotationLine d.settings.sessionCeilingBase nowSecs
        d.settings.exhaustedPollSecs d.settings.pollStrategy.base.floor.toNat := by
  unfold Daemon.noteExhaustedPoll at hdue
  rw [hreading] at hdue
  dsimp only at hdue
  by_cases hout : d.outOfRotation i active reading = true
  · rw [if_pos hout, emitIf_accounts] at hdue
    unfold Daemon.setHealth at hdue
    rw [Daemon.setAccount_self] at hdue
    exact ⟨hout, (Option.some.inj hdue).symm⟩
  · rw [if_neg hout, emitIf_accounts] at hdue
    unfold Daemon.setHealth at hdue
    rw [Daemon.setAccount_self] at hdue
    cases hdue

/-- Under an admitted configuration, the slow window of every reading is as it should be exactly if the
time from now to the earliest reset that counts fits a word. -/
theorem slow_poll_iff {raw : RawTunables} {jitter : RawJitter} (h : validate raw jitter = .ok t)
    (reading : Usage) (nowSecs : Int) :
    SlowPolled t reading nowSecs ↔
      ∀ at', EarliestReset reading t.weeklyLine t.sessionLine at' → FitsI64 (at' - nowSecs) := by
  constructor
  · intro hpolled
    obtain ⟨window, hwindow, -⟩ := hpolled.computed
    exact (exhaustedPollWindow64_eq_some.mp hwindow).1
  · intro hfits
    have hcomputed : exhaustedPollWindow64 reading t.weeklyLine t.sessionLine nowSecs t.exhaustedPollSecs
        t.basePollSecs = some (windowSecs t.exhaustedPollSecs t.basePollSecs
          ((soonestReset reading t.weeklyLine t.sessionLine).map (· - nowSecs))) :=
      exhaustedPollWindow64_eq_some.mpr ⟨hfits, exhaustedPollWindow_eq ..⟩
    constructor
    · obtain ⟨hlow, hhigh⟩ := windowSecs_bounds (validate_pollSecs h)
        ((soonestReset reading t.weeklyLine t.sessionLine).map (· - nowSecs))
      refine ⟨_, hcomputed, hlow, hhigh, ?_⟩
      intro at' hearliest hahead
      rw [soonestReset_eq_some.mpr hearliest, Option.map_some]
      have hle : windowSecs t.exhaustedPollSecs t.basePollSecs (some (at' - nowSecs)) ≤
          max (at' - nowSecs).toNat t.basePollSecs := windowSecs_le _
      omega
    · intro d i active now due htuned hreading hdue
      obtain ⟨hout, hdue⟩ := noteExhaustedPoll_armed hreading hdue
      rw [htuned.weekly, htuned.session, htuned.exhausted, htuned.poll, exhaustedPollWindow_eq] at hdue
      unfold Daemon.outOfRotation at hout
      rw [Bool.and_eq_true, Bool.or_eq_true, htuned.weekly, htuned.session] at hout
      refine ⟨of_decide_eq_true hout.1, ⟨_, hcomputed, hdue⟩, ?_⟩
      intro n source readings enabled floor sessionCeiling weeklyCeiling hread hsession hweekly
      exact not_picked hread hout.2 hsession hweekly

end Armed

/-- Both windows spent, and the weekly one back first. -/
def spentReading : Usage := ⟨some 1, some 1, some 1700000600, some 1700003600⟩

theorem slow_poll_iff_spent : validate {} {} = .ok .default' ∧
    SlowPolled .default' spentReading 1700000000 := by
  refine ⟨validate_default, (slow_poll_iff validate_default spentReading 1700000000).mpr ?_⟩
  intro at' hearliest
  have hsoonest : soonestReset spentReading Tunables.default'.weeklyLine Tunables.default'.sessionLine =
      some 1700000600 := by decide +kernel
  rw [soonestReset_eq_some.mpr hearliest, Option.some.injEq] at hsoonest
  rw [hsoonest]
  decide

/-- The weekly window is spent, and its reset is the least number that the usage reply can tell. -/
def farReading : Usage := ⟨none, some 1, epochFromResetsAt "-9223372036854775808".toList, none⟩

/-- The time to the reset overflows; where it wraps, the account is left alone for the longest window,
not for the shortest. -/
theorem far_reset_overflows :
    ¬SlowPolled .default' farReading 1700000000 ∧
    exhaustedPollWindowWrapped farReading Tunables.default'.weeklyLine Tunables.default'.sessionLine 1700000000
      Tunables.default'.exhaustedPollSecs Tunables.default'.basePollSecs = Tunables.default'.exhaustedPollSecs ∧
    Tunables.default'.basePollSecs < Tunables.default'.exhaustedPollSecs := by
  refine ⟨?_, by decide +kernel, by decide +kernel⟩
  intro hpolled
  obtain ⟨window, hwindow, -⟩ := hpolled.computed
  have hnone : exhaustedPollWindow64 farReading Tunables.default'.weeklyLine Tunables.default'.sessionLine
      1700000000 Tunables.default'.exhaustedPollSecs Tunables.default'.basePollSecs = none := by
    decide +kernel
  rw [hnone] at hwindow
  cases hwindow

end Sessiometer
