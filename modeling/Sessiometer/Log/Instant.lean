import Sessiometer.Framing.Word64
import Sessiometer.Log.Stamps

/-! # The instant in a word

The reader of an instant in words of sixty-four bits, where an operation that leaves the word gives
nothing; and the shape that an instant should have. -/

namespace Sessiometer.Log

open Framing

/-! ## The reader -/

/-- The rest of an instant cut into the time of day and, unless it is UTC, the side of UTC and what
follows the sign. -/
def cutZone (rest : Text) : Text × Option (Bool × Text) :=
  if rest.getLast? = some 'Z' ∨ rest.getLast? = some 'z' then (rest.dropLast, none)
  else
    match rposition (fun c => c == '+' || c == '-') rest with
    | none => (rest, none)
    | some pos => (rest.take pos, some (rest[pos]? = some '-', rest.drop (pos + 1)))

/-- The hours and the minutes of an offset. -/
def offsetNumbers (tz : Text) : Option (ℤ × ℤ) :=
  match splitOnce ':' tz with
  | some (h, m) => do pure (← parseSigned (2 ^ 63) h, ← parseSigned (2 ^ 63) m)
  | none =>
    if byteLength tz = 4 then do
      pure (← parseSigned (2 ^ 63) (tz.take 2), ← parseSigned (2 ^ 63) (tz.drop 2))
    else do pure (← parseSigned (2 ^ 63) tz, 0)

/-- `sign * (hours * 3_600 + minutes * 60)`. -/
def checkedOffset (west : Bool) (hours minutes : ℤ) : Option ℤ := do
  let hours ← checkedI64 (hours * 3600)
  let minutes ← checkedI64 (minutes * 60)
  let sum ← checkedI64 (hours + minutes)
  checkedI64 ((if west then -1 else 1) * sum)

/-- `split_offset`: nothing where it overflows. -/
def checkedSplitOffset (rest : Text) : Option (Option (Text × ℤ)) :=
  match (cutZone rest).2 with
  | none => some (some ((cutZone rest).1, 0))
  | some (west, tz) =>
    match offsetNumbers tz with
    | none => some none
    | some (hours, minutes) => do
      let offset ← checkedOffset west hours minutes
      pure (some ((cutZone rest).1, offset))

def cut (s : Text) : Option (Text × Text) := (splitOnce 'T' s).or (splitOnce ' ' s)

/-- `epoch_from_rfc3339`: nothing where it overflows. Only the last subtraction of the sum can. -/
def checkedEpochFromRfc3339 (s : Text) : Option (Option ℤ) :=
  match cut s with
  | none => some none
  | some (date, rest) =>
    match epochDate date with
    | none => some none
    | some date => do
      match ← checkedSplitOffset rest with
      | none => pure none
      | some (time, offset) =>
        match epochTime time with
        | none => pure none
        | some time => do
          let epoch ← checkedI64 (daysFromCivil date * 86400 + time - offset)
          pure (some epoch)

section Agreement

variable {s rest : Text}

theorem checkedOffset_eq_some {west : Bool} {hours minutes offset : ℤ} :
    checkedOffset west hours minutes = some offset ↔
      FitsI64 (hours * 3600) ∧ FitsI64 (minutes * 60) ∧ FitsI64 (hours * 3600 + minutes * 60) ∧
        FitsI64 ((if west then -1 else 1) * (hours * 3600 + minutes * 60)) ∧
          offset = (if west then -1 else 1) * (hours * 3600 + minutes * 60) := by
  unfold checkedOffset
  simp only [Option.bind_eq_bind, Option.bind_eq_some_iff, checkedI64_eq_some]
  constructor
  · rintro ⟨_, ⟨h₁, rfl⟩, _, ⟨h₂, rfl⟩, _, ⟨h₃, rfl⟩, h₄, rfl⟩
    exact ⟨h₁, h₂, h₃, h₄, rfl⟩
  · rintro ⟨h₁, h₂, h₃, h₄, rfl⟩
    exact ⟨_, ⟨h₁, rfl⟩, _, ⟨h₂, rfl⟩, _, ⟨h₃, rfl⟩, h₄, rfl⟩

theorem splitOffset_signed {pos : ℕ} (hutc : ¬ (rest.getLast? = some 'Z' ∨ rest.getLast? = some 'z'))
    (hpos : rposition (fun c => c == '+' || c == '-') rest = some pos) :
    splitOffset rest = (offsetNumbers (rest.drop (pos + 1))).bind (fun numbers =>
      some (rest.take pos, (if rest[pos]? = some '-' then -1 else 1) *
        (numbers.1 * 3600 + numbers.2 * 60))) := by
  unfold splitOffset offsetNumbers
  rw [if_neg hutc, hpos]
  dsimp only
  cases splitOnce ':' (rest.drop (pos + 1)) with
  | none =>
    by_cases hfour : byteLength (rest.drop (pos + 1)) = 4
    · simp only [if_pos hfour, Option.bind_eq_bind, Option.bind_assoc]
      rfl
    · simp only [if_neg hfour, Option.bind_eq_bind, Option.bind_assoc]
      rfl
  | some parts =>
    simp only [Option.bind_eq_bind, Option.bind_assoc]
    rfl

/-- Where nothing overflows, the offset is the one that the integers give. -/
theorem splitOffset_of_checked {r : Option (Text × ℤ)} (h : checkedSplitOffset rest = some r) :
    splitOffset rest = r := by
  unfold checkedSplitOffset cutZone at h
  by_cases hutc : rest.getLast? = some 'Z' ∨ rest.getLast? = some 'z'
  · rw [if_pos hutc] at h
    rw [← Option.some.inj h]
    exact if_pos hutc
  · rw [if_neg hutc] at h
    cases hpos : rposition (fun c => c == '+' || c == '-') rest with
    | none =>
      rw [hpos] at h
      rw [← Option.some.inj h]
      unfold splitOffset
      rw [if_neg hutc, hpos]
    | some pos =>
      rw [hpos] at h
      rw [splitOffset_signed hutc hpos]
      dsimp only at h
      cases hnumbers : offsetNumbers (rest.drop (pos + 1)) with
      | none =>
        rw [hnumbers] at h
        exact Option.some.inj h
      | some numbers =>
        rw [hnumbers] at h
        obtain ⟨offset, hoffset, hr⟩ := Option.bind_eq_some_iff.mp h
        obtain ⟨-, -, -, -, rfl⟩ := checkedOffset_eq_some.mp hoffset
        rw [← Option.some.inj hr]
        simp

/-- Where nothing overflows, the instant is the one that the integers give. -/
theorem epochFromRfc3339_of_checked {r : Option ℤ} (h : checkedEpochFromRfc3339 s = some r) :
    epochFromRfc3339 s = r := by
  unfold checkedEpochFromRfc3339 cut at h
  unfold epochFromRfc3339
  cases hcut : (splitOnce 'T' s).or (splitOnce ' ' s) with
  | none =>
    rw [hcut] at h
    exact Option.some.inj h
  | some parts =>
    rw [hcut] at h
    dsimp only at h
    rw [Option.bind_eq_bind, Option.bind_some]
    dsimp only
    cases hdate : epochDate parts.1 with
    | none =>
      rw [hdate] at h
      exact Option.some.inj h
    | some date =>
      rw [hdate] at h
      obtain ⟨zoned, hzoned, h⟩ := Option.bind_eq_some_iff.mp h
      rw [Option.bind_eq_bind, Option.bind_some, splitOffset_of_checked hzoned]
      cases zoned with
      | none => exact Option.some.inj h
      | some zoned =>
        dsimp only at h
        rw [Option.bind_eq_bind, Option.bind_some]
        cases htime : epochTime zoned.1 with
        | none =>
          rw [htime] at h
          exact Option.some.inj h
        | some time =>
          rw [htime] at h
          obtain ⟨epoch, hepoch, h⟩ := Option.bind_eq_some_iff.mp h
          obtain ⟨-, rfl⟩ := checkedI64_eq_some.mp hepoch
          rw [← Option.some.inj h]
          rfl

end Agreement

end Sessiometer.Log
