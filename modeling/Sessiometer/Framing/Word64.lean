import Mathlib.Data.Nat.Notation
import Mathlib.Order.Basic

/-! # Signed words of 64 bits -/

namespace Framing

/-- The integers that a signed word of 64 bits holds. -/
def FitsI64 (x : Int) : Prop := -9223372036854775808 ≤ x ∧ x ≤ 9223372036854775807

instance (x : Int) : Decidable (FitsI64 x) := inferInstanceAs (Decidable (_ ∧ _))

/-- The result where overflow is trapped. -/
def checkedI64 (x : Int) : Option Int := if FitsI64 x then some x else none

/-- The result where overflow wraps. -/
def wrapI64 (x : Int) : Int :=
  (x + 9223372036854775808) % 18446744073709551616 - 9223372036854775808

/-- The result where overflow saturates. -/
def saturatedI64 (x : Int) : Int := max (-9223372036854775808) (min x 9223372036854775807)

variable {x y : Int}

theorem checkedI64_eq_some : checkedI64 x = some y ↔ FitsI64 x ∧ y = x := by
  unfold checkedI64
  by_cases h : FitsI64 x
  · simp [h, eq_comm]
  · simp [h]

theorem checkedI64_eq_none : checkedI64 x = none ↔ ¬FitsI64 x := by
  simp [checkedI64]

theorem checkedI64_of_fits (h : FitsI64 x) : checkedI64 x = some x := checkedI64_eq_some.mpr ⟨h, rfl⟩

theorem saturatedI64_fits (x : Int) : FitsI64 (saturatedI64 x) := by
  unfold FitsI64 saturatedI64
  omega

theorem saturatedI64_of_fits (h : FitsI64 x) : saturatedI64 x = x := by
  unfold FitsI64 at h
  unfold saturatedI64
  omega

theorem wrapI64_fits (x : Int) : FitsI64 (wrapI64 x) := by
  unfold FitsI64 wrapI64
  omega

theorem wrapI64_eq_self : wrapI64 x = x ↔ FitsI64 x := by
  unfold FitsI64 wrapI64
  omega

end Framing
