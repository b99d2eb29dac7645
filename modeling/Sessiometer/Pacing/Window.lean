import Mathlib.Algebra.Order.Monoid.Defs
import Mathlib.Data.List.Basic

/-! # Sliding windows

A log of instants is paced when no window of a given length holds more than so many of them. A
limiter that counts a record of instants paces the log, as long as the record covers it. -/

namespace Pacing

variable {T : Type*} [AddCommMonoid T] [LinearOrder T]

/-- The instants of the window of length `W` from `start` on. -/
def within (W start : T) (log : List T) : List T :=
  log.filter (fun s => decide (start ≤ s ∧ s < start + W))

/-- The instants that have not yet left the window of length `W` behind `now`. -/
def recent (W now : T) (log : List T) : List T :=
  log.filter (fun s => decide (now < s + W))

/-- No window of length `W` holds more than `k` instants of the log. -/
def Paced (W : T) (k : ℕ) (log : List T) : Prop :=
  ∀ start, (within W start log).length ≤ k

/-- From `since` on, the record counts at least as many recent instants as the log. -/
def Covers (W since : T) (record log : List T) : Prop :=
  ∀ now, since ≤ now → (recent W now log).length ≤ (recent W now record).length

variable {W since now : T} {k : ℕ} {log record : List T}

@[simp] theorem within_nil (start : T) : within W start [] = [] := rfl

@[simp] theorem recent_nil : recent W now [] = [] := rfl

@[simp] theorem recent_append {log' : List T} :
    recent W now (log ++ log') = recent W now log ++ recent W now log' :=
  List.filter_append log log'

theorem length_recent_le : (recent W now log).length ≤ log.length :=
  List.length_filter_le _ _

theorem paced_nil : Paced W k [] := by
  intro start
  rw [within_nil, List.length_nil]
  exact Nat.zero_le k

theorem covers_nil : Covers W since record [] := by
  intro now _
  rw [recent_nil, List.length_nil]
  exact Nat.zero_le _

theorem Covers.later (h : Covers W since record log) (hle : since ≤ now) :
    Covers W now record log :=
  fun _ h' => h _ (hle.trans h')

/-- One more instant in both is covered. -/
theorem Covers.snoc (h : Covers W since record log) (s : T) :
    Covers W since (record ++ [s]) (log ++ [s]) := by
  intro now hnow
  rw [recent_append, recent_append, List.length_append, List.length_append]
  exact Nat.add_le_add_right (h now hnow) _

/-- One more instant in the record alone costs nothing. -/
theorem Covers.record_snoc (h : Covers W since record log) (s : T) :
    Covers W since (record ++ [s]) log := by
  intro now hnow
  rw [recent_append, List.length_append]
  exact (h now hnow).trans (Nat.le_add_right _ _)

/-- What has left the window by `now` has left it later. -/
theorem recent_recent (h : since ≤ now) : recent W now (recent W since log) = recent W now log := by
  unfold recent
  rw [List.filter_filter]
  apply List.filter_congr
  intro s _
  rw [Bool.and_eq_left_iff_imp]
  intro hs
  rw [decide_eq_true_iff] at hs ⊢
  exact lt_of_le_of_lt h hs

/-- A record may forget what has left the window. -/
theorem Covers.prune (h : Covers W since record log) : Covers W since (recent W since record) log := by
  intro now hnow
  rw [recent_recent hnow]
  exact h now hnow

section Ordered

variable [IsOrderedCancelAddMonoid T]

/-- An instant joins a paced log while fewer than `k` are recent. -/
theorem Paced.snoc (h : Paced W k log) (hk : (recent W now log).length < k) :
    Paced W k (log ++ [now]) := by
  intro start
  have hsplit : within W start (log ++ [now]) = within W start log ++ within W start [now] :=
    List.filter_append log [now]
  rw [hsplit, List.length_append]
  by_cases hin : start ≤ now ∧ now < start + W
  · -- what the window holds is recent at `now`
    have hsub : (within W start log).Sublist (recent W now log) := by
      apply List.monotone_filter_right
      intro s hs
      rw [decide_eq_true_iff] at hs ⊢
      exact lt_of_lt_of_le hin.2 (add_le_add_left hs.1 W)
    have hone : (within W start [now]).length ≤ 1 := List.length_filter_le _ [now]
    have hlt : (within W start log).length < k := lt_of_le_of_lt hsub.length_le hk
    omega
  · have hnone : within W start [now] = [] := by
      unfold within
      rw [List.filter_cons_of_neg (by rw [decide_eq_true_iff]; exact hin), List.filter_nil]
    rw [hnone, List.length_nil, Nat.add_zero]
    exact h start

/-- The limiter's step: with fewer than `k` recent instants on the record, the log stays paced. -/
theorem Paced.extend (h : Paced W k log) (hc : Covers W since record log) (hnow : since ≤ now)
    (hk : (recent W now record).length < k) : Paced W k (log ++ [now]) :=
  h.snoc (lt_of_le_of_lt (hc now hnow) hk)

end Ordered

end Pacing
