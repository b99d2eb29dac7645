import Mathlib.Data.List.Induction
import Mathlib.Data.List.Nodup
import Mathlib.Data.Nat.Basic
import Mathlib.Order.Basic

/-! # Rounds

A list that is walked one item at a time, and built anew once it is walked through. Between two
consultations it may be emptied, so that the next one builds it. -/

namespace Pacing

universe u v

variable {α : Type u} {κ : Type v}

structure Round (α : Type u) where
  items : List α
  pos : ℕ

namespace Round

def Spent (r : Round α) : Prop := r.items.length ≤ r.pos

instance (r : Round α) : Decidable r.Spent := inferInstanceAs (Decidable (_ ≤ _))

/-- The round that is consulted: this one, or a new one. -/
def refill (r : Round α) (build : List α) : Round α := if r.Spent then ⟨build, 0⟩ else r

def next (r : Round α) (build : List α) : Option α × Round α :=
  ((r.refill build).items[(r.refill build).pos]?,
    ⟨(r.refill build).items, (r.refill build).pos + 1⟩)

def emptied : Round α := ⟨[], 0⟩

theorem spent_emptied : (emptied : Round α).Spent := le_refl 0

theorem refill_of_spent {r : Round α} (h : r.Spent) (build : List α) : r.refill build = ⟨build, 0⟩ :=
  if_pos h

theorem refill_of_not_spent {r : Round α} (h : ¬ r.Spent) (build : List α) : r.refill build = r :=
  if_neg h

end Round

/-- One consultation: the round it finds, what it would build, and under which circumstances. -/
structure Consultation (α : Type u) (κ : Type v) where
  round : Round α
  build : List α
  context : κ

namespace Consultation

variable (x : Consultation α κ)

def pick : Option α := (x.round.next x.build).1

def Rebuilds : Prop := x.round.Spent

instance : Decidable x.Rebuilds := inferInstanceAs (Decidable x.round.Spent)

theorem pick_of_rebuilds (h : x.Rebuilds) : x.pick = x.build[0]? := by
  unfold pick Round.next
  rw [Round.refill_of_spent h]

end Consultation

/-- The circumstances and the round stay, or the round is emptied. -/
def Passes (c : κ) (r : Round α) (c' : κ) (r' : Round α) : Prop :=
  c' = c ∧ r' = r ∨ r' = .emptied

theorem Passes.refl (c : κ) (r : Round α) : Passes c r c r := .inl ⟨rfl, rfl⟩

theorem Passes.trans {c c' c'' : κ} {r r' r'' : Round α} (h : Passes c r c' r')
    (h' : Passes c' r' c'' r'') : Passes c r c'' r'' := by
  rcases h' with ⟨rfl, rfl⟩ | h'
  · exact h
  · exact .inr h'

/-- The consultations of a walk in order, and where it is after them. -/
inductive Walked : List (Consultation α κ) → κ → Round α → Prop
  | start {c : κ} {r : Round α} : r.Spent → Walked [] c r
  | passes {xs : List (Consultation α κ)} {c c' : κ} {r r' : Round α} : Walked xs c r →
      Passes c r c' r' → Walked xs c' r'
  | consult {xs : List (Consultation α κ)} {c : κ} {r : Round α} (build : List α) : Walked xs c r →
      Walked (xs ++ [⟨r, build, c⟩]) c (r.next build).2

section Walk

variable {xs : List (Consultation α κ)} {c : κ} {r : Round α} {x y : Consultation α κ}

theorem Walked.before (h : Walked (xs ++ [y]) c r) : Walked xs y.context y.round := by
  generalize hzs : xs ++ [y] = zs at h
  induction h with
  | start => simp at hzs
  | passes _ _ ih => exact ih hzs
  | consult build hxs _ =>
    obtain ⟨rfl, hlast⟩ := List.append_inj' hzs rfl
    cases hlast
    exact hxs

theorem Walked.front {ys : List (Consultation α κ)} (h : Walked (xs ++ y :: ys) c r) :
    Walked xs y.context y.round := by
  induction ys using List.reverseRecOn generalizing c r with
  | nil => exact h.before
  | append_singleton ys z ih =>
    rw [← List.cons_append, ← List.append_assoc] at h
    exact ih h.before

/-- What a walk has picked of the list that it built last, and where that leaves it, unless it has been
emptied since. -/
structure Underway (x : Consultation α κ) (mid : List (Consultation α κ)) (c : κ) (r : Round α) :
    Prop where
  picked : (x :: mid).map Consultation.pick =
    (List.range (mid.length + 1)).map (fun k => x.build[k]?)
  context : ∀ z ∈ mid, z.context = x.context
  short : mid ≠ [] → mid.length < x.build.length
  left : r = .emptied ∨ c = x.context ∧ r = ⟨x.build, mid.length + 1⟩

/-- Since it was last built, a round has been walked in its order. -/
theorem Walked.underway {before mid : List (Consultation α κ)}
    (h : Walked (before ++ x :: mid) c r) (hx : x.Rebuilds) (hmid : ∀ z ∈ mid, ¬ z.Rebuilds) :
    Underway x mid c r := by
  generalize hzs : before ++ x :: mid = zs at h
  induction h generalizing mid with
  | start => simp at hzs
  | passes _ hpasses ih =>
    obtain ⟨hpicked, hcontext, hshort, hleft⟩ := ih hmid hzs
    refine ⟨hpicked, hcontext, hshort, ?_⟩
    rcases hpasses with ⟨rfl, rfl⟩ | hemptied
    · exact hleft
    · exact .inl hemptied
  | @consult ys c r build hys ih =>
    rcases List.eq_nil_or_concat mid with rfl | ⟨mid, z, rfl⟩
    · obtain ⟨rfl, hlast⟩ := List.append_inj' hzs rfl
      cases hlast
      have hnext : (r.next build).2 = ⟨build, 1⟩ := by
        unfold Round.next
        rw [Round.refill_of_spent hx]
      refine ⟨?_, ?_, fun h => absurd rfl h, .inr ⟨rfl, hnext⟩⟩
      · rw [List.map_singleton, Consultation.pick_of_rebuilds _ hx]
        rfl
      · intro z hz
        cases hz
    · rw [List.concat_eq_append, ← List.cons_append, ← List.append_assoc] at hzs
      obtain ⟨rfl, hlast⟩ := List.append_inj' hzs rfl
      cases hlast
      rw [List.concat_eq_append] at hmid ⊢
      obtain ⟨hpicked, hcontext, hshort, hleft⟩ :=
        ih (fun z hz => hmid z (List.mem_append_left _ hz)) rfl
      have hunspent : ¬ r.Spent := hmid ⟨r, build, c⟩ (by simp)
      -- an emptied round would have been rebuilt
      rcases hleft with rfl | ⟨rfl, rfl⟩
      · exact absurd Round.spent_emptied hunspent
      · have hlt : mid.length + 1 < x.build.length := not_le.mp hunspent
        have hpick : Consultation.pick ⟨⟨x.build, mid.length + 1⟩, build, x.context⟩ =
            x.build[mid.length + 1]? := by
          unfold Consultation.pick Round.next
          rw [Round.refill_of_not_spent hunspent]
        have hnext : ((⟨x.build, mid.length + 1⟩ : Round α).next build).2 =
            ⟨x.build, mid.length + 1 + 1⟩ := by
          unfold Round.next
          rw [Round.refill_of_not_spent hunspent]
        have hlength : (mid ++ [(⟨⟨x.build, mid.length + 1⟩, build, x.context⟩ :
            Consultation α κ)]).length = mid.length + 1 := by
          rw [List.length_append, List.length_singleton]
        refine ⟨?_, ?_, ?_, .inr ⟨rfl, ?_⟩⟩
        · rw [hlength, List.range_succ, List.map_append, ← hpicked, List.map_singleton, ← hpick,
            ← List.cons_append, List.map_append, List.map_singleton]
        · intro z hz
          rcases List.mem_append.mp hz with hz | hz
          · exact hcontext z hz
          · rw [List.mem_singleton.mp hz]
        · intro _
          rw [hlength]
          exact hlt
        · rw [hnext, hlength]

/-- A round that was built anew before it was emptied has been walked through, and in its order. -/
theorem Underway.whole {mid : List (Consultation α κ)} (h : Underway x mid c r)
    (hbuild : x.build ≠ []) (hspent : r.Spent) (hkept : r ≠ .emptied) :
    (x :: mid).map Consultation.pick = x.build.map some := by
  have hpos : 0 < x.build.length := List.length_pos_iff.mpr hbuild
  have hlength : mid.length + 1 = x.build.length := by
    rcases h.left with hemptied | ⟨-, rfl⟩
    · exact absurd hemptied hkept
    · have hle : x.build.length ≤ mid.length + 1 := hspent
      by_cases hmid : mid = []
      · rw [hmid] at hle ⊢
        exact le_antisymm hpos hle
      · have hlt := h.short hmid
        omega
  rw [h.picked, hlength]
  apply List.ext_getElem?
  intro k
  rw [List.getElem?_map, List.getElem?_map]
  by_cases hk : k < x.build.length
  · rw [List.getElem?_range hk, Option.map_some, List.getElem?_eq_getElem hk, Option.map_some]
  · rw [List.getElem?_eq_none (by rw [List.length_range]; omega),
      List.getElem?_eq_none (by omega)]
    rfl

end Walk

/-! ## Interleaving -/

section Interleave

/-- An item before each of the others. -/
def interleave (a : α) (peers : List α) : List α := peers.flatMap (fun i => [a, i])

variable {a i : α} {peers : List α}

theorem interleave_cons (a b : α) (peers : List α) :
    interleave a (b :: peers) = a :: b :: interleave a peers := rfl

theorem count_interleave [DecidableEq α] (hd : peers.Nodup) (hi : i ∈ peers) (ha : i ≠ a) :
    (interleave a peers).count i = 1 := by
  have hcount : ∀ peers : List α, (interleave a peers).count i = peers.count i := by
    intro peers
    induction peers with
    | nil => rfl
    | cons b peers ih =>
      rw [interleave_cons, List.count_cons_of_ne (Ne.symm ha), List.count_cons, List.count_cons, ih]
  rw [hcount]
  exact List.count_eq_one_of_mem hd hi

theorem preceded_interleave {k : ℕ} (h : (interleave a peers)[k]? = some i) (ha : i ≠ a) :
    ∃ j, k = j + 1 ∧ (interleave a peers)[j]? = some a := by
  induction peers generalizing k with
  | nil => cases h
  | cons b peers ih =>
    rw [interleave_cons] at h ⊢
    rcases k with _ | _ | k
    · cases h
      exact absurd rfl ha
    · exact ⟨0, rfl, rfl⟩
    · rw [List.getElem?_cons_succ, List.getElem?_cons_succ] at h
      obtain ⟨j, rfl, hj⟩ := ih h
      refine ⟨j + 2, rfl, ?_⟩
      rw [List.getElem?_cons_succ, List.getElem?_cons_succ]
      exact hj

end Interleave

end Pacing
