import Mathlib.Algebra.BigOperators.Group.List.Basic
import Mathlib.Algebra.GroupWithZero.Nat
import Mathlib.Data.List.Dedup
import Mathlib.Data.List.Induction
import Mathlib.Tactic.Linarith

/-! # Brackets of many keys

Opening and closing edges in one list, each under a key, no key open twice. A closing edge is paired
with the opening one before it, if that is the last edge of its key. One walk with the open edges of
all keys at hand finds in the list what each key's own edges tell. -/

namespace Pairing

universe u v w

inductive Edge (E : Type u) (X : Type v) where
  | enter (e : E)
  | exit (x : X)

/-! ## One key -/

/-- What becomes of the edges of one key. -/
structure Matching (E : Type u) (X : Type v) where
  paired : List (E × X) := []
  lost : List E := []
  stray : List X := []
  pending : Option E := none

section Match

variable {E : Type u} {X : Type v}

/-- An opening edge belongs to the closing one that follows it; another opening edge after it shows
that its end is lost. -/
def bracket : List (Edge E X) → Matching E X
  | [] => {}
  | .enter e :: .exit x :: rest =>
    { bracket rest with paired := (e, x) :: (bracket rest).paired }
  | .enter e :: .enter e' :: rest =>
    { bracket (.enter e' :: rest) with lost := e :: (bracket (.enter e' :: rest)).lost }
  | [.enter e] => { pending := some e }
  | .exit x :: rest => { bracket rest with stray := x :: (bracket rest).stray }

def enters (edges : List (Edge E X)) : List E :=
  edges.filterMap fun
    | .enter e => some e
    | .exit _ => none

def exits (edges : List (Edge E X)) : List X :=
  edges.filterMap fun
    | .enter _ => none
    | .exit x => some x

variable {edges : List (Edge E X)} {e : E} {x : X}

theorem bracket_enter : bracket (edges ++ [.enter e]) =
    { bracket edges with
      lost := (bracket edges).lost ++ (bracket edges).pending.toList
      pending := some e } := by
  induction edges using bracket.induct with
  | case1 => rfl
  | case2 e' x rest ih => simp [bracket, ih]
  | case3 e' e'' rest ih =>
    simp only [List.cons_append] at ih ⊢
    simp [bracket, ih]
  | case4 e' => rfl
  | case5 x rest ih => simp [bracket, ih]

theorem bracket_exit_some (h : (bracket edges).pending = some e) : bracket (edges ++ [.exit x]) =
    { bracket edges with paired := (bracket edges).paired ++ [(e, x)], pending := none } := by
  induction edges using bracket.induct with
  | case1 => cases h
  | case2 e' x' rest ih => simp [bracket, ih h]
  | case3 e' e'' rest ih =>
    have hrest := ih h
    simp only [List.cons_append] at hrest ⊢
    simp [bracket, hrest]
  | case4 e' =>
    obtain rfl : e' = e := Option.some.inj h
    rfl
  | case5 x' rest ih => simp [bracket, ih h]

theorem bracket_exit_none (h : (bracket edges).pending = none) : bracket (edges ++ [.exit x]) =
    { bracket edges with stray := (bracket edges).stray ++ [x] } := by
  induction edges using bracket.induct with
  | case1 => rfl
  | case2 e' x' rest ih => simp [bracket, ih h]
  | case3 e' e'' rest ih =>
    have hrest := ih h
    simp only [List.cons_append] at hrest ⊢
    simp [bracket, hrest]
  | case4 e' => cases h
  | case5 x' rest ih => simp [bracket, ih h]

/-- Every opening edge is paired, lost or still open. -/
theorem enters_perm (edges : List (Edge E X)) : (enters edges).Perm
    ((bracket edges).paired.map Prod.fst ++ (bracket edges).lost ++ (bracket edges).pending.toList) := by
  induction edges using bracket.induct with
  | case1 => exact .nil
  | case2 e x rest ih => exact ih.cons e
  | case3 e e' rest ih =>
    refine (ih.cons e).trans ?_
    simp only [bracket, List.append_assoc, List.cons_append]
    exact List.perm_middle.symm
  | case4 e => exact .refl _
  | case5 x rest ih => exact ih

/-- Every closing edge is paired or stray. -/
theorem exits_perm (edges : List (Edge E X)) : (exits edges).Perm
    ((bracket edges).paired.map Prod.snd ++ (bracket edges).stray) := by
  induction edges using bracket.induct with
  | case1 => exact .nil
  | case2 e x rest ih => exact ih.cons x
  | case3 e e' rest ih => exact ih
  | case4 e => exact .nil
  | case5 x rest ih => exact (ih.cons x).trans List.perm_middle.symm

end Match

/-! ## The walk over the edges of all keys -/

section Walk

variable {E : Type u} {X : Type v} {κ : Type w} [DecidableEq κ] (ke : E → κ) (kx : X → κ)

def Edge.key : Edge E X → κ
  | .enter e => ke e
  | .exit x => kx x

/-- The open edges, one at most under a key, and what has been counted. -/
structure Walk (E : Type u) where
  pending : List E := []
  lost : ℕ := 0
  stray : ℕ := 0

/-- The edge under the key, if one is open. -/
def under (k : κ) (pending : List E) : List E := pending.filter fun e => ke e = k

def apart (k : κ) (pending : List E) : List E := pending.filter fun e => ke e ≠ k

def Walk.step (w : Walk E) : Edge E X → Walk E
  | .enter e =>
    { w with
      pending := e :: apart ke (ke e) w.pending
      lost := if under ke (ke e) w.pending = [] then w.lost else w.lost + 1 }
  | .exit x =>
    { w with
      pending := apart ke (kx x) w.pending
      stray := if under ke (kx x) w.pending = [] then w.stray + 1 else w.stray }

def walk (edges : List (Edge E X)) : Walk E := edges.foldl (Walk.step ke kx) {}

/-- The edges of one key, as they stand. -/
def own (k : κ) (edges : List (Edge E X)) : List (Edge E X) :=
  edges.filter fun edge => edge.key ke kx = k

variable {ke kx} {edges : List (Edge E X)} {edge : Edge E X} {k : κ} {ks : List κ} {f g : κ → ℕ} {d : ℕ}
  {pending : List E}

theorem under_apart {j : κ} (h : k ≠ j) : under ke k (apart ke j pending) = under ke k pending := by
  unfold under apart
  rw [List.filter_filter]
  apply List.filter_congr
  intro e _
  by_cases hk : ke e = k
  · simp [hk, h]
  · simp [hk]

theorem under_apart_self : under ke k (apart ke k pending) = [] := by
  unfold under apart
  simp

theorem own_append_self (h : edge.key ke kx = k) :
    own ke kx k (edges ++ [edge]) = own ke kx k edges ++ [edge] := by
  unfold own
  simp [h]

theorem own_append_other (h : k ≠ edge.key ke kx) :
    own ke kx k (edges ++ [edge]) = own ke kx k edges := by
  unfold own
  simp [Ne.symm h]

/-- A sum in which one term has grown. -/
theorem sum_grown (hnodup : ks.Nodup) (hk : k ∈ ks) (hother : ∀ j, j ≠ k → f j = g j)
    (hgrown : f k = g k + d) : (ks.map f).sum = (ks.map g).sum + d := by
  induction ks with
  | nil => cases hk
  | cons j ks ih =>
    obtain ⟨hfresh, hnodup⟩ := List.nodup_cons.mp hnodup
    rw [List.map_cons, List.map_cons, List.sum_cons, List.sum_cons]
    by_cases hj : j = k
    · subst hj
      have hrest : ks.map f = ks.map g :=
        List.map_congr_left fun i hi => hother i fun h => hfresh (h ▸ hi)
      rw [hrest, hgrown]
      omega
    · rw [hother j hj, ih hnodup ((List.mem_cons.mp hk).resolve_left (Ne.symm hj))]
      omega

omit [DecidableEq κ] in
theorem sum_same (ks : List κ) (hother : ∀ j, f j = g j) : (ks.map f).sum = (ks.map g).sum :=
  congrArg List.sum (List.map_congr_left fun j _ => hother j)

/-- The walk has at each key what the edges of that key come to. -/
structure Tells (ke : E → κ) (kx : X → κ) (ks : List κ) (edges : List (Edge E X)) (w : Walk E) : Prop where
  pending : ∀ k, under ke k w.pending = (bracket (own ke kx k edges)).pending.toList
  lost : w.lost = (ks.map fun k => (bracket (own ke kx k edges)).lost.length).sum
  stray : w.stray = (ks.map fun k => (bracket (own ke kx k edges)).stray.length).sum

variable {w : Walk E} {e : E} {x : X}

theorem Tells.enter (h : Tells ke kx ks edges w) (hnodup : ks.Nodup) (hk : ke e ∈ ks) :
    Tells ke kx ks (edges ++ [.enter e]) (w.step ke kx (.enter e)) := by
  have hown : own ke kx (ke e) (edges ++ [.enter e]) = own ke kx (ke e) edges ++ [.enter e] :=
    own_append_self rfl
  have hother : ∀ k, k ≠ ke e → own ke kx k (edges ++ [.enter e]) = own ke kx k edges :=
    fun k hne => own_append_other hne
  constructor
  · intro k
    by_cases hne : k = ke e
    · subst hne
      rw [hown, bracket_enter]
      simp only [Walk.step, under, List.filter_cons_of_pos, decide_true, Option.toList_some]
      exact congrArg (List.cons e) under_apart_self
    · rw [hother k hne, ← h.pending]
      simp only [Walk.step, under]
      rw [List.filter_cons_of_neg (by simpa using Ne.symm hne)]
      exact under_apart hne
  · have hgrown := sum_grown (f := fun k => (bracket (own ke kx k (edges ++ [.enter e]))).lost.length)
      (g := fun k => (bracket (own ke kx k edges)).lost.length)
      (d := (under ke (ke e) w.pending).length) hnodup hk (fun j hj => by simp only [hother j hj]) (by
        simp only [hown, bracket_enter, List.length_append, h.pending])
    rw [hgrown, ← h.lost]
    have hone : (under ke (ke e) w.pending).length ≤ 1 := by
      rw [h.pending]
      cases (bracket (own ke kx (ke e) edges)).pending <;> simp
    simp only [Walk.step]
    by_cases hnil : under ke (ke e) w.pending = []
    · rw [if_pos hnil, hnil]
      rfl
    · rw [if_neg hnil]
      have := List.length_pos_of_ne_nil hnil
      omega
  · have hsame := sum_same ks
      (f := fun k => (bracket (own ke kx k (edges ++ [.enter e]))).stray.length)
      (g := fun k => (bracket (own ke kx k edges)).stray.length) (by
        intro j
        by_cases hj : j = ke e
        · subst hj
          simp only [hown, bracket_enter]
        · simp only [hother j hj])
    rw [hsame, ← h.stray]
    rfl

theorem Tells.exit (h : Tells ke kx ks edges w) (hnodup : ks.Nodup) (hk : kx x ∈ ks) :
    Tells ke kx ks (edges ++ [.exit x]) (w.step ke kx (.exit x)) := by
  have hown : own ke kx (kx x) (edges ++ [.exit x]) = own ke kx (kx x) edges ++ [.exit x] :=
    own_append_self rfl
  have hother : ∀ k, k ≠ kx x → own ke kx k (edges ++ [.exit x]) = own ke kx k edges :=
    fun k hne => own_append_other hne
  have hlost : ∀ k, (bracket (own ke kx k (edges ++ [.exit x]))).lost =
      (bracket (own ke kx k edges)).lost := by
    intro k
    by_cases hne : k = kx x
    · subst hne
      rw [hown]
      cases hpending : (bracket (own ke kx (kx x) edges)).pending with
      | none => rw [bracket_exit_none hpending]
      | some e => rw [bracket_exit_some hpending]
    · rw [hother k hne]
  constructor
  · intro k
    by_cases hne : k = kx x
    · subst hne
      have hclosed : (bracket (own ke kx (kx x) edges ++ [.exit x])).pending = none := by
        cases hpending : (bracket (own ke kx (kx x) edges)).pending with
        | none => rw [bracket_exit_none hpending, hpending]
        | some e => rw [bracket_exit_some hpending]
      rw [hown, hclosed]
      exact under_apart_self
    · rw [hother k hne, ← h.pending]
      exact under_apart hne
  · rw [sum_same ks (g := fun k => (bracket (own ke kx k edges)).lost.length) fun k =>
      congrArg List.length (hlost k), ← h.lost]
    rfl
  · simp only [Walk.step]
    rw [h.pending]
    cases hpending : (bracket (own ke kx (kx x) edges)).pending with
    | none =>
      rw [sum_grown (g := fun k => (bracket (own ke kx k edges)).stray.length) (d := 1) hnodup hk
        (fun j hj => by simp only [hother j hj]) (by
          simp only [hown, bracket_exit_none hpending, List.length_append, List.length_singleton]),
        ← h.stray]
      rfl
    | some e =>
      rw [sum_same ks (g := fun k => (bracket (own ke kx k edges)).stray.length) (by
        intro j
        by_cases hj : j = kx x
        · subst hj
          simp only [hown, bracket_exit_some hpending]
        · simp only [hother j hj]), ← h.stray]
      rfl

/-- The walk tells of every key what its own edges tell. -/
theorem walk_tells (hnodup : ks.Nodup) (hks : ∀ edge ∈ edges, edge.key ke kx ∈ ks) :
    Tells ke kx ks edges (walk ke kx edges) := by
  induction edges using List.reverseRecOn with
  | nil =>
    constructor
    · intro k
      rfl
    · simp [walk, own, bracket]
    · simp [walk, own, bracket]
  | append_singleton edges edge ih =>
    have hbefore := ih fun edge' hedge' => hks edge' (List.mem_append_left _ hedge')
    have hlast := hks edge (by simp)
    unfold walk at hbefore ⊢
    rw [List.foldl_append, List.foldl_cons, List.foldl_nil]
    cases edge with
    | enter e => exact hbefore.enter hnodup hlast
    | exit x => exact hbefore.exit hnodup hlast

/-- A list is what stands under each of its keys. -/
theorem perm_flatMap_under (hnodup : ks.Nodup) (hks : ∀ e ∈ pending, ke e ∈ ks) :
    pending.Perm (ks.flatMap fun k => under ke k pending) := by
  induction ks generalizing pending with
  | nil =>
    cases pending with
    | nil => exact .nil
    | cons e rest => exact absurd (hks e List.mem_cons_self) (List.not_mem_nil)
  | cons j ks ih =>
    obtain ⟨hfresh, hnodup⟩ := List.nodup_cons.mp hnodup
    have hsplit : pending.Perm (under ke j pending ++ apart ke j pending) := by
      have := (List.filter_append_perm (fun e => decide (ke e = j)) pending).symm
      simpa [under, apart] using this
    have hrest : (apart ke j pending).Perm (ks.flatMap fun k => under ke k (apart ke j pending)) := by
      apply ih hnodup
      intro e he
      obtain ⟨hmem, hne⟩ := List.mem_filter.mp he
      exact (List.mem_cons.mp (hks e hmem)).resolve_left (by simpa using hne)
    have hsame : (ks.flatMap fun k => under ke k (apart ke j pending)) =
        ks.flatMap fun k => under ke k pending :=
      List.flatMap_congr fun k hk => under_apart fun h => hfresh (h ▸ hk)
    rw [List.flatMap_cons, ← hsame]
    exact hsplit.trans (hrest.append_left _)

/-- What is open at the end is what is open of each key. -/
theorem Tells.pending_perm (h : Tells ke kx ks edges w) (hnodup : ks.Nodup)
    (hks : ∀ edge ∈ edges, edge.key ke kx ∈ ks) :
    w.pending.Perm (ks.flatMap fun k => (bracket (own ke kx k edges)).pending.toList) := by
  rw [← List.flatMap_congr fun k _ => h.pending k]
  apply perm_flatMap_under hnodup
  intro e he
  have hown : own ke kx (ke e) edges ≠ [] := by
    intro hnil
    have hmem : e ∈ under ke (ke e) w.pending := List.mem_filter.mpr ⟨he, by simp⟩
    rw [h.pending, hnil] at hmem
    cases hmem
  obtain ⟨edge, hedge⟩ := List.exists_mem_of_ne_nil _ hown
  obtain ⟨hmem, hkey⟩ := List.mem_filter.mp hedge
  rw [← of_decide_eq_true hkey]
  exact hks edge hmem

/-! ## The counts of all keys -/

theorem enters_own : enters (own ke kx k edges) = under ke k (enters edges) := by
  induction edges with
  | nil => rfl
  | cons edge rest ih =>
    unfold own enters under at ih ⊢
    cases edge with
    | enter e => by_cases h : ke e = k <;> simpa [Edge.key, h] using ih
    | exit x => by_cases h : kx x = k <;> simpa [Edge.key, h] using ih

theorem exits_own : exits (own ke kx k edges) = under kx k (exits edges) := by
  induction edges with
  | nil => rfl
  | cons edge rest ih =>
    unfold own exits under at ih ⊢
    cases edge with
    | enter e => by_cases h : ke e = k <;> simpa [Edge.key, h] using ih
    | exit x => by_cases h : kx x = k <;> simpa [Edge.key, h] using ih

theorem mem_enters : e ∈ enters edges ↔ Edge.enter e ∈ edges := by
  unfold enters
  rw [List.mem_filterMap]
  constructor
  · rintro ⟨edge, hmem, h⟩
    cases edge with
    | enter e' => exact Option.some.inj h ▸ hmem
    | exit x => cases h
  · exact fun h => ⟨_, h, rfl⟩

theorem mem_exits : x ∈ exits edges ↔ Edge.exit x ∈ edges := by
  unfold exits
  rw [List.mem_filterMap]
  constructor
  · rintro ⟨edge, hmem, h⟩
    cases edge with
    | enter e => cases h
    | exit x' => exact Option.some.inj h ▸ hmem
  · exact fun h => ⟨_, h, rfl⟩

/-- The opening edges of all keys are paired, lost or still open. -/
theorem length_enters (hnodup : ks.Nodup) (hks : ∀ edge ∈ edges, edge.key ke kx ∈ ks) :
    (enters edges).length = (ks.map fun k => (bracket (own ke kx k edges)).paired.length).sum +
      (ks.map fun k => (bracket (own ke kx k edges)).lost.length).sum +
        (ks.map fun k => (bracket (own ke kx k edges)).pending.toList.length).sum := by
  have hkeys : ∀ e ∈ enters edges, ke e ∈ ks := fun e he => hks _ (mem_enters.mp he)
  rw [(perm_flatMap_under hnodup hkeys).length_eq, List.length_flatMap, ← List.sum_map_add,
    ← List.sum_map_add]
  congr 1
  apply List.map_congr_left
  intro k _
  have := (enters_perm (own ke kx k edges)).length_eq
  rw [enters_own] at this
  simpa [Nat.add_assoc] using this

/-- The closing edges of all keys are paired or stray. -/
theorem length_exits (hnodup : ks.Nodup) (hks : ∀ edge ∈ edges, edge.key ke kx ∈ ks) :
    (exits edges).length = (ks.map fun k => (bracket (own ke kx k edges)).paired.length).sum +
      (ks.map fun k => (bracket (own ke kx k edges)).stray.length).sum := by
  have hkeys : ∀ x ∈ exits edges, kx x ∈ ks := fun x hx => hks _ (mem_exits.mp hx)
  rw [(perm_flatMap_under hnodup hkeys).length_eq, List.length_flatMap, ← List.sum_map_add]
  congr 1
  apply List.map_congr_left
  intro k _
  have := (exits_perm (own ke kx k edges)).length_eq
  rw [exits_own] at this
  simpa using this

end Walk

end Pairing
