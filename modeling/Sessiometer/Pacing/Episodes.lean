import Mathlib.Data.List.Flatten
import Sessiometer.Effects.Runs

/-! # Episodes

A log of opening and closing edges is bracketed when every closing edge closes an episode that is
open, and every opening edge opens one that is not. A latch that is set with each opening edge and
reset with each closing one brackets the log of any run. -/

namespace Pacing

open Effects

universe u v

inductive Edge where
  | opening
  | closing
deriving DecidableEq

/-- The edges take the latch from the first state to the second. -/
inductive Brackets : Bool → List Edge → Bool → Prop
  | nil (s : Bool) : Brackets s [] s
  | opening {es : List Edge} {s : Bool} : Brackets true es s → Brackets false (.opening :: es) s
  | closing {es : List Edge} {s : Bool} : Brackets false es s → Brackets true (.closing :: es) s

variable {s s' s'' : Bool} {es es' : List Edge}

theorem brackets_opening : Brackets false [.opening] true := .opening (.nil true)

theorem brackets_closing : Brackets true [.closing] false := .closing (.nil false)

theorem Brackets.append (h : Brackets s es s') (h' : Brackets s' es' s'') :
    Brackets s (es ++ es') s'' := by
  induction h with
  | nil => exact h'
  | opening _ ih => exact .opening (ih h')
  | closing _ ih => exact .closing (ih h')

theorem brackets_append_iff :
    Brackets s (es ++ es') s'' ↔ ∃ s', Brackets s es s' ∧ Brackets s' es' s'' := by
  constructor
  · intro h
    induction es generalizing s with
    | nil => exact ⟨s, .nil s, h⟩
    | cons e es ih =>
      cases h with
      | opening h =>
        obtain ⟨s', h₁, h₂⟩ := ih h
        exact ⟨s', .opening h₁, h₂⟩
      | closing h =>
        obtain ⟨s', h₁, h₂⟩ := ih h
        exact ⟨s', .closing h₁, h₂⟩
  · rintro ⟨s', h, h'⟩
    exact h.append h'

/-- The edges say where the latch ends. -/
theorem Brackets.unique (h : Brackets s es s') (h' : Brackets s es s'') : s' = s'' := by
  induction h with
  | nil =>
    cases h'
    rfl
  | opening _ ih =>
    cases h' with
    | opening h' => exact ih h'
  | closing _ ih =>
    cases h' with
    | closing h' => exact ih h'

/-- The edge that has left the latch in this state. -/
def pending (s : Bool) : List Edge := if s then [.opening] else []

theorem brackets_alternates (h : Brackets s es s') :
    ∃ n, pending s ++ es = (List.replicate n [Edge.opening, .closing]).flatten ++ pending s' := by
  induction h with
  | nil s => exact ⟨0, List.append_nil _⟩
  | opening _ ih => exact ih
  | closing _ ih =>
    obtain ⟨n, hn⟩ := ih
    refine ⟨n + 1, ?_⟩
    rw [List.replicate_succ, List.flatten_cons, List.append_assoc, ← hn]
    rfl

/-- From a closed latch the edges alternate, and the first of them opens. -/
theorem brackets_false_iff : Brackets false es s ↔
    ∃ n, es = (List.replicate n [Edge.opening, .closing]).flatten ++ pending s := by
  constructor
  · exact brackets_alternates
  · rintro ⟨n, rfl⟩
    induction n with
    | zero =>
      cases s with
      | false => exact .nil false
      | true => exact brackets_opening
    | succ n ih => exact .opening (.closing ih)

/-- As `Brackets`, but an open episode may be announced again. -/
inductive Announces : Bool → List Edge → Bool → Prop
  | nil (s : Bool) : Announces s [] s
  | opening {es : List Edge} {s s' : Bool} : Announces true es s' → Announces s (.opening :: es) s'
  | closing {es : List Edge} {s : Bool} : Announces false es s → Announces true (.closing :: es) s

theorem announces_opening : Announces s [.opening] true := .opening (.nil true)

theorem announces_closing : Announces true [.closing] false := .closing (.nil false)

theorem Announces.append (h : Announces s es s') (h' : Announces s' es' s'') :
    Announces s (es ++ es') s'' := by
  induction h with
  | nil => exact h'
  | opening _ ih => exact .opening (ih h')
  | closing _ ih => exact .closing (ih h')

/-- An episode is open when its last edge is an opening one. -/
theorem Announces.getLast? (h : Announces s es s') :
    (pending s ++ es).getLast? = some .opening ↔ s' = true := by
  induction h with
  | nil s => cases s <;> simp [pending]
  | @opening es s s' h ih =>
    have hlast : (pending s ++ Edge.opening :: es).getLast? = (Edge.opening :: es).getLast? := by
      rw [List.getLast?_append, List.getLast?_cons, Option.some_or]
    rw [hlast]
    exact ih
  | @closing es s h ih =>
    cases es with
    | nil =>
      cases h
      simp
    | cons e es =>
      simpa [pending] using ih

/-- What comes before a closing edge leaves an episode open. -/
theorem Announces.before_closing (h : Announces s es s') {before after : List Edge}
    (hes : es = before ++ .closing :: after) : Announces s before true := by
  induction h generalizing before with
  | nil => simp at hes
  | opening h ih =>
    cases before with
    | nil => simp at hes
    | cons e before =>
      obtain ⟨rfl, hrest⟩ := List.cons.inj hes
      exact .opening (ih hrest)
  | closing h ih =>
    cases before with
    | nil => exact .nil true
    | cons e before =>
      obtain ⟨rfl, hrest⟩ := List.cons.inj hes
      exact .closing (ih hrest)

/-! ## Episodes with one notice

An open episode is noticed at most once before it closes. -/

inductive Mark where
  | opening
  | notice
  | closing
deriving DecidableEq

inductive Phase where
  | idle
  | live
  | noticed
deriving DecidableEq

def Phase.isOpen : Phase → Bool
  | .idle => false
  | .live => true
  | .noticed => true

def Mark.edge : Mark → Option Edge
  | .opening => some .opening
  | .notice => none
  | .closing => some .closing

/-- The marks take the phase from the first to the second. -/
inductive Marks : Phase → List Mark → Phase → Prop
  | nil (p : Phase) : Marks p [] p
  | opening {ms : List Mark} {p : Phase} : Marks .live ms p → Marks .idle (.opening :: ms) p
  | notice {ms : List Mark} {p : Phase} : Marks .noticed ms p → Marks .live (.notice :: ms) p
  | closing {ms : List Mark} {p q : Phase} : p.isOpen = true → Marks .idle ms q →
      Marks p (.closing :: ms) q

section Marks

variable {p q r : Phase} {ms ms' before between after : List Mark}

theorem marks_opening : Marks .idle [.opening] .live := .opening (.nil _)

theorem marks_notice : Marks .live [.notice] .noticed := .notice (.nil _)

theorem marks_closing (h : p.isOpen = true) : Marks p [.closing] .idle := .closing h (.nil _)

theorem Marks.append (h : Marks p ms q) (h' : Marks q ms' r) : Marks p (ms ++ ms') r := by
  induction h with
  | nil => exact h'
  | opening _ ih => exact .opening (ih h')
  | notice _ ih => exact .notice (ih h')
  | closing hp _ ih => exact .closing hp (ih h')

theorem Marks.split (h : Marks p (ms ++ ms') r) : ∃ q, Marks p ms q ∧ Marks q ms' r := by
  induction ms generalizing p with
  | nil => exact ⟨p, .nil p, h⟩
  | cons m ms ih =>
    cases h with
    | opening h =>
      obtain ⟨q, h₁, h₂⟩ := ih h
      exact ⟨q, .opening h₁, h₂⟩
    | notice h =>
      obtain ⟨q, h₁, h₂⟩ := ih h
      exact ⟨q, .notice h₁, h₂⟩
    | closing hp h =>
      obtain ⟨q, h₁, h₂⟩ := ih h
      exact ⟨q, .closing hp h₁, h₂⟩

/-- Without the notices the marks are a bracketed log. -/
theorem Marks.brackets (h : Marks p ms q) : Brackets p.isOpen (ms.filterMap Mark.edge) q.isOpen := by
  induction h with
  | nil => exact .nil _
  | opening _ ih => exact .opening ih
  | notice _ ih => exact ih
  | closing hp _ ih =>
    rw [hp]
    exact .closing ih

/-- A notice falls into an open episode. -/
theorem Marks.notice_open (h : Marks p (before ++ .notice :: after) q) :
    Brackets p.isOpen (before.filterMap Mark.edge) true := by
  obtain ⟨r, hbefore, hafter⟩ := h.split
  cases hafter with
  | notice _ => exact hbefore.brackets

theorem Marks.opening_mem (h : Marks p (ms ++ .notice :: after) q) (hp : p ≠ .live) :
    Mark.opening ∈ ms := by
  obtain ⟨r, hms, hnotice⟩ := h.split
  cases hnotice with
  | notice _ =>
    cases hms with
    | nil => exact absurd rfl hp
    | opening _ => simp
    | notice _ => exact absurd rfl hp
    | closing _ hms =>
      clear h hp
      have hidle : ∀ {p : Phase} {ms : List Mark}, Marks p ms .live → p = .idle →
          Mark.opening ∈ ms := by
        intro p ms hms hp
        cases hms with
        | nil => cases hp
        | opening _ => simp
        | notice _ => cases hp
        | closing hopen _ =>
          rw [hp] at hopen
          cases hopen
      exact List.mem_cons_of_mem _ (hidle hms rfl)

/-- Between two notices another episode opens. -/
theorem Marks.notice_once (h : Marks p (before ++ .notice :: (between ++ .notice :: after)) q) :
    Mark.opening ∈ between := by
  obtain ⟨r, -, hnotice⟩ := h.split
  cases hnotice with
  | notice h => exact h.opening_mem (by decide)

end Marks

section Runs

variable {σ : Type u} {ℓ : Type v} {step : σ → ℓ → σ → Prop} {a b : σ} {tr : List ℓ}

/-- A latch that each step brackets under an invariant brackets every run. -/
theorem brackets_run {I : σ → Prop} {edges : ℓ → List Edge} {latch : σ → Bool}
    (hstep : ∀ a l b, I a → step a l b → I b ∧ Brackets (latch a) (edges l) (latch b))
    (hrun : Runs step a tr b) (ha : I a) :
    I b ∧ Brackets (latch a) (tr.flatMap edges) (latch b) := by
  induction hrun with
  | refl => exact ⟨ha, .nil _⟩
  | @snoc tr c d l _ hs ih =>
    obtain ⟨hc, hbrackets⟩ := ih
    obtain ⟨hd, hl⟩ := hstep c l d hc hs
    refine ⟨hd, ?_⟩
    rw [List.flatMap_append, List.flatMap_singleton]
    exact hbrackets.append hl

end Runs

end Pacing
