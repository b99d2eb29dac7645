import Mathlib.Data.List.Forall2
import Sessiometer.Model.Json

/-!
# Documents under an open contract

A contract names the keys of an object, says which of them a writer may leave out, and says
nothing about other keys. `Record` relates a document to what a writer of another version of the
contract may have put on the wire in its place.
-/

namespace Sessiometer.Evolution

structure Field where
  key : String
  omissible : Bool
  value : Value → Value → Prop

/-- A value the contract does not look into. -/
def Same (v v' : Value) : Prop := v' = v

/-- A field that was there keeps its value or, where that is allowed, is left out; a field that
was not there is not added. -/
def Field.Kept (f : Field) (v v' : Value) : Prop :=
  (v.get f.key = none ∧ v'.get f.key = none) ∨
  ∃ w, v.get f.key = some w ∧
    ((f.omissible = true ∧ v'.get f.key = none) ∨ ∃ w', v'.get f.key = some w' ∧ f.value w w')

/-- An object stays an object, with any other keys; anything else is unchanged. -/
def Record (fs : List Field) (v v' : Value) : Prop :=
  (v.isObject = true → v'.isObject = true) ∧ (v.isObject = false → v' = v) ∧
  ∀ f ∈ fs, f.Kept v v'

/-- An array keeps its items in order; anything else is unchanged. -/
def EachItem (item : Value → Value → Prop) (v : Value) (v' : Value) : Prop :=
  match v with
  | .array items => ∃ items', v' = .array items' ∧ List.Forall₂ item items items'
  | _ => v' = v

/-! ## Reading what was left out as its default -/

section Defaults

variable {α : Type}

/-- The value of a field, or the default where `v'` has left its key out. -/
def orDefault (v' : Value) (key : String) (default x : α) : α :=
  if (v'.get key).isSome then x else default

/-- The value of an optional field whose own fields may have been left out. -/
def within (v' : Value) (key : String) (inner : Value → α → α) (x : Option α) : Option α :=
  (v'.get key).bind fun w' => x.map (inner w')

def eachWithin (v' : Value) (inner : Value → α → α) (xs : List α) : List α :=
  match v' with
  | .array items' => List.zipWith inner items' xs
  | _ => xs

end Defaults

/-- `null` stands for a missing value, so only `null` evolves into it. -/
def NullStable (value : Value → Value → Prop) : Prop :=
  ∀ v v', value v v' → (v' = .null ↔ v = .null)

/-! ## What a relation of documents gives a reader -/

section Rules

variable {fs : List Field} {f : Field} {v v' w : Value} {key : String}
  {value : Value → Value → Prop}

theorem same_refl (v : Value) : Same v v := rfl

theorem Field.kept_refl (hvalue : ∀ w, f.value w w) (v : Value) : f.Kept v v := by
  by_cases hv : v.get f.key = none
  · exact .inl ⟨hv, hv⟩
  · obtain ⟨w, hw⟩ := Option.ne_none_iff_exists'.mp hv
    exact .inr ⟨w, hw, .inr ⟨w, hw, hvalue w⟩⟩

theorem record_refl (hfs : ∀ f ∈ fs, ∀ w, f.value w w) (v : Value) : Record fs v v :=
  ⟨id, fun _ => rfl, fun f hf => Field.kept_refl (hfs f hf) v⟩

theorem eachItem_refl {item : Value → Value → Prop} (hitem : ∀ w, item w w) (v : Value) :
    EachItem item v v := by
  unfold EachItem
  split
  · exact ⟨_, rfl, List.forall₂_same.mpr fun w _ => hitem w⟩
  · rfl

theorem same_nullStable : NullStable Same := by
  intro v v' h
  rw [h]

theorem record_nullStable (fs : List Field) : NullStable (Record fs) := by
  rintro v v' ⟨hobject, hother, -⟩
  by_cases hv : v.isObject = true
  · have hv' := hobject hv
    constructor <;> rintro rfl
    · simp [Value.isObject] at hv'
    · simp [Value.isObject] at hv
  · rw [hother (by simpa using hv)]

theorem Record.object {entries : List (String × Value)} (h : Record fs (.object entries) v') :
    ∃ entries', v' = .object entries' ∧ ∀ f ∈ fs, f.Kept (.object entries) (.object entries') := by
  obtain ⟨hobject, -, hfs⟩ := h
  have hv' := hobject rfl
  cases v' with
  | object entries' => exact ⟨entries', rfl, hfs⟩
  | _ => simp [Value.isObject] at hv'

theorem Field.Kept.absent (h : f.Kept v v') (hv : v.get f.key = none) : v'.get f.key = none := by
  obtain ⟨-, hv'⟩ | ⟨w, hw, -⟩ := h
  · exact hv'
  · simp [hv] at hw

theorem Field.Kept.present (h : f.Kept v v') (hf : f.omissible = false) (hv : v.get f.key = some w) :
    ∃ w', v'.get f.key = some w' ∧ f.value w w' := by
  obtain ⟨hnone, -⟩ | ⟨u, hu, ⟨homit, -⟩ | hkept⟩ := h
  · simp [hv] at hnone
  · simp [hf] at homit
  · have hwu : w = u := by simpa [hv] using hu
    exact hwu ▸ hkept

theorem Field.Kept.omitted_or (h : f.Kept v v') (hv : v.get f.key = some w) :
    v'.get f.key = none ∨ ∃ w', v'.get f.key = some w' ∧ f.value w w' := by
  obtain ⟨hnone, -⟩ | ⟨u, hu, ⟨-, homit⟩ | hkept⟩ := h
  · simp [hv] at hnone
  · exact .inl homit
  · have hwu : w = u := by simpa [hv] using hu
    exact .inr (hwu ▸ hkept)

theorem Field.Kept.get_eq (h : Field.Kept ⟨key, false, Same⟩ v v') : v'.get key = v.get key := by
  obtain ⟨hv, hv'⟩ | ⟨w, hw, ⟨homit, -⟩ | ⟨w', hw', hsame⟩⟩ := h
  · exact hv'.trans hv.symm
  · simp at homit
  · exact hw'.trans ((congrArg some hsame).trans hw.symm)

end Rules

end Sessiometer.Evolution
