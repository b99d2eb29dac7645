import Sessiometer.Toml.Document

/-! # Reading fields

A structure is read from a table field by field. A field may be absent and may have several names, and
no other key is admitted. -/

namespace Toml

variable {α : Type}

def string : Value → Option String
  | .string text => some text
  | _ => none

def integer : Value → Option ℤ
  | .integer n => some n
  | _ => none

def boolean : Value → Option Bool
  | .boolean b => some b
  | _ => none

/-- A whole number is a float too. -/
def float : Value → Option ℚ
  | .float q => some q
  | .integer n => some n
  | _ => none

def items (decode : Value → Option α) : List Value → Option (List α)
  | [] => some []
  | v :: vs => (decode v).bind fun a => (items decode vs).map (a :: ·)

def array (decode : Value → Option α) : Value → Option (List α)
  | .array vs => items decode vs
  | _ => none

def table (fields : List String) (decode : Table → Option α) : Value → Option α
  | .table t => if t.all (fun e => e.1 ∈ fields) then decode t else none
  | _ => none

/-- Two names of one field are one field twice. -/
def field (t : Table) (names : List String) (decode : Value → Option α) (absent : Option α) : Option α :=
  match t.filter (fun e => e.1 ∈ names) with
  | [] => absent
  | [e] => decode e.2
  | _ => none

section Fields

variable {decode : Value → Option α}

theorem items_map {β : Type} {encode : β → Value} {f : β → α} {bs : List β}
    (h : ∀ b ∈ bs, decode (encode b) = some (f b)) : items decode (bs.map encode) = some (bs.map f) := by
  induction bs with
  | nil => rfl
  | cons b bs ih =>
    rw [List.map_cons, items, h b (by simp), Option.bind_some, ih fun b' hb' => h b' (by simp [hb'])]
    rfl

end Fields

end Toml
