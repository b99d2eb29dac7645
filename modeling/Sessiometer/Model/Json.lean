import Mathlib.Data.Rat.Defs

namespace Sessiometer

/-- A parsed JSON document, as `serde_json::Value`. -/
inductive Value where
  | null
  | bool (b : Bool)
  | int (n : Int)
  | float (q : ℚ)
  | string (s : String)
  | array (items : List Value)
  | object (fields : List (String × Value))

namespace Value

def get (v : Value) (key : String) : Option Value :=
  match v with
  | .object fields => fields.lookup key
  | _ => none

def asStr : Value → Option String
  | .string s => some s
  | _ => none

/-- `as_i64`: a number that is an integer in the `i64` range. -/
def asI64 : Value → Option Int
  | .int n => if -9223372036854775808 ≤ n ∧ n < 9223372036854775808 then some n else none
  | _ => none

def isObject : Value → Bool
  | .object _ => true
  | _ => false

/-- `Map::insert`: replaces the entry under the key, or adds one. -/
def insertField (key : String) (v : Value) : List (String × Value) → List (String × Value)
  | [] => [(key, v)]
  | (k, u) :: rest => if k = key then (key, v) :: rest else (k, u) :: insertField key v rest

def insert (root : Value) (key : String) (v : Value) : Option Value :=
  match root with
  | .object fields => some (.object (insertField key v fields))
  | _ => none

theorem lookup_insertField (key : String) (v : Value) (fields : List (String × Value)) :
    (insertField key v fields).lookup key = some v := by
  induction fields with
  | nil => simp [insertField]
  | cons f rest ih =>
    obtain ⟨k, u⟩ := f
    by_cases hk : k = key
    · simp [insertField, hk]
    · have hk' : (key == k) = false := by simp [Ne.symm hk]
      simp [insertField, hk, List.lookup_cons, hk', ih]

theorem get_insert {root root' : Value} {key : String} {v : Value}
    (h : root.insert key v = some root') : root'.get key = some v := by
  cases root with
  | object fields =>
    simp only [insert, Option.some.injEq] at h
    subst h
    exact lookup_insertField key v fields
  | _ => simp [insert] at h

end Value

/-- `serde_json::from_slice`, the parser of a dependency. -/
class SerdeJson where
  fromSlice : List UInt8 → Option Value

/-- `serde_json::to_vec`, of the same dependency as the parser. -/
class SerdeToVec where
  toVec : Value → List UInt8

end Sessiometer
