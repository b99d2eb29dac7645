import Mathlib.Data.Nat.Notation
import Sessiometer.Model.Json

namespace Sessiometer

/-- The text `serde_json` writes for a float, in JSON's grammar of numbers. -/
class FloatText where
  write : ℚ → List Char
  numeric : ∀ q, ∀ c ∈ write q, c.isDigit = true ∨ c = '-' ∨ c = '+' ∨ c = '.' ∨ c = 'e'

/-! ## `serde_json::to_string` -/

def escapeChar (c : Char) : List Char :=
  if c = '"' then ['\\', '"']
  else if c = '\\' then ['\\', '\\']
  else if c = Char.ofNat 8 then ['\\', 'b']
  else if c = Char.ofNat 12 then ['\\', 'f']
  else if c = '\n' then ['\\', 'n']
  else if c = '\r' then ['\\', 'r']
  else if c = '\t' then ['\\', 't']
  else if c.toNat < 32 then
    ['\\', 'u', '0', '0', Nat.digitChar (c.toNat / 16), Nat.digitChar (c.toNat % 16)]
  else [c]

def quoted (s : String) : List Char := '"' :: s.toList.flatMap escapeChar ++ ['"']

def integerText (n : Int) : List Char :=
  if n < 0 then '-' :: Nat.toDigits 10 n.natAbs else Nat.toDigits 10 n.natAbs

theorem digitChar_ne_newline {n : ℕ} (hn : n < 16) : Nat.digitChar n ≠ '\n' := by
  have hall : ∀ m < 16, Nat.digitChar m ≠ '\n' := by decide
  exact hall n hn

theorem newline_notMem_escapeChar (c : Char) : '\n' ∉ escapeChar c := by
  by_cases hnl : c = '\n'
  · subst hnl
    decide
  unfold escapeChar
  split_ifs with _ _ _ _ _ _ hcontrol
  on_goal 7 =>
    have hhigh := digitChar_ne_newline (n := c.toNat / 16) (by omega)
    have hlow := digitChar_ne_newline (n := c.toNat % 16) (by omega)
    simp [Ne.symm hhigh, Ne.symm hlow]
  all_goals simp [Ne.symm hnl]

theorem newline_notMem_quoted (s : String) : '\n' ∉ quoted s := by
  have hchars : ∀ c ∈ s.toList, '\n' ∉ escapeChar c := fun c _ => newline_notMem_escapeChar c
  simpa [quoted] using hchars

theorem newline_notMem_integerText (n : Int) : '\n' ∉ integerText n := by
  have hdigits : '\n' ∉ Nat.toDigits 10 n.natAbs := by
    intro h
    have hdigit := Nat.isDigit_of_mem_toDigits (by decide) (by decide) h
    exact absurd hdigit (by decide)
  unfold integerText
  split_ifs <;> simp [hdigits]

variable [FloatText]

mutual

def compact : Value → List Char
  | .null => ['n', 'u', 'l', 'l']
  | .bool true => ['t', 'r', 'u', 'e']
  | .bool false => ['f', 'a', 'l', 's', 'e']
  | .int n => integerText n
  | .float q => FloatText.write q
  | .string s => quoted s
  | .array items => '[' :: compactItems items ++ [']']
  | .object fields => '{' :: compactFields fields ++ ['}']

def compactItems : List Value → List Char
  | [] => []
  | [v] => compact v
  | v :: rest => compact v ++ ',' :: compactItems rest

def compactFields : List (String × Value) → List Char
  | [] => []
  | [(key, v)] => quoted key ++ ':' :: compact v
  | (key, v) :: rest => quoted key ++ ':' :: compact v ++ ',' :: compactFields rest

end

/-! ## The text is one line -/

theorem newline_notMem_write (q : ℚ) : '\n' ∉ FloatText.write q := by
  intro h
  have hnumeric := FloatText.numeric q '\n' h
  exact absurd hnumeric (by decide)

mutual

/-- Whatever the document holds, its compact text has no line break. -/
theorem newline_notMem_compact : ∀ v : Value, '\n' ∉ compact v
  | .null => by simp [compact]
  | .bool true => by simp [compact]
  | .bool false => by simp [compact]
  | .int n => by simpa [compact] using newline_notMem_integerText n
  | .float q => by simpa [compact] using newline_notMem_write q
  | .string s => by simpa [compact] using newline_notMem_quoted s
  | .array items => by simpa [compact] using newline_notMem_compactItems items
  | .object fields => by simpa [compact] using newline_notMem_compactFields fields

theorem newline_notMem_compactItems : ∀ items : List Value, '\n' ∉ compactItems items
  | [] => by simp [compactItems]
  | [v] => by simpa [compactItems] using newline_notMem_compact v
  | v :: w :: rest => by
    have hv := newline_notMem_compact v
    have hrest := newline_notMem_compactItems (w :: rest)
    simp [compactItems, hv, hrest]

theorem newline_notMem_compactFields :
    ∀ fields : List (String × Value), '\n' ∉ compactFields fields
  | [] => by simp [compactFields]
  | [(key, v)] => by
    simp [compactFields, newline_notMem_quoted key, newline_notMem_compact v]
  | (key, v) :: field :: rest => by
    have hv := newline_notMem_compact v
    have hrest := newline_notMem_compactFields (field :: rest)
    simp [compactFields, newline_notMem_quoted key, hv, hrest]

end

end Sessiometer
