import Mathlib.Data.Nat.Notation
import Sessiometer.Store.Lines

/-! # Files of options

One option stands on a line: its name, and a parameter behind white space, an equals sign or a colon.
A parameter in double quotes may hold white space, and escapes behind a backslash. -/

namespace Framing

structure ConfigOption where
  name : List Char
  value : Option (List Char)
deriving DecidableEq

def blank (c : Char) : Bool := c = ' ' || c = '\t' || c = '\r' || c = '\x0b' || c = '\x0c'

def separates (c : Char) : Bool := blank c || c = '=' || c = ':'

/-- What an escape stands for; a backslash before any other letter is ignored. -/
def unescaped (c : Char) : Char :=
  if c = 't' then '\t'
  else if c = 'n' then '\n'
  else if c = 'r' then '\r'
  else if c = 'v' then '\x0b'
  else c

/-- What stands before the closing quote, whether or not a backslash precedes it. -/
def unquote : Bool → List Char → List Char
  | _, [] => []
  | true, c :: cs => unescaped c :: unquote false cs
  | false, c :: cs =>
    if c = '"' then [] else if c = '\\' then unquote true cs else c :: unquote false cs

def parameter (cs : List Char) : Option (List Char) :=
  match cs with
  | [] => none
  | c :: rest => if c = '"' then some (unquote false rest) else some (cs.takeWhile (fun c => !blank c))

def readOption (line : List Char) : Option ConfigOption :=
  let option := line.dropWhile blank
  if option = [] ∨ option.head? = some '#' then none
  else
    some
      { name := option.takeWhile (fun c => !separates c)
        value := parameter ((option.dropWhile (fun c => !separates c)).dropWhile separates) }

def readOptions (text : List Char) : List ConfigOption := Lines.records '\n' readOption text

/-- A character that stands for itself between quotes. -/
def Unquotable (c : Char) : Prop := c ≠ '"' ∧ c ≠ '\\'

section Quotes

variable {value rest : List Char}

theorem unquote_quote : unquote false ('"' :: rest) = [] := if_pos rfl

theorem unquote_backslash : unquote false ('\\' :: rest) = unquote true rest := by
  simp [unquote]

theorem unquote_cons {c : Char} (hc : Unquotable c) :
    unquote false (c :: rest) = c :: unquote false rest := by
  simp [unquote, hc.1, hc.2]

/-- The closing quote is not part of the value, unless it is escaped. -/
theorem length_unquote_closed_le (value : List Char) (escaped : Bool) :
    (unquote escaped (value ++ ['"'])).length ≤ value.length + escaped.toNat := by
  induction value generalizing escaped with
  | nil => cases escaped <;> simp [unquote]
  | cons c value ih =>
    have hplain := ih false
    have hescaped := ih true
    simp only [Bool.toNat_false, Bool.toNat_true, Nat.add_zero] at hplain hescaped
    rw [List.cons_append]
    by_cases hc : Unquotable c
    · cases escaped
      · rw [unquote_cons hc]
        simpa using hplain
      · simp only [unquote, List.length_cons, Bool.toNat_true]
        omega
    · cases escaped
      · by_cases hquote : c = '"'
        · rw [hquote, unquote_quote]
          simp
        · obtain rfl : c = '\\' := by
            by_contra hback
            exact hc ⟨hquote, hback⟩
          rw [unquote_backslash]
          simpa using hescaped
      · simp only [unquote, List.length_cons, Bool.toNat_true]
        omega

theorem unquote_closed (h : ∀ c ∈ value, Unquotable c) (rest : List Char) :
    unquote false (value ++ '"' :: rest) = value := by
  induction value with
  | nil => exact unquote_quote
  | cons c value ih =>
    rw [List.cons_append, unquote_cons (h c List.mem_cons_self),
      ih (fun d hd => h d (List.mem_cons_of_mem c hd))]

/-- A value is read back from between quotes exactly when none of its characters has a meaning
there. -/
theorem unquote_closed_iff :
    unquote false (value ++ ['"']) = value ↔ ∀ c ∈ value, Unquotable c := by
  refine ⟨fun h => ?_, fun h => unquote_closed h []⟩
  induction value with
  | nil => simp
  | cons c value ih =>
    rw [List.cons_append] at h
    by_cases hc : Unquotable c
    · rw [unquote_cons hc] at h
      have hvalue := ih (List.cons_inj_right c |>.mp h)
      simpa [hc] using hvalue
    · exfalso
      by_cases hquote : c = '"'
      · rw [hquote, unquote_quote] at h
        exact absurd h.symm (List.cons_ne_nil _ _)
      · obtain rfl : c = '\\' := by
          by_contra hback
          exact hc ⟨hquote, hback⟩
        rw [unquote_backslash] at h
        cases value with
        | nil => exact absurd h (by decide)
        | cons e value =>
          have hlen := length_unquote_closed_le value false
          have hsame := congrArg List.length h
          simp only [List.cons_append, unquote, List.length_cons, Bool.toNat_false,
            Nat.add_zero] at hlen hsame
          omega

/-- Without the closing quote a value is what precedes the end of the line at most. -/
theorem length_unquote_le (cs : List Char) (escaped : Bool) :
    (unquote escaped cs).length ≤ cs.length := by
  induction cs generalizing escaped with
  | nil => cases escaped <;> simp [unquote]
  | cons c cs ih =>
    have hplain := ih false
    have hescaped := ih true
    cases escaped
    · unfold unquote
      split_ifs
      · simp
      · simp only [List.length_cons]
        omega
      · simpa using hplain
    · simpa [unquote] using hplain

end Quotes

section Options

variable {name : List Char}

/-- The name of an option: nothing in it separates. -/
structure Named (name : List Char) : Prop where
  plain : ∀ c ∈ name, separates c = false
  first : name.head? ≠ some '#'
  nonempty : name ≠ []

theorem readOption_of_named (h : Named name) {rest : List Char}
    (hrest : ∀ c, rest.head? = some c → separates c = true) :
    readOption (name ++ rest) = some ⟨name, parameter (rest.dropWhile separates)⟩ := by
  have hplain : ∀ c ∈ name, (!separates c) = true := by
    intro c hc
    simp [h.plain c hc]
  have htake : rest.takeWhile (fun c => !separates c) = [] := by
    cases rest with
    | nil => rfl
    | cons c rest => simp [hrest c rfl]
  have hdrop : rest.dropWhile (fun c => !separates c) = rest := by
    cases rest with
    | nil => rfl
    | cons c rest => simp [hrest c rfl]
  have hoption : (name ++ rest).dropWhile blank = name ++ rest := by
    obtain ⟨c, cs, rfl⟩ := List.exists_cons_of_ne_nil h.nonempty
    have hc := h.plain c List.mem_cons_self
    have hblank : blank c = false := by
      unfold separates at hc
      simp only [Bool.or_eq_false_iff] at hc
      exact hc.1.1
    simp [hblank]
  have hhead : (name ++ rest).head? ≠ some '#' := by
    obtain ⟨c, cs, rfl⟩ := List.exists_cons_of_ne_nil h.nonempty
    exact h.first
  unfold readOption
  dsimp only
  rw [hoption, if_neg (not_or.mpr ⟨List.append_ne_nil_of_left_ne_nil h.nonempty rest, hhead⟩),
    List.takeWhile_append_of_pos hplain, List.dropWhile_append_of_pos hplain, htake, hdrop,
    List.append_nil]

theorem readOption_quoted (h : Named name) (quoted : List Char) :
    readOption (name ++ ' ' :: '=' :: ' ' :: '"' :: quoted) =
      some ⟨name, some (unquote false quoted)⟩ := by
  rw [readOption_of_named h (fun c hc => by
    obtain rfl := Option.some.inj hc
    rfl)]
  rfl

/-- An option without a parameter. -/
theorem readOption_alone (h : Named name) : readOption name = some ⟨name, none⟩ := by
  have halone : readOption (name ++ []) = some ⟨name, none⟩ :=
    readOption_of_named h (fun c hc => by cases hc)
  rwa [List.append_nil] at halone

end Options

end Framing
