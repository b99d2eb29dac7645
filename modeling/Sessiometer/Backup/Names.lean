import Mathlib.Data.Prod.Lex
import Mathlib.Data.List.Lex
import Sessiometer.Framing.Decimal

/-! # The names of retained configurations

A retention is named by the instant it was taken, so that the order of the names is the order of the
instants. -/

namespace Sessiometer.Backup

open Framing

/-- Seconds and nanoseconds since the epoch. -/
abbrev Stamp := ℕ ×ₗ ℕ

namespace Stamp

def secs (stamp : Stamp) : ℕ := (ofLex stamp).1

def nanos (stamp : Stamp) : ℕ := (ofLex stamp).2

end Stamp

def ringDepth : ℕ := 3

def namePrefix : List Char := ['c', 'o', 'n', 'f', 'i', 'g', '.']

def nameSuffix : List Char := ['.', 't', 'o', 'm', 'l']

def tmpSuffix : List Char := ['.', 't', 'm', 'p']

def secsDigits : ℕ := 11

def nanosDigits : ℕ := 9

def stampOf (name : List Char) : Option Stamp := do
  let stripped ← name.dropPrefix? namePrefix
  let body ← stripped.dropSuffix? nameSuffix
  let (secs, nanos) ← splitOnce '.' body
  if byteLength secs ≠ secsDigits ∨ byteLength nanos ≠ nanosDigits then none
  else
    let secs ← parseUnsigned (2 ^ 64) secs
    let nanos ← parseUnsigned (2 ^ 32) nanos
    some (toLex (secs, nanos))

def fileName (stamp : Stamp) : List Char :=
  namePrefix ++ (padded secsDigits stamp.secs ++ '.' :: padded nanosDigits stamp.nanos) ++ nameSuffix

def nextAfter (stamp : Stamp) : Stamp :=
  if stamp.nanos + 1 = 1000000000 then toLex (stamp.secs + 1, 0)
  else toLex (stamp.secs, stamp.nanos + 1)

/-- The instants that a clock tells and that a name can hold. -/
structure Stamp.Named (stamp : Stamp) : Prop where
  secs : stamp.secs < 10 ^ secsDigits
  nanos : stamp.nanos < 10 ^ nanosDigits

section Names

variable {stamp stamp' : Stamp} {name cs : List Char}

theorem dot_notMem_padded {width n : ℕ} : '.' ∉ padded width n := by
  intro h
  exact absurd (isDigit_of_mem_padded _ h) (by decide)

theorem dropPrefix?_append (cs ds : List Char) : (cs ++ ds).dropPrefix? cs = some ds :=
  List.dropPrefix?_eq_some_iff.mpr ⟨cs, rfl, BEq.rfl⟩

theorem dropSuffix?_append (cs ds : List Char) : (cs ++ ds).dropSuffix? ds = some cs :=
  List.dropSuffix?_eq_some_iff.mpr ⟨ds, rfl, BEq.rfl⟩

/-- The name of an instant is decoded to it. -/
theorem stampOf_fileName (h : stamp.Named) : stampOf (fileName stamp) = some stamp := by
  have hsecs : parseUnsigned (2 ^ 64) (padded secsDigits stamp.secs) = some stamp.secs :=
    parseUnsigned_padded (h.secs.trans (by decide))
  have hnanos : parseUnsigned (2 ^ 32) (padded nanosDigits stamp.nanos) = some stamp.nanos :=
    parseUnsigned_padded (h.nanos.trans (by decide))
  have hlengths : ¬ (byteLength (padded secsDigits stamp.secs) ≠ secsDigits ∨
      byteLength (padded nanosDigits stamp.nanos) ≠ nanosDigits) := by
    rw [byteLength_padded (by decide) h.secs, byteLength_padded (by decide) h.nanos]
    simp
  unfold stampOf fileName
  rw [List.append_assoc, dropPrefix?_append, Option.bind_eq_bind, Option.bind_some, dropSuffix?_append,
    Option.bind_eq_bind, Option.bind_some, splitOnce_append dot_notMem_padded, Option.bind_eq_bind,
    Option.bind_some]
  dsimp only
  rw [if_neg hlengths, hsecs, hnanos]
  rfl

/-- The staging name of a retention is no name of a retention. -/
theorem stampOf_tmp : stampOf (name ++ tmpSuffix) = none := by
  have hsuffix : ∀ stripped : List Char, (name ++ tmpSuffix).dropPrefix? namePrefix = some stripped →
      stripped.dropSuffix? nameSuffix = none := by
    intro stripped hstripped
    obtain ⟨pre, hname, -⟩ := List.dropPrefix?_eq_some_iff.mp hstripped
    rw [Option.eq_none_iff_forall_not_mem]
    intro body hbody
    obtain ⟨suffix, rfl, hsuffix⟩ := List.dropSuffix?_eq_some_iff.mp hbody
    rw [eq_of_beq hsuffix] at hname
    have hlast := congrArg List.getLast? hname
    simp [tmpSuffix, nameSuffix] at hlast
  unfold stampOf
  cases hstripped : (name ++ tmpSuffix).dropPrefix? namePrefix with
  | none => rfl
  | some stripped =>
    rw [Option.bind_eq_bind, Option.bind_some, hsuffix stripped hstripped]
    rfl

theorem length_le_byteLength : cs.length ≤ byteLength cs := by
  induction cs with
  | nil => rfl
  | cons c cs ih =>
    have hpos := Char.utf8Size_pos c
    unfold byteLength at ih ⊢
    rw [List.map_cons, List.sum_cons, List.length_cons]
    omega

theorem parseUnsigned_lt {limit n : ℕ} (h : parseUnsigned limit cs = some n) : n < 10 ^ byteLength cs := by
  have hlength : (if cs.head? = some '+' then cs.tail else cs).length ≤ byteLength cs := by
    split
    · rw [List.length_tail]
      exact (Nat.sub_le _ _).trans length_le_byteLength
    · exact length_le_byteLength
  unfold parseUnsigned at h
  dsimp only at h
  generalize (if cs.head? = some '+' then cs.tail else cs) = digits at h hlength
  by_cases hok : digits ≠ [] ∧ digits.all Char.isDigit = true ∧ Nat.ofDigitChars 10 digits 0 < limit
  · rw [if_pos hok] at h
    cases h
    have hlt := ofDigitChars_lt (List.all_eq_true.mp hok.2.1)
    exact hlt.trans_le (Nat.pow_le_pow_right (by decide) hlength)
  · rw [if_neg hok] at h
    cases h

/-- A decoded instant is one that a clock tells. -/
theorem named_of_stampOf (h : stampOf name = some stamp) : stamp.Named := by
  unfold stampOf at h
  obtain ⟨stripped, -, h⟩ := Option.bind_eq_some_iff.mp h
  obtain ⟨body, -, h⟩ := Option.bind_eq_some_iff.mp h
  obtain ⟨⟨secs, nanos⟩, -, h⟩ := Option.bind_eq_some_iff.mp h
  dsimp only at h
  split at h
  · cases h
  · next hlengths =>
    push Not at hlengths
    obtain ⟨n, hn, h⟩ := Option.bind_eq_some_iff.mp h
    obtain ⟨m, hm, h⟩ := Option.bind_eq_some_iff.mp h
    cases h
    have hsecs := parseUnsigned_lt hn
    have hnanos := parseUnsigned_lt hm
    rw [hlengths.1] at hsecs
    rw [hlengths.2] at hnanos
    exact ⟨hsecs, hnanos⟩

/-- The names are in the order of the instants. -/
theorem fileName_lt (h : stamp.Named) (h' : stamp'.Named) (hlt : stamp < stamp') :
    fileName stamp < fileName stamp' := by
  have hlength : ∀ {s : Stamp}, s.Named → (padded secsDigits s.secs).length = secsDigits :=
    fun hs => length_padded (by decide) hs.secs
  have hbody : padded secsDigits stamp.secs ++ '.' :: padded nanosDigits stamp.nanos ++ nameSuffix <
      padded secsDigits stamp'.secs ++ '.' :: padded nanosDigits stamp'.nanos ++ nameSuffix := by
    rw [List.append_assoc, List.append_assoc]
    rcases (Prod.Lex.lt_iff ..).mp hlt with hsecs | ⟨hsecs, hnanos⟩
    · apply append_lt_append
      · rw [hlength h, hlength h']
      · exact padded_lt (by decide) hsecs h'.secs
    · have heq : stamp.secs = stamp'.secs := hsecs
      rw [heq]
      apply List.append_left_lt
      rw [List.cons_append, List.cons_append, List.cons_lt_cons_iff]
      refine .inr ⟨rfl, append_lt_append ?_ (padded_lt (by decide) hnanos h'.nanos)⟩
      rw [length_padded (by decide) h.nanos, length_padded (by decide) h'.nanos]
  unfold fileName
  rw [List.append_assoc namePrefix, List.append_assoc namePrefix]
  exact List.append_left_lt hbody

theorem lt_nextAfter : stamp < nextAfter stamp := by
  unfold nextAfter
  split
  · exact (Prod.Lex.lt_iff ..).mpr (.inl (Nat.lt_succ_self _))
  · exact (Prod.Lex.lt_iff ..).mpr (.inr ⟨rfl, Nat.lt_succ_self _⟩)

theorem nanos_nextAfter (h : stamp.nanos < 10 ^ nanosDigits) : (nextAfter stamp).nanos < 10 ^ nanosDigits := by
  have hlimit : 10 ^ nanosDigits = 1000000000 := rfl
  unfold nextAfter
  split
  · exact Nat.pow_pos (by decide)
  · change stamp.nanos + 1 < 10 ^ nanosDigits
    omega

end Names

end Sessiometer.Backup
