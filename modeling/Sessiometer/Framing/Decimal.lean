import Mathlib.Data.List.Basic
import Mathlib.Tactic.Linarith

/-! # Decimals in texts

Numbers written with a least width, and the numbers that a text is read as. -/

namespace Framing

/-- The number in decimal, with zeros before it up to the width. -/
def padded (width n : ℕ) : List Char := (Nat.toDigits 10 n).leftpad width '0'

/-- An unsigned number below the limit: digits, after at most one plus sign. -/
def parseUnsigned (limit : ℕ) (cs : List Char) : Option ℕ :=
  let digits := if cs.head? = some '+' then cs.tail else cs
  if digits ≠ [] ∧ digits.all Char.isDigit = true ∧ Nat.ofDigitChars 10 digits 0 < limit then
    some (Nat.ofDigitChars 10 digits 0)
  else none

/-- A signed number between the limits of a signed word: digits, after at most one sign. -/
def parseSigned (limit : ℕ) (cs : List Char) : Option ℤ :=
  if cs.head? = some '-' then
    if cs.tail ≠ [] ∧ cs.tail.all Char.isDigit = true ∧ Nat.ofDigitChars 10 cs.tail 0 ≤ limit then
      some (-Nat.ofDigitChars 10 cs.tail 0)
    else none
  else (parseUnsigned limit cs).map (fun n : ℕ => (n : ℤ))

/-- What stands before the first separator, and after it. -/
def splitOnce (sep : Char) (cs : List Char) : Option (List Char × List Char) :=
  if sep ∈ cs then some (cs.takeWhile (· ≠ sep), (cs.dropWhile (· ≠ sep)).tail) else none

def byteLength (cs : List Char) : ℕ := (cs.map Char.utf8Size).sum

section Digits

variable {width limit n a b : ℕ} {cs ds : List Char}

theorem isDigit_iff {c : Char} : c.isDigit = true ↔ 48 ≤ c.toNat ∧ c.toNat ≤ 57 := by
  unfold Char.isDigit
  rw [Bool.and_eq_true, decide_eq_true_iff, decide_eq_true_iff]
  exact Iff.rfl

theorem isDigit_of_mem_padded : ∀ c ∈ padded width n, c.isDigit = true := by
  intro c hc
  unfold padded List.leftpad at hc
  rcases List.mem_append.mp hc with hc | hc
  · rw [List.eq_of_mem_replicate hc]
    rfl
  · exact Nat.isDigit_of_mem_toDigits (by decide) (by decide) hc

theorem length_padded (hwidth : 0 < width) (hn : n < 10 ^ width) : (padded width n).length = width := by
  have hle := (Nat.length_toDigits_le_iff (b := 10) (by decide) hwidth).mpr hn
  unfold padded
  rw [List.length_leftpad]
  omega

theorem ofDigitChars_padded : Nat.ofDigitChars 10 (padded width n) 0 = n := by
  unfold padded List.leftpad
  rw [Nat.ofDigitChars_append, Nat.ofDigitChars_replicate_zero, Nat.mul_zero,
    Nat.ofDigitChars_ten_toDigits]

theorem padded_ne_nil : padded width n ≠ [] := by
  unfold padded List.leftpad
  exact List.append_ne_nil_of_right_ne_nil _ Nat.toDigits_ne_nil

/-- A padded number is read back where it is below the limit. -/
theorem parseUnsigned_padded_eq : parseUnsigned limit (padded width n) = if n < limit then some n else none := by
  have hplus : (padded width n).head? ≠ some '+' := by
    intro h
    have hdigit := isDigit_of_mem_padded _ (List.mem_of_head? h)
    exact absurd hdigit (by decide)
  have hall : (padded width n).all Char.isDigit = true :=
    List.all_eq_true.mpr isDigit_of_mem_padded
  unfold parseUnsigned
  dsimp only
  rw [if_neg hplus, ofDigitChars_padded]
  by_cases hn : n < limit
  · rw [if_pos hn]
    exact if_pos ⟨padded_ne_nil, hall, hn⟩
  · rw [if_neg hn]
    exact if_neg (fun h => hn h.2.2)

theorem parseUnsigned_padded (hn : n < limit) : parseUnsigned limit (padded width n) = some n := by
  rw [parseUnsigned_padded_eq, if_pos hn]

theorem notMem_padded {c : Char} (hc : c.isDigit = false) : c ∉ padded width n := by
  intro hmem
  rw [isDigit_of_mem_padded c hmem] at hc
  exact Bool.noConfusion hc

theorem parseSigned_padded_eq :
    parseSigned limit (padded width n) = if n < limit then some (n : ℤ) else none := by
  have hminus : (padded width n).head? ≠ some '-' := by
    intro h
    exact notMem_padded (by decide) (List.mem_of_head? h)
  unfold parseSigned
  rw [if_neg hminus, parseUnsigned_padded_eq]
  by_cases hn : n < limit
  · rw [if_pos hn, if_pos hn]
    rfl
  · rw [if_neg hn, if_neg hn]
    rfl

theorem parseSigned_padded (hn : n < limit) : parseSigned limit (padded width n) = some (n : ℤ) := by
  rw [parseSigned_padded_eq, if_pos hn]

theorem ofDigitChars_lt (hcs : ∀ c ∈ cs, c.isDigit = true) : Nat.ofDigitChars 10 cs 0 < 10 ^ cs.length := by
  induction cs with
  | nil => simp
  | cons c cs ih =>
    have hc := (isDigit_iff.mp (hcs c List.mem_cons_self)).2
    have htail := ih (fun d hd => hcs d (List.mem_cons_of_mem _ hd))
    have hzero : '0'.toNat = 48 := rfl
    rw [Nat.ofDigitChars_cons, Nat.ofDigitChars_eq_ofDigitChars_zero, List.length_cons, Nat.pow_succ]
    have hd : 10 * 0 + (c.toNat - '0'.toNat) ≤ 9 := by omega
    nlinarith

/-- Texts of one length, all digits, are in the order of their numbers. -/
theorem lt_of_ofDigitChars_lt (hcs : ∀ c ∈ cs, c.isDigit = true) (hds : ∀ d ∈ ds, d.isDigit = true)
    (hlength : cs.length = ds.length) (h : Nat.ofDigitChars 10 cs 0 < Nat.ofDigitChars 10 ds 0) :
    cs < ds := by
  induction cs generalizing ds with
  | nil =>
    rw [List.eq_nil_of_length_eq_zero hlength.symm] at h
    exact absurd h (lt_irrefl _)
  | cons c cs ih =>
    cases ds with
    | nil => simp at hlength
    | cons d ds =>
      have hlen : cs.length = ds.length := by simpa using hlength
      have htail : ∀ c ∈ cs, c.isDigit = true := fun a ha => hcs a (List.mem_cons_of_mem _ ha)
      have htail' : ∀ d ∈ ds, d.isDigit = true := fun a ha => hds a (List.mem_cons_of_mem _ ha)
      have hc := isDigit_iff.mp (hcs c List.mem_cons_self)
      have hd := isDigit_iff.mp (hds d List.mem_cons_self)
      have hzero : '0'.toNat = 48 := rfl
      rw [Nat.ofDigitChars_cons, Nat.ofDigitChars_cons, Nat.ofDigitChars_eq_ofDigitChars_zero,
        Nat.ofDigitChars_eq_ofDigitChars_zero (l := ds), hlen] at h
      rw [List.cons_lt_cons_iff]
      by_cases heq : c = d
      · right
        rw [heq] at h
        exact ⟨heq, ih htail htail' hlen (by omega)⟩
      · left
        have hbelow := ofDigitChars_lt htail'
        have hne : c.toNat ≠ d.toNat := fun hnat => heq (Char.toNat_inj.mp hnat)
        by_contra hnot
        have hge : d.toNat + 1 ≤ c.toNat := by
          have hle : d.toNat ≤ c.toNat := Char.not_lt.mp hnot
          omega
        have hmul : 10 ^ ds.length * (10 * 0 + (d.toNat - '0'.toNat)) + 10 ^ ds.length ≤
            10 ^ ds.length * (10 * 0 + (c.toNat - '0'.toNat)) := by
          rw [← Nat.mul_succ]
          exact Nat.mul_le_mul_left _ (by omega)
        omega

/-- Texts of one length, all digits, that are one number are one text. -/
theorem eq_of_ofDigitChars_eq (hcs : ∀ c ∈ cs, c.isDigit = true) (hds : ∀ d ∈ ds, d.isDigit = true)
    (hlength : cs.length = ds.length) (h : Nat.ofDigitChars 10 cs 0 = Nat.ofDigitChars 10 ds 0) :
    cs = ds := by
  induction cs generalizing ds with
  | nil => exact (List.eq_nil_of_length_eq_zero hlength.symm).symm
  | cons c cs ih =>
    cases ds with
    | nil => simp at hlength
    | cons d ds =>
      have hlen : cs.length = ds.length := by simpa using hlength
      have htail : ∀ c ∈ cs, c.isDigit = true := fun a ha => hcs a (List.mem_cons_of_mem _ ha)
      have htail' : ∀ d ∈ ds, d.isDigit = true := fun a ha => hds a (List.mem_cons_of_mem _ ha)
      have hc := isDigit_iff.mp (hcs c List.mem_cons_self)
      have hd := isDigit_iff.mp (hds d List.mem_cons_self)
      have hzero : '0'.toNat = 48 := rfl
      have hbelow := ofDigitChars_lt htail
      have hbelow' := ofDigitChars_lt htail'
      rw [Nat.ofDigitChars_cons, Nat.ofDigitChars_cons, Nat.ofDigitChars_eq_ofDigitChars_zero,
        Nat.ofDigitChars_eq_ofDigitChars_zero (l := ds), hlen] at h
      rw [hlen] at hbelow
      have hhead : c.toNat = d.toNat := by
        by_contra hne
        rcases Nat.lt_or_gt_of_ne hne with hlt | hlt
        · have hmul : 10 ^ ds.length * (10 * 0 + (c.toNat - '0'.toNat)) + 10 ^ ds.length ≤
              10 ^ ds.length * (10 * 0 + (d.toNat - '0'.toNat)) := by
            rw [← Nat.mul_succ]
            exact Nat.mul_le_mul_left _ (by omega)
          omega
        · have hmul : 10 ^ ds.length * (10 * 0 + (d.toNat - '0'.toNat)) + 10 ^ ds.length ≤
              10 ^ ds.length * (10 * 0 + (c.toNat - '0'.toNat)) := by
            rw [← Nat.mul_succ]
            exact Nat.mul_le_mul_left _ (by omega)
          omega
      rw [hhead] at h
      rw [Char.toNat_inj.mp hhead, ih htail htail' hlen (by omega)]

/-- Digits are the number that they are, padded to their count. -/
theorem padded_ofDigitChars (hcs : ∀ c ∈ cs, c.isDigit = true) (hne : cs ≠ []) :
    padded cs.length (Nat.ofDigitChars 10 cs 0) = cs := by
  apply eq_of_ofDigitChars_eq isDigit_of_mem_padded hcs
  · exact length_padded (List.length_pos_iff.mpr hne) (ofDigitChars_lt hcs)
  · exact ofDigitChars_padded

theorem parseUnsigned_digits (hcs : ∀ c ∈ cs, c.isDigit = true) (hne : cs ≠ [])
    (hlimit : 10 ^ cs.length ≤ limit) : parseUnsigned limit cs = some (Nat.ofDigitChars 10 cs 0) := by
  have hbelow := ofDigitChars_lt hcs
  rw [← padded_ofDigitChars hcs hne, parseUnsigned_padded (by omega), padded_ofDigitChars hcs hne]

theorem padded_lt (hwidth : 0 < width) (hab : a < b) (hb : b < 10 ^ width) :
    padded width a < padded width b := by
  apply lt_of_ofDigitChars_lt isDigit_of_mem_padded isDigit_of_mem_padded
  · rw [length_padded hwidth (hab.trans hb), length_padded hwidth hb]
  · rw [ofDigitChars_padded, ofDigitChars_padded]
    exact hab

theorem append_lt_append {as bs cs ds : List Char} (hlength : as.length = bs.length) (h : as < bs) :
    as ++ cs < bs ++ ds := by
  induction as generalizing bs with
  | nil =>
    rw [List.eq_nil_of_length_eq_zero hlength.symm] at h
    exact absurd h (List.lt_irrefl _)
  | cons a as ih =>
    cases bs with
    | nil => simp at hlength
    | cons b bs =>
      have hlen : as.length = bs.length := by simpa using hlength
      rw [List.cons_append, List.cons_append, List.cons_lt_cons_iff]
      rcases List.cons_lt_cons_iff.mp h with hab | ⟨heq, hlt⟩
      · exact .inl hab
      · exact .inr ⟨heq, ih hlen hlt⟩

theorem utf8Size_of_isDigit {c : Char} (hc : c.isDigit = true) : c.utf8Size = 1 := by
  have hle := (isDigit_iff.mp hc).2
  rw [Char.utf8Size_eq_one_iff]
  change c.toNat ≤ 127
  omega

theorem byteLength_padded (hwidth : 0 < width) (hn : n < 10 ^ width) : byteLength (padded width n) = width := by
  have hsizes : (padded width n).map Char.utf8Size = (padded width n).map (fun _ => 1) :=
    List.map_congr_left (fun c hc => utf8Size_of_isDigit (isDigit_of_mem_padded c hc))
  unfold byteLength
  rw [hsizes, List.map_const', List.sum_replicate_nat, length_padded hwidth hn, Nat.mul_one]

end Digits

/-- A text is cut at a separator that does not stand before it. -/
theorem splitOnce_append {sep : Char} {cs ds : List Char} (h : sep ∉ cs) :
    splitOnce sep (cs ++ sep :: ds) = some (cs, ds) := by
  have hne : ∀ c ∈ cs, decide (c ≠ sep) = true := by
    intro c hc
    apply decide_eq_true
    rintro rfl
    exact h hc
  unfold splitOnce
  rw [if_pos (by simp), List.takeWhile_append_of_pos hne, List.dropWhile_append_of_pos hne]
  simp

end Framing
