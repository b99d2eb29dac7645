import Sessiometer.Framing.Utf8

/-! # Bytes read as text, whatever they are

What is not the encoding of a character reads as a replacement character. A line feed reads as itself
wherever it stands, so that the text has the lines of the bytes. -/

namespace Framing

def decodeChar (bytes : List UInt8) : Option Char := bytes.toByteArray.utf8DecodeChar? 0

/-- The second byte goes with the first, of an encoding of three or four bytes. -/
def follows (first second : ℕ) : Bool :=
  (first = 0xE0 && 0xA0 ≤ second && second ≤ 0xBF) ||
    (0xE1 ≤ first && first ≤ 0xEF && first ≠ 0xED && 0x80 ≤ second && second ≤ 0xBF) ||
    (first = 0xED && 0x80 ≤ second && second ≤ 0x9F) ||
    (first = 0xF0 && 0x90 ≤ second && second ≤ 0xBF) ||
    (0xF1 ≤ first && first ≤ 0xF3 && 0x80 ≤ second && second ≤ 0xBF) ||
    (first = 0xF4 && 0x80 ≤ second && second ≤ 0x8F)

/-- How many bytes are replaced together: the longest start of an encoding, or one. -/
def illFormed : List UInt8 → ℕ
  | first :: second :: rest =>
    if follows first.toNat second.toNat then
      if 0xF0 ≤ first.toNat ∧ (rest.headD 0).toNat / 64 = 2 then 3 else 2
    else 1
  | _ => 1

theorem illFormed_pos (bytes : List UInt8) : 0 < illFormed bytes := by
  unfold illFormed
  split
  · split_ifs <;> omega
  · omega

/-- `String::from_utf8_lossy`. -/
def fromUtf8Lossy (bytes : List UInt8) : List Char :=
  if _hempty : bytes = [] then []
  else
    match decodeChar bytes with
    | some c => c :: fromUtf8Lossy (bytes.drop c.utf8Size)
    | none => Char.ofNat 0xFFFD :: fromUtf8Lossy (bytes.drop (illFormed bytes))
termination_by bytes.length
decreasing_by
  · have hpos := c.utf8Size_pos
    have hlen := List.length_pos_iff.mpr _hempty
    rw [List.length_drop]
    omega
  · have hpos := illFormed_pos bytes
    have hlen := List.length_pos_iff.mpr _hempty
    rw [List.length_drop]
    omega

section Lossy

variable {bytes p q : List UInt8} {c : Char}

theorem decodeChar_append (c : Char) (q : List UInt8) :
    decodeChar (String.utf8EncodeChar c ++ q) = some c := by
  unfold decodeChar
  rw [List.toByteArray_append]
  exact ByteArray.utf8DecodeChar?_utf8EncodeChar_append

theorem exists_of_decodeChar (h : decodeChar bytes = some c) :
    ∃ rest, bytes = String.utf8EncodeChar c ++ rest := by
  obtain ⟨rest, hrest⟩ := ByteArray.exists_of_utf8DecodeChar?_eq_some h
  refine ⟨rest.data.toList, List.toByteArray_inj.mp ?_⟩
  rw [hrest, List.toByteArray_append]
  exact congrArg _ (ByteArray.ext (by simp))

theorem fromUtf8Lossy_nil : fromUtf8Lossy [] = [] := by rw [fromUtf8Lossy, dif_pos rfl]

theorem fromUtf8Lossy_illFormed (hne : bytes ≠ []) (h : decodeChar bytes = none) :
    fromUtf8Lossy bytes =
      Char.ofNat 0xFFFD :: fromUtf8Lossy (bytes.drop (illFormed bytes)) := by
  rw [fromUtf8Lossy, dif_neg hne, h]

theorem fromUtf8Lossy_char (c : Char) (q : List UInt8) :
    fromUtf8Lossy (String.utf8EncodeChar c ++ q) = c :: fromUtf8Lossy q := by
  have hlen : (String.utf8EncodeChar c).length = c.utf8Size := String.length_utf8EncodeChar c
  have hne : String.utf8EncodeChar c ++ q ≠ [] := by
    have hpos := c.utf8Size_pos
    intro hnil
    have hzero := congrArg List.length hnil
    rw [List.length_append, List.length_nil] at hzero
    omega
  rw [fromUtf8Lossy, dif_neg hne, decodeChar_append]
  dsimp only
  rw [← hlen, List.drop_left]

/-- Text reads as itself. -/
theorem fromUtf8Lossy_encode (text : List Char) :
    fromUtf8Lossy (text.flatMap String.utf8EncodeChar) = text := by
  induction text with
  | nil => exact fromUtf8Lossy_nil
  | cons c text ih => rw [List.flatMap_cons, fromUtf8Lossy_char, ih]

theorem encode_newline : String.utf8EncodeChar '\n' = [lineFeed] := by decide

theorem fromUtf8Lossy_lineFeed (q : List UInt8) :
    fromUtf8Lossy (lineFeed :: q) = '\n' :: fromUtf8Lossy q := by
  have hchar := fromUtf8Lossy_char '\n' q
  rwa [encode_newline] at hchar

theorem eq_newline_of_mem (h : lineFeed ∈ String.utf8EncodeChar c) : c = '\n' := by
  by_cases hlen : (String.utf8EncodeChar c).length = 1
  · obtain ⟨b, hb⟩ := List.length_eq_one_iff.mp hlen
    rw [hb, List.mem_singleton] at h
    have hsame : String.utf8EncodeChar c ++ [] = String.utf8EncodeChar '\n' ++ [] := by
      rw [hb, ← h, encode_newline]
    have hdecoded := decodeChar_append c []
    rw [hsame, decodeChar_append] at hdecoded
    exact (Option.some.inj hdecoded).symm
  · exact absurd h (lineFeed_notMem_encode hlen)

theorem follows_lineFeed (first : ℕ) : follows first lineFeed.toNat = false := by
  have hten : lineFeed.toNat = 10 := rfl
  rw [hten]
  simp [follows]

theorem illFormed_append (h : p ≠ []) : illFormed (p ++ lineFeed :: q) = illFormed p ∧
    illFormed p ≤ p.length := by
  obtain ⟨first, rest, rfl⟩ := List.exists_cons_of_ne_nil h
  cases rest with
  | nil => simp [illFormed, follows_lineFeed]
  | cons second rest =>
    cases rest with
    | nil =>
      have hten : lineFeed.toNat / 64 ≠ 2 := by decide
      by_cases hfollows : follows first.toNat second.toNat = true
      · simp [illFormed, hfollows, hten]
      · simp [illFormed, hfollows]
    | cons third rest =>
      refine ⟨rfl, ?_⟩
      unfold illFormed
      dsimp only
      split_ifs <;> simp

/-- A line feed stands for itself, whatever is before it. -/
theorem fromUtf8Lossy_append (p q : List UInt8) :
    fromUtf8Lossy (p ++ lineFeed :: q) = fromUtf8Lossy p ++ '\n' :: fromUtf8Lossy q := by
  induction hn : p.length using Nat.strong_induction_on generalizing p with
  | _ n ih =>
    by_cases hempty : p = []
    · rw [hempty, List.nil_append, fromUtf8Lossy_lineFeed, fromUtf8Lossy_nil, List.nil_append]
    have hlen := List.length_pos_iff.mpr hempty
    cases hdecoded : decodeChar p with
    | some c =>
      obtain ⟨rest, rfl⟩ := exists_of_decodeChar hdecoded
      have hchar : (String.utf8EncodeChar c).length = c.utf8Size := String.length_utf8EncodeChar c
      have hpos := c.utf8Size_pos
      have hrest := ih rest.length (by rw [← hn, List.length_append]; omega) rest rfl
      rw [List.append_assoc, fromUtf8Lossy_char, fromUtf8Lossy_char, hrest, List.cons_append]
    | none =>
      have hnone : decodeChar (p ++ lineFeed :: q) = none := by
        by_contra hsome
        obtain ⟨c, hc⟩ := Option.ne_none_iff_exists'.mp hsome
        obtain ⟨rest, hrest⟩ := exists_of_decodeChar hc
        rcases List.append_eq_append_iff.mp hrest with ⟨l, hl, hrest⟩ | ⟨l, hl, -⟩
        · cases l with
          | nil =>
            rw [List.append_nil] at hl
            have hsame := decodeChar_append c []
            rw [List.append_nil, hl, hdecoded] at hsame
            cases hsame
          | cons b l =>
            obtain ⟨hb, -⟩ := List.cons_eq_cons.mp hrest
            have hin : lineFeed ∈ String.utf8EncodeChar c := by
              rw [hl, hb]
              exact List.mem_append_right _ List.mem_cons_self
            rw [eq_newline_of_mem hin, encode_newline] at hl
            have hone := congrArg List.length hl
            simp only [List.length_append, List.length_cons, List.length_nil] at hone
            omega
        · rw [hl, decodeChar_append] at hdecoded
          cases hdecoded
      have hill := illFormed_append (q := q) hempty
      have hpos := illFormed_pos p
      have hrest := ih (p.drop (illFormed p)).length
        (by rw [← hn, List.length_drop]; omega) (p.drop (illFormed p)) rfl
      rw [fromUtf8Lossy_illFormed (by simp [hempty]) hnone, fromUtf8Lossy_illFormed hempty hdecoded,
        hill.1, List.drop_append_of_le_length hill.2, hrest, List.cons_append]

/-- Without a line feed the text is one line. -/
theorem newline_notMem_fromUtf8Lossy (h : lineFeed ∉ bytes) : '\n' ∉ fromUtf8Lossy bytes := by
  induction hn : bytes.length using Nat.strong_induction_on generalizing bytes with
  | _ n ih =>
    by_cases hempty : bytes = []
    · rw [hempty, fromUtf8Lossy_nil]
      exact List.not_mem_nil
    have hlen := List.length_pos_iff.mpr hempty
    cases hdecoded : decodeChar bytes with
    | some c =>
      obtain ⟨rest, rfl⟩ := exists_of_decodeChar hdecoded
      have hchar : (String.utf8EncodeChar c).length = c.utf8Size := String.length_utf8EncodeChar c
      have hpos := c.utf8Size_pos
      have hrest := ih rest.length (by rw [← hn, List.length_append]; omega)
        (fun hin => h (List.mem_append_right _ hin)) rfl
      rw [fromUtf8Lossy_char, List.mem_cons, not_or]
      refine ⟨?_, hrest⟩
      rintro rfl
      exact h (List.mem_append_left _ (by decide))
    | none =>
      have hpos := illFormed_pos bytes
      have hrest := ih (bytes.drop (illFormed bytes)).length
        (by rw [← hn, List.length_drop]; omega) (fun hin => h (List.mem_of_mem_drop hin)) rfl
      rw [fromUtf8Lossy_illFormed hempty hdecoded, List.mem_cons, not_or]
      exact ⟨by decide, hrest⟩

end Lossy

end Framing
