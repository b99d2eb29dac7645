import Mathlib.Data.List.Basic
import Sessiometer.Framing.Lines

/-! # Lines of text

A line feed is never part of the encoding of another character, so that a stream cut at a line feed is cut
between two characters. -/

namespace Framing

def lineFeed : UInt8 := 10

def ValidUtf8 (bytes : List UInt8) : Prop := ∃ text : List Char, bytes = text.flatMap String.utf8EncodeChar

variable {bytes p q : List UInt8}

theorem validUtf8_iff : ValidUtf8 bytes ↔ bytes.toByteArray.IsValidUTF8 := by
  constructor
  · rintro ⟨text, rfl⟩
    exact ⟨text, rfl⟩
  · rintro ⟨text, htext⟩
    exact ⟨text, List.toByteArray_inj.mp htext⟩

theorem ValidUtf8.nil : ValidUtf8 [] := ⟨[], rfl⟩

theorem lineFeed_notMem_encode {c : Char} (h : (String.utf8EncodeChar c).length ≠ 1) :
    lineFeed ∉ String.utf8EncodeChar c := by
  have hhigh : ∀ n : ℕ, 128 ≤ n → n < 256 → lineFeed ≠ UInt8.ofNat n := by
    intro n hge hlt heq
    have hn := congrArg UInt8.toNat heq
    rw [UInt8.toNat_ofNat_of_lt' hlt] at hn
    change 10 = n at hn
    omega
  unfold String.utf8EncodeChar at h ⊢
  dsimp only at h ⊢
  split at h
  · simp at h
  · rename_i h1
    rw [if_neg h1]
    split
    · rename_i h2
      simp only [List.mem_cons, List.not_mem_nil, or_false, not_or]
      exact ⟨hhigh _ (by omega) (by omega), hhigh _ (by omega) (by omega)⟩
    · split
      · simp only [List.mem_cons, List.not_mem_nil, or_false, not_or]
        exact ⟨hhigh _ (by omega) (by omega), hhigh _ (by omega) (by omega),
          hhigh _ (by omega) (by omega)⟩
      · simp only [List.mem_cons, List.not_mem_nil, or_false, not_or]
        exact ⟨hhigh _ (by omega) (by omega), hhigh _ (by omega) (by omega),
          hhigh _ (by omega) (by omega), hhigh _ (by omega) (by omega)⟩

theorem ValidUtf8.append (hp : ValidUtf8 p) (hq : ValidUtf8 q) : ValidUtf8 (p ++ q) := by
  obtain ⟨text, rfl⟩ := hp
  obtain ⟨text', rfl⟩ := hq
  exact ⟨text ++ text', by rw [List.flatMap_append]⟩

/-- Text cut at the end of a line is text on both sides. -/
theorem ValidUtf8.of_append (h : ValidUtf8 (p ++ q)) (hp : Terminated lineFeed p) :
    ValidUtf8 p ∧ ValidUtf8 q := by
  obtain ⟨text, htext⟩ := h
  induction text generalizing p with
  | nil =>
    have hnil := List.append_eq_nil_iff.mp htext
    rw [hnil.1, hnil.2]
    exact ⟨.nil, .nil⟩
  | cons c text ih =>
    have hwhole : String.utf8EncodeChar c <+: p ++ q := by
      rw [htext, List.flatMap_cons]
      exact List.prefix_append _ _
    by_cases hlength : (String.utf8EncodeChar c).length ≤ p.length
    · obtain ⟨rest, rfl⟩ : String.utf8EncodeChar c <+: p :=
        List.prefix_of_prefix_length_le hwhole (List.prefix_append _ _) hlength
      rw [List.append_assoc, List.flatMap_cons] at htext
      obtain ⟨⟨more, hmore⟩, hq⟩ := ih hp.of_append (List.append_cancel_left htext)
      exact ⟨⟨c :: more, by rw [List.flatMap_cons, hmore]⟩, hq⟩
    · obtain ⟨rest, hrest⟩ : p <+: String.utf8EncodeChar c :=
        List.prefix_of_prefix_length_le (List.prefix_append _ _) hwhole (by omega)
      rcases hp with rfl | ⟨front, rfl⟩
      · exact ⟨.nil, c :: text, htext⟩
      · have hlong : (String.utf8EncodeChar c).length ≠ 1 := by
          rw [List.length_append, List.length_singleton] at hlength
          omega
        have hmem : lineFeed ∈ String.utf8EncodeChar c := by
          rw [← hrest]
          simp
        exact absurd hmem (lineFeed_notMem_encode hlong)

def fromUtf8 (bytes : List UInt8) : Option String := String.fromUTF8? bytes.toByteArray

def utf8Bytes (text : String) : List UInt8 := text.toUTF8.data.toList

theorem fromUtf8_eq_none : fromUtf8 bytes = none ↔ ¬ ValidUtf8 bytes := by
  rw [validUtf8_iff]
  unfold fromUtf8 String.fromUTF8?
  by_cases h : bytes.toByteArray.IsValidUTF8
  · simp [h]
  · simp [h]

theorem utf8Bytes_of_fromUtf8 {text : String} (h : fromUtf8 bytes = some text) :
    utf8Bytes text = bytes := by
  unfold fromUtf8 String.fromUTF8? at h
  by_cases hvalid : bytes.toByteArray.IsValidUTF8
  · rw [dif_pos hvalid] at h
    cases h
    simp [utf8Bytes, String.fromUTF8]
  · rw [dif_neg hvalid] at h
    cases h

theorem utf8Bytes_valid (text : String) : ValidUtf8 (utf8Bytes text) := by
  rw [validUtf8_iff]
  have hbytes : (utf8Bytes text).toByteArray = text.toUTF8 := by
    apply ByteArray.ext
    simp [utf8Bytes]
  rw [hbytes]
  exact text.isValidUTF8

theorem fromUtf8_utf8Bytes (text : String) : fromUtf8 (utf8Bytes text) = some text := by
  have hvalid := utf8Bytes_valid text
  cases h : fromUtf8 (utf8Bytes text) with
  | none => exact absurd hvalid (fromUtf8_eq_none.mp h)
  | some text' =>
    have hbytes := utf8Bytes_of_fromUtf8 h
    have hsame : text'.toByteArray = text.toByteArray := by
      apply ByteArray.ext
      apply Array.toList_inj.mp
      simpa [utf8Bytes] using hbytes
    rw [String.toByteArray_inj.mp hsame]

theorem utf8Bytes_empty : utf8Bytes "" = [] := by simp [utf8Bytes]

end Framing
