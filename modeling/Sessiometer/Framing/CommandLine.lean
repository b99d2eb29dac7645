import Mathlib.Data.List.Basic

/-! # Lines of words

The words of a line stand apart by white space. Between quotes white space is part of the word, and a
letter behind a backslash stands for itself wherever it is. A line that ends between quotes has no
words. -/

namespace Framing

/-- The letters that mean something on a line of words. -/
structure Quoting (α : Type*) where
  quote : α
  escape : α
  blank : α → Bool
  quote_ne_escape : quote ≠ escape
  quote_solid : blank quote = false
  escape_solid : blank escape = false

namespace Quoting

variable {α : Type*} [DecidableEq α] (q : Quoting α)

/-- The words of what is left, behind the part of a word that has been read. -/
def scan : Bool → Bool → Option (List α) → List α → Option (List (List α))
  | inside, escaped, word, [] => if inside || escaped then none else some word.toList
  | inside, true, word, c :: rest => scan inside false (some (word.getD [] ++ [c])) rest
  | true, false, word, c :: rest =>
    if c = q.quote then scan false false word rest
    else if c = q.escape then scan true true word rest
    else scan true false (some (word.getD [] ++ [c])) rest
  | false, false, word, c :: rest =>
    if c = q.quote then scan true false (some (word.getD [])) rest
    else if c = q.escape then scan false true word rest
    else if q.blank c then (scan false false none rest).map (word.toList ++ ·)
    else scan false false (some (word.getD [] ++ [c])) rest

def words (line : List α) : Option (List (List α)) := q.scan false false none line

/-- How a letter is written between quotes. -/
def spelled (c : α) : List α := if c = q.escape ∨ c = q.quote then [q.escape, c] else [c]

def quoted (token : List α) : List α := q.quote :: token.flatMap q.spelled ++ [q.quote]

/-- A word that may stand without quotes. -/
def Plain (word : List α) : Prop :=
  word ≠ [] ∧ ∀ c ∈ word, c ≠ q.quote ∧ c ≠ q.escape ∧ q.blank c = false

section Scan

variable {q} {word token rest : List α}

theorem scan_spelled (c : α) :
    q.scan true false (some word) (q.spelled c ++ rest) =
      q.scan true false (some (word ++ [c])) rest := by
  by_cases hc : c = q.escape ∨ c = q.quote
  · have hs : q.spelled c = [q.escape, c] := if_pos hc
    rw [hs]
    simp [scan, q.quote_ne_escape.symm]
  · have hs : q.spelled c = [c] := if_neg hc
    rw [hs]
    simp only [not_or] at hc
    simp [scan, hc.1, hc.2]

theorem scan_body (token : List α) :
    q.scan true false (some word) (token.flatMap q.spelled ++ rest) =
      q.scan true false (some (word ++ token)) rest := by
  induction token generalizing word with
  | nil => simp
  | cons c token ih =>
    rw [List.flatMap_cons, List.append_assoc, scan_spelled, ih]
    simp

theorem scan_quoted (token : List α) :
    q.scan false false none (q.quoted token ++ rest) =
      q.scan false false (some token) rest := by
  have hopen : q.scan false false none (q.quoted token ++ rest) =
      q.scan true false (some []) (token.flatMap q.spelled ++ ([q.quote] ++ rest)) := by
    simp [quoted, scan]
  rw [hopen, scan_body]
  simp [scan]

theorem scan_bare (h : ∀ c ∈ token, c ≠ q.quote ∧ c ≠ q.escape ∧ q.blank c = false) :
    q.scan false false (some word) (token ++ rest) =
      q.scan false false (some (word ++ token)) rest := by
  induction token generalizing word with
  | nil => simp
  | cons c token ih =>
    obtain ⟨hquote, hescape, hblank⟩ := h c (by simp)
    have hstep : q.scan false false (some word) (c :: token ++ rest) =
        q.scan false false (some (word ++ [c])) (token ++ rest) := by
      simp [scan, hquote, hescape, hblank]
    rw [hstep, ih fun d hd => h d (by simp [hd])]
    simp

theorem scan_plain (h : q.Plain token) :
    q.scan false false none (token ++ rest) = q.scan false false (some token) rest := by
  obtain ⟨hne, hall⟩ := h
  cases token with
  | nil => exact absurd rfl hne
  | cons c token =>
    obtain ⟨hquote, hescape, hblank⟩ := hall c (by simp)
    have hstep : q.scan false false none (c :: token ++ rest) =
        q.scan false false (some [c]) (token ++ rest) := by
      simp [scan, hquote, hescape, hblank]
    rw [hstep, scan_bare fun d hd => hall d (by simp [hd])]
    simp

end Scan

/-- A word on a line, as it is written there. -/
inductive Piece (α : Type*) where
  | bare (word : List α)
  | quoted (word : List α)

def Piece.word : Piece α → List α
  | .bare word => word
  | .quoted word => word

def text : Piece α → List α
  | .bare word => word
  | .quoted word => q.quoted word

def line (separator : α) : List (Piece α) → List α
  | [] => []
  | [piece] => q.text piece
  | piece :: next :: more => q.text piece ++ separator :: line separator (next :: more)

def WellWritten : Piece α → Prop
  | .bare word => q.Plain word
  | .quoted _ => True

section Line

variable {q} {separator : α} {piece : Piece α} {pieces : List (Piece α)}

theorem scan_text (h : q.WellWritten piece) (rest : List α) :
    q.scan false false none (q.text piece ++ rest) =
      q.scan false false (some piece.word) rest := by
  cases piece with
  | bare word => exact scan_plain h
  | quoted word => exact scan_quoted word

theorem scan_separator (hsep : q.blank separator = true) (word rest : List α) :
    q.scan false false (some word) (separator :: rest) =
      (q.words rest).map ([word] ++ ·) := by
  have hquote : separator ≠ q.quote := by
    rintro rfl
    simp [q.quote_solid] at hsep
  have hescape : separator ≠ q.escape := by
    rintro rfl
    simp [q.escape_solid] at hsep
  simp [scan, words, hquote, hescape, hsep]

/-- The words of a line are the ones that were written on it. -/
theorem words_line (hsep : q.blank separator = true) (h : ∀ p ∈ pieces, q.WellWritten p) :
    q.words (q.line separator pieces) = some (pieces.map Piece.word) := by
  induction pieces with
  | nil => simp [line, words, scan]
  | cons piece more ih =>
    have hpiece := h piece (by simp)
    have ih := ih fun p hp => h p (by simp [hp])
    cases more with
    | nil =>
      have hscan := scan_text hpiece []
      rw [List.append_nil] at hscan
      change q.scan false false none (q.text piece) = _
      rw [hscan]
      simp [scan]
    | cons next more =>
      change q.scan false false none (q.text piece ++ separator :: q.line separator (next :: more)) = _
      rw [scan_text hpiece, scan_separator hsep, ih]
      simp

end Line

/-! ## A line that is cut

A reader that stops at a letter sees the line up to it. -/

section Cut

variable {q} {separator : α} {piece : Piece α} {pieces : List (Piece α)} {keep : α → Bool}

/-- The reader stops inside of quoted words only. -/
structure Keeps (q : Quoting α) (separator : α) (keep : α → Bool) (pieces : List (Piece α)) :
    Prop where
  quote : keep q.quote = true
  escape : keep q.escape = true
  separator : keep separator = true
  bare : ∀ word, .bare word ∈ pieces → ∀ c ∈ word, keep c = true

theorem keep_of_mem_spelled (hescape : keep q.escape = true) {c d : α}
    (hc : keep c = true) (hd : d ∈ q.spelled c) : keep d = true := by
  unfold spelled at hd
  by_cases hspecial : c = q.escape ∨ c = q.quote
  · rw [if_pos hspecial] at hd
    simp only [List.mem_cons, List.not_mem_nil, or_false] at hd
    obtain rfl | rfl := hd
    · exact hescape
    · exact hc
  · rw [if_neg hspecial] at hd
    rw [List.mem_singleton.mp hd]
    exact hc

theorem takeWhile_body (hquote : keep q.quote = true) (hescape : keep q.escape = true)
    {word : List α} (hcut : ∃ c ∈ word, keep c = false) (rest : List α) :
    (word.flatMap q.spelled ++ rest).takeWhile keep =
      (word.takeWhile keep).flatMap q.spelled := by
  induction word with
  | nil => simp at hcut
  | cons c word ih =>
    by_cases hc : keep c = true
    · have hcut' : ∃ c ∈ word, keep c = false := by
        obtain ⟨d, hd, hkeep⟩ := hcut
        obtain rfl | hd := List.mem_cons.mp hd
        · rw [hc] at hkeep
          simp at hkeep
        · exact ⟨d, hd, hkeep⟩
      have hspelled : ∀ d ∈ q.spelled c, keep d = true := fun d hd =>
        keep_of_mem_spelled hescape hc hd
      rw [List.flatMap_cons, List.append_assoc, List.takeWhile_append_of_pos hspelled, ih hcut',
        List.takeWhile_cons_of_pos hc, List.flatMap_cons]
    · have hspecial : ¬(c = q.escape ∨ c = q.quote) := by
        rintro (rfl | rfl)
        · exact hc hescape
        · exact hc hquote
      have hspelled : q.spelled c = [c] := if_neg hspecial
      rw [List.flatMap_cons, hspelled, List.takeWhile_cons_of_neg hc]
      simp [hc]

theorem keep_of_mem_text (h : Keeps q separator keep pieces) (hp : piece ∈ pieces)
    (hword : ∀ c ∈ piece.word, keep c = true) {d : α} (hd : d ∈ q.text piece) : keep d = true := by
  cases piece with
  | bare word => exact hword d hd
  | quoted word =>
    simp only [text, quoted, List.cons_append, List.mem_cons, List.mem_append, List.mem_flatMap,
      List.not_mem_nil, or_false] at hd
    obtain rfl | ⟨c, hc, hd⟩ | rfl := hd
    · exact h.quote
    · exact keep_of_mem_spelled h.escape (hword c hc) hd
    · exact h.quote

omit [DecidableEq α] in
theorem Keeps.tail {more : List (Piece α)} (h : Keeps q separator keep (piece :: more)) :
    Keeps q separator keep more :=
  ⟨h.quote, h.escape, h.separator, fun word hword => h.bare word (by simp [hword])⟩

theorem keep_of_mem_line (h : Keeps q separator keep pieces)
    (hwords : ∀ p ∈ pieces, ∀ c ∈ p.word, keep c = true) {d : α}
    (hd : d ∈ q.line separator pieces) : keep d = true := by
  induction pieces with
  | nil => simp [line] at hd
  | cons piece more ih =>
    have hpiece := fun (hd : d ∈ q.text piece) =>
      keep_of_mem_text h (by simp) (hwords piece (by simp)) hd
    cases more with
    | nil => exact hpiece hd
    | cons next more =>
      simp only [line, List.mem_append, List.mem_cons] at hd
      obtain hd | rfl | hd := hd
      · exact hpiece hd
      · exact h.separator
      · exact ih h.tail (fun p hp => hwords p (by simp [hp])) hd

/-- A line that is cut inside of a word ends between its quotes. -/
theorem words_takeWhile (hsep : q.blank separator = true) (hwell : ∀ p ∈ pieces, q.WellWritten p)
    (h : Keeps q separator keep pieces) (hcut : ∃ p ∈ pieces, ∃ c ∈ p.word, keep c = false) :
    q.words ((q.line separator pieces).takeWhile keep) = none := by
  induction pieces with
  | nil => simp at hcut
  | cons piece more ih =>
    by_cases hpiece : ∃ c ∈ piece.word, keep c = false
    · have htext : ∃ rest, q.line separator (piece :: more) = q.text piece ++ rest := by
        cases more with
        | nil => exact ⟨[], (List.append_nil _).symm⟩
        | cons next more => exact ⟨_, rfl⟩
      obtain ⟨rest, htext⟩ := htext
      rw [htext]
      cases piece with
      | bare word =>
        obtain ⟨c, hc, hkeep⟩ := hpiece
        rw [h.bare word (by simp) c hc] at hkeep
        simp at hkeep
      | quoted word =>
        have hpiece : ∃ c ∈ word, keep c = false := hpiece
        have hline : (q.text (.quoted word) ++ rest).takeWhile keep =
            q.quote :: ((word.takeWhile keep).flatMap q.spelled ++ []) := by
          simp only [text, quoted, List.cons_append, List.append_assoc]
          rw [List.takeWhile_cons_of_pos h.quote, takeWhile_body h.quote h.escape hpiece,
            List.append_nil]
        have hopen : ∀ cs, q.words (q.quote :: cs) = q.scan true false (some []) cs := by
          intro cs
          simp [words, scan]
        rw [hline, hopen, scan_body]
        simp [scan]
    · have hkept : ∀ c ∈ piece.word, keep c = true := by
        intro c hc
        by_contra hkeep
        exact hpiece ⟨c, hc, by simpa using hkeep⟩
      have hmore : ∃ p ∈ more, ∃ c ∈ p.word, keep c = false := by
        obtain ⟨p, hp, hcut⟩ := hcut
        obtain rfl | hp := List.mem_cons.mp hp
        · exact absurd hcut hpiece
        · exact ⟨p, hp, hcut⟩
      have ih := ih (fun p hp => hwell p (by simp [hp])) h.tail hmore
      cases more with
      | nil => simp at hmore
      | cons next more =>
        have htext : ∀ d ∈ q.text piece, keep d = true := fun d hd =>
          keep_of_mem_text h (by simp) hkept hd
        simp only [line]
        rw [List.takeWhile_append_of_pos htext, List.takeWhile_cons_of_pos h.separator]
        change q.scan false false none _ = none
        rw [scan_text (hwell piece (by simp)), scan_separator hsep, ih]
        rfl

end Cut

end Quoting

end Framing
