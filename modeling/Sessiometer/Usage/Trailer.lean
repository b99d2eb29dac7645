import Sessiometer.Framing.Decimal
import Sessiometer.Framing.Lossy
import Sessiometer.Model.Credential

/-! # What `curl` prints

The body, the status on a line of its own, and on the last line the value of the `Retry-After`
header. -/

namespace Sessiometer

open Framing

/-- `str::trim`. -/
def trim (cs : List Char) : List Char :=
  ((cs.dropWhile isWhitespace).reverse.dropWhile isWhitespace).reverse

/-- `str::rsplit_once`: what stands before the last separator, and after it. -/
def rsplitOnce (sep : Char) (cs : List Char) : Option (List Char × List Char) :=
  (rposition (fun c => decide (c = sep)) cs).map (fun pos => (cs.take pos, cs.drop (pos + 1)))

/-- The status is zero where there was no response. The back-off is in seconds. -/
structure HttpResponse where
  status : ℕ
  body : List Char
  retryAfter : Option ℕ
deriving DecidableEq

def parseRetryAfter (value : List Char) : Option ℕ := parseUnsigned 18446744073709551616 (trim value)

def parseStatusCode (code : List Char) : ℕ := (parseUnsigned 65536 (trim code)).getD 0

def parseCurlOutput (stdout : List UInt8) : HttpResponse :=
  let text := fromUtf8Lossy stdout
  match rsplitOnce '\n' text with
  | none => ⟨parseStatusCode text, [], none⟩
  | some (rest, retryAfterLine) =>
    let retryAfter := parseRetryAfter retryAfterLine
    match rsplitOnce '\n' rest with
    | some (body, code) => ⟨parseStatusCode code, body, retryAfter⟩
    | none => ⟨parseStatusCode rest, [], retryAfter⟩

/-- The `write-out` of the request, behind the body. -/
def curlOutput (body : List UInt8) (httpCode : ℕ) (retryAfter : List UInt8) : List UInt8 :=
  body ++ lineFeed :: ((padded 3 httpCode).flatMap String.utf8EncodeChar ++ lineFeed :: retryAfter)

section Trailer

variable {cs before after : List Char} {sep : Char}

theorem trim_of_plain (h : ∀ c ∈ cs, isWhitespace c = false) : trim cs = cs := by
  have hkeep : ∀ ds : List Char, (∀ c ∈ ds, isWhitespace c = false) →
      ds.dropWhile isWhitespace = ds := by
    intro ds hds
    cases ds with
    | nil => rfl
    | cons d ds => rw [List.dropWhile_cons, hds d List.mem_cons_self, if_neg Bool.false_ne_true]
  unfold trim
  rw [hkeep cs h, hkeep cs.reverse (fun c hc => h c (List.mem_reverse.mp hc)), List.reverse_reverse]

theorem isWhitespace_of_isDigit {c : Char} (h : c.isDigit = true) : isWhitespace c = false := by
  have hbounds := isDigit_iff.mp h
  unfold isWhitespace
  simp only [List.mem_cons, List.not_mem_nil, or_false, Bool.or_eq_false_iff, decide_eq_false_iff_not,
    Bool.and_eq_false_iff]
  omega

theorem trim_padded (width n : ℕ) : trim (padded width n) = padded width n :=
  trim_of_plain (fun c hc => isWhitespace_of_isDigit (isDigit_of_mem_padded c hc))

theorem rsplitOnce_append (h : sep ∉ after) :
    rsplitOnce sep (before ++ sep :: after) = some (before, after) := by
  have hnone : ∀ c ∈ after, decide (c = sep) = false := by
    intro c hc
    have hne : c ≠ sep := by
      rintro rfl
      exact h hc
    simp [hne]
  have hsplit : before ++ sep :: after = (before ++ [sep]) ++ after := by simp
  have hpos : rposition (fun c => decide (c = sep)) (before ++ sep :: after) = some before.length := by
    rw [hsplit, rposition_append hnone, rposition_snoc (by simp)]
  unfold rsplitOnce
  rw [hpos, Option.map_some, List.take_left, hsplit, List.drop_left' (by simp)]

/-- The body, the status and the header are recovered, whatever lines the body has. -/
theorem parseCurlOutput_curlOutput {retryAfter : List UInt8} (h : lineFeed ∉ retryAfter)
    (body : List UInt8) (httpCode : ℕ) : parseCurlOutput (curlOutput body httpCode retryAfter) =
      ⟨if httpCode < 65536 then httpCode else 0, fromUtf8Lossy body,
        parseRetryAfter (fromUtf8Lossy retryAfter)⟩ := by
  have hstatus : parseStatusCode (padded 3 httpCode) = if httpCode < 65536 then httpCode else 0 := by
    unfold parseStatusCode
    rw [trim_padded, parseUnsigned_padded_eq]
    split <;> rfl
  have hdigits : '\n' ∉ padded 3 httpCode := notMem_padded rfl
  have htext : fromUtf8Lossy (curlOutput body httpCode retryAfter) =
      (fromUtf8Lossy body ++ '\n' :: padded 3 httpCode) ++ '\n' :: fromUtf8Lossy retryAfter := by
    unfold curlOutput
    rw [fromUtf8Lossy_append, fromUtf8Lossy_append, fromUtf8Lossy_encode]
    simp
  unfold parseCurlOutput
  dsimp only
  rw [htext, rsplitOnce_append (newline_notMem_fromUtf8Lossy h)]
  dsimp only
  rw [rsplitOnce_append hdigits]
  dsimp only
  rw [hstatus]

theorem parseRetryAfter_padded (width n : ℕ) : parseRetryAfter (padded width n) =
    if n < 18446744073709551616 then some n else none := by
  unfold parseRetryAfter
  rw [trim_padded, parseUnsigned_padded_eq]

end Trailer

end Sessiometer
