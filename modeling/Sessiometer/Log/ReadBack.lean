import Sessiometer.Log.Records

/-! # What the records are read back as

The line of an event cannot be cut, and neither reader takes what a label spells for a field of the line. -/

namespace Sessiometer.Log

open Framing

/-! ## One line -/

section Encoding

variable {p q line : Text} {c : Char}

theorem percentEncode_append (f : Char → Bool) :
    percentEncode (p ++ q) f = percentEncode p f ++ percentEncode q f := List.flatMap_append

theorem percentEncode_of_free {f : Char → Bool} (h : ∀ c ∈ p, f c = false) : percentEncode p f = p := by
  induction p with
  | nil => rfl
  | cons c p ih =>
    have hc := h c List.mem_cons_self
    have htail := ih (fun d hd => h d (List.mem_cons_of_mem _ hd))
    have hcons : percentEncode (c :: p) f = percentEncode [c] f ++ percentEncode p f := percentEncode_append (p := [c]) f
    rw [hcons, htail]
    simp [percentEncode, hc]

theorem singleLine_eq : singleLine line = percentEncode line isControl := by
  unfold singleLine
  by_cases h : line.any isControl = true
  · rw [if_pos h]
  · rw [if_neg h]
    have hfree : ∀ c ∈ line, isControl c = false := by
      intro c hc
      by_contra hcontrol
      exact h (List.any_eq_true.mpr ⟨c, hc, by simpa using hcontrol⟩)
    rw [percentEncode_of_free hfree]

theorem singleLine_append : singleLine (p ++ q) = singleLine p ++ singleLine q := by
  rw [singleLine_eq, singleLine_eq, singleLine_eq, percentEncode_append]

/-- A text without control characters is written as it is. -/
theorem singleLine_of_free (h : ∀ c ∈ p, isControl c = false) : singleLine p = p := by
  rw [singleLine_eq, percentEncode_of_free h]

theorem isControl_hexDigit (n : ℕ) : isControl (hexDigit n) = false := by
  have hall : ('0' :: "0123456789ABCDEF".toList).all (fun d => !isControl d) = true := by decide
  rw [← Bool.not_eq_true']
  apply List.all_eq_true.mp hall
  unfold hexDigit
  rw [List.getD_eq_getElem?_getD]
  cases h : "0123456789ABCDEF".toList[n]? with
  | none => exact List.mem_cons_self
  | some d => exact List.mem_cons_of_mem _ (List.mem_of_getElem? h)

/-- Nothing that is written cuts the line. -/
theorem isControl_of_mem_singleLine (h : c ∈ singleLine line) : isControl c = false := by
  rw [singleLine_eq] at h
  unfold percentEncode at h
  obtain ⟨d, -, hd⟩ := List.mem_flatMap.mp h
  by_cases hcontrol : isControl d = true
  · rw [if_pos hcontrol] at hd
    obtain ⟨byte, -, hbyte⟩ := List.mem_flatMap.mp hd
    simp only [List.mem_cons, List.not_mem_nil, or_false] at hbyte
    rcases hbyte with rfl | rfl | rfl
    · rfl
    · exact isControl_hexDigit _
    · exact isControl_hexDigit _
  · rw [if_neg hcontrol] at hd
    rw [List.mem_singleton.mp hd]
    simpa using hcontrol

end Encoding

/-! ## The lines of a text -/

section Lines

variable {p q line : Text}

theorem splitInclusive_cons (hline : '\n' ∉ line) :
    splitInclusive (line ++ '\n' :: q) = (line ++ ['\n']) :: splitInclusive q := by
  induction line with
  | nil => simp [splitInclusive]
  | cons c line ih =>
    have hc : c ≠ '\n' := by
      rintro rfl
      exact hline List.mem_cons_self
    have htail := ih (fun h => hline (List.mem_cons_of_mem _ h))
    rw [List.cons_append, splitInclusive, if_neg hc, htail]
    rfl

theorem splitInclusive_ne_nil (hp : p ≠ []) : splitInclusive p ≠ [] := by
  obtain ⟨c, rest, rfl⟩ := List.exists_cons_of_ne_nil hp
  unfold splitInclusive
  split
  · exact List.cons_ne_nil _ _
  · split <;> exact List.cons_ne_nil _ _

theorem splitInclusive_append (hp : Terminated '\n' p) :
    splitInclusive (p ++ q) = splitInclusive p ++ splitInclusive q := by
  induction p with
  | nil => rfl
  | cons c rest ih =>
    have hrest : Terminated '\n' rest := Terminated.of_append (p := [c]) hp
    have htail := ih hrest
    by_cases hc : c = '\n'
    · rw [List.cons_append, splitInclusive, splitInclusive, if_pos hc, if_pos hc, htail]
      rfl
    · have hne : rest ≠ [] := by
        rintro rfl
        rcases hp with hp | ⟨front, hfront⟩
        · exact absurd hp (List.cons_ne_nil _ _)
        · have hlast := List.append_inj' (show [] ++ [c] = front ++ ['\n'] from hfront) rfl
          exact hc (List.singleton_inj.mp hlast.2)
      obtain ⟨line, more, hlines⟩ := List.exists_cons_of_ne_nil (splitInclusive_ne_nil hne)
      rw [List.cons_append, splitInclusive, splitInclusive, if_neg hc, if_neg hc, htail, hlines]
      rfl

theorem lines_append (hp : Terminated '\n' p) : lines (p ++ q) = lines p ++ lines q := by
  unfold lines
  rw [splitInclusive_append hp, List.map_append]

theorem stripEnd_line (hline : ∀ c ∈ line, isControl c = false) : stripEnd (line ++ ['\n']) = line := by
  have hreturn : line.getLast? ≠ some '\r' := by
    intro hlast
    exact absurd (hline _ (List.mem_of_getLast? hlast)) (by decide)
  unfold stripEnd
  rw [List.getLast?_concat, if_pos rfl, List.dropLast_concat, if_neg hreturn]

theorem lines_line (hline : ∀ c ∈ line, isControl c = false) : lines (line ++ ['\n']) = [line] := by
  have hnot : '\n' ∉ line := fun h => absurd (hline _ h) (by decide)
  unfold lines
  rw [splitInclusive_cons hnot, splitInclusive, List.map_singleton, stripEnd_line hline]

/-- What a line without its end begins is read together with what is appended next. -/
theorem lines_torn (hp : '\n' ∉ p) (hline : ∀ c ∈ line, isControl c = false) (hne : line ≠ []) :
    lines (p ++ (line ++ ['\n'])) = [p ++ line] := by
  have hnot : '\n' ∉ p ++ line := by
    rw [List.mem_append]
    exact fun h => h.elim hp (fun h => absurd (hline _ h) (by decide))
  have hreturn : (p ++ line).getLast? ≠ some '\r' := by
    rw [List.getLast?_append_of_ne_nil _ hne]
    intro hlast
    exact absurd (hline _ (List.mem_of_getLast? hlast)) (by decide)
  unfold lines
  rw [← List.append_assoc, splitInclusive_cons hnot, splitInclusive, List.map_singleton]
  unfold stripEnd
  rw [List.getLast?_concat, if_pos rfl, List.dropLast_concat, if_neg hreturn]

end Lines

/-! ## The bytes of the file -/

section Bytes

variable {text p q : Text}

theorem readToString_encode : readToString (encode text) = some text := by
  have hbytes : utf8Bytes (String.ofList text) = encode text := by
    unfold utf8Bytes encode
    rw [String.toUTF8_eq_toByteArray, String.toByteArray_ofList]
    simp [List.utf8Encode]
  unfold readToString
  rw [← hbytes, fromUtf8_utf8Bytes, Option.map_some, String.toList_ofList]

theorem encode_append : encode (p ++ q) = encode p ++ encode q := List.flatMap_append

theorem eq_newline_of_encode {c : Char} {start : List UInt8}
    (h : encode (p ++ [c]) = start ++ [lineFeed]) : c = '\n' := by
  have hwhole : encode p ++ String.utf8EncodeChar c = start ++ [lineFeed] := by
    rw [encode_append] at h
    simpa [encode] using h
  have hne : String.utf8EncodeChar c ≠ [] := by
    intro hnil
    have hlength := String.length_utf8EncodeChar c
    have hpos := Char.utf8Size_pos c
    rw [hnil, List.length_nil] at hlength
    omega
  have hlast : (String.utf8EncodeChar c).getLast? = some lineFeed := by
    have hlasts := congrArg List.getLast? hwhole
    rwa [List.getLast?_append_of_ne_nil _ hne, List.getLast?_concat] at hlasts
  have hlength : (String.utf8EncodeChar c).length = 1 := by
    by_contra hlong
    exact lineFeed_notMem_encode hlong (List.mem_of_getLast? hlast)
  have hsize : c.utf8Size = 1 := by rw [← String.length_utf8EncodeChar, hlength]
  rw [String.utf8EncodeChar_eq_singleton hsize, List.getLast?_singleton] at hlast
  have hbyte := congrArg UInt8.toNat (Option.some.inj hlast)
  rw [UInt32.toNat_toUInt8] at hbyte
  have hle : c.val.toNat ≤ 127 := Char.utf8Size_eq_one_iff.mp hsize
  have hfeed : lineFeed.toNat = 10 := rfl
  apply Char.toNat_inj.mp
  change c.val.toNat = 10
  omega

theorem terminated_encode : Terminated lineFeed (encode text) ↔ Terminated '\n' text := by
  induction text using List.reverseRecOn with
  | nil => simp [encode, Terminated]
  | append_singleton front c _ =>
    constructor
    · rintro (h | ⟨start, h⟩)
      · rw [encode_append, List.append_eq_nil_iff] at h
        have hlength := String.length_utf8EncodeChar c
        have hpos := Char.utf8Size_pos c
        have hnil : String.utf8EncodeChar c = [] := by simpa [encode] using h.2
        rw [hnil, List.length_nil] at hlength
        omega
      · rw [eq_newline_of_encode h]
        exact .inr ⟨front, rfl⟩
    · rintro (h | ⟨start, h⟩)
      · simp at h
      · have hc := (List.append_inj' h rfl).2
        have hfeed : encode ['\n'] = [lineFeed] := by decide
        rw [hc, encode_append, hfeed]
        exact .inr ⟨encode front, rfl⟩

theorem readToString_eq_none {file : List UInt8} (h : ¬ ValidUtf8 file) : readToString file = none := by
  unfold readToString
  rw [fromUtf8_eq_none.mpr h, Option.map_none]

end Bytes

/-! ## The fields of a line -/

/-- Neither a control character nor a space. -/
def Solid (cs : Text) : Prop := ∀ c ∈ cs, isControl c = false ∧ c ≠ ' '

section Fields

variable {p q value : Text} {ts : SystemTime} {event : Event}

theorem dropPrefix?_append (p q : Text) : (p ++ q).dropPrefix? p = some q :=
  List.dropPrefix?_eq_some_iff.mpr ⟨p, rfl, BEq.rfl⟩

theorem solid_of_all (h : p.all (fun c => !isControl c && c != ' ') = true) : Solid p := by
  intro c hc
  have hboth := List.all_eq_true.mp h c hc
  rw [Bool.and_eq_true, Bool.not_eq_true', bne_iff_ne] at hboth
  exact hboth

theorem Solid.append (hp : Solid p) (hq : Solid q) : Solid (p ++ q) := by
  intro c hc
  exact (List.mem_append.mp hc).elim (hp c) (hq c)

theorem Solid.free (hp : Solid p) : ∀ c ∈ p, isControl c = false := fun c hc => (hp c hc).1

theorem Solid.noSpace (hp : Solid p) : ' ' ∉ p := fun h => (hp ' ' h).2 rfl

theorem solid_digit {c : Char} (hc : c.isDigit = true) : isControl c = false ∧ c ≠ ' ' := by
  have hbounds := isDigit_iff.mp hc
  constructor
  · simp only [isControl, Bool.or_eq_false_iff, Bool.and_eq_false_iff, decide_eq_false_iff_not]
    omega
  · rintro rfl
    exact absurd hbounds (by decide)

theorem solid_padded {width n : ℕ} : Solid (padded width n) := fun c hc => solid_digit (isDigit_of_mem_padded c hc)

theorem solid_digits {n : ℕ} : Solid (Nat.toDigits 10 n) :=
  fun c hc => solid_digit (Nat.isDigit_of_mem_toDigits (by decide) (by decide) hc)

theorem solid_decimal {n : ℤ} : Solid (decimal n) := by
  unfold decimal
  apply Solid.append _ solid_digits
  split
  · exact solid_of_all (by decide)
  · intro c hc
    cases hc

theorem solid_singleton {c : Char} (hc : isControl c = false) (hspace : c ≠ ' ') : Solid [c] := by
  intro d hd
  rw [List.mem_singleton.mp hd]
  exact ⟨hc, hspace⟩

theorem solid_rfc3339 : Solid (rfc3339 ts) := by
  unfold rfc3339 dateText timeText
  apply Solid.append
  · exact (solid_padded.append ((solid_singleton rfl (by decide)).append solid_padded)).append
      ((solid_singleton rfl (by decide)).append solid_padded)
  · apply (solid_singleton (c := 'T') rfl (by decide)).append
    apply Solid.append
    · exact (solid_padded.append ((solid_singleton rfl (by decide)).append solid_padded)).append
        ((solid_singleton rfl (by decide)).append solid_padded)
    · exact solid_singleton rfl (by decide)

theorem OtherEvent.token_solid (e : OtherEvent) : Solid e.token.toList := by
  apply solid_of_all
  cases e <;> decide

/-- No other event is written as one of the events that the readers look for. -/
theorem OtherEvent.key_ne (e : OtherEvent) :
    "event=".toList ++ e.token.toList ≠ "event=swap".toList ∧
      "event=".toList ++ e.token.toList ≠ "event=emergency_swap".toList ∧
      "event=".toList ++ e.token.toList ≠ "event=refresh".toList := by
  cases e <;> decide

theorem solid_token : Solid event.token.toList := by
  cases event with
  | other event fields => exact event.token_solid
  | swap =>
    have hsolid : Solid "swap".toList := solid_of_all (by decide)
    exact hsolid
  | emergencySwap =>
    have hsolid : Solid "emergency_swap".toList := solid_of_all (by decide)
    exact hsolid
  | refresh =>
    have hsolid : Solid "refresh".toList := solid_of_all (by decide)
    exact hsolid

/-- A line starts with its stamp and what happened. -/
theorem toLogLine_eq : event.toLogLine ts =
    ("ts=".toList ++ rfc3339 ts) ++ ' ' :: (("event=".toList ++ event.token.toList) ++
      singleLine (event.fields.flatMap fieldText)) := by
  have hts : Solid "ts=".toList := solid_of_all (by decide)
  have hkey : Solid "event=".toList := solid_of_all (by decide)
  have hspace : " event=".toList = ' ' :: "event=".toList := rfl
  unfold Event.toLogLine
  rw [singleLine_append, hspace]
  have hfront : ∀ c ∈ "ts=".toList ++ rfc3339 ts ++ ' ' :: "event=".toList ++ event.token.toList,
      isControl c = false := by
    intro c hc
    simp only [List.mem_append, List.mem_cons] at hc
    rcases hc with ((hc | hc) | rfl | hc) | hc
    · exact hts.free c hc
    · exact solid_rfc3339.free c hc
    · rfl
    · exact hkey.free c hc
    · exact solid_token.free c hc
  rw [singleLine_of_free hfront]
  simp only [List.append_assoc, List.cons_append]

theorem fieldsText_cases (fields : List Field) :
    singleLine (fields.flatMap fieldText) = [] ∨
      ∃ rest, singleLine (fields.flatMap fieldText) = ' ' :: rest := by
  cases fields with
  | nil => exact .inl rfl
  | cons f fields =>
    right
    have hspace : singleLine [' '] = [' '] := rfl
    have hfield : (f :: fields).flatMap fieldText = [' '] ++ ((f.1 ++ '=' :: f.2) ++ fields.flatMap fieldText) := rfl
    rw [hfield, singleLine_append, hspace]
    exact ⟨_, rfl⟩

theorem solid_front : Solid ("ts=".toList ++ rfc3339 ts) :=
  Solid.append (solid_of_all (by decide)) solid_rfc3339

theorem solid_key : Solid ("event=".toList ++ event.token.toList) :=
  Solid.append (solid_of_all (by decide)) solid_token

/-- The second field of a line is what happened, whatever the other fields spell. -/
theorem second_field : ((event.toLogLine ts).splitOn ' ')[1]? = some ("event=".toList ++ event.token.toList) := by
  rw [toLogLine_eq, List.splitOn_append_cons_self_of_not_mem solid_front.noSpace]
  rcases fieldsText_cases event.fields with hnil | ⟨rest, hrest⟩
  · rw [hnil, List.append_nil, List.splitOn_eq_singleton solid_key.noSpace]
    rfl
  · rw [hrest, List.splitOn_append_cons_self_of_not_mem solid_key.noSpace]
    rfl

def isSwap : Event → Bool
  | .swap .. => true
  | .emergencySwap .. => true
  | .refresh .. => false
  | .other .. => false

theorem isSwapKey_token (event : Event) :
    isSwapKey ("event=".toList ++ event.token.toList) = isSwap event := by
  cases event with
  | other event fields =>
    obtain ⟨hswap, hemergency, -⟩ := event.key_ne
    unfold isSwapKey Event.token
    rw [decide_eq_false hswap, decide_eq_false hemergency]
    rfl
  | swap =>
    have hkey : isSwapKey ("event=".toList ++ "swap".toList) = true := by decide
    exact hkey
  | emergencySwap =>
    have hkey : isSwapKey ("event=".toList ++ "emergency_swap".toList) = true := by decide
    exact hkey
  | refresh =>
    have hkey : isSwapKey ("event=".toList ++ "refresh".toList) = false := by decide
    exact hkey

theorem isSwapLine_toLogLine : isSwapLine (event.toLogLine ts) = isSwap event := by
  unfold isSwapLine
  rw [second_field, Option.any_some, isSwapKey_token]

/-- The instant that a stamp is read back as. -/
def stampRead (ts : SystemTime) : Option SystemTime :=
  if wholeSeconds ts < yearTenThousand then some (systemTimeFromEpoch (wholeSeconds ts)) else none

theorem lineInstant_toLogLine : lineInstant (event.toLogLine ts) = stampRead ts := by
  have hstamp : ∀ c ∈ rfc3339 ts, decide (c ≠ ' ') = true := fun c hc => decide_eq_true (solid_rfc3339 c hc).2
  have hcut := dropPrefix?_append "ts=".toList (rfc3339 ts ++ ' ' :: (("event=".toList ++ event.token.toList) ++
    singleLine (event.fields.flatMap fieldText)))
  unfold lineInstant stampRead
  rw [toLogLine_eq, List.append_assoc, hcut, Option.bind_eq_bind, Option.bind_some,
    List.takeWhile_append_of_pos hstamp]
  simp only [List.takeWhile_cons_of_neg, ne_eq, not_true_eq_false, decide_false, Bool.false_eq_true,
    not_false_eq_true, List.append_nil, epochFromRfc3339_rfc3339]
  by_cases hyear : wholeSeconds ts < yearTenThousand
  · rw [if_pos hyear, if_pos hyear, Option.bind_eq_bind, Option.bind_some, if_pos (Int.natCast_nonneg _)]
  · rw [if_neg hyear, if_neg hyear]
    rfl

end Fields

/-! ## The line of a refresh -/

section Refreshes

variable {p q rest value : Text} {c : Char} {fields : List Field} {ts : SystemTime} {event : Event}

/-- What stands before a text in which the pattern occurs stands before what is found. -/
theorem rsplitOnce_append {pat before after : Text} (h : rsplitOnce pat q = some (before, after)) :
    rsplitOnce pat (p ++ q) = some (p ++ before, after) := by
  induction p with
  | nil => exact h
  | cons c p ih => simp only [List.cons_append, rsplitOnce, ih]

/-- A text that does not have the first character of the pattern leaves what is found as it is. -/
theorem rsplitOnce_none_append {pat : Text} (hp : c ∉ p) (h : rsplitOnce (c :: pat) q = none) :
    rsplitOnce (c :: pat) (p ++ q) = none := by
  induction p with
  | nil => exact h
  | cons d p ih =>
    have hd : ¬ c = d := fun heq => hp (heq ▸ List.mem_cons_self)
    have htail := ih (fun hmem => hp (List.mem_cons_of_mem _ hmem))
    have hpre : List.isPrefixOf (c :: pat) (d :: (p ++ q)) = false := by
      simp [List.isPrefixOf, hd]
    simp only [List.cons_append, rsplitOnce, htail, hpre]
    rfl

/-- A name that the outcome's name does not begin like, and a value that does not leave its field. -/
def Apart (field : Field) : Prop := Solid field.1 ∧ Solid field.2 ∧ field.1.head? ≠ some 'o'

theorem rsplitOnce_fields (h : ∀ f ∈ fields, Apart f) :
    rsplitOnce " outcome=".toList (fields.flatMap fieldText) = none := by
  have hpat : " outcome=".toList = ' ' :: 'o' :: "utcome=".toList := rfl
  rw [hpat]
  induction fields with
  | nil => rfl
  | cons f fields ih =>
    obtain ⟨hname, hvalue, hhead⟩ := h f List.mem_cons_self
    have htail := ih (fun g hg => h g (List.mem_cons_of_mem _ hg))
    have hsolid : ' ' ∉ f.1 ++ '=' :: f.2 :=
      (hname.append ((solid_singleton rfl (by decide)).append hvalue)).noSpace
    have hrest := rsplitOnce_none_append hsolid htail
    have hfirst : ((f.1 ++ '=' :: f.2) ++ fields.flatMap fieldText).head? ≠ some 'o' := by
      cases hn : f.1 with
      | nil => simp
      | cons n name => simpa [hn] using hhead
    have hpre : List.isPrefixOf (' ' :: 'o' :: "utcome=".toList)
        (' ' :: ((f.1 ++ '=' :: f.2) ++ fields.flatMap fieldText)) = false := by
      generalize (f.1 ++ '=' :: f.2) ++ fields.flatMap fieldText = text at *
      cases text with
      | nil => rfl
      | cons d text =>
        have hd : ¬ 'o' = d := fun heq => hfirst (heq ▸ rfl)
        simp [List.isPrefixOf, hd]
    have hfield : (f :: fields).flatMap fieldText =
        ' ' :: ((f.1 ++ '=' :: f.2) ++ fields.flatMap fieldText) := rfl
    rw [hfield, rsplitOnce, hrest]
    dsimp only
    rw [hpre]
    rfl

/-- The last outcome on a line is the one that the writer put there. -/
theorem rsplitOnce_outcome (hp : Solid p) (h : ∀ f ∈ fields, Apart f) :
    rsplitOnce " outcome=".toList (" outcome=".toList ++ (p ++ fields.flatMap fieldText)) =
      some ([], p ++ fields.flatMap fieldText) := by
  have hname : Solid "outcome=".toList := solid_of_all (by decide)
  have hrest : rsplitOnce (' ' :: "outcome=".toList) ("outcome=".toList ++ (p ++ fields.flatMap fieldText)) = none :=
    rsplitOnce_none_append hname.noSpace (rsplitOnce_none_append hp.noSpace (rsplitOnce_fields h))
  have hpat : " outcome=".toList = ' ' :: "outcome=".toList := by decide
  have hpre : List.isPrefixOf (' ' :: "outcome=".toList)
      (' ' :: ("outcome=".toList ++ (p ++ fields.flatMap fieldText))) = true := by
    rw [List.isPrefixOf_iff_prefix]
    exact List.prefix_append (' ' :: "outcome=".toList) _
  rw [hpat, List.cons_append, rsplitOnce, hrest]
  dsimp only
  rw [if_pos hpre, ← List.cons_append, List.drop_left]

theorem apart_field {name : String} (hname : Solid name.toList) (hhead : name.toList.head? ≠ some 'o')
    (hvalue : Solid value) : Apart (field name value) := ⟨hname, hvalue, hhead⟩

theorem refreshTrail_apart (outcome : RefreshEventOutcome) (expiresBefore expiresAfter : Option ℤ)
    (reason : Option RefreshEventReason) (backoffSecs : Option ℕ) :
    ∀ f ∈ refreshTrail outcome expiresBefore expiresAfter reason backoffSecs, Apart f := by
  have hbool : ∀ b : Bool, Solid (boolText b) := by
    intro b
    apply solid_of_all
    cases b <;> decide
  have hreason : ∀ r : RefreshEventReason, Solid (RefreshEventReason.asStr r).toList := by
    intro r
    apply solid_of_all
    cases r <;> decide
  have hnames : ∀ name ∈ ["expires_before", "expires_after", "rotated", "reason", "backoff_secs", "window_secs"],
      Solid name.toList ∧ name.toList.head? ≠ some 'o' := by
    intro name hname
    have hboth : ∀ name ∈ ["expires_before", "expires_after", "rotated", "reason", "backoff_secs", "window_secs"],
        name.toList.all (fun c => !isControl c && c != ' ') = true ∧ name.toList.head? ≠ some 'o' := by decide
    exact ⟨solid_of_all (hboth name hname).1, (hboth name hname).2⟩
  have happly : ∀ name ∈ ["expires_before", "expires_after", "rotated", "reason", "backoff_secs", "window_secs"],
      ∀ value, Solid value → Apart (field name value) :=
    fun name hname value hvalue => apart_field (hnames name hname).1 (hnames name hname).2 hvalue
  intro f hf
  simp only [refreshTrail, List.mem_append, Option.mem_toList, Option.map_eq_some_iff] at hf
  rcases hf with ((((⟨ms, -, rfl⟩ | ⟨ms, -, rfl⟩) | ⟨b, -, rfl⟩) | ⟨r, -, rfl⟩) | ⟨secs, -, rfl⟩) | hf
  · exact happly _ (by decide) _ solid_rfc3339
  · exact happly _ (by decide) _ solid_rfc3339
  · exact happly _ (by decide) _ (hbool b)
  · exact happly _ (by decide) _ (hreason r)
  · exact happly _ (by decide) _ solid_digits
  · split at hf
    · rw [List.mem_singleton.mp hf]
      exact happly _ (by decide) _ solid_decimal
    · cases hf

theorem free_of_apart (h : ∀ f ∈ fields, Apart f) : ∀ c ∈ fields.flatMap fieldText, isControl c = false := by
  intro c hc
  obtain ⟨f, hf, hcf⟩ := List.mem_flatMap.mp hc
  obtain ⟨hname, hvalue, -⟩ := h f hf
  rcases List.mem_cons.mp hcf with rfl | hcf
  · rfl
  · exact (hname.append ((solid_singleton rfl (by decide)).append hvalue)).free c hcf

theorem takeWhile_fields (hp : Solid p) (fields : List Field) :
    (p ++ fields.flatMap fieldText).takeWhile (· ≠ ' ') = p := by
  rw [List.takeWhile_append_of_pos (fun c hc => decide_eq_true (hp c hc).2)]
  cases fields with
  | nil => simp
  | cons f fields => simp [fieldText]

theorem solid_asStr (k : RefreshEventOutcomeKind) : Solid k.asStr.toList := by
  apply solid_of_all
  cases k <;> decide

theorem fromToken_asStr (k : RefreshEventOutcomeKind) :
    RefreshEventOutcomeKind.fromToken k.asStr.toList = some k := by
  cases k <;> decide

theorem refreshOf_other (hkey : "event=".toList ++ event.token.toList ≠ "event=refresh".toList) :
    refreshOf (event.toLogLine ts) = none := by
  unfold refreshOf
  rw [toLogLine_eq, splitOnce_append solid_front.noSpace, Option.bind_eq_bind, Option.bind_some]
  dsimp only
  rcases fieldsText_cases event.fields with hnil | ⟨rest, hrest⟩
  · have hnone : splitOnce ' ' ("event=".toList ++ event.token.toList) = none := by
      unfold splitOnce
      rw [if_neg solid_key.noSpace]
    rw [hnil, List.append_nil, hnone]
    rfl
  · rw [hrest, splitOnce_append solid_key.noSpace, Option.bind_eq_bind, Option.bind_some]
    dsimp only
    rw [if_neg hkey]

/-- The line of a refresh is read as the account that it is about, whatever the label spells. -/
theorem refreshOf_refresh (account : Text) (outcome : RefreshEventOutcome) (expiresBefore expiresAfter : Option ℤ)
    (reason : Option RefreshEventReason) (backoffSecs : Option ℕ) :
    refreshOf ((Event.refresh account outcome expiresBefore expiresAfter reason backoffSecs).toLogLine ts) =
      some (singleLine account, kind outcome) := by
  have htrail := refreshTrail_apart outcome expiresBefore expiresAfter reason backoffSecs
  generalize hfields : refreshTrail outcome expiresBefore expiresAfter reason backoffSecs = trail at htrail
  have hline : singleLine ((Event.refresh account outcome expiresBefore expiresAfter reason backoffSecs).fields.flatMap
      fieldText) = ' ' :: ("account=".toList ++ (singleLine account ++ (" outcome=".toList ++
        ((kind outcome).asStr.toList ++ trail.flatMap fieldText)))) := by
    have hfree : ∀ c ∈ " outcome=".toList ++ ((kind outcome).asStr.toList ++ trail.flatMap fieldText),
        isControl c = false := by
      intro c hc
      rcases List.mem_append.mp hc with hc | hc
      · have hall : " outcome=".toList.all (fun c => !isControl c) = true := by decide
        rw [← Bool.not_eq_true']
        exact List.all_eq_true.mp hall c hc
      · rcases List.mem_append.mp hc with hc | hc
        · exact (solid_asStr _).free c hc
        · exact free_of_apart htrail c hc
    have hsplit : (Event.refresh account outcome expiresBefore expiresAfter reason backoffSecs).fields.flatMap
        fieldText = " account=".toList ++ (account ++ (" outcome=".toList ++
          ((kind outcome).asStr.toList ++ trail.flatMap fieldText))) := by
      have haccount : " account=".toList = ' ' :: "account".toList ++ ['='] := by decide
      have houtcome : " outcome=".toList = ' ' :: "outcome".toList ++ ['='] := by decide
      simp only [Event.fields, hfields, List.flatMap_cons, haccount, houtcome, fieldText, field,
        List.append_assoc, List.cons_append, List.nil_append]
    have haccount : singleLine " account=".toList = ' ' :: "account=".toList := by decide
    rw [hsplit, singleLine_append, singleLine_append, singleLine_of_free hfree, haccount]
    rfl
  have hkey : "event=".toList ++ (Event.refresh account outcome expiresBefore expiresAfter reason
      backoffSecs).token.toList = "event=refresh".toList := by
    change "event=".toList ++ "refresh".toList = "event=refresh".toList
    decide
  have hlast : rsplitOnce " outcome=".toList (singleLine account ++ (" outcome=".toList ++
      ((kind outcome).asStr.toList ++ trail.flatMap fieldText))) =
      some (singleLine account, (kind outcome).asStr.toList ++ trail.flatMap fieldText) := by
    have hfound := rsplitOnce_append (p := singleLine account) (rsplitOnce_outcome (solid_asStr (kind outcome)) htrail)
    rwa [List.append_nil] at hfound
  unfold refreshOf
  rw [toLogLine_eq, splitOnce_append solid_front.noSpace, Option.bind_eq_bind, Option.bind_some]
  dsimp only
  rw [hline, splitOnce_append solid_key.noSpace, Option.bind_eq_bind, Option.bind_some]
  dsimp only
  rw [if_pos hkey, dropPrefix?_append, Option.bind_eq_bind, Option.bind_some, hlast, Option.bind_some]
  dsimp only
  rw [takeWhile_fields (solid_asStr _), fromToken_asStr]
  rfl

end Refreshes

/-! ## The file -/

/-- When the latest swap was logged. -/
def latestSwap (records : List (SystemTime × Event)) : Option SystemTime :=
  (records.reverse.find? fun r => isSwap r.2).map Prod.fst

def outcomeFor (label : Text) : Event → Option RefreshEventOutcomeKind
  | .refresh account outcome .. => if singleLine account = label then some (kind outcome) else none
  | .swap .. => none
  | .emergencySwap .. => none
  | .other .. => none

/-- What the latest refresh of the account that is written as the label came to. -/
def latestOutcome (records : List (SystemTime × Event)) (label : Text) : Option RefreshEventOutcomeKind :=
  records.reverse.findSome? fun r => outcomeFor label r.2

def logLines (file : List UInt8) : List Text := (readToString file).elim [] lines

/-- The events are in the file, and the readers answer by the latest of them. -/
structure Kept (file : List UInt8) (records : List (SystemTime × Event)) : Prop where
  lines : logLines (emitAll file records) = logLines file ++ records.map fun r => r.2.toLogLine r.1
  swap : lastSwapAt (emitAll file records) = (latestSwap records).elim (lastSwapAt file) stampRead
  outcomes : ∀ label, lastRefreshOutcomes (emitAll file records) label =
    (latestOutcome records label).or (lastRefreshOutcomes file label)

section Files

variable {file : List UInt8} {text : Text} {records : List (SystemTime × Event)} {record : SystemTime × Event}

theorem emitAll_eq : emitAll file records = file ++ records.flatMap fun r => encode (r.2.toLogLine r.1 ++ ['\n']) := by
  induction records generalizing file with
  | nil => exact (List.append_nil file).symm
  | cons r records ih =>
    change emitAll (emit file r) records = _
    rw [ih, List.flatMap_cons, emit, List.append_assoc]

theorem toLogLine_free (r : SystemTime × Event) : ∀ c ∈ r.2.toLogLine r.1, isControl c = false :=
  fun _ hc => isControl_of_mem_singleLine hc

/-- What the readers see of the appended text. -/
def appended (records : List (SystemTime × Event)) : Text := records.flatMap fun r => r.2.toLogLine r.1 ++ ['\n']

theorem emitAll_encode : emitAll (encode text) records = encode (text ++ appended records) := by
  rw [emitAll_eq, encode_append]
  congr 1
  induction records with
  | nil => rfl
  | cons r records ih =>
    have hcons : appended (r :: records) = r.2.toLogLine r.1 ++ ['\n'] ++ appended records := rfl
    rw [List.flatMap_cons, ih, hcons, ← encode_append]

theorem lines_appended : lines (appended records) = records.map fun r => r.2.toLogLine r.1 := by
  induction records with
  | nil => rfl
  | cons r records ih =>
    have hterm : Terminated '\n' (r.2.toLogLine r.1 ++ ['\n']) := .inr ⟨_, rfl⟩
    unfold appended at ih ⊢
    rw [List.flatMap_cons, lines_append hterm, lines_line (toLogLine_free r), ih]
    rfl

theorem lines_emitAll (hterm : Terminated '\n' text) :
    lines (text ++ appended records) = lines text ++ records.map fun r => r.2.toLogLine r.1 := by
  rw [lines_append hterm, lines_appended]

theorem swapIn_append (ls : List Text) :
    swapIn (ls ++ records.map fun r => r.2.toLogLine r.1) = (latestSwap records).elim (swapIn ls) stampRead := by
  have hfind : (records.map fun r => r.2.toLogLine r.1).reverse.find? isSwapLine =
      (records.reverse.find? fun r => isSwap r.2).map fun r => r.2.toLogLine r.1 := by
    have hsame : isSwapLine ∘ (fun r : SystemTime × Event => r.2.toLogLine r.1) = fun r => isSwap r.2 := by
      funext r
      rw [Function.comp_apply, isSwapLine_toLogLine]
    rw [← List.map_reverse, List.find?_map, hsame]
  unfold swapIn latestSwap
  rw [List.reverse_append, List.find?_append, hfind]
  cases records.reverse.find? fun r => isSwap r.2 with
  | none => rw [Option.map_none, Option.none_or, Option.map_none, Option.elim_none]
  | some r =>
    have hinstant : lineInstant (r.2.toLogLine r.1) = stampRead r.1 := lineInstant_toLogLine
    rw [Option.map_some, Option.some_or, Option.map_some, Option.elim_some, Option.bind_eq_bind, Option.bind_some,
      hinstant]

theorem insertLine_none {outcomes : Outcomes} {line : Text} (h : refreshOf line = none) :
    insertLine outcomes line = outcomes := by
  unfold insertLine
  rw [h]

theorem insertLine_some {outcomes : Outcomes} {line handle : Text} {outcome : RefreshEventOutcomeKind}
    (h : refreshOf line = some (handle, outcome)) :
    insertLine outcomes line = Function.update outcomes handle (some outcome) := by
  unfold insertLine
  rw [h]

theorem insertLine_toLogLine (outcomes : Outcomes) (label : Text) (r : SystemTime × Event) :
    insertLine outcomes (r.2.toLogLine r.1) label = (outcomeFor label r.2).or (outcomes label) := by
  have hnone : refreshOf (r.2.toLogLine r.1) = none → outcomeFor label r.2 = none →
      insertLine outcomes (r.2.toLogLine r.1) label = (outcomeFor label r.2).or (outcomes label) := by
    intro hline houtcome
    rw [insertLine_none hline, houtcome, Option.none_or]
  obtain ⟨ts, event⟩ := r
  cases event with
  | refresh account outcome expiresBefore expiresAfter reason backoffSecs =>
    rw [insertLine_some (refreshOf_refresh account outcome expiresBefore expiresAfter reason backoffSecs)]
    dsimp only [outcomeFor]
    by_cases h : singleLine account = label
    · rw [if_pos h, h, Function.update_self, Option.some_or]
    · rw [if_neg h, Function.update_of_ne (Ne.symm h), Option.none_or]
  | swap source target reason sessionPct projection =>
    have hkey : "event=".toList ++ "swap".toList ≠ "event=refresh".toList := by decide
    apply hnone
    · exact refreshOf_other hkey
    · rfl
  | emergencySwap source target =>
    have hkey : "event=".toList ++ "emergency_swap".toList ≠ "event=refresh".toList := by decide
    apply hnone
    · exact refreshOf_other hkey
    · rfl
  | other event fields =>
    have hkey : "event=".toList ++ (Event.other event fields).token.toList ≠ "event=refresh".toList := by
      unfold Event.token
      exact event.key_ne.2.2
    apply hnone
    · exact refreshOf_other hkey
    · rfl

theorem foldl_insertLine (outcomes : Outcomes) (label : Text) :
    (records.map fun r => r.2.toLogLine r.1).foldl insertLine outcomes label =
      (latestOutcome records label).or (outcomes label) := by
  induction records using List.reverseRecOn with
  | nil => rfl
  | append_singleton records r ih =>
    have hlatest : latestOutcome (records ++ [r]) label = (outcomeFor label r.2).or (latestOutcome records label) := by
      unfold latestOutcome
      rw [List.reverse_append, List.reverse_singleton, List.singleton_append, List.findSome?_cons]
      cases outcomeFor label r.2 <;> rfl
    rw [List.map_append, List.foldl_append, List.map_singleton, List.foldl_cons, List.foldl_nil,
      insertLine_toLogLine, ih, hlatest, Option.or_assoc]

theorem kept (hvalid : ValidUtf8 file) (hterm : Terminated lineFeed file) : Kept file records := by
  obtain ⟨text, rfl⟩ := hvalid
  change Kept (encode text) records
  have hlines : lines (text ++ appended records) = _ := lines_emitAll (terminated_encode.mp hterm)
  constructor
  · unfold logLines
    rw [emitAll_encode, readToString_encode, readToString_encode]
    exact hlines
  · unfold lastSwapAt
    rw [emitAll_encode, readToString_encode, readToString_encode]
    simp only [Option.bind_eq_bind, Option.bind_some]
    rw [hlines, swapIn_append]
  · intro label
    unfold lastRefreshOutcomes
    rw [emitAll_encode, readToString_encode, readToString_encode]
    dsimp only
    rw [hlines, List.foldl_append, foldl_insertLine]

end Files

/-- What is logged is read back, as long as the log is text. What a crash left without its end is read as a line
until the next event is appended to it, and then both are one line. -/
theorem records_read_back (file : List UInt8) (records : List (SystemTime × Event)) :
    (ValidUtf8 file → Terminated lineFeed file → Kept file records) ∧
      (∀ whole torn : Text, Terminated '\n' whole → '\n' ∉ torn → ∀ r,
        logLines (emit (encode (whole ++ torn)) r) = lines whole ++ [torn ++ r.2.toLogLine r.1] ∧
          Kept (emit (encode (whole ++ torn)) r) records) ∧
      (¬ ValidUtf8 file → lastSwapAt file = none ∧ ∀ label, lastRefreshOutcomes file label = none) ∧
      ∀ label : Text, (∀ c ∈ label, isControl c = false) → singleLine label = label := by
  refine ⟨fun hvalid hterm => kept hvalid hterm, ?_, ?_, fun label h => singleLine_of_free h⟩
  · intro whole torn hwhole htorn r
    have hemit : emit (encode (whole ++ torn)) r = encode (whole ++ (torn ++ (r.2.toLogLine r.1 ++ ['\n']))) := by
      unfold emit
      rw [← encode_append, List.append_assoc]
    rw [hemit]
    constructor
    · have hne : r.2.toLogLine r.1 ≠ [] := by
        rw [toLogLine_eq]
        exact List.append_ne_nil_of_right_ne_nil _ (List.cons_ne_nil _ _)
      unfold logLines
      rw [readToString_encode, Option.elim_some, lines_append hwhole, lines_torn htorn (toLogLine_free r) hne]
    · apply kept
      · exact ⟨_, rfl⟩
      · rw [terminated_encode]
        refine .inr ⟨whole ++ (torn ++ r.2.toLogLine r.1), ?_⟩
        simp only [List.append_assoc]
  · intro hinvalid
    constructor
    · unfold lastSwapAt
      rw [readToString_eq_none hinvalid]
      rfl
    · intro label
      unfold lastRefreshOutcomes
      rw [readToString_eq_none hinvalid]

/-- A swap and a refresh, each read back from a log of two lines. -/
theorem records_read_back_two : let records : List (SystemTime × Event) :=
      [(1500000000, .swap "a b".toList "c".toList .session (some 100) none),
        (2500000000, .refresh " outcome=dead".toList .noChange (some 1000) none none none)]
    lastSwapAt (emitAll [] records) = some 1000000000 ∧
      lastRefreshOutcomes (emitAll [] records) " outcome=dead".toList = some .noChange := by
  intro records
  have h := (records_read_back [] records).1 .nil .nil
  refine ⟨h.swap.trans ?_, (h.outcomes _).trans ?_⟩
  · decide +kernel
  · decide +kernel

/-- One byte that is not text, and no line of the log answers. -/
theorem torn_byte_silences : ¬ ∀ (torn : List UInt8) (r : SystemTime × Event), isSwap r.2 = true →
    lastSwapAt (emit [] r ++ torn ++ [lineFeed]) = stampRead r.1 := by
  intro h
  have hswap := h [255] (0, .emergencySwap "a".toList "b".toList) rfl
  revert hswap
  decide +kernel

end Sessiometer.Log
