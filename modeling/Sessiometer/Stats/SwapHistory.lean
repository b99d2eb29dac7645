import Sessiometer.Log.Words
import Sessiometer.Usage.Trailer

/-! # The swap history

The swaps that the usage report reads back from the event log. -/

namespace Sessiometer.Stats

open Framing Log

inductive SwapKind where
  | session
  | weekly
  | manual
  | forced
  | preempt
  | emergency
deriving DecidableEq, Repr

structure SwapEvent where
  ts : ℤ
  source : Text
  target : Text
  kind : SwapKind
deriving DecidableEq

def SwapKind.ofReason (reason : Text) : Option SwapKind :=
  if reason = "session".toList then some .session
  else if reason = "weekly".toList then some .weekly
  else if reason = "manual".toList then some .manual
  else if reason = "forced".toList then some .forced
  else if reason = "blind_preempt".toList then some .preempt
  else if reason = "velocity_preempt".toList then some .preempt
  else none

/-- The kind of swap that a line tells of, if it tells of one. -/
def kindOf (line : Text) : Option SwapKind :=
  (fieldOf line "event").bind fun event =>
    if event = "swap".toList then (fieldOf line "reason").bind SwapKind.ofReason
    else if event = "emergency_swap".toList then some .emergency
    else none

def parseSwapLine (line : Text) : Option SwapEvent := do
  let kind ← kindOf line
  let tsRaw ← fieldOf line "ts"
  let source ← fieldOf line "from"
  let target ← fieldOf line "to"
  let ts ← epochFromRfc3339 tsRaw
  pure { ts, source, target, kind }

def parseSwapEvents (text : Text) : List SwapEvent := (lines text).filterMap parseSwapLine

/-! ## What was written -/

def kindOfReason : SwapReason → SwapKind
  | .session => .session
  | .weekly => .weekly
  | .manual => .manual
  | .forced => .forced
  | .blindPreempt => .preempt
  | .velocityPreempt => .preempt

/-- The swap that an event is, at the whole second of its time. -/
def swapOf (record : SystemTime × Log.Event) : Option SwapEvent :=
  match record.2 with
  | .swap source target reason _ _ =>
    some { ts := record.1 / 1000000000, source, target, kind := kindOfReason reason }
  | .emergencySwap source target =>
    some { ts := record.1 / 1000000000, source, target, kind := .emergency }
  | .refresh .. => none
  | .other .. => none

/-- The fields' own words spell a swap: the last `event=` among them is one, with what its reader
needs besides. -/
def Spells (stamp : Text) (fields : List Field) : Prop :=
  let text := singleLine (fields.flatMap fieldText)
  (kindOf text).isSome ∧ (fieldOf text "from").isSome ∧ (fieldOf text "to").isSome ∧
    (epochFromRfc3339 ((fieldOf text "ts").getD stamp)).isSome

/-- A swap is between labels of one plain word each, at a time of the years 1970 to 9999; another
event's fields spell no swap. -/
def PlainRecord (record : SystemTime × Log.Event) : Prop :=
  match record.2 with
  | .swap source target _ _ _ | .emergencySwap source target =>
    Bare source ∧ Bare target ∧ 0 ≤ record.1 ∧ wholeSeconds record.1 < yearTenThousand
  | .refresh .. | .other .. => ¬Spells (rfc3339 record.1) record.2.fields

/-- The log's swaps are read back, and each line as the swap that its event is or as none. -/
def Faithful (records : List (SystemTime × Log.Event)) : Prop :=
  parseSwapEvents (Log.appended records) = records.filterMap swapOf ∧
    ∀ record ∈ records, parseSwapLine (record.2.toLogLine record.1) = swapOf record

section Lines

variable {ts : SystemTime} {event : Log.Event} {key : String}

theorem bare_digits {n : ℕ} : Bare (Nat.toDigits 10 n) := by
  intro c hc
  have hdigit := Nat.isDigit_of_mem_toDigits (by decide) (by decide) hc
  exact ⟨isWhitespace_of_isDigit hdigit, (solid_digit hdigit).1⟩

theorem bare_padded {width n : ℕ} : Bare (padded width n) := by
  intro c hc
  have hdigit := isDigit_of_mem_padded c hc
  exact ⟨isWhitespace_of_isDigit hdigit, (solid_digit hdigit).1⟩

theorem bare_rfc3339 : Bare (rfc3339 ts) := by
  have hdash : Bare ['-'] := bare_of_all (by decide)
  have hcolon : Bare [':'] := bare_of_all (by decide)
  have hdate : ∀ date, Bare (dateText date) := fun _ =>
    (bare_padded.append (hdash.append bare_padded)).append (hdash.append bare_padded)
  have htime : ∀ hour minute second, Bare (timeText hour minute second) := fun _ _ _ =>
    (bare_padded.append (hcolon.append bare_padded)).append (hcolon.append bare_padded)
  have hmark : Bare ['T'] := bare_of_all (by decide)
  have hzone : Bare ['Z'] := bare_of_all (by decide)
  unfold rfc3339
  exact (hdate _).append (hmark.append ((htime _ _ _).append hzone))

theorem bare_otherToken (e : OtherEvent) : Bare e.token.toList := by
  apply bare_of_all
  cases e <;> decide

theorem bare_token : Bare event.token.toList := by
  cases event with
  | swap =>
    have hbare : Bare "swap".toList := bare_of_all (by decide)
    exact hbare
  | emergencySwap =>
    have hbare : Bare "emergency_swap".toList := bare_of_all (by decide)
    exact hbare
  | refresh =>
    have hbare : Bare "refresh".toList := bare_of_all (by decide)
    exact hbare
  | other e => exact bare_otherToken e

/-- A line's pairs: its stamp, what happened, and those of its fields. -/
theorem pairs_toLogLine : pairs (event.toLogLine ts) =
    [("ts".toList, rfc3339 ts), ("event".toList, event.token.toList)] ++
      pairs (singleLine (event.fields.flatMap fieldText)) := by
  have htsKey : "ts=".toList = "ts".toList ++ ['='] := by decide
  have heventKey : "event=".toList = "event".toList ++ ['='] := by decide
  have hts : pairs ("ts=".toList ++ rfc3339 ts) = [("ts".toList, rfc3339 ts)] := by
    rw [htsKey, List.append_assoc, List.singleton_append]
    exact pairs_bare (bare_of_all (by decide)) (by decide) bare_rfc3339
  have hevent : pairs ("event=".toList ++ event.token.toList) =
      [("event".toList, event.token.toList)] := by
    rw [heventKey, List.append_assoc, List.singleton_append]
    exact pairs_bare (bare_of_all (by decide)) (by decide) bare_token
  rw [toLogLine_eq, pairs_space, hts]
  rcases fieldsText_cases event.fields with hnil | ⟨rest, hrest⟩
  · have hempty : pairs [] = [] := rfl
    rw [hnil, List.append_nil, hevent, hempty, List.append_nil]
    exact List.singleton_append
  · have hspace : pairs (' ' :: rest) = pairs rest := by
      have h := pairs_space [] rest
      exact h
    rw [hrest, pairs_space, hevent, hspace, ← List.append_assoc]
    congr 1

theorem fieldOf_toLogLine (key : String) : fieldOf (event.toLogLine ts) key =
    (fieldOf (singleLine (event.fields.flatMap fieldText)) key).or
      (lastValue [("ts".toList, rfc3339 ts), ("event".toList, event.token.toList)] key) := by
  rw [fieldOf_eq, pairs_toLogLine, lastValue_append]
  rfl

theorem free_toLogLine : ∀ c ∈ event.toLogLine ts, isControl c = false :=
  fun _ hc => isControl_of_mem_singleLine hc

/-- A field whose text is one word. -/
def BareField (f : Field) : Prop := Bare f.1 ∧ '=' ∉ f.1 ∧ Bare f.2

theorem bareField {name : String} {value : Text}
    (hname : (name.toList.all fun c => !isWhitespace c && !isControl c && decide (c ≠ '=')) = true)
    (hvalue : Bare value) : BareField (field name value) := by
  have hchars := List.all_eq_true.mp hname
  refine ⟨?_, ?_, hvalue⟩
  · intro c hc
    have h := hchars c hc
    simp only [Bool.and_eq_true, Bool.not_eq_true'] at h
    exact h.1
  · intro hc
    have h := hchars '=' hc
    simp at h

theorem singleLine_fields {fields : List Field} (h : ∀ f ∈ fields, BareField f) :
    singleLine (fields.flatMap fieldText) = fields.flatMap fieldText := by
  apply singleLine_of_free
  intro c hc
  obtain ⟨f, hf, hc⟩ := List.mem_flatMap.mp hc
  obtain ⟨hname, -, hvalue⟩ := h f hf
  simp only [fieldText, List.cons_append, List.mem_cons, List.mem_append] at hc
  rcases hc with rfl | hc | rfl | hc
  · decide
  · exact (hname c hc).2
  · decide
  · exact (hvalue c hc).2

theorem fieldOf_bareFields {fields : List Field} (h : ∀ f ∈ fields, BareField f) (key : String) :
    fieldOf (singleLine (fields.flatMap fieldText)) key = lastValue fields key := by
  rw [singleLine_fields h, fieldOf_eq, pairs_fields h]

theorem bare_fixed (decimals : ℕ) (q : ℚ) : Bare (fixed decimals q) := by
  have hsign : Bare (if q < 0 then ['-'] else []) := by
    split
    · exact bare_of_all (by decide)
    · exact bare_of_all (by decide)
  have hpoint : Bare ['.'] := bare_of_all (by decide)
  unfold fixed
  exact (hsign.append bare_digits).append (hpoint.append bare_padded)

/-- What follows the reason on the line of a swap. -/
def swapTrail (sessionPct : Option ℕ) (projection : Option SwapProjection) : List Field :=
  (sessionPct.map fun pct => field "session_pct" (Nat.toDigits 10 pct)).toList ++
    (if sessionPct.any (100 ≤ ·) then [field "late" "true".toList] else []) ++
      projection.elim [] projectionFields

/-- The names that the reader does look for. -/
def soughtNames : List Text :=
  ["event".toList, "reason".toList, "ts".toList, "from".toList, "to".toList]

theorem trailing_field {name : String} {value : Text}
    (hname : (name.toList.all fun c => !isWhitespace c && !isControl c && decide (c ≠ '=')) = true)
    (hsought : name.toList ∉ soughtNames) (hvalue : Bare value) :
    BareField (field name value) ∧ (field name value).1 ∉ soughtNames :=
  ⟨bareField hname hvalue, hsought⟩

theorem swapTrail_bare {sessionPct : Option ℕ} {projection : Option SwapProjection} :
    ∀ f ∈ swapTrail sessionPct projection, BareField f ∧ f.1 ∉ soughtNames := by
  intro f hf
  unfold swapTrail at hf
  rw [List.mem_append, List.mem_append] at hf
  rcases hf with (hf | hf) | hf
  · obtain ⟨pct, -, rfl⟩ := Option.map_eq_some_iff.mp (Option.mem_toList.mp hf)
    exact trailing_field (by decide) (by decide) bare_digits
  · split at hf
    · obtain rfl := List.mem_singleton.mp hf
      exact trailing_field (by decide) (by decide) (bare_of_all (by decide))
    · cases hf
  · cases projection with
    | none => cases hf
    | some p =>
      simp only [Option.elim_some, projectionFields, List.mem_cons, List.not_mem_nil, or_false] at hf
      rcases hf with rfl | rfl | rfl | rfl
      · exact trailing_field (by decide) (by decide) (bare_fixed _ _)
      · exact trailing_field (by decide) (by decide) (bare_fixed _ _)
      · exact trailing_field (by decide) (by decide) bare_digits
      · exact trailing_field (by decide) (by decide) (bare_fixed _ _)

theorem lastValue_trail {sessionPct : Option ℕ} {projection : Option SwapProjection} {key : String}
    (hkey : key.toList ∈ soughtNames) : lastValue (swapTrail sessionPct projection) key = none :=
  lastValue_none fun f hf heq => (swapTrail_bare f hf).2 (heq ▸ hkey)

section Swap

variable {source target : Text} {reason : SwapReason} {sessionPct : Option ℕ}
  {projection : Option SwapProjection}

theorem ofReason_asStr (reason : SwapReason) :
    SwapKind.ofReason (SwapReason.asStr reason).toList = some (kindOfReason reason) := by
  cases reason <;> decide

theorem bareField_reason (reason : SwapReason) :
    BareField (field "reason" (SwapReason.asStr reason).toList) :=
  bareField (by decide) (bare_of_all (by cases reason <;> decide))

theorem swap_fields : (Log.Event.swap source target reason sessionPct projection).fields =
    [field "from" source, field "to" target, field "reason" (SwapReason.asStr reason).toList] ++
      swapTrail sessionPct projection := by
  simp [Log.Event.fields, swapTrail]

/-- A swap's line, as far as its labels are one word each. -/
theorem fieldOf_swap (hsource : Bare source) (htarget : Bare target) {key : String}
    (hkey : key.toList ∈ soughtNames) :
    fieldOf ((Log.Event.swap source target reason sessionPct projection).toLogLine ts) key =
      lastValue [("ts".toList, rfc3339 ts), ("event".toList, "swap".toList),
        field "from" source, field "to" target,
          field "reason" (SwapReason.asStr reason).toList] key := by
  have hbare : ∀ f ∈ (Log.Event.swap source target reason sessionPct projection).fields,
      BareField f := by
    intro f hf
    rw [swap_fields, List.mem_append] at hf
    rcases hf with hf | hf
    · simp only [List.mem_cons, List.not_mem_nil, or_false] at hf
      rcases hf with rfl | rfl | rfl
      · exact bareField (by decide) hsource
      · exact bareField (by decide) htarget
      · exact bareField_reason reason
    · exact (swapTrail_bare f hf).1
  rw [fieldOf_toLogLine, fieldOf_bareFields hbare, swap_fields, lastValue_append,
    lastValue_trail hkey, Option.none_or, ← lastValue_append]
  rfl

theorem fieldOf_emergencySwap (hsource : Bare source) (htarget : Bare target) (key : String) :
    fieldOf ((Log.Event.emergencySwap source target).toLogLine ts) key =
      lastValue [("ts".toList, rfc3339 ts), ("event".toList, "emergency_swap".toList),
        field "from" source, field "to" target] key := by
  have hbare : ∀ f ∈ (Log.Event.emergencySwap source target).fields, BareField f := by
    intro f hf
    simp only [Log.Event.fields, List.mem_cons, List.not_mem_nil, or_false] at hf
    rcases hf with rfl | rfl
    · exact bareField (by decide) hsource
    · exact bareField (by decide) htarget
  rw [fieldOf_toLogLine, fieldOf_bareFields hbare, ← lastValue_append]
  rfl

/-- The pairs of a swap's line that its reader looks for. -/
theorem swap_values (reason source target stamp token : Text) :
    let values := [("ts".toList, stamp), ("event".toList, token), ("from".toList, source),
      ("to".toList, target), ("reason".toList, reason)]
    lastValue values "ts" = some stamp ∧ lastValue values "event" = some token ∧
      lastValue values "from" = some source ∧ lastValue values "to" = some target ∧
        lastValue values "reason" = some reason := by
  have hts : ∀ key ∈ ["event", "from", "to", "reason"], "ts".toList ≠ key.toList := by decide
  have hevent : ∀ key ∈ ["ts", "from", "to", "reason"], "event".toList ≠ key.toList := by decide
  have hfrom : ∀ key ∈ ["ts", "event", "to", "reason"], "from".toList ≠ key.toList := by decide
  have hto : ∀ key ∈ ["ts", "event", "from", "reason"], "to".toList ≠ key.toList := by decide
  have hreason : ∀ key ∈ ["ts", "event", "from", "to"], "reason".toList ≠ key.toList := by decide
  dsimp only
  refine ⟨?_, ?_, ?_, ?_, ?_⟩
  · rw [lastValue_hit, lastValue_skip (hevent _ (by simp)), lastValue_skip (hfrom _ (by simp)),
      lastValue_skip (hto _ (by simp)), lastValue_skip (hreason _ (by simp))]
    rfl
  · rw [lastValue_skip (hts _ (by simp)), lastValue_hit, lastValue_skip (hfrom _ (by simp)),
      lastValue_skip (hto _ (by simp)), lastValue_skip (hreason _ (by simp))]
    rfl
  · rw [lastValue_skip (hts _ (by simp)), lastValue_skip (hevent _ (by simp)), lastValue_hit,
      lastValue_skip (hto _ (by simp)), lastValue_skip (hreason _ (by simp))]
    rfl
  · rw [lastValue_skip (hts _ (by simp)), lastValue_skip (hevent _ (by simp)),
      lastValue_skip (hfrom _ (by simp)), lastValue_hit, lastValue_skip (hreason _ (by simp))]
    rfl
  · rw [lastValue_skip (hts _ (by simp)), lastValue_skip (hevent _ (by simp)),
      lastValue_skip (hfrom _ (by simp)), lastValue_skip (hto _ (by simp)), lastValue_hit]
    rfl

theorem kindOf_swap {line reason : Text} (hevent : fieldOf line "event" = some "swap".toList)
    (hreason : fieldOf line "reason" = some reason) :
    kindOf line = SwapKind.ofReason reason := by
  unfold kindOf
  rw [hevent, hreason, Option.bind_some, if_pos rfl, Option.bind_some]

theorem kindOf_emergency {line : Text}
    (hevent : fieldOf line "event" = some "emergency_swap".toList) :
    kindOf line = some .emergency := by
  unfold kindOf
  rw [hevent, Option.bind_some, if_neg (by decide), if_pos rfl]

theorem parseSwapLine_of_values {line stamp source target : Text} {kind : SwapKind}
    (hkind : kindOf line = some kind) (hts : fieldOf line "ts" = some stamp)
    (hsource : fieldOf line "from" = some source) (htarget : fieldOf line "to" = some target) :
    parseSwapLine line = (epochFromRfc3339 stamp).map fun t => ⟨t, source, target, kind⟩ := by
  unfold parseSwapLine
  rw [hkind, hts, hsource, htarget]
  simp only [Option.bind_eq_bind, Option.bind_some]
  cases epochFromRfc3339 stamp <;> rfl

theorem parseSwapLine_swap (hsource : Bare source) (htarget : Bare target) :
    parseSwapLine ((Log.Event.swap source target reason sessionPct projection).toLogLine ts) =
      (epochFromRfc3339 (rfc3339 ts)).map fun t => ⟨t, source, target, kindOfReason reason⟩ := by
  obtain ⟨hts, hevent, hfrom, hto, hreason⟩ := swap_values (SwapReason.asStr reason).toList
    source target (rfc3339 ts) "swap".toList
  have hfield := fun key => @fieldOf_swap ts _ _ reason sessionPct projection hsource htarget key
  have hkind := kindOf_swap ((hfield "event" (by decide)).trans hevent)
    ((hfield "reason" (by decide)).trans hreason)
  rw [ofReason_asStr] at hkind
  exact parseSwapLine_of_values hkind ((hfield "ts" (by decide)).trans hts)
    ((hfield "from" (by decide)).trans hfrom) ((hfield "to" (by decide)).trans hto)

theorem emergency_values (source target stamp token : Text) :
    let values := [("ts".toList, stamp), ("event".toList, token), ("from".toList, source),
      ("to".toList, target)]
    lastValue values "ts" = some stamp ∧ lastValue values "event" = some token ∧
      lastValue values "from" = some source ∧ lastValue values "to" = some target := by
  have hreason : ∀ key ∈ ["ts", "event", "from", "to"], "reason".toList ≠ key.toList := by decide
  obtain ⟨hts, hevent, hfrom, hto, -⟩ := swap_values [] source target stamp token
  have hdrop : ∀ key ∈ ["ts", "event", "from", "to"],
      lastValue ([("ts".toList, stamp), ("event".toList, token), ("from".toList, source),
        ("to".toList, target)] ++ [("reason".toList, [])]) key =
      lastValue [("ts".toList, stamp), ("event".toList, token), ("from".toList, source),
        ("to".toList, target)] key := by
    intro key hkey
    rw [lastValue_append, lastValue_skip (hreason key hkey)]
    rfl
  exact ⟨(hdrop _ (by simp)).symm.trans hts, (hdrop _ (by simp)).symm.trans hevent,
    (hdrop _ (by simp)).symm.trans hfrom, (hdrop _ (by simp)).symm.trans hto⟩

theorem parseSwapLine_emergencySwap (hsource : Bare source) (htarget : Bare target) :
    parseSwapLine ((Log.Event.emergencySwap source target).toLogLine ts) =
      (epochFromRfc3339 (rfc3339 ts)).map fun t => ⟨t, source, target, .emergency⟩ := by
  obtain ⟨hts, hevent, hfrom, hto⟩ :=
    emergency_values source target (rfc3339 ts) "emergency_swap".toList
  have hfield := @fieldOf_emergencySwap ts _ _ hsource htarget
  exact parseSwapLine_of_values (kindOf_emergency ((hfield _).trans hevent))
    ((hfield _).trans hts) ((hfield _).trans hfrom) ((hfield _).trans hto)

end Swap

/-! ## What is read back -/

theorem parseSwapLine_eq_some {line : Text} {e : SwapEvent} (h : parseSwapLine line = some e) :
    fieldOf line "from" = some e.source ∧ fieldOf line "to" = some e.target := by
  unfold parseSwapLine at h
  obtain ⟨kind, -, h⟩ := Option.bind_eq_some_iff.mp h
  obtain ⟨tsRaw, -, h⟩ := Option.bind_eq_some_iff.mp h
  obtain ⟨source, hsource, h⟩ := Option.bind_eq_some_iff.mp h
  obtain ⟨target, htarget, h⟩ := Option.bind_eq_some_iff.mp h
  obtain ⟨t, -, h⟩ := Option.bind_eq_some_iff.mp h
  obtain rfl := Option.some.inj h
  exact ⟨hsource, htarget⟩

theorem parseSwapLine_isSome {line : Text} : (parseSwapLine line).isSome ↔
    (kindOf line).isSome ∧ (fieldOf line "from").isSome ∧ (fieldOf line "to").isSome ∧
      ((fieldOf line "ts").bind epochFromRfc3339).isSome := by
  unfold parseSwapLine
  cases kindOf line <;> cases fieldOf line "from" <;> cases fieldOf line "to" <;>
    cases hts : fieldOf line "ts" <;> simp
  rename_i raw
  cases epochFromRfc3339 raw <;> simp

theorem bare_labels {e : SwapEvent} (h : parseSwapLine (event.toLogLine ts) = some e) :
    Bare e.source ∧ Bare e.target := by
  obtain ⟨hsource, htarget⟩ := parseSwapLine_eq_some h
  exact ⟨bare_of_fieldOf free_toLogLine hsource, bare_of_fieldOf free_toLogLine htarget⟩

/-- A stamp is read back as the whole second of its time, from the epoch to the year 9999. -/
theorem stamp_reads {ts : ℤ} : epochFromRfc3339 (rfc3339 ts) = some (ts / 1000000000) ↔
    0 ≤ ts ∧ wholeSeconds ts < yearTenThousand := by
  rw [epochFromRfc3339_rfc3339]
  unfold wholeSeconds
  by_cases hyear : (ts / 1000000000).toNat < yearTenThousand
  · rw [if_pos hyear, Option.some.injEq]
    constructor
    · intro h
      exact ⟨by omega, hyear⟩
    · rintro ⟨h, -⟩
      omega
  · simp [hyear]

theorem swap_reads_iff {source target : Text} {kind : SwapKind}
    (hread : Bare source → Bare target → parseSwapLine (event.toLogLine ts) =
      (epochFromRfc3339 (rfc3339 ts)).map fun t => ⟨t, source, target, kind⟩) :
    parseSwapLine (event.toLogLine ts) = some ⟨ts / 1000000000, source, target, kind⟩ ↔
      Bare source ∧ Bare target ∧ 0 ≤ ts ∧ wholeSeconds ts < yearTenThousand := by
  rw [← stamp_reads]
  constructor
  · intro h
    obtain ⟨hsource, htarget⟩ := bare_labels h
    refine ⟨hsource, htarget, ?_⟩
    rw [hread hsource htarget] at h
    obtain ⟨t, ht, heq⟩ := Option.map_eq_some_iff.mp h
    rw [ht, (SwapEvent.mk.inj heq).1]
  · rintro ⟨hsource, htarget, hstamp⟩
    rw [hread hsource htarget, hstamp]
    rfl

/-- Another event's line is read as a swap just where its fields spell one. -/
theorem other_reads_iff (hswap : event.token.toList ≠ "swap".toList)
    (hemergency : event.token.toList ≠ "emergency_swap".toList) :
    parseSwapLine (event.toLogLine ts) = none ↔ ¬Spells (rfc3339 ts) event.fields := by
  have hevent : fieldOf (event.toLogLine ts) "event" =
      (fieldOf (singleLine (event.fields.flatMap fieldText)) "event").or
        (some event.token.toList) := by
    rw [fieldOf_toLogLine, lastValue_skip (by decide), lastValue_hit, lastValue_nil,
      Option.none_or]
  have hts : fieldOf (event.toLogLine ts) "ts" =
      (fieldOf (singleLine (event.fields.flatMap fieldText)) "ts").or (some (rfc3339 ts)) := by
    rw [fieldOf_toLogLine, lastValue_hit, lastValue_skip (by decide), lastValue_nil,
      Option.none_or]
  have hlater : ∀ key ∈ ["reason", "from", "to"], fieldOf (event.toLogLine ts) key =
      fieldOf (singleLine (event.fields.flatMap fieldText)) key := by
    have hne : ∀ key ∈ ["reason", "from", "to"],
        "ts".toList ≠ key.toList ∧ "event".toList ≠ key.toList := by decide
    intro key hkey
    rw [fieldOf_toLogLine, lastValue_skip (hne key hkey).1, lastValue_skip (hne key hkey).2,
      lastValue_nil, Option.or_none]
  have hreason := hlater "reason" (by simp)
  have hfrom := hlater "from" (by simp)
  have hto := hlater "to" (by simp)
  have hkind : kindOf (event.toLogLine ts) =
      kindOf (singleLine (event.fields.flatMap fieldText)) := by
    unfold kindOf
    rw [hevent, hreason]
    cases fieldOf (singleLine (event.fields.flatMap fieldText)) "event" with
    | none => rw [Option.none_or, Option.bind_some, if_neg hswap, if_neg hemergency,
        Option.bind_none]
    | some token => rw [Option.some_or]
  have hstamp : ((fieldOf (event.toLogLine ts) "ts").bind epochFromRfc3339) =
      epochFromRfc3339 ((fieldOf (singleLine (event.fields.flatMap fieldText)) "ts").getD
        (rfc3339 ts)) := by
    rw [hts]
    cases fieldOf (singleLine (event.fields.flatMap fieldText)) "ts" with
    | none => rw [Option.none_or, Option.bind_some, Option.getD_none]
    | some stamp => rw [Option.some_or, Option.bind_some, Option.getD_some]
  rw [← Option.not_isSome_iff_eq_none, parseSwapLine_isSome, hkind, hstamp, hfrom, hto]
  unfold Spells
  exact Iff.rfl

/-- A record's line is read as its own swap, or as none, just where the record is plain. -/
theorem record_reads_iff (record : SystemTime × Log.Event) :
    parseSwapLine (record.2.toLogLine record.1) = swapOf record ↔ PlainRecord record := by
  obtain ⟨ts, event⟩ := record
  cases event with
  | swap source target reason sessionPct projection =>
    exact swap_reads_iff parseSwapLine_swap
  | emergencySwap source target => exact swap_reads_iff parseSwapLine_emergencySwap
  | refresh account outcome before after reason backoff =>
    have hswap : "refresh".toList ≠ "swap".toList := by decide
    have hemergency : "refresh".toList ≠ "emergency_swap".toList := by decide
    exact other_reads_iff hswap hemergency
  | other e fields =>
    have hkey := e.key_ne
    refine other_reads_iff ?_ ?_
    · intro heq
      exact hkey.1 (congrArg ("event=".toList ++ ·) heq)
    · intro heq
      exact hkey.2.1 (congrArg ("event=".toList ++ ·) heq)

end Lines

/-- The swaps of the log are read back, each from its own line and no other line as one, just where
the records are plain. -/
theorem swaps_read_back (records : List (SystemTime × Log.Event)) :
    Faithful records ↔ ∀ record ∈ records, PlainRecord record := by
  have hlines : parseSwapEvents (Log.appended records) =
      records.filterMap fun record => parseSwapLine (record.2.toLogLine record.1) := by
    unfold parseSwapEvents
    rw [lines_appended, List.filterMap_map]
    rfl
  constructor
  · rintro ⟨-, hreads⟩ record hmem
    exact (record_reads_iff record).mp (hreads record hmem)
  · intro hplain
    have hreads : ∀ record ∈ records, parseSwapLine (record.2.toLogLine record.1) = swapOf record :=
      fun record hmem => (record_reads_iff record).mpr (hplain record hmem)
    refine ⟨?_, hreads⟩
    rw [hlines]
    exact List.filterMap_congr hreads

/-- A label of two words is cut at its space, and one that spells a swap is read as a swap. -/
theorem spaced_label_misread :
    ¬Faithful [(0, .swap "work mac".toList "home".toList .manual none none)] ∧
      ¬Faithful [(0, .other .monitor401
        [field "account" "x event=emergency_swap from=a to=b".toList])] := by
  have hplain : ∀ record : SystemTime × Log.Event, Faithful [record] → PlainRecord record :=
    fun record h => (record_reads_iff record).mp (h.2 record (List.mem_singleton_self _))
  constructor
  · intro h
    obtain ⟨hbare, -⟩ := hplain _ h
    have hspace := (hbare ' ' (by decide)).1
    exact absurd hspace (by decide)
  · intro h
    have hspells : Spells (rfc3339 0)
        [field "account" "x event=emergency_swap from=a to=b".toList] := by
      unfold Spells
      decide +kernel
    exact hplain _ h hspells

end Sessiometer.Stats
