import Mathlib.Data.List.Induction
import Sessiometer.Store.Lines
import Sessiometer.Swap.Engine

/-! # The raw sample file

One line of JSON for each sample, appended and never synced. A call that a crash cuts short leaves
the beginning of its line. -/

namespace Sessiometer

open Lines

structure Sample where
  ts : Int
  provider : String
  acct : String
  session : Option ℚ
  weekly : Option ℚ
  sessionResetsAt : Option Int := none
  weeklyResetsAt : Option Int := none
  severity : Option String := none
  spend : Option ℚ := none
deriving DecidableEq

def newline : UInt8 := 10

/-- `serde_json` at samples. The writer refuses a fraction that is not finite. -/
structure SampleJson where
  toVec : Sample → Option (List UInt8)
  fromSlice : List UInt8 → Option Sample

namespace SampleJson

/-- What a cut can leave of a record: some of its bytes, from the first on. -/
def Beginning (json : SampleJson) (bytes : List UInt8) : Prop :=
  bytes ≠ [] ∧ ∃ s text, json.toVec s = some text ∧ bytes <+: text

/-- A record is the text of one JSON object, whose only braces are the outer two but for those in
its strings: it holds no raw newline, no proper beginning of it is a record, and nor are two or more
beginnings that run together. -/
structure Lawful (json : SampleJson) : Prop where
  roundTrip : ∀ {s text}, json.toVec s = some text → json.fromSlice text = some s
  nonempty : ∀ {s text}, json.toVec s = some text → text ≠ []
  oneLine : ∀ {s text}, json.toVec s = some text → newline ∉ text
  cut : ∀ {s text bytes}, json.toVec s = some text → bytes <+: text → bytes ≠ text →
    json.fromSlice bytes = none
  runTogether : ∀ pieces : List (List UInt8), 2 ≤ pieces.length →
    (∀ piece ∈ pieces, json.Beginning piece) → json.fromSlice pieces.flatten = none

end SampleJson

/-- A call of `append_sample`: was the store lock free in time, and how many bytes of the line
reach the file, when it is not all of them. -/
structure AppendCall where
  sample : Sample
  locked : Bool := true
  cut : Option ℕ := none
deriving DecidableEq

inductive StoreError where
  | usageStoreBusy
  | usageStoreSerialize
  | usageRollupMalformed
  | usageRollupNewerFormat (found : ℕ)
  | io
deriving DecidableEq

section Source

variable (json : SampleJson)

/-- A call cut behind its last byte has done all that one that returns does. -/
def appendSample (c : AppendCall) (file : Option (List UInt8)) :
    Option (List UInt8) × Except StoreError Unit :=
  if c.locked then
    match json.toVec c.sample with
    | none => (file, .error .usageStoreSerialize)
    | some text =>
      let line := text ++ [newline]
      let written := c.cut.getD line.length
      (some (file.getD [] ++ line.take written),
        if written < line.length then .error .io else .ok ())
  else (file, .error .usageStoreBusy)

def readSamples (file : Option (List UInt8)) : List Sample :=
  match file with
  | none => []
  | some bytes => records newline json.fromSlice bytes

/-- `write_samples`, which replaces the file. -/
def samplesText : List Sample → Option (List UInt8)
  | [] => some []
  | s :: samples =>
    match json.toVec s, samplesText samples with
    | some text, some rest => some (text ++ newline :: rest)
    | _, _ => none

def AppendCall.returnsOk (c : AppendCall) : Bool :=
  match (appendSample json c none).2 with
  | .ok () => true
  | .error _ => false

/-- What a call that does not return leaves in the file. -/
def AppendCall.fragment (c : AppendCall) : List UInt8 :=
  if c.returnsOk json then [] else (appendSample json c none).1.getD []

def fileAfter (calls : List AppendCall) : Option (List UInt8) :=
  calls.foldl (fun file c => (appendSample json c file).1) none

/-- The samples whose append returned, in order. -/
def okSamples (calls : List AppendCall) : List Sample :=
  (calls.filter (·.returnsOk json)).map (·.sample)

/-- At every time the file reads as the samples whose append has returned. -/
def Durable (calls : List AppendCall) : Prop :=
  ∀ before, before <+: calls → readSamples json (fileAfter json before) = okSamples json before

/-- Once a call has left a fragment no later one returns, and the first to leave one does not leave
its whole record. -/
def Undamaged (calls : List AppendCall) : Prop :=
  ∀ before c after, calls = before ++ c :: after → c.fragment json ≠ [] →
    (∀ c' ∈ after, c'.returnsOk json = false) ∧
      ((∀ c' ∈ before, c'.fragment json = []) → json.toVec c.sample ≠ some (c.fragment json))

end Source

section Append

variable {json : SampleJson} {c : AppendCall} {calls : List AppendCall} {file : Option (List UInt8)}

theorem appendSample_ok (h : c.returnsOk json = true) : ∃ text, json.toVec c.sample = some text ∧
    appendSample json c file = (some (file.getD [] ++ (text ++ [newline])), .ok ()) := by
  unfold AppendCall.returnsOk appendSample at h
  unfold appendSample
  cases hl : c.locked with
  | false => simp [hl] at h
  | true =>
    cases ht : json.toVec c.sample with
    | none => simp [hl, ht] at h
    | some text =>
      by_cases hw : c.cut.getD (text ++ [newline]).length < (text ++ [newline]).length
      · simp only [hl, ht, if_true, if_pos hw] at h
        cases h
      · refine ⟨text, rfl, ?_⟩
        simp only [if_true, if_neg hw]
        rw [List.take_of_length_le (not_lt.mp hw)]

theorem appendSample_not_ok (h : c.returnsOk json = false) :
    (appendSample json c file).1.getD [] = file.getD [] ++ c.fragment json := by
  unfold AppendCall.fragment
  rw [if_neg (by rw [h]; exact Bool.false_ne_true)]
  unfold appendSample
  cases c.locked with
  | false => simp
  | true => cases json.toVec c.sample <;> simp

/-- A fragment stops before its newline. -/
theorem fragment_eq (h : c.fragment json ≠ []) :
    ∃ text, json.toVec c.sample = some text ∧ c.fragment json <+: text := by
  unfold AppendCall.fragment at h ⊢
  cases hr : c.returnsOk json with
  | true => simp [hr] at h
  | false =>
    rw [hr] at h
    simp only [Bool.false_eq_true, if_false] at h ⊢
    unfold AppendCall.returnsOk at hr
    unfold appendSample at h hr ⊢
    cases hl : c.locked with
    | false => simp [hl] at h
    | true =>
      cases ht : json.toVec c.sample with
      | none => simp [hl, ht] at h
      | some text =>
        simp only [hl, ht, if_true] at hr
        have hw : c.cut.getD (text ++ [newline]).length < (text ++ [newline]).length := by
          by_contra hw
          rw [if_neg hw] at hr
          cases hr
        refine ⟨text, rfl, ?_⟩
        simp only [if_true, Option.getD_some, Option.getD_none, List.nil_append]
        rw [List.length_append, List.length_singleton] at hw
        rw [List.take_append_of_le_length (by simpa using Nat.lt_succ_iff.mp hw)]
        exact List.take_prefix _ _

theorem fileAfter_snoc (c : AppendCall) :
    fileAfter json (calls ++ [c]) = (appendSample json c (fileAfter json calls)).1 :=
  List.foldl_concat _ _ _ _

@[simp] theorem okSamples_snoc (c : AppendCall) : okSamples json (calls ++ [c]) =
    okSamples json calls ++ if c.returnsOk json then [c.sample] else [] := by
  unfold okSamples
  cases hr : c.returnsOk json <;> simp [hr]

end Append

/-! ## The lines of the file -/

/-- A ghost of the file: the samples on its whole lines, and the fragments on the line that is open. -/
structure SampleLog where
  closed : List Sample := []
  torn : List (List UInt8) := []

def SampleLog.append (json : SampleJson) (log : SampleLog) (c : AppendCall) : SampleLog :=
  if c.returnsOk json then
    { closed := if log.torn = [] then log.closed ++ [c.sample] else log.closed }
  else if c.fragment json = [] then log
  else { log with torn := log.torn ++ [c.fragment json] }

def logAfter (json : SampleJson) (calls : List AppendCall) : SampleLog :=
  calls.foldl (SampleLog.append json) {}

/-- The file is the ghost's lines. -/
structure SampleLog.Holds (json : SampleJson) (log : SampleLog) (file : Option (List UInt8)) :
    Prop where
  bytes : ∃ whole, file.getD [] = whole ++ log.torn.flatten ∧
    Whole newline json.fromSlice whole log.closed
  beginning : ∀ piece ∈ log.torn, json.Beginning piece

section Log

variable {json : SampleJson} (hjson : json.Lawful) {log : SampleLog} {c : AppendCall}
  {calls : List AppendCall} {file : Option (List UInt8)}

theorem beginning_fragment (h : c.fragment json ≠ []) : json.Beginning (c.fragment json) := by
  obtain ⟨text, ht, hpre⟩ := fragment_eq h
  exact ⟨h, c.sample, text, ht, hpre⟩

theorem logAfter_snoc (c : AppendCall) :
    logAfter json (calls ++ [c]) = (logAfter json calls).append json c :=
  List.foldl_concat _ _ _ _

include hjson

theorem newline_notMem_flatten {pieces : List (List UInt8)}
    (h : ∀ piece ∈ pieces, json.Beginning piece) : newline ∉ pieces.flatten := by
  intro hmem
  obtain ⟨piece, hpiece, hin⟩ := List.mem_flatten.mp hmem
  obtain ⟨-, s, text, ht, hpre⟩ := h piece hpiece
  exact hjson.oneLine ht (hpre.subset hin)

theorem record_flatten_of_two {pieces : List (List UInt8)} (h : 2 ≤ pieces.length)
    (hb : ∀ piece ∈ pieces, json.Beginning piece) : record json.fromSlice pieces.flatten = none := by
  unfold record
  rw [hjson.runTogether pieces h hb, ite_self]

theorem beginning_text {s : Sample} {text : List UInt8} (ht : json.toVec s = some text) :
    json.Beginning text :=
  ⟨hjson.nonempty ht, s, text, ht, List.prefix_refl _⟩

theorem SampleLog.Holds.append (h : log.Holds json file) (c : AppendCall) :
    (log.append json c).Holds json (appendSample json c file).1 := by
  obtain ⟨whole, hfile, hwhole⟩ := h.bytes
  unfold SampleLog.append
  cases hr : c.returnsOk json with
  | true =>
    obtain ⟨text, ht, hok⟩ : ∃ text, json.toVec c.sample = some text ∧
        appendSample json c file = (some (file.getD [] ++ (text ++ [newline])), .ok ()) :=
      appendSample_ok hr
    have hpieces : ∀ piece ∈ log.torn ++ [text], json.Beginning piece := by
      intro piece hpiece
      rcases List.mem_append.mp hpiece with htorn | hlast
      · exact h.beginning piece htorn
      · rw [List.mem_singleton.mp hlast]
        exact beginning_text hjson ht
    have hline := newline_notMem_flatten hjson hpieces
    rw [List.flatten_append, List.flatten_singleton] at hline
    refine ⟨⟨whole ++ (log.torn.flatten ++ text ++ [newline]), ?_, ?_⟩, ?_⟩
    · rw [hok, hfile]
      simp
    · have hclosed := hwhole.close_line hline
      by_cases htorn : log.torn = []
      · have hrecord : record json.fromSlice (log.torn.flatten ++ text) = some c.sample := by
          rw [htorn, List.flatten_nil, List.nil_append, record_of_ne_nil (hjson.nonempty ht)]
          exact hjson.roundTrip ht
        rw [hrecord] at hclosed
        simpa [htorn] using hclosed
      · have hpos := List.length_pos_iff.mpr htorn
        have hrecord : record json.fromSlice (log.torn.flatten ++ text) = none := by
          have htwo : record json.fromSlice (log.torn ++ [text]).flatten = none :=
            record_flatten_of_two hjson
              (by rw [List.length_append, List.length_singleton]; omega) hpieces
          rwa [List.flatten_append, List.flatten_singleton] at htwo
        rw [hrecord] at hclosed
        simpa [htorn] using hclosed
    · intro piece hpiece
      cases hpiece
  | false =>
    have hleft : (appendSample json c file).1.getD [] = file.getD [] ++ c.fragment json :=
      appendSample_not_ok hr
    rw [if_neg Bool.false_ne_true]
    by_cases hfragment : c.fragment json = []
    · rw [if_pos hfragment]
      refine ⟨⟨whole, ?_, hwhole⟩, h.beginning⟩
      rw [hleft, hfragment, List.append_nil, hfile]
    · rw [if_neg hfragment]
      refine ⟨⟨whole, ?_, hwhole⟩, ?_⟩
      · rw [hleft, hfile, List.flatten_append, List.flatten_singleton, List.append_assoc]
      · intro piece hpiece
        rcases List.mem_append.mp hpiece with htorn | hlast
        · exact h.beginning piece htorn
        · rw [List.mem_singleton.mp hlast]
          exact beginning_fragment hfragment

theorem logAfter_holds (calls : List AppendCall) :
    (logAfter json calls).Holds json (fileAfter json calls) := by
  induction calls using List.reverseRecOn with
  | nil => exact ⟨⟨[], rfl, whole_nil⟩, fun piece hpiece => by cases hpiece⟩
  | append_singleton calls c ih =>
    rw [fileAfter_snoc, logAfter_snoc]
    exact ih.append hjson c

/-- What the file reads as: its whole lines, and its open line when that is a record. -/
theorem readSamples_fileAfter (calls : List AppendCall) :
    readSamples json (fileAfter json calls) = (logAfter json calls).closed ++
      (record json.fromSlice (logAfter json calls).torn.flatten).toList := by
  have h := logAfter_holds hjson calls
  obtain ⟨whole, hfile, hwhole⟩ := h.bytes
  have hread := hwhole.open_line (newline_notMem_flatten hjson h.beginning)
  rw [← hfile] at hread
  rw [← hread]
  cases fileAfter json calls with
  | none => exact records_nil.symm
  | some bytes => rfl

end Log

/-! ## When nothing is lost -/

/-- A call that returns finds no open line; one that is cut on a fresh line leaves no record. -/
def Clean (json : SampleJson) (calls : List AppendCall) : Prop :=
  ∀ before c after, calls = before ++ c :: after →
    (c.returnsOk json = true → (logAfter json before).torn = []) ∧
      (c.fragment json ≠ [] → (logAfter json before).torn = [] →
        json.toVec c.sample ≠ some (c.fragment json))

section Clean

variable {json : SampleJson} {c : AppendCall} {calls before after : List AppendCall}

theorem returnsOk_of_fragment (h : c.fragment json ≠ []) : c.returnsOk json = false := by
  by_contra hr
  rw [Bool.not_eq_false] at hr
  exact h (if_pos hr)

theorem torn_nil_of_fragments (h : ∀ c ∈ calls, c.fragment json = []) :
    (logAfter json calls).torn = [] := by
  induction calls using List.reverseRecOn with
  | nil => rfl
  | append_singleton calls c ih =>
    have htorn := ih (fun c' hc' => h c' (List.mem_append_left _ hc'))
    have hc := h c (List.mem_append_right _ (List.mem_singleton_self c))
    rw [logAfter_snoc, SampleLog.append, if_pos hc]
    split
    · rfl
    · exact htorn

/-- Where no call that returns finds an open line, an open line is as old as the first fragment. -/
theorem fragments_nil_of_torn
    (h : ∀ before c after, calls = before ++ c :: after → c.returnsOk json = true →
      (logAfter json before).torn = [])
    (htorn : (logAfter json calls).torn = []) : ∀ c ∈ calls, c.fragment json = [] := by
  induction calls using List.reverseRecOn with
  | nil =>
    intro c hc
    cases hc
  | append_singleton calls c ih =>
    have hbefore : (logAfter json calls).torn = [] ∧ c.fragment json = [] := by
      cases hr : c.returnsOk json with
      | true => exact ⟨h calls c [] rfl hr, if_pos hr⟩
      | false =>
        rw [logAfter_snoc, SampleLog.append, hr, if_neg Bool.false_ne_true] at htorn
        by_cases hfragment : c.fragment json = []
        · rw [if_pos hfragment] at htorn
          exact ⟨htorn, hfragment⟩
        · rw [if_neg hfragment] at htorn
          exact absurd htorn (by simp)
    intro c' hc'
    rcases List.mem_append.mp hc' with hin | hlast
    · refine ih (fun before d after hsplit => ?_) hbefore.1 c' hin
      exact h before d (after ++ [c]) (by rw [hsplit]; simp)
    · rw [List.mem_singleton.mp hlast]
      exact hbefore.2

theorem undamaged_iff_clean : Undamaged json calls ↔ Clean json calls := by
  constructor
  · intro h
    have hok : ∀ before c after, calls = before ++ c :: after → c.returnsOk json = true →
        (logAfter json before).torn = [] := by
      intro before c after hsplit hr
      refine torn_nil_of_fragments (fun d hd => ?_)
      by_contra hfragment
      obtain ⟨x, y, rfl⟩ := List.append_of_mem hd
      have hlater := (h x d (y ++ c :: after) (by rw [hsplit]; simp) hfragment).1 c (by simp)
      rw [hr] at hlater
      cases hlater
    intro before c after hsplit
    refine ⟨hok before c after hsplit, fun hfragment htorn => ?_⟩
    refine (h before c after hsplit hfragment).2 (fragments_nil_of_torn ?_ htorn)
    intro x d y hx
    exact hok x d (y ++ c :: after) (by rw [hsplit, hx]; simp)
  · intro h before c after hsplit hfragment
    refine ⟨fun d hd => ?_, fun hbefore => ?_⟩
    · by_contra hr
      rw [Bool.not_eq_false] at hr
      obtain ⟨x, y, rfl⟩ := List.append_of_mem hd
      have htorn := (h (before ++ c :: x) d y (by rw [hsplit]; simp)).1 hr
      have hclean : ∀ u e v, before ++ c :: x = u ++ e :: v → e.returnsOk json = true →
          (logAfter json u).torn = [] := by
        intro u e v huv
        refine (h u e (v ++ d :: y) ?_).1
        calc calls = (before ++ c :: x) ++ d :: y := by rw [hsplit]; simp
          _ = u ++ e :: (v ++ d :: y) := by rw [huv]; simp
      exact hfragment (fragments_nil_of_torn hclean htorn c (by simp))
    · exact (h before c after hsplit).2 hfragment (torn_nil_of_fragments hbefore)

variable (hjson : json.Lawful)

include hjson

/-- On clean histories the whole lines are the appends that returned, and the open line is none. -/
theorem Clean.reads (h : Clean json calls) :
    (logAfter json calls).closed = okSamples json calls ∧
      record json.fromSlice (logAfter json calls).torn.flatten = none := by
  induction calls using List.reverseRecOn with
  | nil => exact ⟨rfl, rfl⟩
  | append_singleton calls c ih =>
    have hpre : Clean json calls := by
      intro before d after hsplit
      exact h before d (after ++ [c]) (by rw [hsplit]; simp)
    obtain ⟨hclosed, hrecord⟩ := ih hpre
    obtain ⟨hok, hcut⟩ := h calls c [] rfl
    rw [logAfter_snoc, okSamples_snoc, SampleLog.append]
    cases hr : c.returnsOk json with
    | true =>
      rw [if_pos rfl, if_pos rfl, if_pos (hok hr), hclosed]
      exact ⟨rfl, rfl⟩
    | false =>
      rw [if_neg Bool.false_ne_true, if_neg Bool.false_ne_true, List.append_nil]
      by_cases hfragment : c.fragment json = []
      · rw [if_pos hfragment]
        exact ⟨hclosed, hrecord⟩
      · rw [if_neg hfragment]
        refine ⟨hclosed, ?_⟩
        by_cases htorn : (logAfter json calls).torn = []
        · obtain ⟨text, ht, hpre⟩ := fragment_eq hfragment
          have hproper : c.fragment json ≠ text := by
            intro heq
            exact hcut hfragment htorn (by rw [ht, heq])
          dsimp only
          rw [htorn, List.nil_append, List.flatten_singleton, record_of_ne_nil hfragment]
          exact hjson.cut ht hpre hproper
        · have hholds := (logAfter_holds hjson calls).beginning
          have hpos := List.length_pos_iff.mpr htorn
          refine record_flatten_of_two hjson ?_ ?_
          · rw [List.length_append, List.length_singleton]
            omega
          · intro piece hpiece
            rcases List.mem_append.mp hpiece with hin | hlast
            · exact hholds piece hin
            · rw [List.mem_singleton.mp hlast]
              exact beginning_fragment hfragment

theorem durable_of_clean (h : Clean json calls) : Durable json calls := by
  rintro before ⟨after, rfl⟩
  have hbefore : Clean json before := by
    intro x c y hsplit
    exact h x c (y ++ after) (by rw [hsplit]; simp)
  obtain ⟨hclosed, hrecord⟩ := hbefore.reads hjson
  rw [readSamples_fileAfter hjson, hclosed, hrecord]
  exact List.append_nil _

/-- A call that returns on an open line is lost, and with it the line. -/
theorem lost_of_open (hr : c.returnsOk json = true) (htorn : (logAfter json before).torn ≠ []) :
    (readSamples json (fileAfter json (before ++ [c]))).length ≤
      (readSamples json (fileAfter json before)).length := by
  rw [readSamples_fileAfter hjson, readSamples_fileAfter hjson, logAfter_snoc, SampleLog.append,
    if_pos hr, if_neg htorn]
  simp

/-- A whole record that is cut behind its last brace reads as if its call had returned. -/
theorem read_of_whole (hfragment : c.fragment json ≠ [])
    (htorn : (logAfter json before).torn = [])
    (hwhole : json.toVec c.sample = some (c.fragment json)) :
    readSamples json (fileAfter json (before ++ [c])) =
      readSamples json (fileAfter json before) ++ [c.sample] := by
  rw [readSamples_fileAfter hjson, readSamples_fileAfter hjson, logAfter_snoc, SampleLog.append,
    if_neg (by rw [returnsOk_of_fragment hfragment]; exact Bool.false_ne_true), if_neg hfragment,
    htorn]
  dsimp only
  rw [List.nil_append, List.flatten_singleton, record_of_ne_nil hfragment, hjson.roundTrip hwhole]
  simp

theorem clean_of_durable (h : Durable json calls) : Clean json calls := by
  intro before c after hsplit
  have hbefore := h before ⟨c :: after, hsplit.symm⟩
  have hnext := h (before ++ [c]) ⟨after, by rw [hsplit]; simp⟩
  rw [okSamples_snoc] at hnext
  refine ⟨fun hr => ?_, fun hfragment htorn hwhole => ?_⟩
  · by_contra htorn
    have hlost := lost_of_open hjson hr htorn
    rw [hnext, hbefore, if_pos hr, List.length_append, List.length_singleton] at hlost
    omega
  · have hread := read_of_whole hjson hfragment htorn hwhole
    rw [hnext, hbefore, if_neg (by rw [returnsOk_of_fragment hfragment]; exact Bool.false_ne_true)]
      at hread
    simp at hread

end Clean

def sampleOfOneSecond : Sample :=
  { ts := 1, provider := "p", acct := "a", session := none, weekly := none }

/-- The line of `sampleOfOneSecond`, but for its newline. -/
def textOfOneSecond : List UInt8 :=
  "\x7b\"ts\":1,\"provider\":\"p\",\"acct\":\"a\",\"session\":null,\"weekly\":null\x7d".toList.map
    Char.toUInt8

def jsonOfOneSecond : SampleJson where
  toVec s := if s = sampleOfOneSecond then some textOfOneSecond else none
  fromSlice bytes := if bytes = textOfOneSecond then some sampleOfOneSecond else none

theorem beginning_ofOneSecond {piece : List UInt8} (h : jsonOfOneSecond.Beginning piece) :
    0 < piece.count 123 := by
  obtain ⟨hne, s, text, ht, hpre⟩ := h
  have htext : textOfOneSecond = text := by
    simp only [jsonOfOneSecond, Option.ite_none_right_eq_some, Option.some.injEq] at ht
    exact ht.2
  subst htext
  cases piece with
  | nil => exact absurd rfl hne
  | cons b piece =>
    have hb : b = 123 := by
      obtain ⟨rest, hrest⟩ := hpre
      have hhead := congrArg List.head? hrest
      have htext : textOfOneSecond.head? = some 123 := by decide
      rw [htext] at hhead
      exact Option.some.inj hhead
    rw [hb, List.count_cons_self]
    exact Nat.succ_pos _

theorem lawful_ofOneSecond : jsonOfOneSecond.Lawful := by
  have htext : ∀ {s text}, jsonOfOneSecond.toVec s = some text →
      s = sampleOfOneSecond ∧ textOfOneSecond = text := by
    intro s text ht
    simpa only [jsonOfOneSecond, Option.ite_none_right_eq_some, Option.some.injEq] using ht
  constructor
  · intro s text ht
    obtain ⟨rfl, rfl⟩ := htext ht
    simp [jsonOfOneSecond]
  · intro s text ht
    obtain ⟨-, rfl⟩ := htext ht
    decide
  · intro s text ht
    obtain ⟨-, rfl⟩ := htext ht
    decide
  · intro s text bytes ht hpre hne
    obtain ⟨-, rfl⟩ := htext ht
    exact if_neg hne
  · intro pieces htwo hpieces
    refine if_neg (fun heq => ?_)
    match pieces, htwo with
    | p :: q :: rest, _ =>
      have hp := beginning_ofOneSecond (hpieces p (by simp))
      have hq := beginning_ofOneSecond (hpieces q (by simp))
      have hcount := congrArg (List.count 123) heq
      have hone : textOfOneSecond.count 123 = 1 := by decide
      rw [hone, List.flatten_cons, List.flatten_cons, List.count_append, List.count_append] at hcount
      omega

end Sessiometer
