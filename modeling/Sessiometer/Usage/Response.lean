import Mathlib.Algebra.Order.Field.Rat
import Mathlib.Data.List.Forall2
import Sessiometer.Log.Rfc3339
import Sessiometer.Model.Compact
import Sessiometer.Model.Seams
import Sessiometer.Status.Snapshot
import Sessiometer.Usage.Trailer

/-! # The usage response

Each window of the account stands in the body as an object of its own, or as an entry of the list of
limits. A window that stands there without a number is an error; one that does not stand there is
absent. -/

namespace Sessiometer

open Framing

namespace Value

def asF64 : Value → Option ℚ
  | .int n => some n
  | .float q => some q
  | _ => none

def asBool : Value → Option Bool
  | .bool b => some b
  | _ => none

def asArray : Value → Option (List Value)
  | .array items => some items
  | _ => none

def isNull : Value → Bool
  | .null => true
  | _ => false

end Value

/-- `(fraction, resets_at, severity)` in the source. -/
structure WindowParts where
  fraction : ℚ
  resetsAt : Option (List Char)
  severity : Option String

structure UsageReport where
  session : Option ℚ
  weekly : Option ℚ
  sessionResetsAt : Option (List Char)
  weeklyResetsAt : Option (List Char)
  sessionSeverity : Option String
  weeklySeverity : Option String

def sessionKinds : List String := ["session", "five_hour"]

def weeklyKinds : List String := ["weekly_all", "seven_day", "weekly"]

def fractionOf (obj : Value) : Option ℚ :=
  (((obj.get "utilization").bind Value.asF64).or ((obj.get "percent").bind Value.asF64)).map
    (fun percent => min (max (percent / 100) 0) 1)

def severityOf (obj : Value) : Option String := (obj.get "severity").bind Value.asStr

/-- The `kind` of the entry is one of the kinds of the window. -/
def ofKind (kinds : List String) (entry : Value) : Bool :=
  ((entry.get "kind").bind Value.asStr).any (fun kind => kinds.contains kind)

def isActive (entry : Value) : Bool := ((entry.get "is_active").bind Value.asBool).getD true

def limitsOf (root : Value) : Option (List Value) := (root.get "limits").bind Value.asArray

def carriesWindow (root : Value) (topKey : String) (kinds : List String) : Bool :=
  if (root.get topKey).any (fun value => !value.isNull) then true
  else ((limitsOf root).getD []).any (ofKind kinds)

/-- `epoch_from_resets_at`. -/
def epochFromResetsAt (raw : List Char) : Option Int :=
  (parseSigned 9223372036854775808 (trim raw)).or (Log.epochFromRfc3339 (trim raw))

def UsageReport.toUsage (report : UsageReport) : Usage where
  session := report.session
  weekly := report.weekly
  weeklyResetsAt := report.weeklyResetsAt.bind epochFromResetsAt
  sessionResetsAt := report.sessionResetsAt.bind epochFromResetsAt

section Parse

variable [FloatText]

def resetsAtOf (obj : Value) : Option (List Char) :=
  match obj.get "resets_at" with
  | some (.string text) => some text.toList
  | some (.int n) => some (integerText n)
  | some (.float q) => some (FloatText.write q)
  | _ => none

/-- The parts of a window from the value that carries its fraction. -/
def partsOf (obj : Value) : Option WindowParts :=
  (fractionOf obj).map (fun fraction => ⟨fraction, resetsAtOf obj, severityOf obj⟩)

/-- The loop of `dimension` over the list of limits. -/
def scanLimits (kinds : List String) : List Value → Option WindowParts → Option WindowParts
  | [], fallback => fallback
  | entry :: limits, fallback =>
    if ofKind kinds entry then
      match partsOf entry with
      | none => scanLimits kinds limits fallback
      | some parts =>
        if isActive entry then some parts
        else if fallback.isNone then scanLimits kinds limits (some parts)
        else scanLimits kinds limits fallback
    else scanLimits kinds limits fallback

def dimension (root : Value) (topKey : String) (kinds : List String) : Option WindowParts :=
  ((root.get topKey).bind partsOf).or
    ((limitsOf root).bind (fun limits => scanLimits kinds limits none))

def windowParts (window : Option WindowParts) :
    Option ℚ × Option (List Char) × Option String :=
  match window with
  | some parts => (some parts.fraction, parts.resetsAt, parts.severity)
  | none => (none, none, none)

/-- `parse_usage`, behind the parse of its body. -/
def parseUsageRoot (root : Value) : Except Error UsageReport :=
  let session := dimension root "five_hour" sessionKinds
  let weekly := dimension root "seven_day" weeklyKinds
  if session.isNone && carriesWindow root "five_hour" sessionKinds then
    .error (.usageParse "session (five_hour) quota window present but unreadable")
  else if weekly.isNone && carriesWindow root "seven_day" weeklyKinds then
    .error (.usageParse "weekly (seven_day) quota window present but unreadable")
  else if session.isNone && weekly.isNone then
    .error (.usageParse "no quota window (neither five_hour nor seven_day)")
  else
    let (session, sessionResetsAt, sessionSeverity) := windowParts session
    let (weekly, weeklyResetsAt, weeklySeverity) := windowParts weekly
    .ok ⟨session, weekly, sessionResetsAt, weeklyResetsAt, sessionSeverity, weeklySeverity⟩

def parseUsage [Status.SerdeText] (body : String) : Except Error UsageReport :=
  match Status.SerdeText.fromStr body with
  | none => .error (.usageParse "body is not JSON")
  | some root => parseUsageRoot root

/-! ## One rule for both windows -/

inductive WindowState where
  | readable (parts : WindowParts)
  | unreadable
  | absent

def WindowState.parts : WindowState → Option WindowParts
  | .readable parts => some parts
  | _ => none

/-- What may carry the window, the first choice first: the object of its own, the entries of its kind
that are active, the others. -/
def carriers (root : Value) (topKey : String) (kinds : List String) : List Value :=
  let entries := ((limitsOf root).getD []).filter (ofKind kinds)
  (root.get topKey).toList ++ (entries.filter isActive ++ entries.filter (fun e => !isActive e))

/-- The window is what the first readable carrier says; it is absent where nothing but `null` carries
it. -/
def windowState (root : Value) (topKey : String) (kinds : List String) : WindowState :=
  match (carriers root topKey kinds).findSome? partsOf with
  | some parts => .readable parts
  | none =>
    if (carriers root topKey kinds).all (fun v => v.isNull) then .absent else .unreadable

theorem scanLimits_some (kinds : List String) (limits : List Value) (parts : WindowParts) :
    scanLimits kinds limits (some parts) =
      some (((limits.filter (fun e => ofKind kinds e && isActive e)).findSome? partsOf).getD
        parts) := by
  induction limits with
  | nil => rfl
  | cons entry limits ih =>
    unfold scanLimits
    by_cases hkind : ofKind kinds entry = true
    · rw [if_pos hkind]
      cases hparts : partsOf entry with
      | none =>
        dsimp only
        rw [ih]
        by_cases hactive : isActive entry = true
        · simp [hkind, hactive, hparts]
        · simp [hkind, hactive]
      | some own =>
        dsimp only
        by_cases hactive : isActive entry = true
        · simp [hkind, hactive, hparts]
        · rw [if_neg hactive, ih]
          simp [hkind, hactive]
    · rw [if_neg hkind, ih]
      simp [hkind]

/-- The loop finds the first readable entry that is active, else the first readable one. -/
theorem scanLimits_none (kinds : List String) (limits : List Value) :
    scanLimits kinds limits none =
      ((limits.filter (fun e => ofKind kinds e && isActive e)) ++
        limits.filter (fun e => ofKind kinds e && !isActive e)).findSome? partsOf := by
  rw [List.findSome?_append]
  induction limits with
  | nil => rfl
  | cons entry limits ih =>
    unfold scanLimits
    by_cases hkind : ofKind kinds entry = true
    · rw [if_pos hkind]
      cases hparts : partsOf entry with
      | none =>
        dsimp only
        rw [ih]
        by_cases hactive : isActive entry = true
        · simp [hkind, hactive, hparts]
        · simp [hkind, hactive, hparts]
      | some own =>
        dsimp only
        by_cases hactive : isActive entry = true
        · simp [hkind, hactive, hparts]
        · rw [if_neg hactive, Option.isNone_none, if_pos rfl, scanLimits_some]
          simp only [hkind, hactive, List.filter_cons, Bool.and_false, Bool.false_eq_true, if_false,
            Bool.not_false, Bool.and_self, if_true, List.findSome?_cons, hparts]
          cases (limits.filter (fun e => ofKind kinds e && isActive e)).findSome? partsOf <;> rfl
    · rw [if_neg hkind, ih]
      simp [hkind]

theorem dimension_eq (root : Value) (topKey : String) (kinds : List String) :
    dimension root topKey kinds = (carriers root topKey kinds).findSome? partsOf := by
  have hlimits : (limitsOf root).bind (fun limits => scanLimits kinds limits none) =
      ((((limitsOf root).getD []).filter (ofKind kinds)).filter isActive ++
        (((limitsOf root).getD []).filter (ofKind kinds)).filter (fun e => !isActive e)).findSome?
          partsOf := by
    cases limitsOf root with
    | none => rfl
    | some limits =>
      rw [Option.bind_some, scanLimits_none, Option.getD_some, List.filter_filter,
        List.filter_filter]
      simp only [Bool.and_comm]
  unfold dimension carriers
  dsimp only
  rw [List.findSome?_append, hlimits]
  cases root.get topKey <;> simp

omit [FloatText] in
theorem isNull_of_ofKind {kinds : List String} {entry : Value} (h : ofKind kinds entry = true) :
    entry.isNull = false := by
  cases entry <;> first | rfl | simp [ofKind, Value.get] at h

omit [FloatText] in
/-- Something other than `null` carries a window that the reply carries. -/
theorem carriesWindow_eq (root : Value) (topKey : String) (kinds : List String) :
    carriesWindow root topKey kinds = !(carriers root topKey kinds).all (fun v => v.isNull) := by
  have hentries : ∀ limits : List Value, limits.any (ofKind kinds) =
      !((limits.filter (ofKind kinds)).filter isActive ++
        (limits.filter (ofKind kinds)).filter (fun e => !isActive e)).all (fun v => v.isNull) := by
    intro limits
    induction limits with
    | nil => rfl
    | cons entry limits ih =>
      by_cases hkind : ofKind kinds entry = true
      · have hnull := isNull_of_ofKind hkind
        by_cases hactive : isActive entry = true
        · simp [hkind, hnull, hactive]
        · simp [hkind, hnull, hactive]
      · have hfalse : ofKind kinds entry = false := by simpa using hkind
        rw [List.any_cons, hfalse, Bool.false_or, ih, List.filter_cons_of_neg hkind]
  unfold carriesWindow carriers
  dsimp only
  rw [hentries, List.all_append, Bool.not_and]
  cases root.get topKey with
  | none => simp
  | some v => cases hnull : v.isNull <;> simp [hnull]

/-- What the lookup and the check say of a window, together. -/
theorem windowState_cases (root : Value) (topKey : String) (kinds : List String) :
    (∃ parts, windowState root topKey kinds = .readable parts ∧
        dimension root topKey kinds = some parts) ∨
      (windowState root topKey kinds = .unreadable ∧ dimension root topKey kinds = none ∧
        carriesWindow root topKey kinds = true) ∨
      (windowState root topKey kinds = .absent ∧ dimension root topKey kinds = none ∧
        carriesWindow root topKey kinds = false) := by
  rw [dimension_eq, carriesWindow_eq]
  unfold windowState
  cases (carriers root topKey kinds).findSome? partsOf with
  | some parts => exact .inl ⟨parts, rfl, rfl⟩
  | none =>
    cases (carriers root topKey kinds).all (fun v => v.isNull) with
    | true => exact .inr (.inr ⟨rfl, rfl, rfl⟩)
    | false => exact .inr (.inl ⟨rfl, rfl, rfl⟩)

end Parse

/-- The report that two windows make together. -/
def reportOf : WindowState → WindowState → Except Error UsageReport
  | .unreadable, _ => .error (.usageParse "session (five_hour) quota window present but unreadable")
  | _, .unreadable => .error (.usageParse "weekly (seven_day) quota window present but unreadable")
  | .absent, .absent =>
    .error (.usageParse "no quota window (neither five_hour nor seven_day)")
  | session, weekly =>
    let session := windowParts session.parts
    let weekly := windowParts weekly.parts
    .ok ⟨session.1, weekly.1, session.2.1, weekly.2.1, session.2.2, weekly.2.2⟩

section Report

variable [FloatText]

/-- The body parses as its two windows say, each for itself. -/
theorem parseUsageRoot_eq (root : Value) : parseUsageRoot root =
    reportOf (windowState root "five_hour" sessionKinds)
      (windowState root "seven_day" weeklyKinds) := by
  unfold parseUsageRoot
  rcases windowState_cases root "five_hour" sessionKinds with
    ⟨session, hs, hsd⟩ | ⟨hs, hsd, hsc⟩ | ⟨hs, hsd, hsc⟩
  · rcases windowState_cases root "seven_day" weeklyKinds with
      ⟨weekly, hw, hwd⟩ | ⟨hw, hwd, hwc⟩ | ⟨hw, hwd, hwc⟩
    · rw [hs, hw, hsd, hwd]
      rfl
    · rw [hs, hw, hsd, hwd, hwc]
      rfl
    · rw [hs, hw, hsd, hwd, hwc]
      rfl
  · rw [hs, hsd, hsc]
    rfl
  · rcases windowState_cases root "seven_day" weeklyKinds with
      ⟨weekly, hw, hwd⟩ | ⟨hw, hwd, hwc⟩ | ⟨hw, hwd, hwc⟩
    · rw [hs, hw, hsd, hsc, hwd]
      rfl
    · rw [hs, hw, hsd, hsc, hwd, hwc]
      rfl
    · rw [hs, hw, hsd, hsc, hwd, hwc]
      rfl

omit [FloatText] in
theorem fractionOf_mem {obj : Value} {fraction : ℚ} (h : fractionOf obj = some fraction) :
    0 ≤ fraction ∧ fraction ≤ 1 := by
  obtain ⟨percent, -, rfl⟩ := Option.map_eq_some_iff.mp h
  exact ⟨le_min (le_max_right _ _) zero_le_one, min_le_right _ _⟩

theorem windowState_bounded {root : Value} {topKey : String} {kinds : List String}
    {parts : WindowParts} (h : windowState root topKey kinds = .readable parts) :
    0 ≤ parts.fraction ∧ parts.fraction ≤ 1 := by
  unfold windowState at h
  cases hread : (carriers root topKey kinds).findSome? partsOf with
  | none =>
    rw [hread] at h
    dsimp only at h
    split_ifs at h
  | some own =>
    rw [hread] at h
    obtain rfl := WindowState.readable.inj h
    obtain ⟨obj, -, hobj⟩ := List.exists_of_findSome?_eq_some hread
    obtain ⟨fraction, hfraction, rfl⟩ := Option.map_eq_some_iff.mp hobj
    exact fractionOf_mem hfraction

end Report

/-! ## What the report depends on -/

def AgreeOn (keys : List String) (v v' : Value) : Prop := ∀ key ∈ keys, v'.get key = v.get key

def replyKeys : List String := ["five_hour", "seven_day", "limits"]

def windowKeys : List String := ["utilization", "percent", "resets_at", "severity"]

def entryKeys : List String := "kind" :: "is_active" :: windowKeys

/-- Two values of a window's own key that are read alike. -/
structure AlikeWindow (v v' : Value) : Prop where
  null : v'.isNull = v.isNull
  fields : AgreeOn windowKeys v v'

/-- The entries of the list of limits that are of either window. -/
def matchingEntries (root : Value) : List Value :=
  ((limitsOf root).getD []).filter (fun e => ofKind sessionKinds e || ofKind weeklyKinds e)

/-- Two replies that differ in nothing that is read. -/
structure AlikeReply (root root' : Value) : Prop where
  session : Option.Rel AlikeWindow (root.get "five_hour") (root'.get "five_hour")
  weekly : Option.Rel AlikeWindow (root.get "seven_day") (root'.get "seven_day")
  limits : List.Forall₂ (AgreeOn entryKeys) (matchingEntries root) (matchingEntries root')

section Alike

variable {fields fields' : List (String × Value)} {keys : List String} {root root' v v' : Value}

theorem lookup_eq_some_iff_mem (hdistinct : (fields.map Prod.fst).Nodup) {key : String} :
    fields.lookup key = some v ↔ (key, v) ∈ fields := by
  induction fields with
  | nil => simp
  | cons field fields ih =>
    obtain ⟨hnew, hrest⟩ := List.nodup_cons.mp hdistinct
    rw [List.lookup_cons, List.mem_cons]
    by_cases hkey : key = field.1
    · have habsent : (key, v) ∉ fields := fun hin => hnew (hkey ▸ List.mem_map_of_mem hin)
      subst hkey
      simp [habsent, Prod.ext_iff, eq_comm]
    · have hfalse : (key == field.1) = false := beq_eq_false_iff_ne.mpr hkey
      simp [hfalse, ih hrest, Prod.ext_iff, hkey]

/-- The order of the keys does not matter. -/
theorem agreeOn_perm (keys : List String) (hdistinct : (fields.map Prod.fst).Nodup)
    (h : fields.Perm fields') : AgreeOn keys (.object fields) (.object fields') := by
  intro key _
  change fields'.lookup key = fields.lookup key
  ext v
  rw [lookup_eq_some_iff_mem hdistinct,
    lookup_eq_some_iff_mem ((h.map Prod.fst).nodup_iff.mp hdistinct), h.mem_iff]

/-- Nor does a field that is not read. -/
theorem agreeOn_unknown {key : String} (h : key ∉ keys) (v : Value) :
    AgreeOn keys (.object fields) (.object ((key, v) :: fields)) := by
  intro known hknown
  have hne : (known == key) = false := by
    rw [beq_eq_false_iff_ne]
    rintro rfl
    exact h hknown
  change ((key, v) :: fields).lookup known = fields.lookup known
  rw [List.lookup_cons, hne]

theorem AlikeWindow.rel_refl (w : Option Value) : Option.Rel AlikeWindow w w := by
  cases w with
  | none => exact .none
  | some w => exact .some ⟨rfl, fun _ _ => rfl⟩

theorem alikeReply_of_agreeOn (h : AgreeOn replyKeys root root') : AlikeReply root root' := by
  have hlimits : matchingEntries root' = matchingEntries root := by
    unfold matchingEntries limitsOf
    rw [h "limits" (by decide)]
  refine ⟨?_, ?_, ?_⟩
  · rw [h "five_hour" (by decide)]
    exact AlikeWindow.rel_refl _
  · rw [h "seven_day" (by decide)]
    exact AlikeWindow.rel_refl _
  · rw [hlimits]
    exact List.forall₂_same.mpr (fun _ _ _ _ => rfl)

theorem ofKind_alike (kinds : List String) (h : AgreeOn entryKeys v v') :
    ofKind kinds v' = ofKind kinds v := by
  unfold ofKind
  rw [h "kind" (by decide)]

theorem isActive_alike (h : AgreeOn entryKeys v v') : isActive v' = isActive v := by
  unfold isActive
  rw [h "is_active" (by decide)]

theorem alikeWindow_of_entry {kinds : List String} (h : AgreeOn entryKeys v v')
    (hkind : ofKind kinds v = true) : AlikeWindow v v' := by
  have hkind' : ofKind kinds v' = true := by rw [ofKind_alike kinds h, hkind]
  refine ⟨?_, fun key hkey => h key (by simp [entryKeys, hkey])⟩
  rw [isNull_of_ofKind hkind, isNull_of_ofKind hkind']

variable [FloatText]

theorem partsOf_alike (h : AgreeOn windowKeys v v') : partsOf v' = partsOf v := by
  unfold partsOf fractionOf resetsAtOf severityOf
  rw [h "utilization" (by decide), h "percent" (by decide), h "resets_at" (by decide),
    h "severity" (by decide)]

end Alike

section Filtered

variable {R S : Value → Value → Prop} {p : Value → Bool} {vs vs' : List Value}

theorem forall₂_filter (h : List.Forall₂ R vs vs') (hp : ∀ v v', R v v' → p v' = p v)
    (hS : ∀ v v', R v v' → p v = true → S v v') :
    List.Forall₂ S (vs.filter p) (vs'.filter p) := by
  induction h with
  | nil => exact .nil
  | @cons v v' vs vs' hv _ ih =>
    by_cases hpv : p v = true
    · rw [List.filter_cons_of_pos hpv, List.filter_cons_of_pos (by rw [hp v v' hv, hpv])]
      exact .cons (hS v v' hv hpv) ih
    · rw [List.filter_cons_of_neg hpv, List.filter_cons_of_neg (by rw [hp v v' hv]; exact hpv)]
      exact ih

theorem forall₂_toList {w w' : Option Value} (h : Option.Rel R w w') :
    List.Forall₂ R w.toList w'.toList := by
  cases h with
  | none => exact .nil
  | some h => exact .cons h .nil

variable [FloatText]

theorem findSome?_alike (h : List.Forall₂ AlikeWindow vs vs') :
    vs'.findSome? partsOf = vs.findSome? partsOf ∧
      vs'.all (fun v => v.isNull) = vs.all (fun v => v.isNull) := by
  induction h with
  | nil => exact ⟨rfl, rfl⟩
  | cons hv _ ih =>
    rw [List.findSome?_cons, List.findSome?_cons, List.all_cons, List.all_cons, ih.1, ih.2,
      partsOf_alike hv.fields, hv.null]
    exact ⟨rfl, rfl⟩

end Filtered

section Dependence

variable [FloatText] {root root' : Value}

omit [FloatText] in
theorem entries_eq (kinds : List String)
    (h : ∀ e, ofKind kinds e = true → (ofKind sessionKinds e || ofKind weeklyKinds e) = true) :
    ((limitsOf root).getD []).filter (ofKind kinds) =
      (matchingEntries root).filter (ofKind kinds) := by
  unfold matchingEntries
  rw [List.filter_filter]
  refine List.filter_congr (fun e _ => ?_)
  cases hkind : ofKind kinds e with
  | false => rfl
  | true => rw [h e hkind]; rfl

theorem windowState_alike {topKey : String} {kinds : List String}
    (htop : Option.Rel AlikeWindow (root.get topKey) (root'.get topKey))
    (hlimits : List.Forall₂ (AgreeOn entryKeys) (matchingEntries root) (matchingEntries root'))
    (hkinds : ∀ e, ofKind kinds e = true →
      (ofKind sessionKinds e || ofKind weeklyKinds e) = true) :
    windowState root' topKey kinds = windowState root topKey kinds := by
  have hentries : List.Forall₂ (fun v v' => AgreeOn entryKeys v v' ∧ ofKind kinds v = true)
      ((matchingEntries root).filter (ofKind kinds))
      ((matchingEntries root').filter (ofKind kinds)) :=
    forall₂_filter hlimits (fun _ _ h => ofKind_alike kinds h) (fun _ _ h hkind => ⟨h, hkind⟩)
  have hcarriers : List.Forall₂ AlikeWindow (carriers root topKey kinds)
      (carriers root' topKey kinds) := by
    unfold carriers
    dsimp only
    rw [entries_eq kinds hkinds, entries_eq kinds hkinds]
    refine List.rel_append ?_ (List.rel_append ?_ ?_)
    · exact forall₂_toList htop
    · exact forall₂_filter hentries (fun _ _ h => isActive_alike h.1)
        (fun _ _ h _ => alikeWindow_of_entry h.1 h.2)
    · exact forall₂_filter hentries (fun _ _ h => by rw [isActive_alike h.1])
        (fun _ _ h _ => alikeWindow_of_entry h.1 h.2)
  obtain ⟨hfind, hall⟩ := findSome?_alike hcarriers
  unfold windowState
  rw [hfind, hall]

/-- Replies that are read alike make the same report. -/
theorem parseUsageRoot_alike (h : AlikeReply root root') :
    parseUsageRoot root' = parseUsageRoot root := by
  rw [parseUsageRoot_eq, parseUsageRoot_eq,
    windowState_alike h.session h.limits (fun e hkind => by rw [hkind, Bool.true_or]),
    windowState_alike h.weekly h.limits (fun e hkind => by rw [hkind, Bool.or_true])]

omit [FloatText] in
theorem alikeReply_unmatched {xs ys : List Value} {e : Value}
    (hlimits : limitsOf root = some (xs ++ ys)) (hlimits' : limitsOf root' = some (xs ++ e :: ys))
    (htop : AgreeOn ["five_hour", "seven_day"] root root')
    (he : (ofKind sessionKinds e || ofKind weeklyKinds e) = false) : AlikeReply root root' := by
  have hsame : matchingEntries root' = matchingEntries root := by
    unfold matchingEntries
    rw [hlimits, hlimits', Option.getD_some, Option.getD_some, List.filter_append,
      List.filter_append, List.filter_cons_of_neg (by rw [he]; exact Bool.false_ne_true)]
  refine ⟨?_, ?_, ?_⟩
  · rw [htop "five_hour" (by decide)]
    exact AlikeWindow.rel_refl _
  · rw [htop "seven_day" (by decide)]
    exact AlikeWindow.rel_refl _
  · rw [hsame]
    exact List.forall₂_same.mpr (fun _ _ _ _ => rfl)

/-- A reply is a report of its windows, each of which is read by the same rule, and of nothing else. -/
structure ReportsWindows (root : Value) (result : Except Error UsageReport) : Prop where
  ok : (∃ report, result = .ok report) ↔
    windowState root "five_hour" sessionKinds ≠ .unreadable ∧
      windowState root "seven_day" weeklyKinds ≠ .unreadable ∧
        ((∃ parts, windowState root "five_hour" sessionKinds = .readable parts) ∨
          ∃ parts, windowState root "seven_day" weeklyKinds = .readable parts)
  session : ∀ report, result = .ok report →
    (report.session, report.sessionResetsAt, report.sessionSeverity) =
      windowParts (windowState root "five_hour" sessionKinds).parts
  weekly : ∀ report, result = .ok report →
    (report.weekly, report.weeklyResetsAt, report.weeklySeverity) =
      windowParts (windowState root "seven_day" weeklyKinds).parts
  bounded : ∀ report, result = .ok report → ∀ fraction,
    report.session = some fraction ∨ report.weekly = some fraction → 0 ≤ fraction ∧ fraction ≤ 1
  sessionReset : ∀ report, result = .ok report →
    (report.sessionResetsAt.isSome ∨ report.toUsage.sessionResetsAt.isSome) →
      report.toUsage.session.isSome
  weeklyReset : ∀ report, result = .ok report →
    (report.weeklyResetsAt.isSome ∨ report.toUsage.weeklyResetsAt.isSome) →
      report.toUsage.weekly.isSome
  alike : ∀ root', AlikeReply root root' → parseUsageRoot root' = result
  order : ∀ fields fields', root = .object fields → (fields.map Prod.fst).Nodup →
    fields.Perm fields' → parseUsageRoot (.object fields') = result
  unknown : ∀ fields key v, root = .object fields → key ∉ replyKeys →
    parseUsageRoot (.object ((key, v) :: fields)) = result
  unmatched : ∀ root' xs e ys, limitsOf root = some (xs ++ ys) →
    limitsOf root' = some (xs ++ e :: ys) → AgreeOn ["five_hour", "seven_day"] root root' →
      (ofKind sessionKinds e || ofKind weeklyKinds e) = false → parseUsageRoot root' = result

omit [FloatText] in
theorem reportOf_ok {session weekly : WindowState} {report : UsageReport}
    (h : reportOf session weekly = .ok report) :
    (report.session, report.sessionResetsAt, report.sessionSeverity) =
        windowParts session.parts ∧
      (report.weekly, report.weeklyResetsAt, report.weeklySeverity) =
        windowParts weekly.parts := by
  cases session <;> cases weekly <;> cases h <;> exact ⟨rfl, rfl⟩

omit [FloatText] in
theorem exists_reportOf_ok (session weekly : WindowState) :
    (∃ report, reportOf session weekly = .ok report) ↔
      session ≠ .unreadable ∧ weekly ≠ .unreadable ∧
        ((∃ parts, session = .readable parts) ∨ ∃ parts, weekly = .readable parts) := by
  cases session <;> cases weekly <;> simp [reportOf]

theorem reportsWindows (root : Value) : ReportsWindows root (parseUsageRoot root) := by
  have hparts : ∀ state : WindowState, ∀ triple : Option ℚ × Option (List Char) × Option String,
      triple = windowParts state.parts → triple.2.1.isSome → triple.1.isSome := by
    rintro state triple rfl hsome
    cases state <;> first | rfl | cases hsome
  have hfraction : ∀ (topKey : String) (kinds : List String) (fraction : ℚ),
      (windowParts (windowState root topKey kinds).parts).1 = some fraction →
        0 ≤ fraction ∧ fraction ≤ 1 := by
    intro topKey kinds fraction h
    cases hstate : windowState root topKey kinds with
    | readable parts =>
      rw [hstate] at h
      obtain rfl := Option.some.inj h
      exact windowState_bounded hstate
    | unreadable => simp [hstate, WindowState.parts, windowParts] at h
    | absent => simp [hstate, WindowState.parts, windowParts] at h
  have hreports : ∀ report, parseUsageRoot root = .ok report →
      (report.session, report.sessionResetsAt, report.sessionSeverity) =
          windowParts (windowState root "five_hour" sessionKinds).parts ∧
        (report.weekly, report.weeklyResetsAt, report.weeklySeverity) =
          windowParts (windowState root "seven_day" weeklyKinds).parts := by
    intro report h
    rw [parseUsageRoot_eq] at h
    exact reportOf_ok h
  refine ⟨?_, fun report h => (hreports report h).1, fun report h => (hreports report h).2, ?_, ?_,
    ?_, fun root' h => parseUsageRoot_alike h, ?_, ?_, ?_⟩
  · rw [parseUsageRoot_eq]
    exact exists_reportOf_ok _ _
  · intro report h fraction hread
    obtain ⟨hsession, hweekly⟩ := hreports report h
    rcases hread with hread | hread
    · exact hfraction "five_hour" sessionKinds fraction
        ((congrArg Prod.fst hsession).symm.trans hread)
    · exact hfraction "seven_day" weeklyKinds fraction
        ((congrArg Prod.fst hweekly).symm.trans hread)
  · intro report h hreset
    refine hparts _ _ (hreports report h).1 ?_
    rcases hreset with hreset | hreset
    · exact hreset
    · exact Option.isSome_of_isSome_bind hreset
  · intro report h hreset
    refine hparts _ _ (hreports report h).2 ?_
    rcases hreset with hreset | hreset
    · exact hreset
    · exact Option.isSome_of_isSome_bind hreset
  · rintro fields fields' rfl hdistinct hperm
    exact parseUsageRoot_alike (alikeReply_of_agreeOn (agreeOn_perm replyKeys hdistinct hperm))
  · rintro fields key v rfl hkey
    exact parseUsageRoot_alike (alikeReply_of_agreeOn (agreeOn_unknown hkey v))
  · intro root' xs e ys hlimits hlimits' htop he
    exact parseUsageRoot_alike (alikeReply_unmatched hlimits hlimits' htop he)

/-- The response is what the trailer says of the reply, and its body is that of the reply. -/
structure RecoversReply (sent : List UInt8) (httpCode : ℕ) (value : List UInt8)
    (response : HttpResponse) : Prop where
  body : response.body = fromUtf8Lossy sent
  text : ∀ text, sent = text.flatMap String.utf8EncodeChar → response.body = text
  status : response.status = if httpCode < 65536 then httpCode else 0
  header : response.retryAfter = parseRetryAfter (fromUtf8Lossy value)
  seconds : ∀ n, value = (Nat.toDigits 10 n).flatMap String.utf8EncodeChar →
    response.retryAfter = if n < 18446744073709551616 then some n else none
  noHeader : value = [] → response.retryAfter = none

omit [FloatText] in
theorem recoversReply {retryAfter : List UInt8} (h : lineFeed ∉ retryAfter) (body : List UInt8)
    (httpCode : ℕ) :
    RecoversReply body httpCode retryAfter (parseCurlOutput (curlOutput body httpCode retryAfter)) := by
  rw [parseCurlOutput_curlOutput h]
  refine ⟨rfl, ?_, rfl, rfl, ?_, ?_⟩
  · rintro text rfl
    exact fromUtf8Lossy_encode text
  · rintro n rfl
    dsimp only
    rw [fromUtf8Lossy_encode]
    have hpadded : padded 0 n = Nat.toDigits 10 n := by simp [padded, List.leftpad]
    rw [← hpadded]
    exact parseRetryAfter_padded 0 n
  · rintro rfl
    dsimp only
    rw [fromUtf8Lossy_nil]
    rfl

/-- The windows of a reply are read by one rule, and the reply itself is recovered from what `curl`
prints, whatever lines its body has. -/
theorem usage_response_spec [Status.SerdeText] (root : Value) (body : List UInt8) (httpCode : ℕ)
    (retryAfter : List UInt8) :
    (∀ text, Status.SerdeText.fromStr text = some root → ReportsWindows root (parseUsage text)) ∧
      (lineFeed ∉ retryAfter → RecoversReply body httpCode retryAfter
        (parseCurlOutput (curlOutput body httpCode retryAfter))) := by
  refine ⟨fun text htext => ?_, fun h => recoversReply h body httpCode⟩
  unfold parseUsage
  rw [htext]
  exact reportsWindows root

end Dependence

end Sessiometer
