import Sessiometer.Log.ReadBack
import Sessiometer.Log.View

/-! # The words of a line

What the readers that cut a line at its white space find under a key. -/

namespace Sessiometer.Log

open Framing

/-- Neither white space nor a control character. -/
def Bare (t : Text) : Prop := ∀ c ∈ t, isWhitespace c = false ∧ isControl c = false

/-- The pairs that the words of a line spell. -/
def pairs (line : Text) : List Field := (splitWhitespace line).filterMap (splitOnce '=')

/-- The value of the last pair under a key. -/
def lastValue (fields : List Field) (key : String) : Option Text :=
  (fields.filter (·.1 = key.toList)).getLast?.map (·.2)

section Words

variable {p q w : Text} {key : String} {fields : List Field}

theorem fieldOf_eq (line : Text) (key : String) : fieldOf line key = lastValue (pairs line) key := rfl

theorem Bare.append (hp : Bare p) (hq : Bare q) : Bare (p ++ q) := by
  intro c hc
  exact (List.mem_append.mp hc).elim (hp c) (hq c)

theorem bare_of_all (h : p.all (fun c => !isWhitespace c && !isControl c) = true) : Bare p := by
  intro c hc
  have hboth := List.all_eq_true.mp h c hc
  simpa using hboth

theorem splitWhitespace_space (p q : Text) :
    splitWhitespace (p ++ ' ' :: q) = splitWhitespace p ++ splitWhitespace q := by
  unfold splitWhitespace
  rw [List.splitOnP_append_cons _ _ (by decide), List.filter_append]

theorem splitWhitespace_bare (hp : Bare p) (hne : p ≠ []) : splitWhitespace p = [p] := by
  unfold splitWhitespace
  rw [List.splitOnP_eq_singleton fun c hc => (hp c hc).1]
  simp [hne]

theorem mem_of_mem_splitOnP {f : Char → Bool} (hw : w ∈ p.splitOnP f) :
    ∀ c ∈ w, f c = false ∧ c ∈ p := by
  induction p generalizing w with
  | nil =>
    obtain rfl : w = [] := by simpa using hw
    simp
  | cons a p ih =>
    rw [List.splitOnP_cons_eq_if_modifyHead] at hw
    by_cases ha : f a = true
    · rw [if_pos ha] at hw
      rcases List.mem_cons.mp hw with rfl | hw
      · simp
      · intro c hc
        have h := ih hw c hc
        exact ⟨h.1, List.mem_cons_of_mem _ h.2⟩
    · rw [if_neg ha] at hw
      obtain ⟨first, rest, hsplit⟩ := List.exists_cons_of_ne_nil (List.splitOnP_ne_nil f p)
      rw [hsplit, List.modifyHead_cons] at hw
      intro c hc
      rcases List.mem_cons.mp hw with rfl | hw
      · rcases List.mem_cons.mp hc with rfl | hc
        · exact ⟨by simpa using ha, List.mem_cons_self ..⟩
        · have h := ih (hsplit ▸ List.mem_cons_self ..) c hc
          exact ⟨h.1, List.mem_cons_of_mem _ h.2⟩
      · have h := ih (hsplit ▸ List.mem_cons_of_mem _ hw) c hc
        exact ⟨h.1, List.mem_cons_of_mem _ h.2⟩

theorem lastValue_append (fields more : List Field) (key : String) :
    lastValue (fields ++ more) key = (lastValue more key).or (lastValue fields key) := by
  unfold lastValue
  rw [List.filter_append, List.getLast?_append]
  cases (more.filter (·.1 = key.toList)).getLast? <;> simp

theorem lastValue_none (h : ∀ f ∈ fields, f.1 ≠ key.toList) : lastValue fields key = none := by
  unfold lastValue
  rw [List.filter_eq_nil_iff.mpr (by simpa using h)]
  rfl

theorem lastValue_nil (key : String) : lastValue [] key = none := rfl

theorem lastValue_skip {name : Text} {value : Text} (hne : name ≠ key.toList) :
    lastValue ((name, value) :: fields) key = lastValue fields key := by
  unfold lastValue
  rw [List.filter_cons_of_neg (by simpa using hne)]

theorem lastValue_hit (value : Text) (fields : List Field) (key : String) :
    lastValue ((key.toList, value) :: fields) key = (lastValue fields key).or (some value) := by
  have happend := lastValue_append [(key.toList, value)] fields key
  rw [List.singleton_append] at happend
  rw [happend]
  simp [lastValue]

theorem mem_of_lastValue {v : Text} (h : lastValue fields key = some v) :
    (key.toList, v) ∈ fields := by
  obtain ⟨f, hf, rfl⟩ := Option.map_eq_some_iff.mp h
  obtain ⟨hmem, hkey⟩ := List.mem_filter.mp (List.mem_of_getLast? hf)
  rw [← of_decide_eq_true hkey]
  exact hmem

theorem pairs_space (p q : Text) : pairs (p ++ ' ' :: q) = pairs p ++ pairs q := by
  unfold pairs
  rw [splitWhitespace_space, List.filterMap_append]

theorem pairs_bare {name value : Text} (hname : Bare name) (hsep : '=' ∉ name)
    (hvalue : Bare value) : pairs (name ++ '=' :: value) = [(name, value)] := by
  have hword : Bare (name ++ '=' :: value) :=
    hname.append (Bare.append (p := ['=']) (bare_of_all (by decide)) hvalue)
  unfold pairs
  rw [splitWhitespace_bare hword (by simp), List.filterMap_cons, splitOnce_append hsep]
  rfl

/-- The fields are read as they are, as far as their texts are one word each. -/
theorem pairs_fields (h : ∀ f ∈ fields, Bare f.1 ∧ '=' ∉ f.1 ∧ Bare f.2) :
    pairs (fields.flatMap fieldText) = fields := by
  induction fields with
  | nil => rfl
  | cons f fields ih =>
    obtain ⟨hname, hsep, hvalue⟩ := h f (List.mem_cons_self ..)
    have hrest := ih fun g hg => h g (List.mem_cons_of_mem _ hg)
    have hfirst := pairs_bare hname hsep hvalue
    cases fields with
    | nil =>
      have htext : [f].flatMap fieldText = [] ++ ' ' :: (f.1 ++ '=' :: f.2) := by simp [fieldText]
      rw [htext, pairs_space, hfirst]
      rfl
    | cons g fields =>
      have htext : (f :: g :: fields).flatMap fieldText = [] ++ ' ' :: ((f.1 ++ '=' :: f.2) ++
          ' ' :: (g.1 ++ '=' :: g.2 ++ fields.flatMap fieldText)) := by
        simp [fieldText]
      have hlater : pairs (g.1 ++ '=' :: g.2 ++ fields.flatMap fieldText) = g :: fields := by
        have hspace : (g :: fields).flatMap fieldText =
            [] ++ ' ' :: (g.1 ++ '=' :: g.2 ++ fields.flatMap fieldText) := by simp [fieldText]
        rw [hspace, pairs_space] at hrest
        exact hrest
      rw [htext, pairs_space, pairs_space, hfirst, hlater]
      rfl

/-- What a reader finds has neither white space nor, in a line of the log, a control character. -/
theorem bare_of_fieldOf {line v : Text} (hline : ∀ c ∈ line, isControl c = false)
    (h : fieldOf line key = some v) : Bare v := by
  have hmem := mem_of_lastValue h
  obtain ⟨word, hword, hsplit⟩ := List.mem_filterMap.mp hmem
  have hchars := mem_of_mem_splitOnP (List.mem_filter.mp hword).1
  have hsub : ∀ c ∈ v, c ∈ word := by
    intro c hc
    unfold splitOnce at hsplit
    by_cases hsep : '=' ∈ word
    · rw [if_pos hsep] at hsplit
      obtain ⟨-, rfl⟩ := Prod.mk.inj (Option.some.inj hsplit)
      exact (List.dropWhile_sublist _).subset ((List.tail_sublist _).subset hc)
    · simp [hsep] at hsplit
  intro c hc
  have h := hchars c (hsub c hc)
  exact ⟨h.1, hline c h.2⟩

end Words

end Sessiometer.Log
