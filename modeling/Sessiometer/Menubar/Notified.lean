import Mathlib.Data.Finset.Card
import Sessiometer.Menubar.Notifier

/-! # What the notifications tell

Every frame of a run of the deriver, told from the frames before it. -/

namespace Sessiometer.Menubar

open Effects (Runs)

variable {Label : Type} [LinearOrder Label]

/-- A frame that was folded in, with the events that were returned and the labels that were named. -/
structure Ingested (Label : Type) where
  frame : Frame Label
  events : List AccountEvent
  named : Finset Label

namespace Frame

def Connected (f : Frame Label) : Prop := f.connectionState = .connected

instance (f : Frame Label) : Decidable f.Connected := inferInstanceAs (Decidable (_ = _))

/-- A login is shown within its horizon, with its deadline. -/
def Shows (f : Frame Label) (l : Label) (deadline : Int64) : Prop :=
  ∃ o ∈ f.expiries, o.label = l ∧
    ∃ horizon, expiryView o.expiry f.now = .live deadline horizon ∧ horizon ≠ .beyond

def InHorizon (f : Frame Label) (l : Label) : Prop := ∃ deadline, f.Shows l deadline

end Frame

namespace Ingested

variable (past : List (Ingested Label))

/-- A label was named, and no healthy frame since has shown it outside the horizon. -/
def Told (l : Label) : Prop :=
  ∃ before naming after, past = before ++ naming :: after ∧ l ∈ naming.named ∧
    ∀ i ∈ after, i.frame.Connected → i.frame.InHorizon l

/-- The spacing has passed since every notification of an expiring login. -/
def Elapsed (now : Int64) : Prop :=
  ∀ i ∈ past, AccountEvent.loginExpiring ∈ i.events →
    expiryNotificationSpacingSecs ≤ now.toInt - i.frame.now.toInt

instance (now : Int64) : Decidable (Elapsed past now) :=
  inferInstanceAs (Decidable (∀ i ∈ past, _ → _))

/-- How many frames of a window may notify of an expiring login. -/
def openings : List (Ingested Label) → List (Ingested Label) → ℕ
  | _, [] => 0
  | past, i :: rest =>
    (if i.frame.Connected ∧ Elapsed past i.frame.now then 1 else 0) + openings (past ++ [i]) rest

end Ingested

open Ingested

def IngestStep (d : AccountEventDeriver Label) (i : Ingested Label)
    (d' : AccountEventDeriver Label) : Prop :=
  d.ingest i.frame = some (d', i.events) ∧ i.named = d'.namedInHorizon \ d.namedInHorizon

/-! ## One frame -/

namespace AccountEventDeriver

variable {d d' : AccountEventDeriver Label} {f : Frame Label} {events : List AccountEvent}

/-- The named labels that a frame still shows. -/
def kept (d : AccountEventDeriver Label) (f : Frame Label) : Finset Label :=
  d.namedInHorizon ∩ ((observedInHorizon f.expiries f.now).map ExpiryObservation.label).toFinset

/-- The login that would be named next. -/
def nextUnnamed (d : AccountEventDeriver Label) (f : Frame Label) :
    Option (ExpiryObservation Label) :=
  (((observedInHorizon f.expiries f.now).filter fun o => decide (o.label ∉ d.kept f)).insertionSort
    (Sooner f.now)).head?

/-- The spacing has passed since the last notification. -/
def Open (d : AccountEventDeriver Label) (now : Int64) : Prop :=
  ∀ last ∈ d.lastExpiryNotificationAt,
    expiryNotificationSpacingSecs ≤ now.toInt - last.toInt

theorem ingest_cases (h : d.ingest f = some (d', events)) :
    (¬f.Connected ∧ d' = { d with baseline := none } ∧ events = []) ∨
    (f.Connected ∧ (f.notificationsEnabled = true → d.Open f.now → d.nextUnnamed f = none) ∧
      d' = { d with
        baseline := some ⟨f.activeLabel, f.hasNoViableTarget⟩
        namedInHorizon := d.kept f } ∧
      events = edgeEvents d.baseline f.activeLabel f.hasNoViableTarget) ∨
    (f.Connected ∧ f.notificationsEnabled = true ∧ d.Open f.now ∧
      ∃ next, d.nextUnnamed f = some next ∧
        d' = ⟨some ⟨f.activeLabel, f.hasNoViableTarget⟩, insert next.label (d.kept f), some f.now⟩ ∧
        events = edgeEvents d.baseline f.activeLabel f.hasNoViableTarget ++ [.loginExpiring]) := by
  unfold ingest at h
  by_cases hconn : f.connectionState = .connected
  · rw [if_neg (by simpa using hconn)] at h
    obtain ⟨out, hout, heq⟩ := Option.map_eq_some_iff.mp h
    obtain ⟨rfl, rfl⟩ := Prod.mk.inj heq
    unfold expiryEvents at hout
    dsimp only at hout
    by_cases hon : f.notificationsEnabled = true
    · rw [if_neg (by simpa using hon)] at hout
      have hhead : (((observedInHorizon f.expiries f.now).filter fun o =>
          decide (o.label ∉ d.kept f)).insertionSort (Sooner f.now)).head? = d.nextUnnamed f := rfl
      unfold kept at hhead
      rw [hhead] at hout
      cases hnext : d.nextUnnamed f with
      | none =>
        rw [hnext] at hout
        obtain rfl := Option.some.inj hout
        exact .inr (.inl ⟨hconn, fun _ _ => rfl, rfl, by simp⟩)
      | some next =>
        rw [hnext] at hout
        dsimp only at hout
        cases hlast : d.lastExpiryNotificationAt with
        | none =>
          rw [hlast] at hout
          obtain rfl := Option.some.inj hout
          exact .inr (.inr ⟨hconn, hon, by simp [Open, hlast], next, rfl, rfl, rfl⟩)
        | some last =>
          rw [hlast] at hout
          obtain ⟨elapsed, helapsed, rfl⟩ := Option.map_eq_some_iff.mp hout
          obtain ⟨-, rfl⟩ := Framing.checkedI64_eq_some.mp helapsed
          by_cases hspaced : f.now.toInt - last.toInt < expiryNotificationSpacingSecs
          · refine .inr (.inl ⟨hconn, ?_, by simp [hspaced, kept], by simp [hspaced]⟩)
            intro _ hopen
            have := hopen last hlast
            omega
          · refine .inr (.inr ⟨hconn, hon, ?_, next, rfl, ?_, ?_⟩)
            · intro t ht
              obtain rfl := Option.some.inj (hlast.symm.trans ht)
              omega
            · simp [hspaced, kept]
            · simp [hspaced]
    · rw [if_pos (by simpa using hon)] at hout
      obtain rfl := Option.some.inj hout
      refine .inr (.inl ⟨hconn, fun h => absurd h hon, rfl, ?_⟩)
      simp
  · rw [if_pos hconn] at h
    obtain ⟨rfl, rfl⟩ := Prod.mk.inj (Option.some.inj h)
    exact .inl ⟨hconn, rfl, rfl⟩

theorem sooner_total (now : Int64) : Std.Total (@Sooner Label _ now) := by
  constructor
  intro a b
  unfold Sooner
  rcases lt_trichotomy (deadlineAt now a).toInt (deadlineAt now b).toInt with h | h | h
  · exact .inl (.inl (Int64.lt_iff_toInt_lt.mpr h))
  · have heq := Int64.toInt_inj.mp h
    rcases le_total a.label b.label with hle | hle
    · exact .inl (.inr ⟨heq, hle⟩)
    · exact .inr (.inr ⟨heq.symm, hle⟩)
  · exact .inr (.inl (Int64.lt_iff_toInt_lt.mpr h))

theorem sooner_trans (now : Int64) : IsTrans (ExpiryObservation Label) (Sooner now) := by
  constructor
  intro a b c hab hbc
  simp only [Sooner, Int64.lt_iff_toInt_lt, ← Int64.toInt_inj] at hab hbc ⊢
  rcases hab with hab | ⟨hab, hlab⟩
  · rcases hbc with hbc | ⟨hbc, -⟩
    · exact .inl (by omega)
    · exact .inl (by omega)
  · rcases hbc with hbc | ⟨hbc, hlbc⟩
    · exact .inl (by omega)
    · exact .inr ⟨by omega, hlab.trans hlbc⟩

theorem nextUnnamed_some {next : ExpiryObservation Label} (h : d.nextUnnamed f = some next) :
    next ∈ observedInHorizon f.expiries f.now ∧ next.label ∉ d.kept f ∧
      ∀ o ∈ observedInHorizon f.expiries f.now, o.label ∉ d.kept f → Sooner f.now next o := by
  have htotal := @sooner_total Label _ f.now
  have htrans := @sooner_trans Label _ f.now
  unfold nextUnnamed at h
  have hmem := (List.mem_insertionSort _).mp (List.mem_of_head? h)
  obtain ⟨hin, hunnamed⟩ := List.mem_filter.mp hmem
  refine ⟨hin, of_decide_eq_true hunnamed, ?_⟩
  intro o ho hkept
  have hmem' : o ∈ (observedInHorizon f.expiries f.now).filter
      fun o => decide (o.label ∉ d.kept f) := List.mem_filter.mpr ⟨ho, by simpa using hkept⟩
  have ho' := (List.mem_insertionSort (Sooner f.now)).mpr hmem'
  have hsorted := List.pairwise_insertionSort (Sooner f.now)
    ((observedInHorizon f.expiries f.now).filter fun o => decide (o.label ∉ d.kept f))
  obtain ⟨rest, hrest⟩ := List.head?_eq_some_iff.mp h
  rw [hrest] at ho' hsorted
  rcases List.mem_cons.mp ho' with rfl | ho'
  · exact (htotal.total o o).elim id id
  · exact (List.pairwise_cons.mp hsorted).1 o ho'

theorem nextUnnamed_none (h : d.nextUnnamed f = none) :
    ∀ o ∈ observedInHorizon f.expiries f.now, o.label ∈ d.kept f := by
  unfold nextUnnamed at h
  have hnil := List.head?_eq_none_iff.mp h
  intro o ho
  by_contra hkept
  have hmem' : o ∈ (observedInHorizon f.expiries f.now).filter
      fun o => decide (o.label ∉ d.kept f) := List.mem_filter.mpr ⟨ho, by simpa using hkept⟩
  have ho' := (List.mem_insertionSort (Sooner f.now)).mpr hmem'
  rw [hnil] at ho'
  exact List.not_mem_nil ho'

omit [LinearOrder Label] in
theorem shows_iff {l : Label} {deadline : Int64} : f.Shows l deadline ↔
    ∃ o ∈ observedInHorizon f.expiries f.now, o.label = l ∧ deadlineAt f.now o = deadline := by
  constructor
  · rintro ⟨o, ho, hl, horizon, hview, hhorizon⟩
    refine ⟨o, List.mem_filter.mpr ⟨ho, ?_⟩, hl, by simp [deadlineAt, hview]⟩
    cases horizon <;> simp_all [expiryWithinHorizon]
  · rintro ⟨o, ho, hl, rfl⟩
    obtain ⟨ho, hwithin⟩ := List.mem_filter.mp ho
    refine ⟨o, ho, hl, ?_⟩
    cases hview : expiryView o.expiry f.now with
    | gap => simp [expiryWithinHorizon, hview] at hwithin
    | lapsed => simp [expiryWithinHorizon, hview] at hwithin
    | live deadline horizon =>
      refine ⟨horizon, by simp [deadlineAt, hview], ?_⟩
      rintro rfl
      simp [expiryWithinHorizon, hview] at hwithin

omit [LinearOrder Label] in
theorem inHorizon_iff {l : Label} :
    f.InHorizon l ↔ ∃ o ∈ observedInHorizon f.expiries f.now, o.label = l := by
  constructor
  · rintro ⟨deadline, hshows⟩
    obtain ⟨o, ho, hl, -⟩ := shows_iff.mp hshows
    exact ⟨o, ho, hl⟩
  · rintro ⟨o, ho, hl⟩
    exact ⟨_, shows_iff.mpr ⟨o, ho, hl, rfl⟩⟩

theorem mem_kept {l : Label} : l ∈ d.kept f ↔ l ∈ d.namedInHorizon ∧ f.InHorizon l := by
  simp [kept, inHorizon_iff]

end AccountEventDeriver

/-! ## What the deriver remembers of the frames -/

section Told

variable {past : List (Ingested Label)} {i : Ingested Label} {l : Label} {now : Int64}

omit [LinearOrder Label] in
theorem not_told_nil : ¬Told ([] : List (Ingested Label)) l := by
  rintro ⟨before, naming, after, h, -⟩
  simp at h

omit [LinearOrder Label] in
theorem told_snoc : Told (past ++ [i]) l ↔
    l ∈ i.named ∨ Told past l ∧ (i.frame.Connected → i.frame.InHorizon l) := by
  constructor
  · rintro ⟨before, naming, after, heq, hnamed, hafter⟩
    cases after using List.reverseRecOn with
    | nil =>
      obtain ⟨-, hlast⟩ := List.append_inj' heq rfl
      obtain rfl : i = naming := by simpa using hlast
      exact .inl hnamed
    | append_singleton after last =>
      rw [← List.cons_append, ← List.append_assoc] at heq
      obtain ⟨rfl, hlast⟩ := List.append_inj' heq rfl
      obtain rfl : i = last := by simpa using hlast
      refine .inr ⟨⟨before, naming, after, rfl, hnamed, ?_⟩, hafter i (by simp)⟩
      intro j hj
      exact hafter j (by simp [hj])
  · rintro (hnamed | ⟨⟨before, naming, after, rfl, hnamed, hafter⟩, hi⟩)
    · exact ⟨past, i, [], rfl, hnamed, by simp⟩
    · refine ⟨before, naming, after ++ [i], by simp, hnamed, ?_⟩
      intro j hj
      rcases List.mem_append.mp hj with hj | hj
      · exact hafter j hj
      · obtain rfl : j = i := by simpa using hj
        exact hi

omit [LinearOrder Label] in
theorem elapsed_snoc : Elapsed (past ++ [i]) now ↔ Elapsed past now ∧
    (AccountEvent.loginExpiring ∈ i.events →
      expiryNotificationSpacingSecs ≤ now.toInt - i.frame.now.toInt) := by
  simp only [Elapsed, List.forall_mem_append, List.forall_mem_singleton]

end Told

/-- What a deriver holds is told from the frames it has folded in. -/
structure Remembers (past : List (Ingested Label)) (d : AccountEventDeriver Label) : Prop where
  baseline : ∀ b, d.baseline = some b ↔ ∃ i, past.getLast? = some i ∧ i.frame.Connected ∧
    b = ⟨i.frame.activeLabel, i.frame.hasNoViableTarget⟩
  named : ∀ l, l ∈ d.namedInHorizon ↔ Told past l
  gate : ∀ now, d.Open now ↔ Elapsed past now
  last : ∀ t, d.lastExpiryNotificationAt = some t → ∃ i ∈ past, i.frame.now = t

theorem expiring_notMem_edgeEvents (previous : Option (Baseline Label)) (active : Option Label)
    (exhausted : Bool) : AccountEvent.loginExpiring ∉
      AccountEventDeriver.edgeEvents previous active exhausted := by
  intro h
  unfold AccountEventDeriver.edgeEvents at h
  cases previous with
  | none => simp at h
  | some previous =>
    obtain ⟨was, hasNone⟩ := previous
    cases was with
    | none => simp at h
    | some was =>
      cases active with
      | none => simp at h
      | some now =>
        rcases List.mem_append.mp h with h | h
        · by_cases hne : was ≠ now <;> simp [hne] at h
        · simp at h

omit [LinearOrder Label] in
theorem remembers_fresh : Remembers [] (AccountEventDeriver.fresh : AccountEventDeriver Label) := by
  constructor
  · intro b
    simp [AccountEventDeriver.fresh]
  · intro l
    simp [AccountEventDeriver.fresh, not_told_nil]
  · intro now
    simp [AccountEventDeriver.fresh, AccountEventDeriver.Open, Elapsed]
  · intro t h
    cases h

theorem remembers_step {past : List (Ingested Label)} {d d' : AccountEventDeriver Label}
    {i : Ingested Label} (h : Remembers past d) (hstep : IngestStep d i d') :
    Remembers (past ++ [i]) d' := by
  obtain ⟨hingest, hnamed⟩ := hstep
  have hquiet : AccountEvent.loginExpiring ∉
      AccountEventDeriver.edgeEvents d.baseline i.frame.activeLabel i.frame.hasNoViableTarget :=
    expiring_notMem_edgeEvents _ _ _
  rcases AccountEventDeriver.ingest_cases hingest with
    ⟨hconn, rfl, hevents⟩ | ⟨hconn, -, rfl, hevents⟩ | ⟨hconn, hon, hopen, next, hnext, rfl, hevents⟩
  · constructor
    · intro b
      simp [hconn]
    · intro l
      rw [told_snoc, hnamed, ← h.named]
      simp [hconn]
    · intro now
      rw [elapsed_snoc, ← h.gate, hevents]
      simp [AccountEventDeriver.Open]
    · intro t ht
      obtain ⟨j, hj, ht⟩ := h.last t ht
      exact ⟨j, by simp [hj], ht⟩
  · constructor
    · intro b
      simp [hconn, eq_comm]
    · intro l
      rw [told_snoc, hnamed, ← h.named]
      simp only [AccountEventDeriver.mem_kept, Finset.mem_sdiff]
      tauto
    · intro now
      rw [elapsed_snoc, ← h.gate, hevents]
      simp [AccountEventDeriver.Open, hquiet]
    · intro t ht
      obtain ⟨j, hj, ht⟩ := h.last t ht
      exact ⟨j, by simp [hj], ht⟩
  · obtain ⟨hin, hunnamed, -⟩ := AccountEventDeriver.nextUnnamed_some hnext
    have hshown : i.frame.InHorizon next.label :=
      AccountEventDeriver.inHorizon_iff.mpr ⟨next, hin, rfl⟩
    rw [AccountEventDeriver.mem_kept] at hunnamed
    constructor
    · intro b
      simp [hconn, eq_comm]
    · intro l
      rw [told_snoc, hnamed, ← h.named]
      simp only [Finset.mem_insert, AccountEventDeriver.mem_kept, Finset.mem_sdiff]
      by_cases hl : l = next.label
      · subst hl
        tauto
      · tauto
    · intro now
      rw [elapsed_snoc, ← h.gate, hevents]
      simp only [AccountEventDeriver.Open, Option.mem_def, Option.some.injEq, forall_eq',
        List.mem_append, List.mem_singleton, or_true, true_implies]
      constructor
      · intro hnow
        refine ⟨?_, hnow⟩
        intro last hlast
        have := hopen last hlast
        unfold expiryNotificationSpacingSecs at hnow this ⊢
        omega
      · exact fun hnow => hnow.2
    · intro t ht
      exact ⟨i, by simp, Option.some.inj ht⟩

theorem remembers_run {past : List (Ingested Label)} {d : AccountEventDeriver Label}
    (h : Runs IngestStep AccountEventDeriver.fresh past d) : Remembers past d := by
  induction h with
  | refl => exact remembers_fresh
  | snoc _ hstep ih => exact remembers_step ih hstep

/-! ## A frame told from those before it -/

/-- What is returned and named at a frame, told from the frames before it. -/
structure Notified (past : List (Ingested Label)) (cur : Ingested Label) : Prop where
  once : cur.events.Sublist [.swapped, .allExhausted, .loginExpiring]
  swapped : AccountEvent.swapped ∈ cur.events ↔ cur.frame.Connected ∧
    ∃ prev, past.getLast? = some prev ∧ prev.frame.Connected ∧
      ∃ was now, prev.frame.activeLabel = some was ∧ cur.frame.activeLabel = some now ∧ was ≠ now
  allExhausted : AccountEvent.allExhausted ∈ cur.events ↔ cur.frame.Connected ∧
    ∃ prev, past.getLast? = some prev ∧ prev.frame.Connected ∧
      prev.frame.hasNoViableTarget = false ∧ cur.frame.hasNoViableTarget = true
  named : (∃ l, cur.named = {l} ∧ AccountEvent.loginExpiring ∈ cur.events) ∨
    cur.named = ∅ ∧ AccountEvent.loginExpiring ∉ cur.events
  spaced : AccountEvent.loginExpiring ∈ cur.events → ∀ prev ∈ past,
    AccountEvent.loginExpiring ∈ prev.events →
      expiryNotificationSpacingSecs ≤ cur.frame.now.toInt - prev.frame.now.toInt
  soonest : ∀ l ∈ cur.named, cur.frame.Connected ∧ ¬Told past l ∧
    ∃ deadline, cur.frame.Shows l deadline ∧
      ∀ l' deadline', cur.frame.Shows l' deadline' → ¬Told past l' →
        deadline < deadline' ∨ deadline = deadline' ∧ l ≤ l'
  again : ∀ l ∈ cur.named, ∀ before naming between, past = before ++ naming :: between →
    l ∈ naming.named → ∃ i ∈ between, i.frame.Connected ∧ ¬i.frame.InHorizon l
  off : cur.frame.notificationsEnabled = false → cur.named = ∅
  due : cur.frame.Connected → cur.frame.notificationsEnabled = true →
    Elapsed past cur.frame.now → (∃ l, cur.frame.InHorizon l ∧ ¬Told past l) → cur.named ≠ ∅

section Edges

variable {previous : Option (Baseline Label)} {active : Option Label} {exhausted : Bool}

/-- A swap was observed. -/
def swapSeen (b : Baseline Label) (active : Option Label) : Prop :=
  ∃ was now, b.activeLabel = some was ∧ active = some now ∧ was ≠ now

theorem edgeEvents_none : AccountEventDeriver.edgeEvents none active exhausted = [] := rfl

open Classical in
theorem edgeEvents_some (b : Baseline Label) :
    AccountEventDeriver.edgeEvents (some b) active exhausted =
      (if swapSeen b active then [.swapped] else []) ++
        if b.hasNoViableTarget = false ∧ exhausted = true then [.allExhausted] else [] := by
  have hexhausted : (exhausted && !b.hasNoViableTarget) = true ↔
      b.hasNoViableTarget = false ∧ exhausted = true := by
    simp [and_comm]
  obtain ⟨was, hasNone⟩ := b
  unfold AccountEventDeriver.edgeEvents
  dsimp only
  congr 1
  · cases was with
    | none => simp [swapSeen]
    | some was =>
      cases active with
      | none => simp [swapSeen]
      | some now => simp [swapSeen]
  · simp only [hexhausted]

theorem swapped_mem_edgeEvents : AccountEvent.swapped ∈
    AccountEventDeriver.edgeEvents previous active exhausted ↔
      ∃ b, previous = some b ∧ swapSeen b active := by
  cases previous with
  | none => simp [edgeEvents_none]
  | some b => simp [edgeEvents_some]

theorem allExhausted_mem_edgeEvents : AccountEvent.allExhausted ∈
    AccountEventDeriver.edgeEvents previous active exhausted ↔ ∃ b, previous = some b ∧
      b.hasNoViableTarget = false ∧ exhausted = true := by
  cases previous with
  | none => simp [edgeEvents_none]
  | some b => simp [edgeEvents_some]

theorem edgeEvents_sublist :
    (AccountEventDeriver.edgeEvents previous active exhausted).Sublist [.swapped, .allExhausted] := by
  cases previous with
  | none => simp [edgeEvents_none]
  | some b =>
    rw [edgeEvents_some]
    by_cases hswap : swapSeen b active <;>
      by_cases hexhausted : b.hasNoViableTarget = false ∧ exhausted = true <;>
        simp [hswap, hexhausted]

end Edges

section Run

variable {past : List (Ingested Label)} {cur : Ingested Label} {d d' : AccountEventDeriver Label}

theorem named_of_quiet (hstep : IngestStep d cur d') (hsub : d'.namedInHorizon ⊆ d.namedInHorizon) :
    cur.named = ∅ := by
  rw [hstep.2]
  exact Finset.sdiff_eq_empty_iff_subset.mpr hsub

theorem named_of_naming {next : ExpiryObservation Label} {b : Option (Baseline Label)}
    {t : Option Int64} (hnext : d.nextUnnamed cur.frame = some next)
    (hstep : IngestStep d cur ⟨b, insert next.label (d.kept cur.frame), t⟩) :
    cur.named = {next.label} := by
  obtain ⟨hin, hunnamed, -⟩ := AccountEventDeriver.nextUnnamed_some hnext
  have hshown : cur.frame.InHorizon next.label :=
    AccountEventDeriver.inHorizon_iff.mpr ⟨next, hin, rfl⟩
  rw [AccountEventDeriver.mem_kept] at hunnamed
  rw [hstep.2]
  ext l
  simp only [Finset.mem_sdiff, Finset.mem_insert, AccountEventDeriver.mem_kept,
    Finset.mem_singleton]
  by_cases hl : l = next.label
  · subst hl
    tauto
  · tauto

/-- A label that the deriver counts as named is told, as far as this frame shows it. -/
theorem kept_iff (h : Remembers past d) {l : Label} (hshown : cur.frame.InHorizon l) :
    l ∈ d.kept cur.frame ↔ Told past l := by
  rw [AccountEventDeriver.mem_kept, h.named]
  tauto

/-- What one frame does, told from the frames before it. -/
theorem step_cases (h : Remembers past d) (hstep : IngestStep d cur d') :
    (¬cur.frame.Connected ∧ cur.events = [] ∧ cur.named = ∅) ∨
    (cur.frame.Connected ∧ cur.named = ∅ ∧
      cur.events = AccountEventDeriver.edgeEvents d.baseline cur.frame.activeLabel
        cur.frame.hasNoViableTarget ∧
      (cur.frame.notificationsEnabled = true → Elapsed past cur.frame.now →
        ∀ l, cur.frame.InHorizon l → Told past l)) ∨
    (cur.frame.Connected ∧ cur.frame.notificationsEnabled = true ∧ Elapsed past cur.frame.now ∧
      cur.events = AccountEventDeriver.edgeEvents d.baseline cur.frame.activeLabel
        cur.frame.hasNoViableTarget ++ [.loginExpiring] ∧
      ∃ l deadline, cur.named = {l} ∧ cur.frame.Shows l deadline ∧ ¬Told past l ∧
        ∀ l' deadline', cur.frame.Shows l' deadline' → ¬Told past l' →
          deadline < deadline' ∨ deadline = deadline' ∧ l ≤ l') := by
  rcases AccountEventDeriver.ingest_cases hstep.1 with
    ⟨hconn, rfl, hevents⟩ | ⟨hconn, hnone, rfl, hevents⟩ |
      ⟨hconn, hon, hopen, next, hnext, rfl, hevents⟩
  · exact .inl ⟨hconn, hevents, named_of_quiet hstep (Finset.Subset.refl _)⟩
  · refine .inr (.inl ⟨hconn, named_of_quiet hstep Finset.inter_subset_left, hevents, ?_⟩)
    intro hon helapsed l hshown
    obtain ⟨o, ho, rfl⟩ := AccountEventDeriver.inHorizon_iff.mp hshown
    have hkept := AccountEventDeriver.nextUnnamed_none (hnone hon ((h.gate _).mpr helapsed)) o ho
    exact (kept_iff h hshown).mp hkept
  · obtain ⟨hin, hunnamed, hleast⟩ := AccountEventDeriver.nextUnnamed_some hnext
    have hshown : cur.frame.InHorizon next.label :=
      AccountEventDeriver.inHorizon_iff.mpr ⟨next, hin, rfl⟩
    refine .inr (.inr ⟨hconn, hon, (h.gate _).mp hopen, hevents, next.label,
      deadlineAt cur.frame.now next, named_of_naming hnext hstep, ?_, ?_, ?_⟩)
    · exact AccountEventDeriver.shows_iff.mpr ⟨next, hin, rfl, rfl⟩
    · rwa [← kept_iff h hshown]
    · intro l' deadline' hshows' htold'
      obtain ⟨o, ho, rfl, rfl⟩ := AccountEventDeriver.shows_iff.mp hshows'
      exact hleast o ho (by rwa [kept_iff h ⟨_, hshows'⟩])

theorem mem_edgeEvents_of_ne {previous : Option (Baseline Label)} {active : Option Label}
    {exhausted : Bool} {e : AccountEvent} (he : e ≠ .loginExpiring) :
    e ∈ AccountEventDeriver.edgeEvents previous active exhausted ++ [.loginExpiring] ↔
      e ∈ AccountEventDeriver.edgeEvents previous active exhausted := by
  simp [he]

omit [LinearOrder Label] in
/-- A transition is told from the frame before, if it was healthy. -/
theorem previous_iff (h : Remembers past d) {P : Baseline Label → Prop} :
    (∃ b, d.baseline = some b ∧ P b) ↔ ∃ prev, past.getLast? = some prev ∧
      prev.frame.Connected ∧ P ⟨prev.frame.activeLabel, prev.frame.hasNoViableTarget⟩ := by
  constructor
  · rintro ⟨b, hb, hP⟩
    obtain ⟨i, hi, hconn, rfl⟩ := (h.baseline b).mp hb
    exact ⟨i, hi, hconn, hP⟩
  · rintro ⟨i, hi, hconn, hP⟩
    exact ⟨_, (h.baseline _).mpr ⟨i, hi, hconn, rfl⟩, hP⟩

theorem notified_step (h : Remembers past d) (hstep : IngestStep d cur d') : Notified past cur := by
  have hquiet := expiring_notMem_edgeEvents d.baseline cur.frame.activeLabel
    cur.frame.hasNoViableTarget
  have hedges := @edgeEvents_sublist Label _ d.baseline cur.frame.activeLabel
    cur.frame.hasNoViableTarget
  rcases step_cases h hstep with ⟨hconn, hevents, hnamed⟩ | ⟨hconn, hnamed, hevents, htold⟩ |
    ⟨hconn, hon, helapsed, hevents, l, deadline, hnamed, hshows, hnot, hleast⟩
  · constructor <;> simp [hconn, hevents, hnamed]
  · constructor
    · rw [hevents]
      exact hedges.trans (by simp)
    · rw [hevents, swapped_mem_edgeEvents, previous_iff h]
      simp [hconn, swapSeen]
    · rw [hevents, allExhausted_mem_edgeEvents, previous_iff h]
      simp [hconn]
    · exact .inr ⟨hnamed, hevents ▸ hquiet⟩
    · exact fun hexpiring => absurd (hevents ▸ hexpiring) hquiet
    · simp [hnamed]
    · simp [hnamed]
    · exact fun _ => hnamed
    · rintro - hon helapsed ⟨l, hshown, hnot⟩
      exact absurd (htold hon helapsed l hshown) hnot
  · constructor
    · rw [hevents]
      exact hedges.append (List.Sublist.refl [AccountEvent.loginExpiring])
    · rw [hevents, mem_edgeEvents_of_ne (by decide), swapped_mem_edgeEvents, previous_iff h]
      simp [hconn, swapSeen]
    · rw [hevents, mem_edgeEvents_of_ne (by decide), allExhausted_mem_edgeEvents, previous_iff h]
      simp [hconn]
    · exact .inl ⟨l, hnamed, by simp [hevents]⟩
    · exact fun _ prev hprev hexpiring => helapsed prev hprev hexpiring
    · intro l' hl'
      obtain rfl : l' = l := by simpa [hnamed] using hl'
      exact ⟨hconn, hnot, deadline, hshows, hleast⟩
    · intro l' hl' before naming between heq hmem
      obtain rfl : l' = l := by simpa [hnamed] using hl'
      by_contra hall
      refine hnot ⟨before, naming, between, heq, hmem, ?_⟩
      intro i hi hi'
      by_contra hout
      exact hall ⟨i, hi, hi', hout⟩
    · simp [hon]
    · simp [hnamed]

open Classical in
/-- The labels of a set that are still to be named. -/
noncomputable def untold (s : Finset Label) (past : List (Ingested Label)) : Finset Label :=
  s.filter fun l => ¬Told past l

omit [LinearOrder Label] in
theorem mem_untold {s : Finset Label} {l : Label} :
    l ∈ untold s past ↔ l ∈ s ∧ ¬Told past l := by
  simp [untold]

/-- A frame that shows just a set of labels names one of them, if it may and one is left. -/
theorem untold_step {s : Finset Label} (h : Remembers past d) (hstep : IngestStep d cur d')
    (hset : cur.frame.Connected → cur.frame.notificationsEnabled = true ∧
      ∀ l, cur.frame.InHorizon l ↔ l ∈ s) :
    (untold s (past ++ [cur])).card ≤ (untold s past).card -
      if cur.frame.Connected ∧ Elapsed past cur.frame.now then 1 else 0 := by
  have hsub : untold s (past ++ [cur]) ⊆ untold s past := by
    intro l hl
    rw [mem_untold, told_snoc] at hl
    rw [mem_untold]
    refine ⟨hl.1, fun htold => hl.2 (.inr ⟨htold, fun hconn => ?_⟩)⟩
    exact ((hset hconn).2 l).mpr hl.1
  by_cases hopen : cur.frame.Connected ∧ Elapsed past cur.frame.now
  · rw [if_pos hopen]
    obtain ⟨hon, hshown⟩ := hset hopen.1
    rcases step_cases h hstep with ⟨hconn, -, -⟩ | ⟨-, -, -, htold⟩ |
      ⟨-, -, -, -, l, deadline, hnamed, hshows, hnot, -⟩
    · exact absurd hopen.1 hconn
    · have hnone : untold s past = ∅ := by
        refine Finset.eq_empty_of_forall_notMem ?_
        intro l hl
        rw [mem_untold] at hl
        exact hl.2 (htold hon hopen.2 l ((hshown l).mpr hl.1))
      have := Finset.card_le_card hsub
      simp only [hnone, Finset.card_empty] at this ⊢
      omega
    · have hl : l ∈ untold s past := mem_untold.mpr ⟨(hshown l).mp ⟨deadline, hshows⟩, hnot⟩
      have hl' : l ∉ untold s (past ++ [cur]) := by
        rw [mem_untold, told_snoc, hnamed]
        simp
      have hlt : untold s (past ++ [cur]) ⊂ untold s past :=
        Finset.ssubset_iff_subset_ne.mpr ⟨hsub, fun heq => hl' (heq ▸ hl)⟩
      have := Finset.card_lt_card hlt
      omega
  · rw [if_neg hopen]
    exact Finset.card_le_card hsub

theorem untold_run {s : Finset Label} {window : List (Ingested Label)}
    (hrun : Runs IngestStep AccountEventDeriver.fresh past d)
    (hwindow : Runs IngestStep d window d')
    (hset : ∀ i ∈ window, i.frame.Connected → i.frame.notificationsEnabled = true ∧
      ∀ l, i.frame.InHorizon l ↔ l ∈ s) :
    (untold s (past ++ window)).card ≤ (untold s past).card - openings past window := by
  induction window generalizing past d with
  | nil => simp [openings]
  | cons i rest ih =>
    obtain ⟨d₁, hstep, hrest⟩ := Effects.runs_cons_iff.mp hwindow
    have hone := untold_step (remembers_run hrun) hstep (hset i (List.mem_cons_self ..))
    have hlater := ih (.snoc hrun hstep) hrest fun j hj => hset j (List.mem_cons_of_mem _ hj)
    rw [List.append_assoc, List.singleton_append] at hlater
    rw [openings]
    omega

/-- No login of a standing set is starved: as many openings as it has labels name them all. -/
theorem told_of_openings {s : Finset Label} {window : List (Ingested Label)}
    (hrun : Runs IngestStep AccountEventDeriver.fresh (past ++ window) d)
    (hset : ∀ i ∈ window, i.frame.Connected → i.frame.notificationsEnabled = true ∧
      ∀ l, i.frame.InHorizon l ↔ l ∈ s)
    (hopenings : s.card ≤ openings past window) : ∀ l ∈ s, Told (past ++ window) l := by
  obtain ⟨d₀, hpast, hwindow⟩ := Effects.runs_append_iff.mp hrun
  have hcard := untold_run hpast hwindow hset
  have hall : (untold s past).card ≤ s.card := Finset.card_le_card (by simp [untold])
  have hnone := Finset.card_eq_zero.mp (by omega : (untold s (past ++ window)).card = 0)
  intro l hl
  by_contra hnot
  have hmem : l ∈ untold s (past ++ window) := mem_untold.mpr ⟨hl, hnot⟩
  rw [hnone] at hmem
  exact Finset.notMem_empty l hmem

/-- The clock stops no fold whose times are of the epoch. -/
theorem ingest_isSome {f : Frame Label} (hrun : Runs IngestStep AccountEventDeriver.fresh past d)
    (hpast : ∀ i ∈ past, 0 ≤ i.frame.now.toInt) (hnow : 0 ≤ f.now.toInt) :
    (d.ingest f).isSome := by
  have hsub : ∀ t, d.lastExpiryNotificationAt = some t → (trappingSub f.now t).isSome := by
    intro t ht
    obtain ⟨i, hi, rfl⟩ := (remembers_run hrun).last t ht
    have hi0 := hpast i hi
    have hfits : Framing.FitsI64 (f.now.toInt - i.frame.now.toInt) := by
      have hnow' := f.now.toInt_lt
      have hi' := i.frame.now.toInt_lt
      unfold Framing.FitsI64
      omega
    simp [trappingSub, Framing.checkedI64_of_fits hfits]
  unfold AccountEventDeriver.ingest
  by_cases hconn : f.connectionState = .connected
  · rw [if_neg (by simpa using hconn), Option.isSome_map]
    unfold AccountEventDeriver.expiryEvents
    dsimp only
    by_cases hon : f.notificationsEnabled = true
    · rw [if_neg (by simpa using hon)]
      split
      · rfl
      · split
        · rfl
        · rename_i t ht
          rw [Option.isSome_map]
          exact hsub t ht
    · rw [if_pos (by simpa using hon)]
      rfl
  · rw [if_pos hconn]
    rfl

end Run

/-- At every frame of every run, what is returned and named is what the frames before it call for; a
standing set of expiring logins is named whole; no fold stops; the switch presents or withholds. -/
theorem account_notifications (Label : Type) [LinearOrder Label] :
    (∀ (past : List (Ingested Label)) (cur : Ingested Label) (d : AccountEventDeriver Label),
      Runs IngestStep AccountEventDeriver.fresh (past ++ [cur]) d → Notified past cur) ∧
    (∀ (past window : List (Ingested Label)) (d : AccountEventDeriver Label) (s : Finset Label),
      Runs IngestStep AccountEventDeriver.fresh (past ++ window) d →
      (∀ i ∈ window, i.frame.Connected → i.frame.notificationsEnabled = true ∧
        ∀ l, i.frame.InHorizon l ↔ l ∈ s) →
      s.card ≤ openings past window → ∀ l ∈ s, Told (past ++ window) l) ∧
    (∀ (past : List (Ingested Label)) (d : AccountEventDeriver Label) (f : Frame Label),
      Runs IngestStep AccountEventDeriver.fresh past d → (∀ i ∈ past, 0 ≤ i.frame.now.toInt) →
      0 ≤ f.now.toInt → (d.ingest f).isSome) ∧
    ∀ (d d' : AccountEventDeriver Label) (f : Frame Label) (events : List AccountEvent),
      d.ingest f = some (d', events) →
        handle d f = some (d', if f.notificationsEnabled then events else []) := by
  refine ⟨?_, ?_, ?_, ?_⟩
  · intro past cur d hrun
    obtain ⟨d₀, hpast, hstep⟩ := Effects.runs_snoc_iff.mp hrun
    exact notified_step (remembers_run hpast) hstep
  · intro past window d s hrun hset hopenings
    exact told_of_openings hrun hset hopenings
  · intro past d f hrun hpast hnow
    exact ingest_isSome hrun hpast hnow
  · intro d d' f events h
    simp [handle, h]

end Sessiometer.Menubar
