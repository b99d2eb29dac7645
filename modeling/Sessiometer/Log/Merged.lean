import Sessiometer.Log.View

/-! # The two channels in one view

What the merge of the event log and the diagnostics keeps of each. -/

namespace Sessiometer.Log

open Framing Keyed

theorem notLater_trans {a b c : Option ℤ} (hab : notLater a b = true) (hbc : notLater b c = true) :
    notLater a c = true := by
  cases a with
  | none => rfl
  | some a =>
    cases b with
    | none => cases hab
    | some b =>
      cases c with
      | none => cases hbc
      | some c =>
        simp only [notLater, decide_eq_true_eq] at *
        omega

theorem notLater_total (a b : Option ℤ) : (notLater a b || notLater b a) = true := by
  cases a with
  | none => rfl
  | some a =>
    cases b with
    | none => rfl
    | some b =>
      simp only [notLater, Bool.or_eq_true, decide_eq_true_eq]
      omega

theorem notLater_self (a : Option ℤ) : notLater a a = true := by
  simpa using notLater_total a a

section Merge

variable (events diags : LogView)

theorem merge_sorted
    (hevents : events.matched.Pairwise (fun l r => notLater l.at' r.at' = true))
    (hdiags : diags.matched.Pairwise (fun l r => notLater l.at' r.at' = true)) :
    (merge events diags).matched.Pairwise (fun l r => notLater l.at' r.at' = true) :=
  @List.pairwise_merge Selected (fun l r => notLater l.at' r.at') (fun _ _ _ => notLater_trans)
    (fun l r => notLater_total l.at' r.at') _ _ hevents hdiags

variable {events diags}

theorem merge_event_first {e d : Selected} {e₁ e₂ d₁ d₂ : List Selected}
    (hevents : events.matched = e₁ ++ e :: e₂) (hdiags : diags.matched = d₁ ++ d :: d₂)
    (hat : e.at' = d.at') (hbefore : ∀ l ∈ e₁, notLater l.at' e.at' = true) :
    ∃ d₃ d₄ front back, d₁ = d₃ ++ d₄ ∧ (merge events diags).matched = front ++ e :: back ∧
      Interleaves e₁ d₃ front ∧ Interleaves e₂ (d₄ ++ d :: d₂) back := by
  change ∃ d₃ d₄ front back, d₁ = d₃ ++ d₄ ∧ List.merge events.matched diags.matched _ = _ ∧ _
  rw [hevents, hdiags]
  apply merge_left_first
  · rw [hat]
    exact notLater_self _
  · intro l hl
    rw [← hat]
    exact hbefore l hl

/-- Lines of one time that follow each other in the diagnostics follow each other in the view. -/
theorem merge_block {block d₁ d₂ : List Selected} {t : Option ℤ}
    (hdiags : diags.matched = d₁ ++ block ++ d₂)
    (hblock : ∀ d ∈ block, d.at' = t) :
    ∃ e₁ e₂ front back, events.matched = e₁ ++ e₂ ∧
      (merge events diags).matched = front ++ block ++ back ∧
        Interleaves e₁ d₁ front ∧ Interleaves e₂ d₂ back := by
  cases block with
  | nil =>
    have h := merge_interleaves (fun l r : Selected => notLater l.at' r.at') events.matched
      diags.matched
    rw [hdiags, List.append_nil] at h
    obtain ⟨e₁, e₂, front, back, hevents, hmerge, hfront, hback⟩ := h.split_right
    refine ⟨e₁, e₂, front, back, hevents, ?_, hfront, hback⟩
    rw [List.append_nil, ← hmerge]
    change List.merge events.matched diags.matched _ = _
    rw [hdiags, List.append_nil]
  | cons d block =>
    have hrank : ∀ d' ∈ block, ∀ l : Selected, notLater l.at' d'.at' = notLater l.at' d.at' := by
      intro d' hd' l
      rw [hblock d' (List.mem_cons_of_mem _ hd'), hblock d (List.mem_cons_self ..)]
    change ∃ e₁ e₂ front back, _ ∧ List.merge events.matched diags.matched _ = _ ∧ _
    rw [hdiags]
    exact merge_run hrank events.matched

/-- A line of the diagnostics that tells its time, and the lines after it that tell none, stay
together. -/
theorem merge_traced {text : Option Text} {window : Option Window} {event : Option Text}
    {before run after : List Text} {head : Text}
    (hlines : lines (text.getD []) = before ++ (head :: run) ++ after)
    (hhead : (ownTime head).isSome) (hrun : ∀ line ∈ run, ownTime line = none) :
    ∃ e₁ e₂ front back, events.matched = e₁ ++ e₂ ∧
      (merge events (select text window event .diag)).matched =
        front ++
          ((head :: run).filter (fun line => Wanted window event .diag line (ownTime head))).map
            (fun line => selected .diag line (ownTime head)) ++ back ∧
        Interleaves e₁ (selectFrom window event .diag none before) front ∧
        Interleaves e₂ (selectFrom window event .diag (ownTime head) after) back := by
  have hlast : lastTime (before ++ (head :: run)) = ownTime head := by
    have hnone : run.filterMap ownTime = [] := List.filterMap_eq_nil_iff.mpr hrun
    obtain ⟨t, ht⟩ := Option.isSome_iff_exists.mp hhead
    unfold lastTime
    rw [List.filterMap_append, List.filterMap_cons, ht, hnone]
    simp
  have hselect : (select text window event .diag).matched =
      selectFrom window event .diag none before ++
        ((head :: run).filter (fun line => Wanted window event .diag line (ownTime head))).map
          (fun line => selected .diag line (ownTime head)) ++
            selectFrom window event .diag (ownTime head) after := by
    change selectFrom window event .diag (lastTime []) (lines (text.getD [])) = _
    rw [hlines, selectFrom_append, selectFrom_append, List.nil_append, List.nil_append, hlast,
      selectFrom_run hhead hrun]
    rfl
  apply merge_block (t := ownTime head) hselect
  intro d hd
  obtain ⟨line, _, rfl⟩ := List.mem_map.mp hd
  rfl

end Merge

/-- The merged view holds every line of both sources once, in the order of each, and in the order of
time when both sources are; an event comes before the diagnostics of its time unless an event before
it is later; what follows a stamped line of the diagnostics without a stamp stays behind it; and a
source yields exactly the lines that are inside the window and bear the name, an unstamped line of
the diagnostics at the last time that any line before it tells. -/
theorem merged_view_spec :
    (∀ events diags : LogView,
      Interleaves events.matched diags.matched (merge events diags).matched) ∧
    (∀ events diags : LogView,
      events.matched.Pairwise (fun l r => notLater l.at' r.at' = true) →
      diags.matched.Pairwise (fun l r => notLater l.at' r.at' = true) →
        (merge events diags).matched.Pairwise (fun l r => notLater l.at' r.at' = true)) ∧
    (∀ (events diags : LogView) (e d : Selected) (e₁ e₂ d₁ d₂ : List Selected),
      events.matched = e₁ ++ e :: e₂ → diags.matched = d₁ ++ d :: d₂ → e.at' = d.at' →
        (∀ l ∈ e₁, notLater l.at' e.at' = true) →
          ∃ d₃ d₄ front back, d₁ = d₃ ++ d₄ ∧ (merge events diags).matched = front ++ e :: back ∧
            Interleaves e₁ d₃ front ∧ Interleaves e₂ (d₄ ++ d :: d₂) back) ∧
    (∀ (events : LogView) (text : Option Text) (window : Option Window) (event : Option Text)
      (before run after : List Text) (head : Text),
      lines (text.getD []) = before ++ (head :: run) ++ after → (ownTime head).isSome →
        (∀ line ∈ run, ownTime line = none) →
          ∃ e₁ e₂ front back, events.matched = e₁ ++ e₂ ∧
            (merge events (select text window event .diag)).matched =
              front ++
                ((head :: run).filter (fun line => Wanted window event .diag line (ownTime head))).map
                  (fun line => selected .diag line (ownTime head)) ++ back ∧
            Interleaves e₁ (selectFrom window event .diag none before) front ∧
            Interleaves e₂ (selectFrom window event .diag (ownTime head) after) back) ∧
    ∀ (text : Option Text) (window : Option Window) (event : Option Text) (channel : Channel),
      (select text window event channel).matched =
        (((lines (text.getD [])).inits.zip (lines (text.getD []))).filter (fun p =>
            Wanted window event channel p.2 (effective channel p.1 p.2))).map
          (fun p => selected channel p.2 (effective channel p.1 p.2)) := by
  refine ⟨fun events diags => merge_interleaves _ _ _, merge_sorted, ?_, ?_, ?_⟩
  · intro events diags e d e₁ e₂ d₁ d₂ hevents hdiags hat hbefore
    exact merge_event_first hevents hdiags hat hbefore
  · intro events text window event before run after head hlines hhead hrun
    exact merge_traced hlines hhead hrun
  · intro text window event channel
    exact selectFrom_eq [] (lines (text.getD []))

section Backwards

private def steppedBack : Text :=
  "ts=2024-01-01T00:00:10Z event=swap\nts=2024-01-01T00:00:05Z event=swap\n".toList

private def oneTick : Text := "ts=2024-01-01T00:00:05Z diag=tick\n".toList

private def tenth : Selected :=
  selected .event "ts=2024-01-01T00:00:10Z event=swap".toList (some 1704067210)

private def fifth : Selected :=
  selected .event "ts=2024-01-01T00:00:05Z event=swap".toList (some 1704067205)

private def ticked : Selected :=
  selected .diag "ts=2024-01-01T00:00:05Z diag=tick".toList (some 1704067205)

/-- An event that a later one of its own file comes before waits for it, and the line of the
diagnostics with the same time goes ahead. -/
theorem event_waits_behind_later :
    ¬ ∀ (events diags : Text) (e d : Selected),
      e ∈ (select (some events) none none .event).matched →
      d ∈ (select (some diags) none none .diag).matched → e.at' = d.at' →
        (merge (select (some events) none none .event)
            (select (some diags) none none .diag)).matched.idxOf e <
          (merge (select (some events) none none .event)
            (select (some diags) none none .diag)).matched.idxOf d := by
  intro h
  have hevents : (select (some steppedBack) none none .event).matched = [tenth, fifth] := by
    decide +kernel
  have hdiags : (select (some oneTick) none none .diag).matched = [ticked] := by
    decide +kernel
  have hmerge : (merge (select (some steppedBack) none none .event)
      (select (some oneTick) none none .diag)).matched = [ticked, tenth, fifth] := by
    change List.merge (select _ _ _ _).matched (select _ _ _ _).matched _ = _
    rw [hevents, hdiags, List.cons_merge_cons, if_neg (by decide), List.merge_right]
  have hfifth : fifth ∈ (select (some steppedBack) none none .event).matched := by
    rw [hevents]
    simp
  have hticked : ticked ∈ (select (some oneTick) none none .diag).matched := by
    rw [hdiags]
    simp
  have hlate := h steppedBack oneTick fifth ticked hfifth hticked rfl
  rw [hmerge] at hlate
  revert hlate
  decide +kernel

end Backwards

end Sessiometer.Log
