import Sessiometer.Effects.Runs
import Sessiometer.Keyed.Baseline
import Sessiometer.Menubar.Drafts

/-! # What the settings form shows as saved

In every run of the form a submit carries what is dirty, and a refusal leaves the drafts and their
baseline. The baseline is what the daemon said last exactly where an applied reply finds the drafts
that its command was made of. -/

namespace Sessiometer.Menubar

open Keyed Effects

/-! ## Replies -/

section Replies

variable {σ : Type} [SwiftString σ] {m : SettingsModel σ}
  {result : Except ControlCommandError String}

/-- The reply is a view that names no account twice. -/
def ShowsView [JsonDecoder] (result : Except ControlCommandError String) (view : ConfigView σ) :
    Prop :=
  (∃ line, result = .ok line ∧ decodeConfigGetReply line = .ok (.ok view)) ∧
    (view.accounts.map AccountView.accountUuid).Nodup

/-- The reply says that the edit was applied. -/
def Confirms [JsonDecoder] (result : Except ControlCommandError String) : Prop :=
  ∃ line effect, result = .ok line ∧ decodeConfigSetReply line = .ok (.ack (.applied effect))

namespace SettingsModel

/-- The drafts and the baseline are those of the view. -/
structure Adopts (m : SettingsModel σ) (view : ConfigView σ) : Prop where
  drafts : m.drafts = fun field => some (decimal (field.value view.tunables))
  labelDrafts : m.labelDrafts = labelOf view.accounts
  pristineTunables : m.pristineTunables = fun field => some (field.value view.tunables)
  pristineLabels : m.pristineLabels = labelOf view.accounts

/-- The baseline is what the drafts are. -/
structure Settles (m m' : SettingsModel σ) : Prop where
  drafts : m'.drafts = m.drafts
  labelDrafts : m'.labelDrafts = m.labelReads
  pristineTunables : m'.pristineTunables = overlaid m.reads m.pristineTunables
  pristineLabels : m'.pristineLabels = m.labelReads

theorem finishLoad_cases [JsonDecoder] (m : SettingsModel σ)
    (result : Except ControlCommandError String) :
    (∃ view, ShowsView result view ∧ (m.finishLoad result).2 = some view ∧
      (m.finishLoad result).1.Adopts view) ∨
    (∀ view : ConfigView σ, ¬ShowsView result view) ∧ (m.finishLoad result).2 = none ∧
      m.Same (m.finishLoad result).1 := by
  unfold finishLoad ShowsView
  cases result with
  | error error => exact .inr ⟨by simp, rfl, ⟨rfl, rfl, rfl, rfl⟩⟩
  | ok line =>
    dsimp only
    cases hdecode : (decodeConfigGetReply line : Decoding (ConfigGetReply σ)) with
    | error refusal => exact .inr ⟨by simp [hdecode], rfl, ⟨rfl, rfl, rfl, rfl⟩⟩
    | ok reply =>
      cases reply with
      | error reason => exact .inr ⟨by simp [hdecode], rfl, ⟨rfl, rfl, rfl, rfl⟩⟩
      | ok view =>
        unfold adopt
        simp only [rosterLabels_eq]
        by_cases hnodup : (view.accounts.map AccountView.accountUuid).Nodup
        · rw [if_pos hnodup]
          exact .inl ⟨view, ⟨⟨line, rfl, hdecode⟩, hnodup⟩, rfl, ⟨rfl, rfl, rfl, rfl⟩⟩
        · rw [if_neg hnodup]
          refine .inr ⟨?_, rfl, ⟨rfl, rfl, rfl, rfl⟩⟩
          rintro view' ⟨⟨line', hline, hdecode'⟩, hnodup'⟩
          obtain rfl := Except.ok.inj hline
          rw [hdecode] at hdecode'
          obtain rfl := ConfigGetReply.ok.inj (Except.ok.inj hdecode')
          exact hnodup hnodup'

theorem settleApplied_settles (m : SettingsModel σ) (effect : ConfigSetEffect) :
    m.Settles (m.settleApplied effect) := by
  refine ⟨rfl, rfl, ?_, rfl⟩
  funext field
  have hread : parseUInt64 (m.normalizedDraft field) = m.reads field := rfl
  unfold settleApplied rebaselineFromDrafts overlaid
  dsimp only
  rw [hread]
  cases m.reads field <;> rfl

theorem finishApply_cases [JsonDecoder] (m : SettingsModel σ)
    (result : Except ControlCommandError String) :
    (Confirms result ∧ (∃ effect, (m.finishApply result).2 = some effect) ∧
      m.Settles (m.finishApply result).1) ∨
    ¬Confirms result ∧ (m.finishApply result).2 = none ∧ m.Same (m.finishApply result).1 := by
  unfold finishApply Confirms
  cases result with
  | error error => exact .inr ⟨by simp, rfl, ⟨rfl, rfl, rfl, rfl⟩⟩
  | ok line =>
    dsimp only
    cases hdecode : decodeConfigSetReply line with
    | error refusal => exact .inr ⟨by simp [hdecode], rfl, ⟨rfl, rfl, rfl, rfl⟩⟩
    | ok reply =>
      cases reply with
      | error reason detail => exact .inr ⟨by simp [hdecode], rfl, ⟨rfl, rfl, rfl, rfl⟩⟩
      | ack ack =>
        cases ack with
        | rejected reason detail => exact .inr ⟨by simp [hdecode], rfl, ⟨rfl, rfl, rfl, rfl⟩⟩
        | applied effect =>
          exact .inl ⟨⟨line, effect, rfl, hdecode⟩, ⟨effect, rfl⟩, settleApplied_settles m effect⟩

/-- Where there is a baseline, the draft reads as a number. -/
def Legible (m : SettingsModel σ) : Prop :=
  ∀ field v, m.pristineTunables field = some v → m.reads field ≠ none

omit [SwiftString σ] in
theorem Same.legible {m' : SettingsModel σ} (h : m.Same m') (hm : m.Legible) : m'.Legible := by
  intro field v hv
  rw [h.pristineTunables] at hv
  have hreads : m'.reads field = m.reads field := by
    unfold reads normalizedDraft
    rw [h.drafts]
  rw [hreads]
  exact hm field v hv

theorem Adopts.legible {view : ConfigView σ} (h : m.Adopts view) : m.Legible := by
  intro field v _
  have hreads : m.reads field = some (field.value view.tunables) := by
    unfold reads normalizedDraft
    rw [h.drafts]
    exact parseUInt64_decimal _
  simp [hreads]

theorem Settles.reads {m' : SettingsModel σ} (h : m.Settles m') : m'.reads = m.reads := by
  funext field
  unfold SettingsModel.reads normalizedDraft
  rw [h.drafts]

theorem Settles.legible {m' : SettingsModel σ} (h : m.Settles m') (hm : m.Legible) :
    m'.Legible := by
  intro field v hv
  rw [h.reads]
  intro hnone
  rw [h.pristineTunables] at hv
  have hv : m.pristineTunables field = some v := by simpa [overlaid, hnone] using hv
  exact hm field v hv hnone

/-- A form that settles what it can read is clean. -/
theorem Settles.clean {m' : SettingsModel σ} (h : m.Settles m') (hm : m.Legible) :
    ¬m'.IsDirty := by
  have htunables : m'.dirtyTunableFields = [] := by
    rw [List.eq_nil_iff_forall_not_mem]
    intro field hfield
    obtain ⟨v, hpristine, hdirty⟩ := mem_dirtyTunableFields.mp hfield
    have hlegible := h.legible hm field v hpristine
    rw [h.reads] at hdirty hlegible
    obtain ⟨w, hw⟩ := Option.ne_none_iff_exists'.mp hlegible
    rw [h.pristineTunables] at hpristine
    have hvalue : some w = some v := by simpa [overlaid, hw] using hpristine
    exact hdirty (hw.trans hvalue)
  have hlabels : ∀ uuid, m'.dirtyLabels uuid = none := by
    intro uuid
    rw [Option.eq_none_iff_forall_ne_some]
    intro t ht
    obtain ⟨hreads, hdirty⟩ := dirtyLabels_eq_some.mp ht
    apply hdirty
    rw [h.pristineLabels]
    unfold labelReads at hreads ⊢
    rw [h.labelDrafts] at hreads
    unfold labelReads at hreads
    cases hdraft : m.labelDrafts uuid with
    | none => simp [hdraft] at hreads
    | some draft => simpa [hdraft, SwiftString.trimmed_trimmed] using hreads
  unfold IsDirty
  simp [htunables, hlabels]

end SettingsModel

end Replies

/-! ## Steps -/

/-- An act of the form, with the command it sent and what it heard. -/
structure Moment (σ : Type) where
  act : FormAct σ
  sent : Option (ConfigSetCommand σ)
  heard : Option (Said σ)

def FormAct.IsEdit {σ : Type} : FormAct σ → Prop
  | .setDraft _ _ => True
  | .setLabelDraft _ _ => True
  | _ => False

section Steps

variable {σ : Type} [SwiftString σ] [JsonDecoder] {s s' : SettingsForm σ} {x : Moment σ}

def FormStep (s : SettingsForm σ) (x : Moment σ) (s' : SettingsForm σ) : Prop :=
  s.step x.act = some (s', x.sent, x.heard)

/-- What a step is to the drafts, to the baseline and on the wire. -/
inductive FormStep.Kind (s : SettingsForm σ) (x : Moment σ) (s' : SettingsForm σ) : Prop
  | edit (act : x.act.IsEdit) (sent : x.sent = none) (heard : x.heard = none)
      (pristineTunables : s'.model.pristineTunables = s.model.pristineTunables)
      (pristineLabels : s'.model.pristineLabels = s.model.pristineLabels)
  | submit (act : x.act = .apply) (sent : x.sent = s.model.beginApply.2) (heard : x.heard = none)
      (same : s.model.Same s'.model)
  | view (result : Except ControlCommandError String) (act : x.act = .loadReply result)
      (sent : x.sent = none) (view : ConfigView σ) (heard : x.heard = some (.adopted view))
      (shows : ShowsView result view) (adopts : s'.model.Adopts view)
  | applied (index : ℕ) (result : Except ControlCommandError String)
      (act : x.act = .applyReply index result) (sent : x.sent = none)
      (command : ConfigSetCommand σ) (flight : s.applies[index]? = some command)
      (heard : x.heard = some (.acknowledged command)) (confirmed : Confirms result)
      (settles : s.model.Settles s'.model)
  | refusedLoad (result : Except ControlCommandError String) (act : x.act = .loadReply result)
      (sent : x.sent = none) (heard : x.heard = none)
      (refused : ∀ view : ConfigView σ, ¬ShowsView result view) (same : s.model.Same s'.model)
  | refusedApply (index : ℕ) (result : Except ControlCommandError String)
      (act : x.act = .applyReply index result) (sent : x.sent = none) (heard : x.heard = none)
      (refused : ¬Confirms result) (same : s.model.Same s'.model)
  | aside (act : x.act = .load ∨ ∃ index, x.act = .applyReset index) (sent : x.sent = none)
      (heard : x.heard = none) (same : s.model.Same s'.model)

theorem FormStep.kind (h : FormStep s x s') : FormStep.Kind s x s' := by
  obtain ⟨act, sent, heard⟩ := x
  unfold FormStep SettingsForm.step at h
  cases act with
  | setDraft value field =>
    simp only [Option.some.injEq, Prod.mk.injEq] at h
    obtain ⟨rfl, rfl, rfl⟩ := h
    exact .edit trivial rfl rfl rfl rfl
  | setLabelDraft value uuid =>
    simp only [Option.some.injEq, Prod.mk.injEq] at h
    obtain ⟨rfl, rfl, rfl⟩ := h
    exact .edit trivial rfl rfl rfl rfl
  | load =>
    simp only [Option.some.injEq, Prod.mk.injEq] at h
    obtain ⟨rfl, rfl, rfl⟩ := h
    refine .aside (.inl rfl) rfl rfl ?_
    unfold SettingsModel.beginLoad
    dsimp only
    split <;> exact ⟨rfl, rfl, rfl, rfl⟩
  | loadReply result =>
    dsimp only at h
    by_cases hloads : s.loads = 0
    · simp [hloads] at h
    rw [if_neg hloads] at h
    simp only [Option.some.injEq, Prod.mk.injEq] at h
    obtain ⟨rfl, rfl, rfl⟩ := h
    obtain ⟨view, hshows, hview, hadopts⟩ | ⟨hrefused, hnone, hsame⟩ :=
      s.model.finishLoad_cases result
    · exact .view result rfl rfl view (by rw [hview]; rfl) hshows hadopts
    · exact .refusedLoad result rfl rfl (by rw [hnone]; rfl) hrefused hsame
  | apply =>
    simp only [Option.some.injEq, Prod.mk.injEq] at h
    obtain ⟨rfl, rfl, rfl⟩ := h
    exact .submit rfl rfl rfl s.model.beginApply_cases.1
  | applyReply index result =>
    obtain ⟨command, hflight, h⟩ := Option.map_eq_some_iff.mp h
    simp only [Prod.mk.injEq] at h
    obtain ⟨rfl, rfl, rfl⟩ := h
    obtain ⟨hconfirmed, ⟨effect, heffect⟩, hsettles⟩ | ⟨hrefused, hnone, hsame⟩ :=
      s.model.finishApply_cases result
    · exact .applied index result rfl rfl command hflight (by rw [heffect]; rfl) hconfirmed hsettles
    · exact .refusedApply index result rfl rfl (by rw [hnone]; rfl) hrefused hsame
  | applyReset index =>
    obtain ⟨effect, -, h⟩ := Option.map_eq_some_iff.mp h
    simp only [Prod.mk.injEq] at h
    obtain ⟨rfl, rfl, rfl⟩ := h
    refine .aside (.inr ⟨index, rfl⟩) rfl rfl ?_
    unfold SettingsModel.applyReset
    dsimp only
    split <;> exact ⟨rfl, rfl, rfl, rfl⟩

/-- What the wire and the form have to do with each other in one step. -/
structure Moment.Fair (x : Moment σ) (s s' : SettingsForm σ) : Prop where
  /-- A command carries what is dirty, all of which the wire can carry. -/
  submits : ∀ command, x.sent = some command → x.act = .apply ∧
    (∀ field ∈ s.model.dirtyTunableFields,
      ∃ v, s.model.reads field = some v ∧ v.toNat < 9223372036854775808) ∧
    (∀ field, SettingsModel.carried command field =
      if field ∈ s.model.dirtyTunableFields then s.model.reads field else none) ∧
    command.labels = s.model.dirtyLabels
  adopted : ∀ result, x.act = .loadReply result →
    ∀ view, x.heard = some (.adopted view) ↔ ShowsView result view
  applied : ∀ index result, x.act = .applyReply index result →
    ∀ command, x.heard = some (.acknowledged command) ↔
      s.applies[index]? = some command ∧ Confirms result
  /-- A reply that is neither leaves the drafts and the baseline. -/
  refused : ¬x.act.IsEdit → x.heard = none → s.model.Same s'.model

theorem showsView_unique {result : Except ControlCommandError String} {view view' : ConfigView σ}
    (h : ShowsView result view) (h' : ShowsView result view') : view = view' := by
  obtain ⟨⟨line, hline, hdecode⟩, -⟩ := h
  obtain ⟨⟨line', hline', hdecode'⟩, -⟩ := h'
  rw [hline] at hline'
  obtain rfl := Except.ok.inj hline'
  rw [hdecode] at hdecode'
  exact ConfigGetReply.ok.inj (Except.ok.inj hdecode')

theorem FormStep.fair (h : FormStep s x s') : x.Fair s s' := by
  cases h.kind with
  | edit act sent heard =>
    constructor
    · simp [sent]
    · intro result hact
      simp [hact, FormAct.IsEdit] at act
    · intro index result hact
      simp [hact, FormAct.IsEdit] at act
    · exact fun hnot => absurd act hnot
  | submit act sent heard same =>
    constructor
    · intro command hsent
      rw [sent] at hsent
      exact ⟨act, s.model.beginApply_cases.2 command hsent⟩
    · simp [act]
    · simp [act]
    · exact fun _ _ => same
  | view result act sent view heard shows adopts =>
    constructor
    · simp [sent]
    · intro result' hact view'
      rw [act] at hact
      obtain rfl := FormAct.loadReply.inj hact
      rw [heard]
      constructor
      · intro heq
        obtain rfl := Said.adopted.inj (Option.some.inj heq)
        exact shows
      · intro hshows
        rw [showsView_unique shows hshows]
    · simp [act]
    · simp [heard]
  | applied index result act sent command flight heard confirmed settles =>
    constructor
    · simp [sent]
    · simp [act]
    · intro index' result' hact command'
      rw [act] at hact
      obtain ⟨rfl, rfl⟩ := FormAct.applyReply.inj hact
      rw [heard, flight]
      simp [confirmed]
    · simp [heard]
  | refusedLoad result act sent heard refused same =>
    constructor
    · simp [sent]
    · intro result' hact view'
      rw [act] at hact
      obtain rfl := FormAct.loadReply.inj hact
      simp [heard, refused view']
    · simp [act]
    · exact fun _ _ => same
  | refusedApply index result act sent heard refused same =>
    constructor
    · simp [sent]
    · simp [act]
    · intro index' result' hact command'
      rw [act] at hact
      obtain ⟨rfl, rfl⟩ := FormAct.applyReply.inj hact
      simp [heard, refused]
    · exact fun _ _ => same
  | aside act sent heard same =>
    constructor
    · simp [sent]
    · intro result hact
      simp [hact] at act
    · intro index result hact
      simp [hact] at act
    · exact fun _ _ => same

end Steps

/-! ## Runs -/

section Runs

variable {σ : Type} [SwiftString σ]

def Said.tunables : Said σ → Notice TunableField UInt64
  | .adopted view => .reported fun field => some (field.value view.tunables)
  | .acknowledged command => .acknowledged (SettingsModel.carried command)

def Said.labels : Said σ → Notice σ σ
  | .adopted view => .reported (SettingsModel.labelOf view.accounts)
  | .acknowledged command => .acknowledged command.labels

/-- What the daemon was heard to say in a run. -/
def heardIn (tr : List (Moment σ)) : List (Said σ) := tr.filterMap Moment.heard

def toldTunables (tr : List (Moment σ)) : Table TunableField UInt64 :=
  told ((heardIn tr).map Said.tunables)

def toldLabels (tr : List (Moment σ)) : Table σ σ := told ((heardIn tr).map Said.labels)

variable {tr : List (Moment σ)} {x : Moment σ} {m : SettingsModel σ}

omit [SwiftString σ] in
theorem heardIn_quiet (h : x.heard = none) : heardIn (tr ++ [x]) = heardIn tr := by
  simp [heardIn, h]

omit [SwiftString σ] in
theorem heardIn_heard {said : Said σ} (h : x.heard = some said) :
    heardIn (tr ++ [x]) = heardIn tr ++ [said] := by
  simp [heardIn, h]

/-- Each value of the baseline is the one that the daemon reported or acknowledged last, and a draft
that differs from that is dirty. -/
structure ShowsSaved (tr : List (Moment σ)) (m : SettingsModel σ) : Prop where
  tunables : m.pristineTunables = toldTunables tr
  labels : m.pristineLabels = toldLabels tr
  tunable_given : ∀ field v, m.pristineTunables field = some v →
    ∃ n ∈ (heardIn tr).map Said.tunables, n.Gives field v
  label_given : ∀ uuid label, m.pristineLabels uuid = some label →
    ∃ n ∈ (heardIn tr).map Said.labels, n.Gives uuid label
  tunable_dirty : ∀ field v, toldTunables tr field = some v →
    (field ∈ m.dirtyTunableFields ↔ m.reads field ≠ some v)
  label_dirty : ∀ uuid t, m.dirtyLabels uuid = some t ↔
    m.labelReads uuid = some t ∧ toldLabels tr uuid ≠ some t

theorem showsSaved_of (htunables : m.pristineTunables = toldTunables tr)
    (hlabels : m.pristineLabels = toldLabels tr) : ShowsSaved tr m := by
  constructor
  · exact htunables
  · exact hlabels
  · intro field v hv
    rw [htunables] at hv
    exact gives_of_told hv
  · intro uuid label hlabel
    rw [hlabels] at hlabel
    exact gives_of_told hlabel
  · intro field v hv
    rw [SettingsModel.mem_dirtyTunableFields, htunables, hv]
    simp
  · intro uuid t
    rw [SettingsModel.dirtyLabels_eq_some, hlabels]

/-- The drafts are the ones that the command was made of: each reads as what it carried, or as the
baseline where it carried nothing. A draft that reads as no number counts as the baseline. -/
structure SettingsModel.MadeOf (m : SettingsModel σ) (command : ConfigSetCommand σ) : Prop where
  tunables : overlaid m.reads m.pristineTunables =
    overlaid (SettingsModel.carried command) m.pristineTunables
  labels : m.labelReads = overlaid command.labels m.pristineLabels

variable [JsonDecoder] {client : Bool} {s s' : SettingsForm σ}

/-- A step shows as saved what the daemon said, unless it settles other drafts than the command's. -/
theorem FormStep.saved (h : FormStep s x s') (hs : ShowsSaved tr s.model) :
    ShowsSaved (tr ++ [x]) s'.model ↔
      ∀ command, x.heard = some (.acknowledged command) → s.model.MadeOf command := by
  have hquiet : x.heard = none → s'.model.pristineTunables = s.model.pristineTunables →
      s'.model.pristineLabels = s.model.pristineLabels → (ShowsSaved (tr ++ [x]) s'.model ↔
        ∀ command, x.heard = some (.acknowledged command) → s.model.MadeOf command) := by
    intro hheard htunables hlabels
    constructor
    · simp [hheard]
    · intro _
      apply showsSaved_of
      · rw [htunables, hs.tunables]
        simp [toldTunables, heardIn_quiet hheard]
      · rw [hlabels, hs.labels]
        simp [toldLabels, heardIn_quiet hheard]
  cases h.kind with
  | edit act sent heard pristineTunables pristineLabels =>
    exact hquiet heard pristineTunables pristineLabels
  | submit act sent heard same => exact hquiet heard same.pristineTunables same.pristineLabels
  | refusedLoad result act sent heard refused same =>
    exact hquiet heard same.pristineTunables same.pristineLabels
  | refusedApply index result act sent heard refused same =>
    exact hquiet heard same.pristineTunables same.pristineLabels
  | aside act sent heard same => exact hquiet heard same.pristineTunables same.pristineLabels
  | view result act sent view heard shows adopts =>
    constructor
    · simp [heard]
    · intro _
      apply showsSaved_of
      · rw [adopts.pristineTunables]
        simp [toldTunables, heardIn_heard heard, told_append_singleton, Said.tunables, Notice.apply]
      · rw [adopts.pristineLabels]
        simp [toldLabels, heardIn_heard heard, told_append_singleton, Said.labels, Notice.apply]
  | applied index result act sent command flight heard confirmed settles =>
    have htunables : toldTunables (tr ++ [x]) =
        overlaid (SettingsModel.carried command) s.model.pristineTunables := by
      rw [hs.tunables]
      simp [toldTunables, heardIn_heard heard, told_append_singleton, Said.tunables, Notice.apply]
    have hlabels : toldLabels (tr ++ [x]) = overlaid command.labels s.model.pristineLabels := by
      rw [hs.labels]
      simp [toldLabels, heardIn_heard heard, told_append_singleton, Said.labels, Notice.apply]
    constructor
    · intro hsaved command' hcommand'
      rw [heard] at hcommand'
      obtain rfl := Said.acknowledged.inj (Option.some.inj hcommand')
      constructor
      · rw [← settles.pristineTunables, hsaved.tunables, htunables]
      · rw [← settles.pristineLabels, hsaved.labels, hlabels]
    · intro hmade
      have hmade := hmade command heard
      apply showsSaved_of
      · rw [settles.pristineTunables, hmade.tunables, htunables]
      · rw [settles.pristineLabels, hmade.labels, hlabels]

theorem FormStep.legible (h : FormStep s x s') (hedit : ¬x.act.IsEdit) (hs : s.model.Legible) :
    s'.model.Legible := by
  cases h.kind with
  | edit act => exact absurd act hedit
  | submit act sent heard same => exact same.legible hs
  | view result act sent view heard shows adopts => exact adopts.legible
  | applied index result act sent command flight heard confirmed settles => exact settles.legible hs
  | refusedLoad result act sent heard refused same => exact same.legible hs
  | refusedApply index result act sent heard refused same => exact same.legible hs
  | aside act sent heard same => exact same.legible hs

/-- A form that sent a command can read all of its drafts. -/
theorem FormStep.legible_of_sent (h : FormStep s x s') {command : ConfigSetCommand σ}
    (hsent : x.sent = some command) : s'.model.Legible := by
  have hfair := h.fair.submits command hsent
  have hlegible : s.model.Legible := by
    intro field v hv
    by_cases hdirty : field ∈ s.model.dirtyTunableFields
    · obtain ⟨w, hw, -⟩ := hfair.2.1 field hdirty
      simp [hw]
    · intro hnone
      exact hdirty (SettingsModel.mem_dirtyTunableFields.mpr ⟨v, hv, by simp [hnone]⟩)
  exact h.legible (by simp [hfair.1, FormAct.IsEdit]) hlegible

theorem legible_of_runs (hr : Runs FormStep s tr s') (hs : s.model.Legible)
    (hedit : ∀ x ∈ tr, ¬x.act.IsEdit) : s'.model.Legible := by
  induction hr with
  | refl => exact hs
  | snoc hr hstep ih =>
    exact hstep.legible (hedit _ (by simp)) (ih fun x hx => hedit x (by simp [hx]))

theorem FormStep.clean (h : FormStep s x s') (hs : s.model.Legible) {command : ConfigSetCommand σ}
    (hheard : x.heard = some (.acknowledged command)) : ¬s'.model.IsDirty := by
  cases h.kind with
  | applied index result act sent command' flight heard confirmed settles => exact settles.clean hs
  | edit act sent heard => simp [heard] at hheard
  | submit act sent heard => simp [heard] at hheard
  | view result act sent view heard => simp [heard] at hheard
  | refusedLoad result act sent heard => simp [heard] at hheard
  | refusedApply index result act sent heard => simp [heard] at hheard
  | aside act sent heard => simp [heard] at hheard

/-- The form never presents an unsaved edit as saved, over a run from its start. -/
structure NeverMisleads (client : Bool) (tr : List (Moment σ)) : Prop where
  fair : ∀ before x after s s', tr = before ++ x :: after →
    Runs FormStep (.init client) before s → FormStep s x s' → x.Fair s s'
  saved : ∀ before after s, tr = before ++ after → Runs FormStep (.init client) before s →
    ShowsSaved before s.model
  /-- After an applied reply with no edit since a submit the form is clean. -/
  clean : ∀ before x between y after command command' s, tr = before ++ x :: between ++ y :: after →
    Runs FormStep (.init client) (before ++ x :: between ++ [y]) s → x.sent = some command →
    (∀ z ∈ between, ¬z.act.IsEdit) → y.heard = some (.acknowledged command') → ¬s.model.IsDirty

omit [JsonDecoder] in
theorem showsSaved_init : ShowsSaved [] (SettingsForm.init client : SettingsForm σ).model :=
  showsSaved_of rfl rfl

theorem clean_of_runs {before between : List (Moment σ)} {x y : Moment σ}
    {command command' : ConfigSetCommand σ} (hsent : x.sent = some command)
    (hedit : ∀ z ∈ between, ¬z.act.IsEdit) (hheard : y.heard = some (.acknowledged command'))
    (hr : Runs FormStep s (before ++ x :: between ++ [y]) s') : ¬s'.model.IsDirty := by
  obtain ⟨s₃, hr, hlast⟩ := runs_snoc_iff.mp hr
  obtain ⟨s₁, -, hr⟩ := runs_append_iff.mp hr
  obtain ⟨s₂, hsubmit, hr⟩ := runs_cons_iff.mp hr
  exact hlast.clean (legible_of_runs hr (hsubmit.legible_of_sent hsent) hedit) hheard

/-- The form presents no unsaved edit as saved exactly where each applied reply of the run finds the
drafts that its command was made of. -/
theorem neverMisleads_iff (client : Bool) (tr : List (Moment σ)) : NeverMisleads client tr ↔
    ∀ before x after s s' command, tr = before ++ x :: after →
      Runs FormStep (.init client) before s → FormStep s x s' →
      x.heard = some (.acknowledged command) → s.model.MadeOf command := by
  constructor
  · intro h before x after s s' command htr hr hstep hheard
    have hbefore := h.saved before (x :: after) s htr hr
    have hafter := h.saved (before ++ [x]) after s' (by simp [htr]) (.snoc hr hstep)
    exact (hstep.saved hbefore).mp hafter command hheard
  · intro h
    constructor
    · intro before x after s s' htr hr hstep
      exact hstep.fair
    · intro before
      induction before using List.reverseRecOn with
      | nil =>
        intro after s htr hr
        rw [runs_nil_iff.mp hr]
        exact showsSaved_init
      | append_singleton before x ih =>
        intro after s' htr hr
        obtain ⟨s, hr, hstep⟩ := runs_snoc_iff.mp hr
        have htr : tr = before ++ x :: after := by simp [htr]
        refine (hstep.saved (ih (x :: after) s htr hr)).mpr fun command hheard => ?_
        exact h before x after s s' command htr hr hstep hheard
    · intro before x between y after command command' s htr hr hsent hedit hheard
      exact clean_of_runs hsent hedit hheard hr

end Runs

/-! ## An edit behind a submit -/

section Overtaken

def shownTunables : TunablesView :=
  ⟨300, 900, 60, 600, 50, 90, 98, 900, 75, 300, 60, 30, 3, 3, 1800⟩

def shownFields : List (String × Value) :=
  [("poll_secs", .int 300),
    ("exhausted_poll_secs", .int 900),
    ("near_limit_poll_secs", .int 60),
    ("cooldown_secs", .int 600),
    ("target_max_session_usage", .int 50),
    ("session_ceiling", .int 90),
    ("weekly_ceiling", .int 98),
    ("session_blind_swap_secs", .int 900),
    ("session_blind_risk_band", .int 75),
    ("session_velocity_horizon_secs", .int 300),
    ("session_velocity_min_project_above", .int 60),
    ("session_velocity_ema_alpha_pct", .int 30),
    ("monitor_401_n", .int 3),
    ("monitor_recovery_m", .int 3),
    ("fleet_runway_warn_secs", .int 1800)]

def shownDocument : Value :=
  .object [("tunables", .object shownFields), ("accounts", .array [])]

def viewLine : String :=
  "\x7b\"tunables\":\x7b\"poll_secs\":300,\"exhausted_poll_secs\":900,\"near_limit_poll_secs\":60,\"cooldown_secs\":600,\"target_max_session_usage\":50,\"session_ceiling\":90,\"weekly_ceiling\":98,\"session_blind_swap_secs\":900,\"session_blind_risk_band\":75,\"session_velocity_horizon_secs\":300,\"session_velocity_min_project_above\":60,\"session_velocity_ema_alpha_pct\":30,\"monitor_401_n\":3,\"monitor_recovery_m\":3,\"fleet_runway_warn_secs\":1800\x7d,\"accounts\":[]\x7d"

def appliedLine : String := "\x7b\"result\":\"applied\",\"effect\":\"restart_required\"\x7d"

def appliedDocument : Value :=
  .object [("result", .string "applied"), ("effect", .string "restart_required")]

/-- The decoder reads the two lines as the documents they are the text of. -/
structure ReadsLines (decoder : JsonDecoder) : Prop where
  view : decoder.parse viewLine = some shownDocument
  applied : decoder.parse appliedLine = some appliedDocument

local instance overtakenString : SwiftString String where
  decEq := inferInstance
  ofText := id
  trimmed := id
  trimmed_trimmed _ := rfl

section Decoder

variable [decoder : JsonDecoder]

theorem decode_viewLine (h : ReadsLines decoder) :
    (decodeConfigGetReply viewLine : Decoding (ConfigGetReply String)) =
      .ok (.ok ⟨shownTunables, []⟩) := by
  have hprobe : ConfigErrorProbe.decode shownDocument = .ok ⟨none, none⟩ := by
    simp [ConfigErrorProbe.decode, container, decodeIfPresent, shownDocument, List.lookup_cons, bind,
      Except.bind, pure, Except.pure]
  have htunables : TunablesView.decode (.object shownFields) = .ok shownTunables := by
    simp [TunablesView.decode, container, Menubar.decode, shownFields, List.lookup_cons, uint64, uint8,
      number, whole, bind, Except.bind, pure, Except.pure, shownTunables]
  have hview : (ConfigView.decode shownDocument : Decoding (ConfigView String)) =
      .ok ⟨shownTunables, []⟩ := by
    simp [ConfigView.decode, container, Menubar.decode, shownDocument, List.lookup_cons, htunables, array,
      bind, Except.bind, pure, Except.pure]
  unfold decodeConfigGetReply probeError decodeLine
  rw [h.view]
  dsimp only
  rw [hprobe, hview]
  rfl

theorem decode_appliedLine (h : ReadsLines decoder) :
    decodeConfigSetReply appliedLine = .ok (.ack (.applied .restartRequired)) := by
  have hprobe : ConfigErrorProbe.decode appliedDocument = .ok ⟨none, none⟩ := by
    simp [ConfigErrorProbe.decode, container, decodeIfPresent, appliedDocument, List.lookup_cons, bind,
      Except.bind, pure, Except.pure]
  have hack : ConfigSetAck.decode appliedDocument = .ok (.applied .restartRequired) := by
    simp [ConfigSetAck.decode, container, Menubar.decode, appliedDocument, List.lookup_cons,
      ConfigSetEffect.decode, string, bind, Except.bind, pure, Except.pure]
  unfold decodeConfigSetReply probeError decodeLine
  rw [h.applied]
  dsimp only
  rw [hprobe, hack]
  rfl

abbrev OvertakenForm := SettingsForm String

/-- The form with the view. -/
def shownForm : OvertakenForm where
  model :=
    { (SettingsModel.init true : SettingsModel String) with
      loadPhase := .loaded ⟨shownTunables, []⟩
      pristineTunables := fun field => some (field.value shownTunables)
      drafts := fun field => some (decimal (field.value shownTunables)) }
  loads := 0
  applies := []
  resets := []

def draftedForm (s : OvertakenForm) (draft : Text) : OvertakenForm :=
  { s with model := s.model.setDraft draft .pollSecs }

def sentCommand : ConfigSetCommand String :=
  ⟨{ SetTunables.empty with pollSecs := some 400 }, fun _ => none⟩

def waitingForm : OvertakenForm :=
  { draftedForm shownForm ['4', '0', '0'] with
    model := { (draftedForm shownForm ['4', '0', '0']).model with
      fieldErrors := fun _ => none, applyPhase := .applying }
    applies := [sentCommand] }

def settledForm : OvertakenForm :=
  { draftedForm waitingForm ['5', '0', '0'] with
    model := (draftedForm waitingForm ['5', '0', '0']).model.settleApplied .restartRequired
    applies := []
    resets := [.restartRequired] }

def overtaken : List (Moment String) :=
  [⟨.load, none, none⟩, ⟨.loadReply (.ok viewLine), none, some (.adopted ⟨shownTunables, []⟩)⟩,
    ⟨.setDraft ['4', '0', '0'] .pollSecs, none, none⟩, ⟨.apply, some sentCommand, none⟩,
    ⟨.setDraft ['5', '0', '0'] .pollSecs, none, none⟩,
    ⟨.applyReply 0 (.ok appliedLine), none, some (.acknowledged sentCommand)⟩]

theorem step_view (h : ReadsLines decoder) : FormStep ({ SettingsForm.init true with
      model := (SettingsModel.init true).beginLoad.1, loads := 1 } : OvertakenForm)
    ⟨.loadReply (.ok viewLine), none, some (.adopted ⟨shownTunables, []⟩)⟩ shownForm := by
  unfold FormStep SettingsForm.step SettingsModel.finishLoad
  simp only [decode_viewLine h]
  rfl

theorem step_submit : FormStep (draftedForm shownForm ['4', '0', '0']) ⟨.apply, some sentCommand, none⟩
    waitingForm := by
  have hdirty : (draftedForm shownForm ['4', '0', '0']).model.dirtyTunableFields = [.pollSecs] := by
    decide +kernel
  have hbegin : (draftedForm shownForm ['4', '0', '0']).model.beginApply =
      (waitingForm.model, some sentCommand) := by
    have hedited : (draftedForm shownForm ['4', '0', '0']).model.edited =
        { SetTunables.empty with pollSecs := some 400 } := by decide +kernel
    have hformat : (draftedForm shownForm ['4', '0', '0']).model.formatError .pollSecs = none := by
      decide +kernel
    have hphase : (draftedForm shownForm ['4', '0', '0']).model.applyPhase ≠ .applying := by decide +kernel
    have hclient : ¬(!(draftedForm shownForm ['4', '0', '0']).model.client) = true := by decide
    have hany : ¬[TunableField.pollSecs].any (fun field =>
        ((draftedForm shownForm ['4', '0', '0']).model.formatError field).isSome) = true := by
      simp [hformat]
    unfold SettingsModel.beginApply
    rw [hdirty, hedited, if_neg hphase, if_neg hclient, if_neg hany]
    rfl
  unfold FormStep SettingsForm.step
  simp only [hbegin]
  rfl

theorem step_applied (h : ReadsLines decoder) : FormStep (draftedForm waitingForm ['5', '0', '0'])
    ⟨.applyReply 0 (.ok appliedLine), none, some (.acknowledged sentCommand)⟩ settledForm := by
  unfold FormStep SettingsForm.step
  simp only [SettingsModel.finishApply, decode_appliedLine h]
  rfl

theorem overtaken_runs (h : ReadsLines decoder) : Runs FormStep (SettingsForm.init true) overtaken settledForm := by
  have hload : FormStep (SettingsForm.init true : OvertakenForm) ⟨.load, none, none⟩
      { SettingsForm.init true with
        model := (SettingsModel.init true).beginLoad.1, loads := 1 } := rfl
  have hdraft : ∀ s draft, FormStep s ⟨.setDraft draft .pollSecs, none, none⟩
      (draftedForm s draft) := fun _ _ => rfl
  exact .snoc (.snoc (.snoc (.snoc (.snoc (.snoc .refl hload) (step_view h)) (hdraft _ _)) step_submit)
    (hdraft _ _)) (step_applied h)

end Decoder

local instance overtakenDecoder : JsonDecoder where
  parse line :=
    if line = viewLine then some shownDocument
    else if line = appliedLine then some appliedDocument
    else none

theorem overtaken_readsLines : ReadsLines overtakenDecoder := by
  have hother : appliedLine ≠ viewLine := by simp [appliedLine, viewLine]
  constructor
  · exact if_pos rfl
  · exact (if_neg hother).trans (if_pos rfl)

/-- An edit made while the form waits is taken for the one that was submitted. -/
theorem overtaken_edit_misleads : Runs FormStep (SettingsForm.init true) overtaken settledForm ∧
    settledForm.model.pristineTunables .pollSecs = some 500 ∧
    toldTunables overtaken .pollSecs = some 400 ∧ ¬NeverMisleads true overtaken := by
  have hruns := overtaken_runs overtaken_readsLines
  have hshown : settledForm.model.pristineTunables .pollSecs = some 500 := by decide +kernel
  have htold : toldTunables overtaken .pollSecs = some 400 := by decide +kernel
  refine ⟨hruns, hshown, htold, fun h => ?_⟩
  have hsaved := (h.saved overtaken [] settledForm (by simp) hruns).tunables
  rw [← hsaved, hshown] at htold
  exact absurd htold (by decide)

end Overtaken

end Sessiometer.Menubar
