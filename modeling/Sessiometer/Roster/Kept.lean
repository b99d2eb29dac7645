import Sessiometer.Effects.Parts
import Sessiometer.Roster.Planned

/-! # No account is lost

The file lists what was last saved, and every account of it has its stash; the file itself may be lost at
any moment. An append-only verb that finds no file asks the keychain first. -/

namespace Sessiometer.Roster

open Effects

/-! ## The machine -/

/-- The surroundings, the lines of the configuration file, and the configuration that was last saved. -/
structure Machine where
  world : World
  file : Option (List Toml.Line)
  last : Config

def Machine.listed (m : Machine) : List String := uuids m.last.roster

/-- `load_path`, of a file that can be read. -/
def loaded [StrDebug] (file : Option (List Toml.Line)) : Except LoadError Config :=
  match file with
  | none => .error .configNotFound
  | some lines =>
    match Config.parse lines with
    | .ok config => .ok config
    | .error e => .error (.file e)

def removeCredential (t : Stores) (service : String) : Stores :=
  { t with credentialItem := Function.update t.credentialItem service none }

def removeOauthAccount (t : Stores) (service : String) : Stores :=
  { t with oauthItem := Function.update t.oauthItem service none }

/-- The machine as process `pid` finds it. A save is there at once or not at all. -/
def machine [StrDebug] (pid : ℕ) : Device VerbSeams Machine
  | .inl o, m, r, m' => ∃ w', surroundings pid o m.world r w' ∧ m' = { m with world := w' }
  | .inr .load, m, (r : Except LoadError Config), m' => m' = m ∧ (r = .error .io ∨ r = loaded m.file)
  | .inr (.save config), m, (r : Except LoadError Unit), m' =>
    match r with
    | .ok () => m' = { m with file := some config.render, last := config }
    | .error _ => m' = m
  | .inr .observe, m, (r : PriorConfiguration), m' =>
    m' = m ∧ (r = .absent → ∀ uuid, m.world.stores.credentialItem (stashPrefix ++ uuid) = none)
  | .inr (.deleteCredential service), m, (r : Except Error Unit), m' => ∃ w',
    Writes m.world (m.world.setStores (removeCredential m.world.stores service)) r w' ∧
      m' = { m with world := w' }
  | .inr (.deleteOauthAccount service), m, (r : Except Error Unit), m' => ∃ w',
    Writes m.world (m.world.setStores (removeOauthAccount m.world.stores service)) r w' ∧
      m' = { m with world := w' }
  | .inr .loginAccount, m, _, m' => m' = m

/-- An item that is there stays there. -/
structure Holding (t t' : Stores) : Prop where
  credentialItem : ∀ s, t.credentialItem s ≠ none → t'.credentialItem s ≠ none
  oauthItem : ∀ s, t.oauthItem s ≠ none → t'.oauthItem s ≠ none

/-- The daemon and Claude Code, at work meanwhile: they delete no stash and write no configuration, and
the file may be lost. -/
structure Others (m m' : Machine) : Prop where
  last : m'.last = m.last
  file : m'.file = m.file ∨ m'.file = none
  holding : Holding m.world.stores m'.world.stores

def Stashed (t : Stores) (uuid : String) : Prop :=
  t.credentialItem (stashPrefix ++ uuid) ≠ none ∧ t.oauthItem (stashPrefix ++ uuid) ≠ none

/-- The file, where it is there, loads as what was last saved, and each account of it has both items of
its stash. -/
structure Kept [StrDebug] (m : Machine) : Prop where
  file : ∀ lines, m.file = some lines → Config.parse lines = .ok m.last
  stashed : ∀ uuid ∈ m.listed, Stashed m.world.stores uuid

namespace Holding

variable {t t' t'' : Stores} {uuid : String}

theorem refl (t : Stores) : Holding t t := ⟨fun _ h => h, fun _ h => h⟩

theorem trans (h : Holding t t') (h' : Holding t' t'') : Holding t t'' :=
  ⟨fun s hs => h'.credentialItem s (h.credentialItem s hs), fun s hs => h'.oauthItem s (h.oauthItem s hs)⟩

theorem stashed (h : Holding t t') (hs : Stashed t uuid) : Stashed t' uuid :=
  ⟨h.credentialItem _ hs.1, h.oauthItem _ hs.2⟩

theorem setCredential (t : Stores) (service : String) (payload : List UInt8) :
    Holding t (t.setCredential service payload) := by
  refine ⟨fun s hs => ?_, fun _ hs => hs⟩
  by_cases h : s = service
  · simp [Stores.setCredential, h]
  · simpa [Stores.setCredential, h] using hs

theorem setOauthAccount (t : Stores) (service : String) (raw : Value) :
    Holding t (t.setOauthAccount service raw) := by
  refine ⟨fun _ hs => hs, fun s hs => ?_⟩
  by_cases h : s = service
  · simp [Stores.setOauthAccount, h]
  · simpa [Stores.setOauthAccount, h] using hs

end Holding

section Surroundings

variable {pid : ℕ} {w w' : World}

theorem holding_writes {written : World} {r : Except Error Unit} (h : Writes w written r w')
    (hw : Holding w.stores written.stores) : Holding w.stores w'.stores := by
  cases r with
  | ok u =>
    obtain rfl : w' = written := h
    exact hw
  | error e =>
    rcases h with rfl | rfl
    · exact .refl _
    · exact hw

/-- None of the operations of a swap takes an item of a stash away. -/
theorem surroundings_holding {o : Op} {r : o.Reply} (h : surroundings pid o w r w') :
    Holding w.stores w'.stores := by
  cases o with
  | addCredential service payload => exact holding_writes h (.setCredential _ _ _)
  | addOauthAccount service raw => exact holding_writes h (.setOauthAccount _ _ _)
  | writeCanonical c => exact holding_writes h ⟨fun _ hs => hs, fun _ hs => hs⟩
  | refresh account =>
    rcases h with rfl | ⟨payload, rfl⟩
    · exact .refl _
    · exact .setCredential _ _ _
  | _ =>
    rw [surroundings_stores rfl h]
    exact .refl _

/-- The surroundings, with others at work. -/
def busy (pid : ℕ) : Device Seams World :=
  (surroundings pid).under fun w w' => Holding w.stores w'.stores

theorem busy_holding {o : Op} {r : o.Reply} (h : busy pid o w r w') : Holding w.stores w'.stores := by
  obtain ⟨w₁, h₁, h⟩ := h
  exact h₁.trans (surroundings_holding h)

/-- Whatever program it is. -/
theorem wp_holding {α : Type} (p : Seam α) (t : Stores) (h : Holding t w.stores) :
    wp (busy pid) anything p w (fun _ w' => Holding t w'.stores) := by
  induction p generalizing w with
  | pure a => exact h
  | perform o k ih => exact fun r w' hd => ⟨trivial, ih r (h.trans (busy_holding hd))⟩

end Surroundings

/-! ## What a capture or a login has written -/

section Lands

variable [StrDebug] {pid : ℕ} {w w' : World} {t t' : Stores} {base : Config} {rep : CaptureReport}
  {α : Type}

/-- The report is on a plan whose stash has been written. -/
def Lands (base : Config) (rep : CaptureReport) (t : Stores) : Prop :=
  ∃ uuid stash roster, isBlank uuid = false ∧ Planned base.roster uuid roster stash ∧
    rep.config = { base with roster } ∧ Stashed t uuid

/-- Whatever is reported, the stash is there when it is. -/
def Delivers (pid : ℕ) (base : Config) (p : ExceptT VerbError Seam CaptureReport) : Prop :=
  ∀ w, wp (busy pid) anything p.run w (fun r w' => ∀ rep, r = .ok rep → Lands base rep w'.stores)

theorem Lands.holding (h : Lands base rep t) (ht : Holding t t') : Lands base rep t' := by
  obtain ⟨uuid, stash, roster, hblank, hplan, hconfig, hstash⟩ := h
  exact ⟨uuid, stash, roster, hblank, hplan, hconfig, ht.stashed hstash⟩

theorem delivers_bind {p : ExceptT VerbError Seam α} {f : α → ExceptT VerbError Seam CaptureReport}
    (hf : ∀ a, Delivers pid base (f a)) : Delivers pid base (p >>= f) := by
  intro w
  rw [wp_except_bind]
  refine wp_mono (wp_any p.run w) ?_
  intro r w' _
  cases r with
  | error e =>
    intro rep h
    cases h
  | ok a => exact hf a w'

theorem delivers_underSwapLock {body : ExceptT VerbError Seam CaptureReport}
    (h : Delivers pid base body) : Delivers pid base (underSwapLock body) := by
  unfold underSwapLock
  refine delivers_bind fun _ => ?_
  intro w
  rw [wp_except_bind, wp_except_lift]
  refine wp_mono (h w) ?_
  intro r w₁ hr
  dsimp only
  rw [wp_except_bind, wp_except_lift]
  refine wp_mono (wp_holding SwapLock.release w₁.stores (.refl _)) ?_
  intro _ w₂ h₂ rep hrep
  exact (hr rep hrep).holding h₂

omit [StrDebug] in
theorem wp_stashed {uuid : String} {account : StashedAccount} :
    wp (busy pid) anything (AccountStash.write (stashPrefix ++ uuid) account).run w
      (fun r w' => r = .ok () → Stashed w'.stores uuid) := by
  unfold AccountStash.write
  rw [wp_except_bind, wp_addCredential]
  rintro r w₂ ⟨w₁, -, h₂⟩
  refine ⟨trivial, ?_⟩
  cases r with
  | error e =>
    intro h
    cases h
  | ok u =>
    obtain rfl : w₂ = w₁.setStores _ := h₂
    dsimp only
    rw [wp_addOauthAccount]
    rintro r w₄ ⟨w₃, h₃, h₄⟩
    refine ⟨trivial, ?_⟩
    rintro rfl
    obtain rfl : w₄ = w₃.setStores _ := h₄
    have hcredential : w₃.stores.credentialItem (stashPrefix ++ uuid) ≠ none :=
      h₃.credentialItem _ (by simp [Stores.setCredential])
    exact ⟨hcredential, by simp [Stores.setOauthAccount]⟩

/-- The stash is written first, and what follows can at most fail. -/
theorem delivers_planned {label : Option String} {uuid : String} {account : StashedAccount}
    {rest : CaptureReport → ExceptT VerbError Seam CaptureReport} (hblank : isBlank uuid = false)
    (hrest : ∀ planned, Returns (fun r => ∀ rep, r = .ok rep → rep = planned) (rest planned).run) :
    Delivers pid base (do
      let (roster, stash, outcome) ← ExceptT.mk (pure (planCapture base.roster uuid label))
      seam (AccountStash.write stash account)
      rest (report base roster stash outcome)) := by
  intro w
  rw [wp_except_bind]
  cases hplan : planCapture base.roster uuid label with
  | error e =>
    intro rep h
    cases h
  | ok plan =>
    obtain ⟨roster, stash, outcome⟩ := plan
    have hplanned := planned hplan
    obtain rfl := hplanned.stash
    refine wp_except_bind.mpr (wp_adapt.mpr (wp_mono wp_stashed ?_))
    intro r w₁ hr
    cases r with
    | error e =>
      intro rep h
      cases h
    | ok u =>
      have hstash := hr rfl
      refine wp_mono (wp_returns (wp_holding _ w₁.stores (.refl _)) (hrest _)) ?_
      intro r w₂ h₂ rep hrep
      obtain rfl := h₂.2 rep hrep
      exact ⟨uuid, _, roster, hblank, hplanned, rfl, h₂.1.stashed hstash⟩

theorem delivers_captureLocked (existing : Option Config) (label : Option String) :
    Delivers pid (existing.getD firstRun) (captureLocked existing label) := by
  unfold captureLocked
  refine delivers_underSwapLock (delivers_bind fun oauth => delivers_bind fun credential => ?_)
  have hrest : ∀ planned, Returns (fun r => ∀ rep, r = .ok rep → rep = planned)
      (pure planned : ExceptT VerbError Seam CaptureReport).run :=
    fun planned rep h => (Except.ok.inj h).symm
  exact delivers_planned (isBlank_accountUuid oauth) hrest

theorem delivers_runLogin (captured : StashedAccount) (activate : Bool) (existing : Option Config)
    (label : Option String) :
    Delivers pid (existing.getD firstRun) (runLogin captured activate existing label) := by
  have hrest : ∀ planned, Returns (fun r => ∀ rep, r = .ok rep → rep = planned)
      (if activate then do
        seam (CredentialStore.write captured.credential)
        let _ ← ExceptT.lift (ClaudeState.writeOauthAccount captured.oauthAccount).run
        pure planned
      else pure planned : ExceptT VerbError Seam CaptureReport).run := by
    intro planned
    have hfail : ∀ (e : VerbError) (rep : CaptureReport),
        (.error e : Except VerbError CaptureReport) = .ok rep → rep = planned := by
      intro e rep h
      cases h
    split
    · refine returns_except_bind hfail fun _ => returns_except_bind hfail fun _ => ?_
      exact fun rep h => (Except.ok.inj h).symm
    · exact fun rep h => (Except.ok.inj h).symm
  exact delivers_planned (isBlank_accountUuid captured.oauthAccount) hrest

theorem delivers_reconcile (captured : StashedAccount) (existing : Option Config) (label : Option String) :
    Delivers pid (existing.getD firstRun) (do
      let active ← ExceptT.lift ClaudeState.readOauthAccount.run
      let activate :=
        shouldActivate (active.toOption.map (·.accountUuid)) captured.oauthAccount.accountUuid
      runLoginLocked captured activate existing label) :=
  delivers_bind fun _ => delivers_underSwapLock (delivers_runLogin captured _ existing label)

end Lands

/-! ## The verbs -/

section Verbs

variable [StrDebug] {pid : ℕ} {m m' : Machine} {l : Config} {verb : RosterVerb} {α : Type}

/-- Everything but the roster. -/
def settings (c : Config) : Config := { c with roster := [] }

/-- The configuration of a first run, where no account is listed. -/
def FirstRun (c base : Config) : Prop := base = c ∨ c.roster = [] ∧ base = firstRun

/-- The settings and the rows of every account but one are the same. -/
def Besides (uuid : String) (c c' : Config) : Prop :=
  settings c' = settings c ∧ otherRows uuid c'.roster = otherRows uuid c.roster

/-- What an append-only verb makes of a configuration. -/
def Appended (c c' : Config) : Prop :=
  ∃ base uuid, FirstRun c base ∧ Besides uuid base c' ∧ uuids c'.roster =
    if uuid ∈ uuids base.roster then uuids base.roster else uuids base.roster ++ [uuid]

def Flipped (c c' : Config) : Prop := ∃ uuid, Besides uuid c c' ∧ uuids c'.roster = uuids c.roster

def Removed (c c' : Config) : Prop :=
  ∃ uuid ∈ uuids c.roster, Besides uuid c c' ∧ uuids c'.roster = (uuids c.roster).erase uuid

/-- What a verb may make of the configuration that was last saved. -/
def RosterVerb.Changes (c c' : Config) : RosterVerb → Prop
  | .capture _ => c' = c ∨ Appended c c'
  | .login _ => c' = c ∨ Appended c c'
  | .setEnabled _ _ => c' = c ∨ Flipped c c'
  | .remove _ => c' = c ∨ Removed c c'

omit [StrDebug] in
theorem changes_refl (verb : RosterVerb) (c : Config) : verb.Changes c c := by
  cases verb <;> exact .inl rfl

/-- The machine during a verb that started on the configuration `l`. -/
def Good (verb : RosterVerb) (l : Config) (m : Machine) : Prop := Kept m ∧ verb.Changes l m.last

def Keeping (verb : RosterVerb) (l : Config) : Device VerbSeams Machine :=
  fun _ m _ m' => Good verb l m → Good verb l m'

/-- The machine, with others at work. -/
def crowded (pid : ℕ) : Device VerbSeams Machine := (machine pid).under Others

theorem Kept.others (h : Kept m) (ho : Others m m') : Kept m' where
  file := by
    intro lines hlines
    rcases ho.file with hsame | hnone
    · rw [ho.last]
      exact h.file lines (hsame ▸ hlines)
    · rw [hnone] at hlines
      cases hlines
  stashed := by
    intro uuid hu
    rw [Machine.listed, ho.last] at hu
    exact ho.holding.stashed (h.stashed uuid hu)

theorem Good.others (h : Good verb l m) (ho : Others m m') : Good verb l m' :=
  ⟨h.1.others ho, ho.last ▸ h.2⟩

omit [StrDebug] in
theorem others_world (m : Machine) {w' : World} (h : Holding m.world.stores w'.stores) :
    Others m { m with world := w' } := ⟨rfl, .inl rfl, h⟩

omit [StrDebug] in
theorem Others.refl (m : Machine) : Others m m := ⟨rfl, .inl rfl, .refl _⟩

omit [StrDebug] in
theorem Others.trans {m'' : Machine} (h : Others m m') (h' : Others m' m'') : Others m m'' where
  last := h'.last.trans h.last
  file := by
    rcases h'.file with hsame | hnone
    · rw [hsame]
      exact h.file
    · exact .inr hnone
  holding := h.holding.trans h'.holding

/-- A part that keeps to the stores leaves the machine as others might. -/
theorem wp_onSeams {p : ExceptT VerbError Seam α} {Q : Except VerbError α → World → Prop}
    {Q' : Except VerbError α → Machine → Prop} (h : wp (busy pid) anything p.run m.world Q)
    (hQ : ∀ r m', Q r m'.world → Others m m' → Q' r m') :
    wp (crowded pid) (Keeping verb l) (onSeams p).run m Q' := by
  have hE : ∀ {o : Op} {v : Machine} {r : o.Reply} {v' : Machine}, crowded pid (.inl o) v r v' →
      busy pid o v.world r v'.world ∧ Others v v' := by
    rintro o v r v' ⟨v₁, h₁, w', hw, rfl⟩
    exact ⟨⟨v₁.world, h₁.holding, hw⟩, h₁.trans (others_world v₁ (surroundings_holding hw))⟩
  refine wp_left Others.refl Others.trans hE ?_ h hQ
  · rintro o v r v' ⟨v₁, h₁, w', hw, rfl⟩ - hgood
    exact (hgood.others h₁).others (others_world v₁ (surroundings_holding hw))

theorem wp_load {Q : Except VerbError Config → Machine → Prop} (hm : Kept m)
    (h : ∀ r m', Others m m' → (∀ c, r = .ok c → c.Valid ∧ c = m.last) → Q r m') :
    wp (crowded pid) (Keeping verb l) load.run m Q := by
  refine wp_adapt.mpr ?_
  rintro r m' ⟨m₁, h₁, rfl, hloads⟩
  refine ⟨fun hgood => hgood.others h₁, h _ _ h₁ ?_⟩
  rintro c hc
  have hkept := hm.others h₁
  rcases hloads with rfl | rfl
  · cases hc
  · cases hfile : m'.file with
    | none =>
      rw [hfile] at hc
      cases hc
    | some lines =>
      have hparse := hkept.file lines hfile
      simp only [hfile, loaded, hparse] at hc
      obtain rfl := Except.ok.inj hc
      exact ⟨valid_of_parse hparse, h₁.last⟩

theorem wp_save {config : Config} {Q : Except VerbError Unit → Machine → Prop} (hm : Kept m)
    (hlast : verb.Changes l m.last) (hvalid : config.Valid)
    (hchange : verb.Changes l config)
    (hstashed : ∀ uuid ∈ uuids config.roster, Stashed m.world.stores uuid)
    (h : ∀ r m', Good verb l m' → (r = .ok () → m'.last = config) → Q r m') :
    wp (crowded pid) (Keeping verb l) (save config).run m Q := by
  refine wp_adapt.mpr ?_
  rintro r m' ⟨m₁, h₁, hsave⟩
  have hgood : Good verb l m₁ := Good.others ⟨hm, hlast⟩ h₁
  cases r with
  | error e =>
    obtain rfl : m' = m₁ := hsave
    refine ⟨fun _ => hgood, h _ _ hgood ?_⟩
    rintro ⟨⟩
  | ok u =>
    obtain rfl : m' = { m₁ with file := some config.render, last := config } := hsave
    have hgood' : Good verb l { m₁ with file := some config.render, last := config } := by
      refine ⟨⟨?_, fun uuid hu => h₁.holding.stashed (hstashed uuid hu)⟩, hchange⟩
      rintro lines hlines
      obtain rfl := Option.some.inj hlines
      exact parse_render hvalid
    exact ⟨fun _ => hgood', h _ _ hgood' fun _ => rfl⟩

/-- A machine that has saved an account is not taken for a new one. -/
theorem wp_admitAppendOnly {existing : Option Config} {Q : Except VerbError Unit → Machine → Prop}
    (hm : Kept m) (h : ∀ r m', Others m m' → (r = .ok () → existing = none → m.last.roster = []) → Q r m') :
    wp (crowded pid) (Keeping verb l) (admitAppendOnly existing.isSome).run m Q := by
  unfold admitAppendOnly
  cases existing with
  | some c => exact h _ m (.refl m) (fun _ h => nomatch h)
  | none =>
    refine wp_except_bind.mpr (wp_except_lift.mpr ?_)
    rintro r m' ⟨m₁, h₁, rfl, habsent⟩
    refine ⟨fun hgood => hgood.others h₁, h _ _ h₁ ?_⟩
    intro hok _
    cases r with
    | present => cases hok
    | absent =>
      rw [List.eq_nil_iff_forall_not_mem]
      intro a ha
      have hlisted : a.accountUuid ∈ m.listed := List.mem_map_of_mem ha
      exact (h₁.holding.stashed (hm.stashed _ hlisted)).1 (habsent rfl a.accountUuid)

theorem wp_loadExisting {Q : Except VerbError (Option Config) → Machine → Prop} (hm : Kept m)
    (h : ∀ r m', Others m m' → (∀ c, r = .ok (some c) → c.Valid ∧ c = m.last) → Q r m') :
    wp (crowded pid) (Keeping verb l) loadExisting.run m Q := by
  unfold loadExisting
  refine wp_bind.mpr (wp_load hm ?_)
  intro r m' ho hr
  cases r with
  | ok config =>
    refine h _ _ ho ?_
    rintro c hc
    obtain rfl := Option.some.inj (Except.ok.inj hc)
    exact hr config rfl
  | error e =>
    split
    · next heq => cases heq
    · exact h _ _ ho (by simp)
    · exact h _ _ ho (by simp)

theorem wp_loginAccount {Q : Except VerbError (Option StashedAccount) → Machine → Prop}
    (h : ∀ r m', Others m m' → Q r m') :
    wp (crowded pid) (Keeping verb l) loginAccount.run m Q := by
  refine wp_adapt.mpr ?_
  rintro r m' ⟨m₁, h₁, rfl⟩
  exact ⟨fun hgood => hgood.others h₁, h _ _ h₁⟩

/-- The items of other accounts, as they were. -/
structure Spares (uuid : String) (t t' : Stores) : Prop where
  credentialItem : ∀ s, s ≠ stashPrefix ++ uuid → t'.credentialItem s = t.credentialItem s
  oauthItem : ∀ s, s ≠ stashPrefix ++ uuid → t'.oauthItem s = t.oauthItem s

omit [StrDebug] in
theorem spares_credential (uuid : String) (t : Stores) :
    Spares uuid t (removeCredential t (stashPrefix ++ uuid)) :=
  ⟨fun s hs => by simp [removeCredential, hs], fun _ _ => rfl⟩

omit [StrDebug] in
theorem spares_oauthAccount (uuid : String) (t : Stores) :
    Spares uuid t (removeOauthAccount t (stashPrefix ++ uuid)) :=
  ⟨fun _ _ => rfl, fun s hs => by simp [removeOauthAccount, hs]⟩

/-- The deletion of an item that no listed account has. -/
theorem good_deleted {uuid : String} {w' : World} {t : Stores} {r : Except Error Unit}
    (hgood : Good verb l m) (hnot : uuid ∉ m.listed) (hspares : Spares uuid m.world.stores t)
    (h : Writes m.world (m.world.setStores t) r w') : Good verb l { m with world := w' } := by
  have hstores : w' = m.world ∨ w'.stores = t := by
    cases r with
    | ok u =>
      obtain rfl : w' = m.world.setStores t := h
      exact .inr rfl
    | error e =>
      rcases h with rfl | rfl
      · exact .inl rfl
      · exact .inr rfl
  rcases hstores with rfl | hstores
  · exact hgood
  · refine ⟨⟨hgood.1.file, ?_⟩, hgood.2⟩
    intro u hu
    have hne : stashPrefix ++ u ≠ stashPrefix ++ uuid := by
      intro heq
      exact hnot ((String.append_right_inj _).mp heq ▸ hu)
    have hstashed := hgood.1.stashed u hu
    refine ⟨?_, ?_⟩
    · rw [hstores, hspares.credentialItem _ hne]
      exact hstashed.1
    · rw [hstores, hspares.oauthItem _ hne]
      exact hstashed.2

theorem wp_deleteStash {uuid : String} {Q : Except VerbError Unit → Machine → Prop}
    (hnot : uuid ∉ m.listed) (h : ∀ r m', Q r m') :
    wp (crowded pid) (Keeping verb l) (deleteStash (stashPrefix ++ uuid)).run m Q := by
  unfold deleteStash
  refine wp_except_bind.mpr (wp_adapt.mpr ?_)
  rintro r m' ⟨m₁, h₁, w', hw, rfl⟩
  have hnot₁ : uuid ∉ m₁.listed := by
    rw [Machine.listed, h₁.last]
    exact hnot
  refine ⟨fun hgood => good_deleted (hgood.others h₁) hnot₁ (spares_credential _ _) hw, ?_⟩
  cases r with
  | error e => exact h _ _
  | ok u =>
    refine wp_adapt.mpr ?_
    rintro r m' ⟨m₂, h₂, w'', hw', rfl⟩
    have hnot₂ : uuid ∉ m₂.listed := by
      rw [Machine.listed, h₂.last]
      exact hnot₁
    exact ⟨fun hgood => good_deleted (hgood.others h₂) hnot₂ (spares_oauthAccount _ _) hw', h _ _⟩

end Verbs

end Sessiometer.Roster
