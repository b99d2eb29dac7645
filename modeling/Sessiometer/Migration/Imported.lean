import Sessiometer.Config.Sound
import Sessiometer.Migration.Merged
import Sessiometer.Swap.Attributed

/-! # What an import promises

Whatever the keychain makes of the writes, the merged roster and the report say the same, and the
stash of every account that the report calls written reads back as the artifact has it. -/

namespace Sessiometer.Migration

open Effects Keychain Keyed

section Imports

variable [SerdeJson] [SerdeToVec] [Sha256Hex] [TomlDecode] [StrDebug]
variable {pid : ℕ} {R : World → World → Prop} {P : Op → Prop} {w w' : World}
variable {payload : Payload} {localConfig : Option Config} {incoming result : Config}
variable {activeUuid : Option String} {overwrite : Bool} {rows : List AccountImport}

omit [SerdeJson] [SerdeToVec] [Sha256Hex] in
theorem unique_fromTomlStr {text : String} (h : fromTomlStr text = .ok incoming) :
    UniqueUuids incoming.roster := by
  unfold fromTomlStr at h
  split at h
  · cases h
  · split at h
    · cases h
    · next raw _ config hv =>
      cases h
      have haccepted := accepted_of_validate hv
      have hd := haccepted.distinct
      unfold UniqueUuids
      rw [haccepted.roster, List.map_map]
      exact hd

/-- The configuration that the merge starts from names no account twice. -/
def Distinct (localConfig : Option Config) : Prop :=
  ∀ c, localConfig = some c → UniqueUuids c.roster

omit [SerdeJson] [SerdeToVec] [Sha256Hex] [TomlDecode] [StrDebug] in
theorem unique_importBase (hl : Distinct localConfig) :
    UniqueUuids (importBase localConfig incoming).roster := by
  cases localConfig with
  | none => exact List.nodup_nil
  | some c => exact hl c rfl

/-- A run of the merge, under the lock where it stages secrets. -/
theorem wp_applyImport {Q : Except ImportError (Config × List AccountImport) → World → Prop}
    (hR : Respects pid R) (hl : Distinct localConfig)
    (hP : ∀ incoming, fromTomlStr payload.configToml = .ok incoming → ∀ a ∈ incoming.roster,
      Attempted overwrite (importBase localConfig incoming).roster a →
        ∀ managed, secretOf payload.accounts a.accountUuid = some managed →
          ∀ o, Staging managed a.stash o → P o)
    (herr : ∀ e w', Q (.error e) w')
    (h : ∀ incoming landed w', fromTomlStr payload.configToml = .ok incoming →
      (payload.accounts ≠ [] → w'.swapLock = none) →
      (∀ a ∈ incoming.roster, Written payload.accounts activeUuid overwrite
          (importBase localConfig incoming).roster landed a = true →
        ∀ managed, secretOf payload.accounts a.accountUuid = some managed →
          Holds managed a.stash w'.stores) →
      Q (.ok (finishImport (importBase localConfig incoming)
        (mergedRoster payload.accounts activeUuid overwrite
            (importBase localConfig incoming).roster landed incoming.roster,
          mergeRows payload.accounts activeUuid overwrite
            (importBase localConfig incoming).roster landed incoming.roster))) w') :
    wp ((doubtful pid).under R) (locked pid P)
      (applyImport payload localConfig activeUuid overwrite) w Q := by
  unfold applyImport
  cases hi : fromTomlStr payload.configToml with
  | error e => exact herr _ _
  | ok incoming =>
    have hd : UniqueUuids (importBase localConfig incoming).roster := unique_importBase hl
    have hu := unique_fromTomlStr hi
    dsimp only
    by_cases hne : payload.accounts = []
    · rw [if_pos (by simp [hne]), wp_bind]
      refine wp_importAccounts hR hd hu (fun h => absurd hne h) (hP incoming hi) ?_
      intro landed w₁ _ _ hholds
      exact h incoming landed w₁ hi (fun h => absurd hne h) hholds
    · rw [if_neg (by simp [hne]), wp_bind]
      unfold withSwapLock
      rw [wp_except_bind, wp_acquire]
      rintro r w₂ ⟨w₁, -, hd'⟩
      refine ⟨locked_of_reads rfl, ?_⟩
      cases r with
      | error e => exact herr _ _
      | ok u =>
        obtain ⟨-, rfl⟩ := hd'
        dsimp only
        rw [wp_except_bind, wp_except_lift, ExceptT.run_lift, map_eq_pure_bind, wp_bind]
        refine wp_importAccounts hR hd hu (fun _ => rfl) (hP incoming hi) ?_
        intro landed w₃ hlock₃ _ hholds
        rw [Prog.pure_eq, wp_pure]
        dsimp only
        rw [wp_except_bind, wp_except_lift, wp_release]
        rintro r w₅ ⟨w₄, h₄, rfl⟩
        refine ⟨locked_of_reads rfl, ?_⟩
        obtain ⟨-, hs₄⟩ := hR h₄ (hlock₃ hne)
        refine h incoming landed _ hi (fun _ => rfl) ?_
        intro a ha hw managed hm
        have := hholds a ha hw managed hm
        rw [← hs₄] at this
        exact this

/-! ## The merged roster and the report -/

/-- What the report says of the accounts, and what the merged configuration holds. -/
structure Merged (accounts : List ManagedAccount) (activeUuid : Option String) (overwrite : Bool)
    (base : Config) (incoming : List Account) (row : Account → AccountImport) (result : Config) :
    Prop where
  label : ∀ a, (row a).label = a.label
  skipped : ∀ a, (row a).outcome = .skipped ↔
    overwrite = false ∧ a.accountUuid ∈ base.roster.map (·.accountUuid)
  failed : ∀ a, (row a).outcome = .failed → (secretOf accounts a.accountUuid).isSome = true
  overwritten : ∀ a, (row a).outcome = .overwritten →
    overwrite = true ∧ a.accountUuid ∈ base.roster.map (·.accountUuid)
  imported : ∀ a, (row a).outcome = .imported → a.accountUuid ∉ base.roster.map (·.accountUuid)
  staged : ∀ a, (row a).stagedNotAdopted = true ↔ (row a).wrote = true ∧
    (secretOf accounts a.accountUuid).isSome = true ∧ activeUuid = some a.accountUuid
  duplicate : ∀ a, (row a).duplicateLabel = true ↔ (row a).wrote = true ∧
    1 < labelBearers result.roster a.label ∧
      labelBearers base.roster a.label < labelBearers result.roster a.label
  settings : result = { base with roster := result.roster }
  distinct : UniqueUuids result.roster
  roster : result.roster =
    base.roster.map (fun b => ((incoming.filter fun a => (row a).wrote).find?
      fun a => a.accountUuid = b.accountUuid).getD b) ++
    (incoming.filter fun a => (row a).wrote).filter fun a =>
      a.accountUuid ∉ base.roster.map (·.accountUuid)

section Report

omit [SerdeJson] [SerdeToVec] [Sha256Hex] [TomlDecode] [StrDebug]

variable {accounts : List ManagedAccount} {base : List Account} {landed : Bool} {a : Account}
variable {before after : List Account} {row : AccountImport}

theorem outcomeOf_skipped : outcomeOf accounts overwrite base landed a = .skipped ↔
    overwrite = false ∧ a.accountUuid ∈ base.map (·.accountUuid) := by
  unfold outcomeOf
  by_cases h : Attempted overwrite base a
  · rw [if_neg (not_not.mpr h)]
    constructor
    · intro hs
      split at hs
      · cases hs
      · split at hs <;> cases hs
    · rintro ⟨hover, hin⟩
      rcases h with h | h
      · rw [hover] at h
        cases h
      · exact absurd hin h
  · rw [if_pos h]
    unfold Attempted at h
    push Not at h
    simpa using h

theorem outcomeOf_failed (h : outcomeOf accounts overwrite base landed a = .failed) :
    (secretOf accounts a.accountUuid).isSome = true := by
  unfold outcomeOf at h
  split at h
  · cases h
  · split at h
    · next hs => exact hs.1
    · split at h <;> cases h

theorem outcomeOf_overwritten (h : outcomeOf accounts overwrite base landed a = .overwritten) :
    overwrite = true ∧ a.accountUuid ∈ base.map (·.accountUuid) := by
  unfold outcomeOf at h
  split at h
  · cases h
  · next hgo =>
    split at h
    · cases h
    · split at h
      · next hin =>
        rcases not_not.mp hgo with hover | hout
        · exact ⟨hover, hin⟩
        · exact absurd hin hout
      · cases h

theorem outcomeOf_imported (h : outcomeOf accounts overwrite base landed a = .imported) :
    a.accountUuid ∉ base.map (·.accountUuid) := by
  unfold outcomeOf at h
  split at h
  · cases h
  · split at h
    · cases h
    · split at h
      · cases h
      · next hout => exact hout

/-- A flag changes nothing else of the row. -/
theorem flagDuplicate_label : (flagDuplicate before after row).label = row.label := by
  unfold flagDuplicate
  split <;> rfl

theorem flagDuplicate_outcome : (flagDuplicate before after row).outcome = row.outcome := by
  unfold flagDuplicate
  split <;> rfl

theorem flagDuplicate_wrote : (flagDuplicate before after row).wrote = row.wrote := by
  unfold AccountImport.wrote
  rw [flagDuplicate_outcome]

theorem flagDuplicate_staged :
    (flagDuplicate before after row).stagedNotAdopted = row.stagedNotAdopted := by
  unfold flagDuplicate
  split <;> rfl

theorem flagDuplicate_duplicate (h : row.duplicateLabel = false) :
    (flagDuplicate before after row).duplicateLabel = true ↔ row.wrote = true ∧
      1 < labelBearers after row.label ∧ labelBearers before row.label < labelBearers after row.label := by
  unfold flagDuplicate
  split
  · next hc => simp [hc.1.1, hc.1.2, hc.2]
  · next hc =>
    rw [h]
    simp only [Bool.false_eq_true, false_iff]
    exact fun hr => hc ⟨hr.2, hr.1⟩

theorem merged_finish {accounts : List ManagedAccount} {base : Config} {landed : String → Bool}
    {incoming : List Account} (hd : UniqueUuids base.roster) (hu : UniqueUuids incoming) :
    let after := mergedRoster accounts activeUuid overwrite base.roster landed incoming
    Merged accounts activeUuid overwrite base incoming
      (fun a => flagDuplicate base.roster after
        (mergeRow accounts activeUuid overwrite base.roster (landed a.accountUuid) a))
      { base with roster := after } := by
  intro after
  have hw : ∀ a, (flagDuplicate base.roster after
      (mergeRow accounts activeUuid overwrite base.roster (landed a.accountUuid) a)).wrote =
      Written accounts activeUuid overwrite base.roster landed a := fun a => flagDuplicate_wrote
  constructor
  case label =>
    intro a
    rw [flagDuplicate_label]
    rfl
  case skipped =>
    intro a
    rw [flagDuplicate_outcome]
    exact outcomeOf_skipped
  case failed =>
    intro a
    rw [flagDuplicate_outcome]
    exact outcomeOf_failed
  case overwritten =>
    intro a
    rw [flagDuplicate_outcome]
    exact outcomeOf_overwritten
  case imported =>
    intro a
    rw [flagDuplicate_outcome]
    exact outcomeOf_imported
  case staged =>
    intro a
    have hstaged : (mergeRow accounts activeUuid overwrite base.roster (landed a.accountUuid)
        a).stagedNotAdopted = (Written accounts activeUuid overwrite base.roster landed a &&
          (secretOf accounts a.accountUuid).isSome && activeUuid == some a.accountUuid) := rfl
    rw [flagDuplicate_staged, hw, hstaged]
    simp [and_assoc]
  case duplicate =>
    intro a
    rw [flagDuplicate_duplicate rfl, hw]
    exact Iff.rfl
  case settings => rfl
  case distinct => exact nodup_puts hd
  case roster =>
    simp only [hw]
    exact puts_eq hd ((hu.sublist ((List.filter_sublist).map _)))

end Report

/-! ## The counts -/

section Counts

omit [SerdeJson] [SerdeToVec] [Sha256Hex] [TomlDecode] [StrDebug]

theorem outcomes_partition (rows : List AccountImport) :
    (rows.filter (·.outcome = .imported)).length + (rows.filter (·.outcome = .skipped)).length +
      (rows.filter (·.outcome = .overwritten)).length + (rows.filter (·.outcome = .failed)).length =
        rows.length := by
  induction rows with
  | nil => rfl
  | cons row rows ih =>
    cases h : row.outcome <;> simp [h] <;> omega

theorem countImportOutcomes_sum (h : rows.length ≤ u32Max) :
    (countImportOutcomes rows).1 + (countImportOutcomes rows).2.1 +
      (countImportOutcomes rows).2.2.1 + (countImportOutcomes rows).2.2.2 = rows.length := by
  have hsum := outcomes_partition rows
  have hle : ∀ want, (rows.filter (·.outcome = want)).length ≤ u32Max :=
    fun want => (List.length_filter_le _ _).trans h
  simp only [countImportOutcomes, Nat.min_eq_left (hle _)]
  omega

end Counts

/-! ## The results -/

theorem merged_of_exec (hR : Respects pid R) (hl : Distinct localConfig)
    (he : Exec ((doubtful pid).under R) (applyImport payload localConfig activeUuid overwrite) w
      (.ok (result, rows)) w') :
    ∃ incoming row, fromTomlStr payload.configToml = .ok incoming ∧
      rows = incoming.roster.map row ∧
      Merged payload.accounts activeUuid overwrite (importBase localConfig incoming) incoming.roster
        row result ∧
      ∀ a ∈ incoming.roster, (row a).wrote = true →
        ∀ managed, secretOf payload.accounts a.accountUuid = some managed →
          Holds managed a.stash w'.stores := by
  have hwp : wp ((doubtful pid).under R) (locked pid fun _ => True)
      (applyImport payload localConfig activeUuid overwrite) w (fun r w' => ∀ result rows,
        r = .ok (result, rows) → ∃ incoming row, fromTomlStr payload.configToml = .ok incoming ∧
          rows = incoming.roster.map row ∧
          Merged payload.accounts activeUuid overwrite (importBase localConfig incoming)
            incoming.roster row result ∧
          ∀ a ∈ incoming.roster, (row a).wrote = true →
            ∀ managed, secretOf payload.accounts a.accountUuid = some managed →
              Holds managed a.stash w'.stores) := by
    refine wp_applyImport hR hl (by simp) (by simp) ?_
    intro incoming landed w' hi _ hholds result rows hr
    have hd : UniqueUuids (importBase localConfig incoming).roster := unique_importBase hl
    obtain ⟨rfl, rfl⟩ := Prod.mk.inj (Except.ok.inj hr)
    refine ⟨incoming, _, hi, by simp [mergeRows], merged_finish hd (unique_fromTomlStr hi), ?_⟩
    intro a ha hwrote managed hm
    rw [flagDuplicate_wrote] at hwrote
    exact hholds a ha hwrote managed hm
  exact wp_exec hwp he result rows rfl

omit [SerdeJson] [SerdeToVec] [Sha256Hex] [TomlDecode] [StrDebug] in
/-- Where a label has more bearers than before, a written account bears it. -/
theorem bearer_written {accounts : List ManagedAccount} {base : Config} {incoming : List Account}
    {row : Account → AccountImport} {label : String}
    (h : Merged accounts activeUuid overwrite base incoming row result)
    (hd : UniqueUuids base.roster) (hu : UniqueUuids incoming)
    (hmore : labelBearers base.roster label < labelBearers result.roster label) :
    ∃ a ∈ incoming.filter (fun a => (row a).wrote), a.label = label := by
  have hputs : result.roster =
      puts (·.accountUuid) base.roster (incoming.filter fun a => (row a).wrote) := by
    rw [h.roster]
    exact (puts_eq hd (hu.sublist (List.filter_sublist.map _))).symm
  have hcount : labelBearers result.roster label ≤ labelBearers base.roster label +
      ((incoming.filter fun a => (row a).wrote).map (·.label)).count label := by
    unfold labelBearers
    rw [hputs]
    exact count_puts Account.label label
  have hpos : 0 < ((incoming.filter fun a => (row a).wrote).map (·.label)).count label := by omega
  exact List.mem_map.mp (List.count_pos_iff.mp hpos)

/-- A label that the import makes ambiguous, or more so, is flagged on a row, and no other label is. -/
theorem import_flags_ambiguity (hR : Respects pid R) (hl : Distinct localConfig)
    (he : Exec ((doubtful pid).under R) (applyImport payload localConfig activeUuid overwrite) w
      (.ok (result, rows)) w') :
    ∃ incoming, fromTomlStr payload.configToml = .ok incoming ∧ ∀ label,
      (∃ row ∈ rows, row.label = label ∧ row.duplicateLabel = true) ↔
        1 < labelBearers result.roster label ∧
          labelBearers (importBase localConfig incoming).roster label <
            labelBearers result.roster label := by
  obtain ⟨incoming, row, hi, rfl, hmerged, -⟩ := merged_of_exec hR hl he
  refine ⟨incoming, hi, ?_⟩
  intro label
  constructor
  · rintro ⟨r, hr, rfl, hflag⟩
    obtain ⟨a, -, rfl⟩ := List.mem_map.mp hr
    rw [hmerged.label a]
    exact ((hmerged.duplicate a).mp hflag).2
  · intro hmore
    obtain ⟨a, ha, hlabel⟩ := bearer_written hmerged (unique_importBase hl)
      (unique_fromTomlStr hi) hmore.2
    obtain ⟨ha, hwrote⟩ := List.mem_filter.mp ha
    refine ⟨row a, List.mem_map_of_mem ha, by rw [hmerged.label a, hlabel], ?_⟩
    rw [hmerged.duplicate a, hlabel]
    exact ⟨hwrote, hmore⟩

/-! ## What is staged -/

/-- The writes that an import may make: of the secret of an account that it does not skip. -/
def Permitted (payload : Payload) (localConfig : Option Config) (overwrite : Bool) (o : Op) : Prop :=
  ∃ incoming, fromTomlStr payload.configToml = .ok incoming ∧ ∃ a ∈ incoming.roster,
    Attempted overwrite (importBase localConfig incoming).roster a ∧
      ∃ managed, secretOf payload.accounts a.accountUuid = some managed ∧ Staging managed a.stash o

/-- Where an import ends well, the lock is free, and every stash of a written account reads back with
the digests of the artifact. -/
def Staged (payload : Payload) (r : Except ImportError (Config × List AccountImport)) (w' : World) :
    Prop :=
  ∀ result rows, r = .ok (result, rows) → (payload.accounts ≠ [] → w'.swapLock = none) ∧
    ∃ incoming row, fromTomlStr payload.configToml = .ok incoming ∧
      rows = incoming.roster.map row ∧ ∀ a ∈ incoming.roster, (row a).wrote = true →
        ∀ managed, secretOf payload.accounts a.accountUuid = some managed →
          Holds managed a.stash w'.stores

omit [SerdeJson] [SerdeToVec] [Sha256Hex] [TomlDecode] [StrDebug] in
theorem quiet_resolveActiveUuidForImport (roster : List Account) :
    Only (Op.isQuiet · = true) (resolveActiveUuidForImport roster) := by
  unfold resolveActiveUuidForImport
  refine only_bind quiet_canonicalRead (fun r => ?_)
  cases r with
  | ok canonical => exact only_bind (quiet_resolveAccountFor roster canonical) (fun _ => trivial)
  | error e => exact only_bind (quiet_resolveViaDisplay roster) (fun _ => trivial)

omit [SerdeJson] [SerdeToVec] [Sha256Hex] [TomlDecode] [StrDebug] in
theorem writesStores_of_quiet {o : Op} (h : o.isQuiet = true) : o.writesStores = false := by
  cases o <;> simp_all [Op.isQuiet, Op.writesStores]

omit [SerdeJson] [SerdeToVec] [Sha256Hex] [TomlDecode] [StrDebug] in
theorem wp_doubtful_quiet {α : Type} {p : Seam α} (hp : Only (Op.isQuiet · = true) p) :
    wp ((doubtful pid).under R) (locked pid P) p w (fun _ _ => True) :=
  wp_only hp (fun _ => trivial) (fun _ _ => trivial)
    (fun _ _ _ _ ho _ => ⟨locked_of_reads (writesStores_of_quiet ho), trivial⟩)

/-- In every run of an import, finished or not, the stores are written only under the swap lock, and
then only the stashes of accounts that it does not skip, with what the artifact has for them: never the
canonical item. -/
theorem import_stages (hR : Respects pid R) (hl : Distinct localConfig) (cliOverwrite : Bool) :
    wp ((doubtful pid).under R)
      (locked pid (Permitted payload localConfig (resolveImportOverwrite cliOverwrite localConfig)))
      (importInto payload localConfig cliOverwrite) w
      (Staged payload) := by
  have happly : ∀ activeUuid w, wp ((doubtful pid).under R)
      (locked pid (Permitted payload localConfig (resolveImportOverwrite cliOverwrite localConfig)))
      (applyImport payload localConfig activeUuid (resolveImportOverwrite cliOverwrite localConfig)) w
      (Staged payload) := by
    intro activeUuid w
    refine wp_applyImport hR hl ?_ (fun _ _ _ _ h => nomatch h) ?_
    · intro incoming hi a ha hgo managed hm o ho
      exact ⟨incoming, hi, a, ha, hgo, managed, hm, ho⟩
    intro incoming landed w' hi hfree hholds result rows hr
    obtain ⟨rfl, rfl⟩ := Prod.mk.inj (Except.ok.inj hr)
    refine ⟨hfree, incoming, _, hi, List.map_map, ?_⟩
    intro a ha hwrote managed hm
    rw [Function.comp_apply, flagDuplicate_wrote] at hwrote
    exact hholds a ha hwrote managed hm
  unfold importInto
  cases localConfig with
  | none => exact happly none w
  | some config =>
    rw [wp_bind]
    refine wp_mono (wp_doubtful_quiet (quiet_resolveActiveUuidForImport config.roster)) ?_
    intro activeUuid w' _
    exact happly activeUuid w'

end Imports

/-! ## A small import -/

section Sample

/-- Two accounts under one label. -/
def twinsRaw : RawConfig where
  account := [{ accountUuid := "aaaa-1111", label := "A" }, { accountUuid := "bbbb-2222", label := "A" }]

/-- One of them comes with its secret. -/
def twinsPayload : Payload := ⟨"", [⟨"aaaa-1111", [1], [7]⟩]⟩

local instance twinsJson : SerdeJson := ⟨fun _ => some (identityDocument "aaaa-1111")⟩

local instance twinsToVec : SerdeToVec := ⟨fun _ => [7]⟩

local instance twinsToml : TomlDecode := ⟨fun _ => .ok twinsRaw⟩

local instance plainHex : Sha256Hex := ⟨fun bytes => toString (bytes.map UInt8.toNat)⟩

def emptyWorld : World := atRest (captured none []) "nobody"

theorem distinct_none : Distinct none := by
  intro c h
  cases h

theorem respects_eq (pid : ℕ) : Respects pid Eq := by
  rintro w w' rfl h
  exact ⟨h, rfl⟩

theorem exec_twins : ∃ result rows w', Exec ((doubtful 1).under Eq)
    (applyImport twinsPayload none none false) emptyWorld (.ok (result, rows)) w' := by
  have he := exec_of_run (calmly_refines 1) (applyImport twinsPayload none none false) emptyWorld
  have hok : (run (calmly 1) (applyImport twinsPayload none none false)
      emptyWorld).1.toOption.isSome = true := by decide +kernel
  obtain ⟨x, hx⟩ := ok_of_isSome hok
  rw [hx] at he
  exact ⟨x.1, x.2, _, exec_within
    (fun o w r w' h => ⟨w, rfl, surroundings_within_doubtful 1 o w r w' h⟩) he⟩

theorem import_flags_twins : ∃ (result : Config) (rows : List AccountImport) (w' : World),
    Exec ((doubtful 1).under Eq) (applyImport twinsPayload none none false) emptyWorld
      (.ok (result, rows)) w' ∧
    ∃ incoming, fromTomlStr twinsPayload.configToml = .ok incoming ∧
      ((∃ row ∈ rows, row.label = "A" ∧ row.duplicateLabel = true) ↔
        1 < labelBearers result.roster "A" ∧
          labelBearers (importBase none incoming).roster "A" < labelBearers result.roster "A") := by
  obtain ⟨result, rows, w', he⟩ := exec_twins
  obtain ⟨incoming, hi, hflags⟩ := import_flags_ambiguity (respects_eq 1) distinct_none he
  exact ⟨result, rows, w', he, incoming, hi, hflags "A"⟩

theorem import_stages_twins : wp ((doubtful 1).under Eq)
    (locked 1 (Permitted twinsPayload none (resolveImportOverwrite false none)))
    (importInto twinsPayload none false) emptyWorld (Staged twinsPayload) :=
  import_stages (respects_eq 1) distinct_none false

end Sample

end Sessiometer.Migration
