import Sessiometer.Daemon.SweepRuns
import Sessiometer.Refresh.Phases
import Sessiometer.Refresh.Script

/-! # The compare-and-set of a refresh cycle

What a cycle writes and what it leaves behind, among others that write the stash under the swap lock,
and with any of its operations failing. -/

namespace Sessiometer

open Effects

/-! ## What a trace says of a cycle -/

/-- The credential halves that the stash reads have returned. -/
def credentialReads (tr : List (Occurrence CycleSeams)) : List (List UInt8) :=
  tr.filterMap fun
    | ⟨.inl (.findCredential _), r⟩ => (r : Except Error (List UInt8)).toOption
    | _ => none

def readBacks (tr : List (Occurrence CycleSeams)) : List Credential :=
  tr.filterMap fun
    | ⟨.inr (.readBack _), r⟩ => (r : Except Error Credential).toOption
    | _ => none

/-- A write of a store or of the display. -/
def writesAny (x : Occurrence CycleSeams) : Bool :=
  match x.1 with
  | .inl o => o.isWrite
  | .inr _ => false

/-- An operation on what the session keeps, other than the creation of its directory. -/
def usesSession (x : Occurrence CycleSeams) : Bool :=
  match x.1 with
  | .inl _ => false
  | .inr (.createIsolatedDir _) => false
  | .inr _ => true

/-- The guard of a session: armed with its directory, disarmed when that is removed. -/
def guardAfter (armed : Bool) : Occurrence CycleSeams → Bool
  | ⟨.inr (.createIsolatedDir _), r⟩ =>
    match (r : Except Error Unit) with
    | .ok () => true
    | .error _ => armed
  | ⟨.inr (.removeDirAll _), _⟩ => false
  | _ => armed

def guardArmed (tr : List (Occurrence CycleSeams)) : Bool := tr.foldl guardAfter false

/-- The guard of the swap lock. -/
def lockAfter (held : Bool) : Occurrence CycleSeams → Bool
  | ⟨.inl .acquireSwapLock, r⟩ =>
    match (r : Except Error Unit) with
    | .ok () => true
    | .error _ => held
  | ⟨.inl .releaseSwapLock, _⟩ => false
  | _ => held

def lockGuarded (tr : List (Occurrence CycleSeams)) : Bool := tr.foldl lockAfter false

/-- What dropping an unfinished cycle performs. -/
def dropCycle (account : Account) (tr : List (Occurrence CycleSeams)) : CycleSeam Unit := do
  if lockGuarded tr then
    SwapLock.release.left IsolatedSeams
  if guardArmed tr then do
    IsolatedSession.deleteBlocking account.accountUuid
    IsolatedSession.removeDirAll account.accountUuid

/-- A deletion that fails, and the pause after it. -/
def failedDelete (session : String) (e : Error) : List (Occurrence CycleSeams) :=
  [⟨.inr (.delete session), (.error e : Except Error Unit)⟩, ⟨.inr .sleep, ()⟩]

/-- A whole teardown: the item is deleted after some failures, or as best it can be after the last of
them, and the directory removed. -/
inductive TornDown (session : String) : List (Occurrence CycleSeams) → Prop
  | deleted (errors : List Error) : errors.length < IsolatedSession.teardownDeleteRetries →
      TornDown session (errors.flatMap (failedDelete session) ++
        [⟨.inr (.delete session), (.ok () : Except Error Unit)⟩, ⟨.inr (.removeDirAll session), ()⟩])
  | gaveUp (errors : List Error) : errors.length = IsolatedSession.teardownDeleteRetries →
      TornDown session (errors.flatMap (failedDelete session) ++
        [⟨.inr (.deleteBlocking session), ()⟩, ⟨.inr (.removeDirAll session), ()⟩])

section Traces

variable (tr : List (Occurrence CycleSeams)) (x : Occurrence CycleSeams)

def NoWrite : Prop := ∀ x ∈ tr, writesAny x = false

def NoSession : Prop := ∀ x ∈ tr, usesSession x = false

theorem noWrite_concat : NoWrite (tr ++ [x]) ↔ NoWrite tr ∧ writesAny x = false := by
  unfold NoWrite
  rw [List.forall_mem_append, List.forall_mem_singleton]

theorem noSession_concat : NoSession (tr ++ [x]) ↔ NoSession tr ∧ usesSession x = false := by
  unfold NoSession
  rw [List.forall_mem_append, List.forall_mem_singleton]

theorem guardArmed_concat : guardArmed (tr ++ [x]) = guardAfter (guardArmed tr) x := by
  unfold guardArmed
  rw [List.foldl_append]
  rfl

/-- The guard stays armed until the directory is removed. -/
theorem guardArmed_kept {tr : List (Occurrence CycleSeams)} {x : Occurrence CycleSeams}
    (h : guardArmed tr = true) (hx : guardAfter true x = true) : guardArmed (tr ++ [x]) = true := by
  rw [guardArmed_concat, h, hx]

theorem credentialReads_append (tr' : List (Occurrence CycleSeams)) :
    credentialReads (tr ++ tr') = credentialReads tr ++ credentialReads tr' :=
  List.filterMap_append

theorem readBacks_append (tr' : List (Occurrence CycleSeams)) :
    readBacks (tr ++ tr') = readBacks tr ++ readBacks tr' :=
  List.filterMap_append

/-- An operation before the session has one keeps the trace as empty as it was. -/
theorem before_concat {tr : List (Occurrence CycleSeams)} {x : Occurrence CycleSeams}
    (hback : readBacks tr = []) (hwrite : NoWrite tr) (hsession : NoSession tr)
    (hb : readBacks [x] = []) (hw : writesAny x = false) (hs : usesSession x = false) :
    readBacks (tr ++ [x]) = [] ∧ NoWrite (tr ++ [x]) ∧ NoSession (tr ++ [x]) :=
  ⟨by rw [readBacks_append, hback, hb, List.append_nil], (noWrite_concat tr x).mpr ⟨hwrite, hw⟩,
    (noSession_concat tr x).mpr ⟨hsession, hs⟩⟩

end Traces

/-! ## What the trace of each phase is -/

section Reports

variable (account : Account)

/-- Both halves of the stash were written. -/
def Restashed (tr : List (Occurrence CycleSeams)) : Prop :=
  ∃ blob raw, ⟨.inl (.addCredential account.stash blob), (.ok () : Except Error Unit)⟩ ∈ tr ∧
    ⟨.inl (.addOauthAccount account.stash raw), (.ok () : Except Error Unit)⟩ ∈ tr

/-- What the result of a cycle says of its trace. -/
def Reported (tr : List (Occurrence CycleSeams)) (result : Except Error RefreshReport) : Prop :=
  ∀ report, result = .ok report →
    (report.reStashed = true → (∃ rotated, report.outcome = .refreshed rotated) ∧
      Restashed account tr) ∧
    (report.reStashed = false → NoWrite tr)

/-- So many deletions have failed. -/
def FailedDeletes (tr : List (Occurrence CycleSeams)) (errors : List Error) : Prop :=
  ∃ before, tr = before ++ errors.flatMap (failedDelete account.accountUuid)

variable {account} {tr : List (Occurrence CycleSeams)} {x : Occurrence CycleSeams}

theorem Restashed.concat (h : Restashed account tr) : Restashed account (tr ++ [x]) := by
  obtain ⟨blob, raw, hc, ho⟩ := h
  exact ⟨blob, raw, List.mem_append_left _ hc, List.mem_append_left _ ho⟩

theorem Reported.concat {result : Except Error RefreshReport} (h : Reported account tr result)
    (hwrite : writesAny x = false) : Reported account (tr ++ [x]) result := by
  intro report hr
  obtain ⟨hrestashed, hkept⟩ := h report hr
  refine ⟨fun ht => ⟨(hrestashed ht).1, (hrestashed ht).2.concat⟩, ?_⟩
  intro hf
  exact (noWrite_concat tr x).mpr ⟨hkept hf, hwrite⟩

theorem reported_error (e : Error) : Reported account tr (.error e) := by
  intro report hr
  cases hr

theorem reported_unwritten {report : RefreshReport} (h : report.reStashed = false)
    (hwrite : NoWrite tr) : Reported account tr (.ok report) := by
  intro report' hr
  cases hr
  exact ⟨fun ht => absurd ht (by rw [h]; exact Bool.false_ne_true), fun _ => hwrite⟩

theorem reported_restash {m : Minted} {r : Except Error Bool}
    (hrestashed : r = .ok true → Restashed account tr) (hkept : r = .ok false → NoWrite tr) :
    Reported account tr (restashReport m r) := by
  cases r with
  | error e => exact reported_error e
  | ok reStashed =>
    intro report hr
    cases hr
    refine ⟨fun ht => ⟨⟨m.rotated, rfl⟩, hrestashed (congrArg Except.ok ht)⟩, ?_⟩
    intro hf
    exact hkept (congrArg Except.ok hf)

theorem FailedDeletes.concat {before : List (Occurrence CycleSeams)} {errors : List Error} {e : Error}
    (h : FailedDeletes account before errors) :
    FailedDeletes account (before ++ failedDelete account.accountUuid e) (errors ++ [e]) := by
  obtain ⟨first, rfl⟩ := h
  refine ⟨first, ?_⟩
  rw [List.flatMap_append, List.flatMap_singleton, List.append_assoc]

end Reports

section Phases

variable [SerdeJson] [SerdeToVec] (account : Account) (nowMs : Int)

/-- The stash as it was snapshotted, and nothing written yet. -/
structure Snapshotted (tr : List (Occurrence CycleSeams)) (m : Minting) : Prop where
  reads : credentialReads tr = [m.snapshot.credential.blob]
  unread : readBacks tr = []
  seed : backdate m.snapshot.credential.blob nowMs = some m.seed
  noWrite : NoWrite tr

/-- The client's copy was read back, and is a refresh of the snapshot. -/
structure Earned (tr : List (Occurrence CycleSeams)) (m : Minted) : Prop where
  snapshot : (credentialReads tr).head? = some m.snapshot.credential.blob
  readBack : readBacks tr = [m.after]
  refreshed : ∃ seed, backdate m.snapshot.credential.blob nowMs = some seed ∧
    classify m.snapshot.credential.blob seed m.after.blob = (.refreshed m.rotated, m.delta)

def Traced (tr : List (Occurrence CycleSeams)) : CyclePhase → Prop
  | .locking | .readingCredential =>
    credentialReads tr = [] ∧ readBacks tr = [] ∧ NoWrite tr ∧ NoSession tr
  | .readingOauth blob =>
    credentialReads tr = [blob] ∧ readBacks tr = [] ∧ NoWrite tr ∧ NoSession tr
  | .unlocking r => (∀ snapshot, r = .ok snapshot → credentialReads tr = [snapshot.credential.blob]) ∧
    readBacks tr = [] ∧ NoWrite tr ∧ NoSession tr
  | .creating m => Snapshotted nowMs tr m ∧ NoSession tr
  | .seeding m | .writingClaudeJson m | .spawning m | .readingBack m =>
    Snapshotted nowMs tr m ∧ guardArmed tr = true
  | .relocking m | .rereadingCredential m | .rereadingOauth m _ | .restashingCredential m =>
    Earned nowMs tr m ∧ NoWrite tr ∧ guardArmed tr = true
  | .restashingOauth m => Earned nowMs tr m ∧ guardArmed tr = true ∧
    ⟨.inl (.addCredential account.stash m.after.blob), (.ok () : Except Error Unit)⟩ ∈ tr
  | .reunlocking _ r => guardArmed tr = true ∧ (r = .ok true → Restashed account tr) ∧
    (r = .ok false → NoWrite tr)
  | .deleting left result => guardArmed tr = true ∧ Reported account tr result ∧
    ∃ errors, FailedDeletes account tr errors ∧
      errors.length + left + 1 = IsolatedSession.teardownDeleteRetries
  | .sleeping left result => guardArmed tr = true ∧ Reported account tr result ∧
    ∃ before errors e, tr = before ++ [⟨.inr (.delete account.accountUuid),
        (.error e : Except Error Unit)⟩] ∧ FailedDeletes account before errors ∧
      errors.length + left + 1 = IsolatedSession.teardownDeleteRetries
  | .deletingBlocking result => guardArmed tr = true ∧ Reported account tr result ∧
    ∃ errors, FailedDeletes account tr errors ∧
      errors.length = IsolatedSession.teardownDeleteRetries
  | .removing result => guardArmed tr = true ∧ Reported account tr result ∧
    ∃ before torn, tr = before ++ torn ∧
      TornDown account.accountUuid (torn ++ [⟨.inr (.removeDirAll account.accountUuid), ()⟩])
  | .finished result => Reported account tr result ∧
    (NoSession tr ∨ ∃ before torn, tr = before ++ torn ∧ TornDown account.accountUuid torn)

variable {account nowMs} {tr : List (Occurrence CycleSeams)} {x : Occurrence CycleSeams}

/-- An operation that reads neither half nor the isolated item, and writes nothing. -/
theorem Snapshotted.concat {m : Minting} (h : Snapshotted nowMs tr m)
    (hreads : credentialReads [x] = []) (hback : readBacks [x] = []) (hwrite : writesAny x = false) :
    Snapshotted nowMs (tr ++ [x]) m where
  reads := by rw [credentialReads_append, h.reads, hreads, List.append_nil]
  unread := by rw [readBacks_append, h.unread, hback, List.append_nil]
  seed := h.seed
  noWrite := (noWrite_concat tr x).mpr ⟨h.noWrite, hwrite⟩

theorem Earned.concat {m : Minted} (h : Earned nowMs tr m) (hback : readBacks [x] = []) :
    Earned nowMs (tr ++ [x]) m where
  snapshot := by
    rw [credentialReads_append, List.head?_append, h.snapshot]
    rfl
  readBack := by rw [readBacks_append, h.readBack, hback, List.append_nil]
  refreshed := h.refreshed

/-- The first deletion of a teardown. -/
theorem traced_ending {result : Except Error RefreshReport} (harmed : guardArmed tr = true)
    (h : Reported account tr result) : Traced account nowMs tr (.ending result) :=
  ⟨harmed, h, [], ⟨tr, (List.append_nil tr).symm⟩, rfl⟩

theorem traced_classified {m : Minting} {after : Credential} (h : Snapshotted nowMs tr m)
    (harmed : guardArmed tr = true) :
    Traced account nowMs (tr ++ [⟨.inr (.readBack account.accountUuid),
      (.ok after : Except Error Credential)⟩]) (.classified m after) := by
  have hwrite := (noWrite_concat tr ⟨.inr (.readBack account.accountUuid),
    (.ok after : Except Error Credential)⟩).mpr ⟨h.noWrite, rfl⟩
  have harmed' := guardArmed_kept (x := ⟨.inr (.readBack account.accountUuid),
    (.ok after : Except Error Credential)⟩) harmed rfl
  unfold CyclePhase.classified
  cases hc : classify m.snapshot.credential.blob m.seed after.blob with
  | mk outcome delta =>
    cases outcome with
    | refreshed rotated =>
      refine ⟨⟨?_, ?_, m.seed, h.seed, hc⟩, hwrite, harmed'⟩
      · rw [credentialReads_append, h.reads]
        rfl
      · rw [readBacks_append, h.unread]
        rfl
    | noChange => exact traced_ending harmed' (reported_unwritten rfl hwrite)
    | dead => exact traced_ending harmed' (reported_unwritten rfl hwrite)
    | error reason => exact traced_ending harmed' (reported_unwritten rfl hwrite)

theorem traced_snapshotted {r : Except Error StashedAccount}
    (hreads : ∀ snapshot, r = .ok snapshot → credentialReads tr = [snapshot.credential.blob])
    (hback : readBacks tr = []) (hwrite : NoWrite tr) (hsession : NoSession tr) :
    Traced account nowMs tr (.snapshotted nowMs r) := by
  cases r with
  | error e => exact ⟨reported_error e, .inl hsession⟩
  | ok snapshot =>
    unfold CyclePhase.snapshotted
    dsimp only
    cases hseed : backdate snapshot.credential.blob nowMs with
    | none => exact ⟨reported_unwritten rfl hwrite, .inl hsession⟩
    | some seed => exact ⟨⟨hreads snapshot rfl, hback, hseed, hwrite⟩, hsession⟩

theorem traced_step {φ : CyclePhase} (h : Traced account nowMs tr φ)
    (hnext : φ.next account = .inl x.1) :
    Traced account nowMs (tr ++ [x]) (φ.after account nowMs x.1 x.2) := by
  obtain ⟨o, r⟩ := x
  cases φ with
  | locking =>
    obtain rfl := Sum.inl.inj hnext
    obtain ⟨hreads, hback, hwrite, hsession⟩ := h
    have hbefore := before_concat (x := ⟨.inl .acquireSwapLock, r⟩) hback hwrite hsession rfl rfl rfl
    cases r with
    | error e => exact ⟨reported_error e, .inl hbefore.2.2⟩
    | ok =>
      refine ⟨?_, hbefore⟩
      rw [credentialReads_append, hreads]
      rfl
  | readingCredential =>
    obtain rfl := Sum.inl.inj hnext
    obtain ⟨hreads, hback, hwrite, hsession⟩ := h
    have hbefore := before_concat (x := ⟨.inl (.findCredential account.stash), r⟩) hback hwrite
      hsession rfl rfl rfl
    cases r with
    | error e => exact ⟨fun snapshot hr => (by cases hr), hbefore⟩
    | ok blob =>
      refine ⟨?_, hbefore⟩
      rw [credentialReads_append, hreads]
      rfl
  | readingOauth blob =>
    obtain rfl := Sum.inl.inj hnext
    obtain ⟨hreads, hback, hwrite, hsession⟩ := h
    have hbefore := before_concat (x := ⟨.inl (.findOauthAccount account.stash), r⟩) hback hwrite
      hsession rfl rfl rfl
    cases r with
    | error e => exact ⟨fun snapshot hr => (by cases hr), hbefore⟩
    | ok payload =>
      refine ⟨?_, hbefore⟩
      intro snapshot hr
      have hblob : snapshot.credential.blob = blob := by
        cases hd : AccountStash.decodeOauth account.stash payload with
        | error e =>
          rw [hd] at hr
          cases hr
        | ok oauth =>
          rw [hd] at hr
          cases hr
          rfl
      rw [credentialReads_append, hreads, hblob]
      rfl
  | unlocking r' =>
    obtain rfl := Sum.inl.inj hnext
    obtain ⟨hreads, hback, hwrite, hsession⟩ := h
    have hbefore := before_concat (x := ⟨.inl .releaseSwapLock, r⟩) hback hwrite hsession rfl rfl rfl
    apply traced_snapshotted _ hbefore.1 hbefore.2.1 hbefore.2.2
    intro snapshot hr
    rw [credentialReads_append, hreads snapshot hr]
    rfl
  | creating m =>
    obtain rfl := Sum.inl.inj hnext
    obtain ⟨hsnapshot, hsession⟩ := h
    have hsnapshot' := hsnapshot.concat (x := ⟨.inr (.createIsolatedDir account.accountUuid), r⟩)
      rfl rfl rfl
    cases r with
    | error e => exact ⟨reported_error e, .inl ((noSession_concat _ _).mpr ⟨hsession, rfl⟩)⟩
    | ok =>
      refine ⟨hsnapshot', ?_⟩
      rw [guardArmed_concat]
      rfl
  | seeding m =>
    obtain rfl := Sum.inl.inj hnext
    obtain ⟨hsnapshot, harmed⟩ := h
    have harmed' := guardArmed_kept (x := ⟨.inr (.seed account.accountUuid m.seed), r⟩) harmed rfl
    cases r with
    | error e => exact traced_ending harmed' (reported_error e)
    | ok => exact ⟨hsnapshot.concat rfl rfl rfl, harmed'⟩
  | writingClaudeJson m =>
    obtain rfl := Sum.inl.inj hnext
    obtain ⟨hsnapshot, harmed⟩ := h
    have harmed' := guardArmed_kept (x := ⟨.inr (.writeClaudeJson account.accountUuid), r⟩) harmed rfl
    cases r with
    | error e => exact traced_ending harmed' (reported_error e)
    | ok => exact ⟨hsnapshot.concat rfl rfl rfl, harmed'⟩
  | spawning m =>
    obtain rfl := Sum.inl.inj hnext
    obtain ⟨hsnapshot, harmed⟩ := h
    have harmed' := guardArmed_kept (x := ⟨.inr (.spawn account.accountUuid), r⟩) harmed rfl
    have hwrite := (noWrite_concat tr ⟨.inr (.spawn account.accountUuid), r⟩).mpr
      ⟨hsnapshot.noWrite, rfl⟩
    cases r with
    | error e => exact traced_ending harmed' (reported_unwritten rfl hwrite)
    | ok => exact ⟨hsnapshot.concat rfl rfl rfl, harmed'⟩
  | readingBack m =>
    obtain rfl := Sum.inl.inj hnext
    obtain ⟨hsnapshot, harmed⟩ := h
    cases r with
    | error e =>
      apply traced_ending (guardArmed_kept harmed rfl)
      apply reported_unwritten rfl
      exact (noWrite_concat _ _).mpr ⟨hsnapshot.noWrite, rfl⟩
    | ok after => exact traced_classified hsnapshot harmed
  | relocking m =>
    obtain rfl := Sum.inl.inj hnext
    obtain ⟨hearned, hwrite, harmed⟩ := h
    have harmed' := guardArmed_kept (x := ⟨.inl .acquireSwapLock, r⟩) harmed rfl
    cases r with
    | error e => exact traced_ending harmed' (reported_error e)
    | ok => exact ⟨hearned.concat rfl, (noWrite_concat _ _).mpr ⟨hwrite, rfl⟩, harmed'⟩
  | rereadingCredential m =>
    obtain rfl := Sum.inl.inj hnext
    obtain ⟨hearned, hwrite, harmed⟩ := h
    have harmed' := guardArmed_kept (x := ⟨.inl (.findCredential account.stash), r⟩) harmed rfl
    cases r with
    | error e => exact ⟨harmed', fun ht => (by cases ht), fun hf => (by cases hf)⟩
    | ok blob => exact ⟨hearned.concat rfl, (noWrite_concat _ _).mpr ⟨hwrite, rfl⟩, harmed'⟩
  | rereadingOauth m blob =>
    obtain rfl := Sum.inl.inj hnext
    obtain ⟨hearned, hwrite, harmed⟩ := h
    have harmed' := guardArmed_kept (x := ⟨.inl (.findOauthAccount account.stash), r⟩) harmed rfl
    have hwrite' := (noWrite_concat tr ⟨.inl (.findOauthAccount account.stash), r⟩).mpr ⟨hwrite, rfl⟩
    cases r with
    | error e => exact ⟨harmed', fun ht => (by cases ht), fun hf => (by cases hf)⟩
    | ok payload =>
      unfold CyclePhase.after
      dsimp only
      cases AccountStash.decodeOauth account.stash payload with
      | error e => exact ⟨harmed', fun ht => (by cases ht), fun hf => (by cases hf)⟩
      | ok oauth =>
        dsimp only
        by_cases hmatch : (Credential.mk blob).matches m.snapshot.credential = true
        · rw [if_pos hmatch]
          exact ⟨hearned.concat rfl, hwrite', harmed'⟩
        · rw [if_neg hmatch]
          exact ⟨harmed', fun ht => (by cases ht), fun _ => hwrite'⟩
  | restashingCredential m =>
    obtain rfl := Sum.inl.inj hnext
    obtain ⟨hearned, hwrite, harmed⟩ := h
    have harmed' := guardArmed_kept (x := ⟨.inl (.addCredential account.stash m.after.blob), r⟩)
      harmed rfl
    cases r with
    | error e => exact ⟨harmed', fun ht => (by cases ht), fun hf => (by cases hf)⟩
    | ok =>
      exact ⟨hearned.concat rfl, harmed', List.mem_append_right _ (List.mem_singleton_self _)⟩
  | restashingOauth m =>
    obtain rfl := Sum.inl.inj hnext
    obtain ⟨hearned, harmed, hwritten⟩ := h
    have harmed' := guardArmed_kept
      (x := ⟨.inl (.addOauthAccount account.stash m.snapshot.oauthAccount.raw), r⟩) harmed rfl
    cases r with
    | error e => exact ⟨harmed', fun ht => (by cases ht), fun hf => (by cases hf)⟩
    | ok =>
      refine ⟨harmed', fun _ => ?_, fun hf => (by cases hf)⟩
      exact ⟨m.after.blob, m.snapshot.oauthAccount.raw, List.mem_append_left _ hwritten,
        List.mem_append_right _ (List.mem_singleton_self _)⟩
  | reunlocking m r' =>
    obtain rfl := Sum.inl.inj hnext
    obtain ⟨harmed, hrestashed, hkept⟩ := h
    apply traced_ending (guardArmed_kept harmed rfl)
    exact (reported_restash hrestashed hkept).concat rfl
  | deleting left result =>
    obtain rfl := Sum.inl.inj hnext
    obtain ⟨harmed, hreported, errors, hfailed, hleft⟩ := h
    have harmed' := guardArmed_kept (x := ⟨.inr (.delete account.accountUuid), r⟩) harmed rfl
    cases r with
    | error e => exact ⟨harmed', hreported.concat rfl, tr, errors, e, rfl, hfailed, hleft⟩
    | ok =>
      obtain ⟨before, rfl⟩ := hfailed
      refine ⟨harmed', hreported.concat rfl, before, _, List.append_assoc _ _ _, ?_⟩
      rw [List.append_assoc]
      exact .deleted errors (by omega)
  | sleeping left result =>
    obtain rfl := Sum.inl.inj hnext
    obtain ⟨harmed, hreported, before, errors, e, rfl, hfailed, hleft⟩ := h
    have harmed' := guardArmed_kept (x := ⟨.inr .sleep, r⟩) harmed rfl
    have hfailed' : FailedDeletes account (before ++ [⟨.inr (.delete account.accountUuid),
        (.error e : Except Error Unit)⟩] ++ [⟨.inr .sleep, r⟩]) (errors ++ [e]) := by
      rw [List.append_assoc]
      exact hfailed.concat
    have hlength : (errors ++ [e]).length = errors.length + 1 := by simp
    cases left with
    | zero => exact ⟨harmed', hreported.concat rfl, _, hfailed', by omega⟩
    | succ left => exact ⟨harmed', hreported.concat rfl, _, hfailed', by omega⟩
  | deletingBlocking result =>
    obtain rfl := Sum.inl.inj hnext
    obtain ⟨harmed, hreported, errors, ⟨before, rfl⟩, hcount⟩ := h
    refine ⟨guardArmed_kept harmed rfl, hreported.concat rfl, before, _, List.append_assoc _ _ _, ?_⟩
    rw [List.append_assoc]
    exact .gaveUp errors hcount
  | removing result =>
    obtain rfl := Sum.inl.inj hnext
    obtain ⟨harmed, hreported, before, torn, rfl, htorn⟩ := h
    exact ⟨hreported.concat rfl, .inr ⟨before, _, List.append_assoc _ _ _, htorn⟩⟩
  | finished result => cases hnext

end Phases

/-! ## What the world of each phase is -/

/-- What others do between two operations of a cycle: they take the lock and write the stash only while
the cycle does not hold it, and they leave its session alone. -/
structure Others (pid : ℕ) (account : Account) (w w' : RefreshWorld) : Prop where
  keeps : w.world.swapLock = some pid → w'.world.swapLock = some pid ∧
    w'.world.stores.credentialItem account.stash = w.world.stores.credentialItem account.stash ∧
    w'.world.stores.oauthItem account.stash = w.world.stores.oauthItem account.stash
  takes : w.world.swapLock ≠ some pid → w'.world.swapLock ≠ some pid
  isolated : w'.isolated account.accountUuid = w.isolated account.accountUuid

theorem Others.refl (pid : ℕ) (account : Account) (w : RefreshWorld) : Others pid account w w :=
  ⟨fun h => ⟨h, rfl, rfl⟩, fun h => h, rfl⟩

/-- The surroundings of a cycle among others. -/
def amongOthers (client : Client) (pid : ℕ) (account : Account) : Device CycleSeams RefreshWorld :=
  (refreshing client pid).under (Others pid account)

section Worlds

variable {pid : ℕ} {account : Account} {nowMs : Int} {w w' : RefreshWorld} {client : Client}

/-- The stash, under the lock of the compare-and-set. -/
def Guarded (pid : ℕ) (account : Account) (w : RefreshWorld) (stashed : List UInt8) : Prop :=
  w.world.swapLock = some pid ∧ w.world.stores.credentialItem account.stash = some stashed

def CycleSettled (pid : ℕ) (account : Account) (w : RefreshWorld) : CyclePhase → Prop
  | .rereadingCredential _ => w.world.swapLock = some pid
  | .rereadingOauth _ blob => Guarded pid account w blob
  | .restashingCredential m => Guarded pid account w m.snapshot.credential.blob
  | .restashingOauth m => Guarded pid account w m.after.blob
  | _ => True

theorem Guarded.others {stashed : List UInt8} (h : Guarded pid account w stashed)
    (ho : Others pid account w w') : Guarded pid account w' stashed := by
  obtain ⟨hlock, hcredential, -⟩ := ho.keeps h.1
  exact ⟨hlock, hcredential.trans h.2⟩

theorem settled_others {φ : CyclePhase} (h : CycleSettled pid account w φ) (ho : Others pid account w w') :
    CycleSettled pid account w' φ := by
  cases φ with
  | rereadingCredential m => exact (ho.keeps h).1
  | rereadingOauth m blob => exact Guarded.others h ho
  | restashingCredential m => exact Guarded.others h ho
  | restashingOauth m => exact Guarded.others h ho
  | _ => trivial

theorem settled_ending (result : Except Error RefreshReport) :
    CycleSettled pid account w (.ending result) := trivial

variable [SerdeJson]

theorem settled_classified (m : Minting) (after : Credential) :
    CycleSettled pid account w (.classified m after) := by
  unfold CyclePhase.classified
  cases classify m.snapshot.credential.blob m.seed after.blob with
  | mk outcome delta => cases outcome <;> trivial

variable [SerdeToVec]

theorem settled_snapshotted (r : Except Error StashedAccount) :
    CycleSettled pid account w (.snapshotted nowMs r) := by
  cases r with
  | error e => trivial
  | ok snapshot =>
    unfold CyclePhase.snapshotted
    dsimp only
    cases backdate snapshot.credential.blob nowMs <;> trivial

theorem settled_step {φ : CyclePhase} {x : Occurrence CycleSeams} (h : CycleSettled pid account w φ)
    (hnext : φ.next account = .inl x.1) (hd : refreshing client pid x.1 w x.2 w') :
    CycleSettled pid account w' (φ.after account nowMs x.1 x.2) := by
  obtain ⟨o, r⟩ := x
  cases φ with
  | relocking m =>
    obtain rfl := Sum.inl.inj hnext
    cases r with
    | error e => trivial
    | ok =>
      have hlock := hd.1.2
      change w'.world.swapLock = some pid
      rw [hlock]
  | rereadingCredential m =>
    obtain rfl := Sum.inl.inj hnext
    cases r with
    | error e => trivial
    | ok blob =>
      obtain ⟨hworld, hread⟩ := hd.1
      change Guarded pid account w' blob
      unfold Guarded
      rw [hworld]
      exact ⟨h, hread⟩
  | rereadingOauth m blob =>
    obtain rfl := Sum.inl.inj hnext
    cases r with
    | error e => trivial
    | ok payload =>
      have hworld := hd.1.1
      unfold CyclePhase.after
      dsimp only
      cases AccountStash.decodeOauth account.stash payload with
      | error e => trivial
      | ok oauth =>
        dsimp only
        by_cases hmatch : (Credential.mk blob).matches m.snapshot.credential = true
        · rw [if_pos hmatch]
          have hblob : blob = m.snapshot.credential.blob :=
            congrArg Credential.blob (Credential.matches_iff.mp hmatch)
          change Guarded pid account w' m.snapshot.credential.blob
          unfold Guarded
          rw [hworld, ← hblob]
          exact h
        · rw [if_neg hmatch]
          trivial
  | restashingCredential m =>
    obtain rfl := Sum.inl.inj hnext
    cases r with
    | error e => trivial
    | ok =>
      have hworld := hd.1
      change Guarded pid account w' m.after.blob
      unfold Guarded
      rw [show w'.world = _ from hworld]
      exact ⟨h.1, by simp [Stores.setCredential]⟩
  | locking | readingCredential | creating | seeding | writingClaudeJson | spawning
  | restashingOauth | deleting =>
    obtain rfl := Sum.inl.inj hnext
    cases r <;> trivial
  | readingOauth blob =>
    obtain rfl := Sum.inl.inj hnext
    cases r <;> trivial
  | unlocking r' =>
    obtain rfl := Sum.inl.inj hnext
    exact settled_snapshotted r'
  | readingBack m =>
    obtain rfl := Sum.inl.inj hnext
    cases r with
    | error e => trivial
    | ok after => exact settled_classified m after
  | sleeping left result =>
    obtain rfl := Sum.inl.inj hnext
    cases left <;> trivial
  | reunlocking | deletingBlocking | removing =>
    obtain rfl := Sum.inl.inj hnext
    trivial
  | finished result => cases hnext

end Worlds

/-! ### The isolated item -/

/-- Whether the item is deleted, as far as the trace tells. -/
def deletedAfter (deleted : Bool) : Occurrence CycleSeams → Bool
  | ⟨.inr (.delete _), r⟩ =>
    match (r : Except Error Unit) with
    | .ok () => true
    | .error _ => deleted
  | ⟨.inr (.seed _ _), _⟩ => false
  | ⟨.inr (.spawn _), _⟩ => false
  | _ => deleted

def itemDeleted (tr : List (Occurrence CycleSeams)) : Bool := tr.foldl deletedAfter false

theorem itemDeleted_append (tr tr' : List (Occurrence CycleSeams)) :
    itemDeleted (tr ++ tr') = tr'.foldl deletedAfter (itemDeleted tr) :=
  List.foldl_append

theorem item_step {pid : ℕ} {client : Client} {account : Account} {φ : CyclePhase}
    {tr : List (Occurrence CycleSeams)} {x : Occurrence CycleSeams} {w w' : RefreshWorld}
    (h : itemDeleted tr = true → (w.isolated account.accountUuid).item = none)
    (hnext : φ.next account = .inl x.1) (hd : refreshing client pid x.1 w x.2 w') :
    itemDeleted (tr ++ [x]) = true → (w'.isolated account.accountUuid).item = none := by
  intro hdeleted
  rw [itemDeleted_append] at hdeleted
  obtain ⟨o, r⟩ := x
  cases φ with
  | locking | readingCredential | readingOauth | unlocking | relocking | rereadingCredential
  | rereadingOauth | restashingCredential | restashingOauth | reunlocking =>
    obtain rfl := Sum.inl.inj hnext
    rw [hd.2.1]
    exact h hdeleted
  | creating m =>
    obtain rfl := Sum.inl.inj hnext
    cases r with
    | ok =>
      rw [show w' = _ from hd, RefreshWorld.setDir_item]
      exact h hdeleted
    | error e =>
      obtain ⟨dir, claudeJson, rfl⟩ := hd
      rw [RefreshWorld.setDir_item]
      exact h hdeleted
  | seeding m | spawning m =>
    obtain rfl := Sum.inl.inj hnext
    cases hdeleted
  | writingClaudeJson m =>
    obtain rfl := Sum.inl.inj hnext
    rcases hd with rfl | rfl
    · exact h hdeleted
    · rw [RefreshWorld.setDir_item]
      exact h hdeleted
  | readingBack m =>
    obtain rfl := Sum.inl.inj hnext
    rw [hd.1]
    exact h hdeleted
  | deleting left result =>
    obtain rfl := Sum.inl.inj hnext
    cases r with
    | ok => rw [show w' = _ from hd, RefreshWorld.setItem_item]
    | error e =>
      rcases hd with rfl | rfl
      · exact h hdeleted
      · exact RefreshWorld.setItem_item _ _ _
  | sleeping left result =>
    obtain rfl := Sum.inl.inj hnext
    rw [show w' = _ from hd]
    exact h hdeleted
  | deletingBlocking result =>
    obtain rfl := Sum.inl.inj hnext
    rcases hd with rfl | rfl
    · exact h hdeleted
    · exact RefreshWorld.setItem_item _ _ _
  | removing result =>
    obtain rfl := Sum.inl.inj hnext
    obtain ⟨dir, claudeJson, rfl⟩ := hd
    rw [RefreshWorld.setDir_item]
    exact h hdeleted
  | finished result => cases hnext

/-- A teardown in which a deletion succeeds leaves the item deleted. -/
theorem TornDown.itemDeleted {session : String} {before torn : List (Occurrence CycleSeams)}
    (h : TornDown session torn)
    (hd : ⟨.inr (.delete session), (.ok () : Except Error Unit)⟩ ∈ torn) :
    itemDeleted (before ++ torn) = true := by
  cases h with
  | deleted errors hless =>
    rw [← List.append_assoc, itemDeleted_append]
    rfl
  | gaveUp errors hcount =>
    exfalso
    rcases List.mem_append.mp hd with hfailed | hlast
    · obtain ⟨e, -, hmem⟩ := List.mem_flatMap.mp hfailed
      simp only [failedDelete, List.mem_cons, List.not_mem_nil, or_false] at hmem
      rcases hmem with h | h
      · cases h
      · cases h
    · simp only [List.mem_cons, List.not_mem_nil, or_false] at hlast
      rcases hlast with h | h
      · cases h
      · cases h

/-! ### Dropped cycles, and restored accounts -/

theorem steps_cleanup {D : Device CycleSeams RefreshWorld} {account : Account} {w w' : RefreshWorld}
    {tr' : List (Occurrence CycleSeams)}
    (hs : Steps D (do
      IsolatedSession.deleteBlocking account.accountUuid
      IsolatedSession.removeDirAll account.accountUuid) w tr' (.pure ()) w') :
    tr' = [⟨.inr (.deleteBlocking account.accountUuid), ()⟩,
      ⟨.inr (.removeDirAll account.accountUuid), ()⟩] := by
  rcases steps_perform_iff.mp hs with ⟨-, h, -⟩ | ⟨r, w₁, tr₁, rfl, -, hs⟩
  · cases h
  rcases steps_perform_iff.mp hs with ⟨-, h, -⟩ | ⟨r', w₂, tr₂, rfl, -, hs⟩
  · cases h
  obtain ⟨rfl, -, -⟩ := steps_pure_iff.mp hs
  rfl

/-- Dropped with its guard armed, a cycle still deletes its item and removes its directory. -/
theorem dropCycle_cleans {D : Device CycleSeams RefreshWorld} {account : Account} {w w' : RefreshWorld}
    {tr tr' : List (Occurrence CycleSeams)}
    (harmed : guardArmed tr = true) (hs : Steps D (dropCycle account tr) w tr' (.pure ()) w') :
    ⟨.inr (.deleteBlocking account.accountUuid), ()⟩ ∈ tr' ∧
      ⟨.inr (.removeDirAll account.accountUuid), ()⟩ ∈ tr' := by
  unfold dropCycle at hs
  rw [if_pos harmed] at hs
  by_cases hlock : lockGuarded tr = true
  · rw [if_pos hlock] at hs
    rcases steps_perform_iff.mp hs with ⟨-, h, -⟩ | ⟨r, w₁, tr₁, rfl, -, hs⟩
    · cases h
    rw [steps_cleanup hs]
    simp
  · rw [if_neg hlock] at hs
    rw [steps_cleanup hs]
    simp

theorem RefreshTick.visit_restored {t : RefreshTick} {excluded quarantined : List String} {now : Int}
    {i : ℕ} {account : Account} {a : Answers} {uuid : String}
    (h : uuid ∈ (t.visit excluded quarantined now i account a).restored account) :
    uuid = account.accountUuid ∧ uuid ∈ quarantined ∧
      ∃ report, a.cycle = .completed report ∧ report.reStashed = true := by
  have hrestored : ∀ {restored : Bool} {outcome events observation update},
      uuid ∈ (Visit.cycled outcome restored events observation update).restored account →
        uuid = account.accountUuid ∧ restored = true := by
    intro restored outcome events observation update hmem
    cases restored with
    | false => cases hmem
    | true => exact ⟨List.mem_singleton.mp hmem, rfl⟩
  have hcycle : (quarantined.any (· == account.accountUuid) && a.cycle.restores) = true →
      account.accountUuid ∈ quarantined ∧
        ∃ report, a.cycle = .completed report ∧ report.reStashed = true := by
    intro hboth
    rw [Bool.and_eq_true] at hboth
    obtain ⟨hany, hrestores⟩ := hboth
    refine ⟨by simpa using hany, ?_⟩
    cases hc : a.cycle with
    | completed report =>
      rw [hc] at hrestores
      refine ⟨report, rfl, ?_⟩
      unfold Cycle.restores at hrestores
      dsimp only at hrestores
      split at hrestores
      · exact hrestores
      · cases hrestores
    | failed error =>
      rw [hc] at hrestores
      cases hrestores
    | timedOut =>
      rw [hc] at hrestores
      cases hrestores
  unfold RefreshTick.visit at h
  dsimp only at h
  split at h
  · cases h
  · split at h
    · cases h
    · split at h
      · cases h
      · split at h
        · obtain ⟨rfl, ht⟩ := hrestored h
          exact ⟨rfl, hcycle ht⟩
        · obtain ⟨rfl, ht⟩ := hrestored h
          exact ⟨rfl, hcycle ht⟩

/-! ## The whole cycle -/

section Cycle

variable [SerdeJson] [SerdeToVec] {client : Client} {pid : ℕ} {account : Account} {nowMs : Int}
  {w w' : RefreshWorld} {tr : List (Occurrence CycleSeams)}
  {q : CycleSeam (Except Error RefreshReport)}

/-- What holds of a cycle in each of its phases. -/
structure InPhase (pid : ℕ) (account : Account) (nowMs : Int) (tr : List (Occurrence CycleSeams))
    (s : CyclePhase × RefreshWorld) : Prop where
  traced : Traced account nowMs tr s.1
  settled : CycleSettled pid account s.2 s.1
  item : itemDeleted tr = true → (s.2.isolated account.accountUuid).item = none

theorem inPhase_run {φ : CyclePhase}
    (hrun : Runs (AutomatonStep (cycleAutomaton account nowMs) (amongOthers client pid account))
      (.locking, w) tr (φ, w')) : InPhase pid account nowMs tr (φ, w') := by
  apply hrun.invariant (I := InPhase pid account nowMs)
  · refine ⟨⟨rfl, rfl, ?_, ?_⟩, trivial, fun h => (by cases h)⟩
    · intro x hx
      cases hx
    · intro x hx
      cases hx
  · rintro tr ⟨φ, w⟩ x ⟨φ', w'⟩ h ⟨hnext, ⟨w₁, ho, hd⟩, hafter⟩
    obtain rfl : φ' = _ := hafter
    have hitem : itemDeleted tr = true → (w₁.isolated account.accountUuid).item = none := by
      rw [ho.isolated]
      exact h.item
    exact ⟨traced_step h.traced hnext, settled_step (settled_others h.settled ho) hnext hd,
      item_step hitem hnext hd⟩

/-- Every run of a cycle is in one of its phases. -/
theorem steps_inPhase
    (hs : Steps (amongOthers client pid account) (refreshCycle account nowMs).run w tr q w') :
    ∃ φ, InPhase pid account nowMs tr (φ, w') ∧ Embodies (cycleAutomaton account nowMs) q φ := by
  obtain ⟨φ, hrun, hq⟩ := (embodies_refreshCycle account nowMs).runs hs
  exact ⟨φ, inPhase_run hrun, hq⟩

/-- When an operation may write: under the lock, with a refresh of the snapshot in hand, and for as long
as the stash holds the credential of the snapshot, or already that of the refresh. -/
def MayRestash (pid : ℕ) (account : Account) (nowMs : Int) (tr : List (Occurrence CycleSeams))
    (w : RefreshWorld) (o : Op) : Prop :=
  ∃ snapshot seed after rotated delta, (credentialReads tr).head? = some snapshot ∧
    backdate snapshot nowMs = some seed ∧ readBacks tr = [after] ∧
    classify snapshot seed after.blob = (.refreshed rotated, delta) ∧
    (o = .addCredential account.stash after.blob ∧ Guarded pid account w snapshot ∨
      ∃ raw, o = .addOauthAccount account.stash raw ∧ Guarded pid account w after.blob ∧
        ⟨.inl (.addCredential account.stash after.blob), (.ok () : Except Error Unit)⟩ ∈ tr)

theorem mayRestash_of_write {o : Op} {k : o.Reply → CycleSeam (Except Error RefreshReport)}
    {w'' : RefreshWorld}
    (hs : Steps (amongOthers client pid account) (refreshCycle account nowMs).run w tr
      (.perform (S := CycleSeams) (.inl o) k) w')
    (hwrite : o.isWrite = true) (ho : Others pid account w' w'') :
    MayRestash pid account nowMs tr w'' o := by
  obtain ⟨φ, hφ, hq⟩ := steps_inPhase hs
  have hnext : φ.next account = .inl (.inl o) := hq.performs
  have hsettled := settled_others hφ.settled ho
  have htraced := hφ.traced
  cases φ with
  | restashingCredential m =>
    obtain rfl := Sum.inl.inj (Sum.inl.inj hnext)
    obtain ⟨hearned, -, -⟩ := htraced
    obtain ⟨seed, hseed, hclass⟩ := hearned.refreshed
    exact ⟨m.snapshot.credential.blob, seed, m.after, m.rotated, m.delta, hearned.snapshot, hseed,
      hearned.readBack, hclass, .inl ⟨rfl, hsettled⟩⟩
  | restashingOauth m =>
    obtain rfl := Sum.inl.inj (Sum.inl.inj hnext)
    obtain ⟨hearned, -, hwritten⟩ := htraced
    obtain ⟨seed, hseed, hclass⟩ := hearned.refreshed
    exact ⟨m.snapshot.credential.blob, seed, m.after, m.rotated, m.delta, hearned.snapshot, hseed,
      hearned.readBack, hclass, .inr ⟨m.snapshot.oauthAccount.raw, rfl, hsettled, hwritten⟩⟩
  | locking | readingCredential | readingOauth | unlocking | relocking | rereadingCredential
  | rereadingOauth | reunlocking =>
    obtain rfl := Sum.inl.inj (Sum.inl.inj hnext)
    cases hwrite
  | creating | seeding | writingClaudeJson | spawning | readingBack | deleting | sleeping
  | deletingBlocking | removing => cases Sum.inl.inj hnext
  | finished result => cases hnext

theorem reported_of_run {r : Except Error RefreshReport}
    (hs : Steps (amongOthers client pid account) (refreshCycle account nowMs).run w tr (.pure r) w') :
    InPhase pid account nowMs tr (.finished r, w') := by
  obtain ⟨φ, hφ, hq⟩ := steps_inPhase hs
  have hnext : φ.next account = .inr r := hq.returned
  cases φ with
  | finished result =>
    obtain rfl := Sum.inr.inj hnext
    exact hφ
  | _ => cases hnext

/-- An unfinished cycle that has used its session has its guard armed. -/
theorem guardArmed_of_run
    (hs : Steps (amongOthers client pid account) (refreshCycle account nowMs).run w tr q w')
    (hunfinished : ∀ r, q ≠ .pure r) (hused : ¬ NoSession tr) : guardArmed tr = true := by
  obtain ⟨φ, hφ, hq⟩ := steps_inPhase hs
  have htraced := hφ.traced
  cases φ with
  | locking | readingCredential | readingOauth | unlocking => exact absurd htraced.2.2.2 hused
  | creating m => exact absurd htraced.2 hused
  | seeding | writingClaudeJson | spawning | readingBack => exact htraced.2
  | relocking | rereadingCredential | rereadingOauth | restashingCredential => exact htraced.2.2
  | restashingOauth m => exact htraced.2.1
  | reunlocking | deleting | sleeping | deletingBlocking | removing => exact htraced.1
  | finished result =>
    cases q with
    | pure r => exact absurd rfl (hunfinished r)
    | perform o k => cases hq.performs

/-! ## The sweep -/

/-- A cycle that was run to its report, among others. -/
def CycleRan (client : Client) (pid : ℕ) (account : Account) (report : RefreshReport)
    (tr : List (Occurrence CycleSeams)) : Prop :=
  ∃ nowMs w w', Steps (amongOthers client pid account) (refreshCycle account nowMs).run w tr
    (.pure (.ok report)) w'

/-- What a sweep restores was quarantined, and its cycle has written the stash. -/
theorem restored_restashed {t : RefreshTick} {input : SweepInput}
    {traces : ℕ → List (Occurrence CycleSeams)}
    (hran : ∀ i account report, t.roster[i]? = some account →
      (input.answers i).cycle = .completed report → CycleRan client pid account report (traces i))
    {uuid : String} (h : uuid ∈ (t.runSweep input).restored) :
    ∃ i account, t.roster[i]? = some account ∧ account.accountUuid = uuid ∧
      uuid ∈ input.quarantined ∧ Restashed account (traces i) := by
  rw [RefreshTick.runSweep_eq] at h
  obtain ⟨⟨account, i⟩, hmember, hrestored⟩ := List.mem_flatMap.mp h
  have hat : t.roster[i]? = some account := by
    rw [List.mem_zipIdx_iff_getElem?] at hmember
    exact hmember
  rw [visitAt_of_mem hat] at hrestored
  obtain ⟨rfl, hquarantined, report, hcycle, hreStashed⟩ := RefreshTick.visit_restored hrestored
  obtain ⟨nowMs, w, w', hs⟩ := hran i account report hat hcycle
  have hreported := (reported_of_run hs).traced.1
  exact ⟨i, account, hat, rfl, hquarantined, ((hreported report rfl).1 hreStashed).2⟩

/-- A refresh cycle of a parked account among others. It writes the stash only under the lock, with a
refresh of its snapshot in hand, while the stash still holds the credential of the snapshot; a report
that says it stored nothing has written nothing; what its session keeps is torn down on every exit,
also of a cycle that is dropped; and a sweep restores the quarantined accounts whose stash its cycles
have written. -/
theorem refresh_cycle_cas (client : Client) (pid : ℕ) (account : Account) (nowMs : Int)
    (w : RefreshWorld) :
    (∀ tr o k w' w'', Steps (amongOthers client pid account) (refreshCycle account nowMs).run w tr
        (.perform (S := CycleSeams) (.inl o) k) w' → o.isWrite = true → Others pid account w' w'' →
      MayRestash pid account nowMs tr w'' o) ∧
    (∀ tr r w', Steps (amongOthers client pid account) (refreshCycle account nowMs).run w tr
        (.pure r) w' →
      Reported account tr r ∧
      (NoSession tr ∨ ∃ before torn, tr = before ++ torn ∧ TornDown account.accountUuid torn ∧
        (⟨.inr (.delete account.accountUuid), (.ok () : Except Error Unit)⟩ ∈ torn →
          (w'.isolated account.accountUuid).item = none))) ∧
    (∀ tr q w', Steps (amongOthers client pid account) (refreshCycle account nowMs).run w tr q w' →
      (∀ r, q ≠ .pure r) → ¬ NoSession tr →
      ∀ tr' w'', Steps (amongOthers client pid account) (dropCycle account tr) w' tr' (.pure ()) w'' →
        ⟨.inr (.deleteBlocking account.accountUuid), ()⟩ ∈ tr' ∧
          ⟨.inr (.removeDirAll account.accountUuid), ()⟩ ∈ tr') ∧
    (∀ (t : RefreshTick) (input : SweepInput) (traces : ℕ → List (Occurrence CycleSeams)),
      (∀ i account report, t.roster[i]? = some account →
        (input.answers i).cycle = .completed report → CycleRan client pid account report (traces i)) →
      ∀ uuid ∈ (t.runSweep input).restored, ∃ i account, t.roster[i]? = some account ∧
        account.accountUuid = uuid ∧ uuid ∈ input.quarantined ∧ Restashed account (traces i)) := by
  refine ⟨?_, ?_, ?_, ?_⟩
  · intro tr o k w' w'' hs hwrite ho
    exact mayRestash_of_write hs hwrite ho
  · intro tr r w' hs
    have hφ := reported_of_run hs
    obtain ⟨hreported, hsession⟩ := hφ.traced
    refine ⟨hreported, hsession.imp_right ?_⟩
    rintro ⟨before, torn, rfl, htorn⟩
    exact ⟨before, torn, rfl, htorn, fun hdeleted => hφ.item (htorn.itemDeleted hdeleted)⟩
  · intro tr q w' hs hunfinished hused tr' w'' hdrop
    exact dropCycle_cleans (guardArmed_of_run hs hunfinished hused) hdrop
  · intro t input traces hran uuid h
    exact restored_restashed hran h

end Cycle

section Sample

local instance restashJson : SerdeJson := sampleText

local instance restashToVec : SerdeToVec := sampleToVec

theorem calmCycle_among (deletes : Bool) (pid : ℕ) (account : Account) :
    (calmCycle deletes pid).Refines
      (amongOthers (fun session w _ w' => w' = exchanging session w) pid account) :=
  fun o w => ⟨w, Others.refl pid account w, calmCycle_refines deletes pid o w⟩

theorem refresh_cycle_cas_parked : ∃ tr w',
    Steps (amongOthers (fun session w _ w' => w' = exchanging session w) 0 (sampleAccount "A"))
      (refreshCycle (sampleAccount "A") 0).run parkedWorld tr
      (.pure (.ok ⟨.refreshed true, some 0, true⟩)) w' ∧
    Restashed (sampleAccount "A") tr := by
  obtain ⟨tr, hs⟩ := exec_of_run (calmCycle_among true 0 (sampleAccount "A"))
    (refreshCycle (sampleAccount "A") 0).run parkedWorld
  have hreport : (run (calmCycle true 0) (refreshCycle (sampleAccount "A") 0).run parkedWorld).1 =
      .ok ⟨.refreshed true, some 0, true⟩ := by decide +kernel
  rw [hreport] at hs
  have hcas := (refresh_cycle_cas (fun session w _ w' => w' = exchanging session w) 0
    (sampleAccount "A") 0 parkedWorld).2.1 tr _ _ hs
  exact ⟨tr, _, hs, ((hcas.1 _ rfl).1 rfl).2⟩

/-- The identity half that another process has written anew. -/
def identityRewritten (w : RefreshWorld) : RefreshWorld :=
  { w with world := w.world.setStores (w.world.stores.setOauthAccount (sampleAccount "A").stash
      (.object [("accountUuid", .string "A"), ("organizationName", .string "moved")])) }

/-- Whether an identity half names an organization. -/
def organizationNamed : Option OauthPayload → Bool
  | some (.document raw) => (raw.get "organizationName").isSome
  | _ => false

/-- An identity half that changes alone while the client runs is written over with that of the snapshot,
and an item that no deletion removes outlives the cycle. -/
theorem identity_reverted : ∃ tr q w₁ tr' report w₃,
    Steps (refreshing (fun session w _ w' => w' = exchanging session w) 0)
      (refreshCycle (sampleAccount "A") 0).run parkedWorld tr q w₁ ∧
    credentialReads tr = [[1, 0]] ∧ Others 0 (sampleAccount "A") w₁ (identityRewritten w₁) ∧
    Steps (refreshing (fun session w _ w' => w' = exchanging session w) 0) q (identityRewritten w₁) tr'
      (.pure (.ok report)) w₃ ∧
    w₃.world.stores.oauthItem (sampleAccount "A").stash ≠
      (identityRewritten w₁).world.stores.oauthItem (sampleAccount "A").stash ∧
    (w₃.isolated "A").item ≠ none := by
  have hs := steps_runFor (calmCycle_refines false 0) 8 (refreshCycle (sampleAccount "A") 0).run
    parkedWorld
  have hs' := exec_of_run (calmCycle_refines false 0)
    (runFor (calmCycle false 0) 8 (refreshCycle (sampleAccount "A") 0).run parkedWorld).1
    (identityRewritten (runFor (calmCycle false 0) 8 (refreshCycle (sampleAccount "A") 0).run parkedWorld).2)
  have hreport : (run (calmCycle false 0)
      (runFor (calmCycle false 0) 8 (refreshCycle (sampleAccount "A") 0).run parkedWorld).1
      (identityRewritten (runFor (calmCycle false 0) 8 (refreshCycle (sampleAccount "A") 0).run
        parkedWorld).2)).1 = .ok ⟨.refreshed true, some 0, true⟩ := by decide +kernel
  rw [hreport] at hs'
  obtain ⟨tr', hs'⟩ := hs'
  refine ⟨_, _, _, tr', _, _, hs, by decide +kernel, ?_, hs', ?_, ?_⟩
  · refine ⟨fun hlock => ?_, fun hlock => hlock, rfl⟩
    exact absurd hlock (by decide +kernel)
  · intro h
    have hnamed := congrArg organizationNamed h
    revert hnamed
    decide +kernel
  · decide +kernel

end Sample

end Sessiometer
