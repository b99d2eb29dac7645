import Sessiometer.Effects.Automaton
import Sessiometer.Refresh.Cycle

/-! # The phases of a refresh cycle

The cycle as an automaton: each phase performs one operation and holds what the rest of the cycle
needs. -/

namespace Sessiometer

open Effects

/-- What the isolated session works on: the stash as it was read, and the back-dated copy. -/
structure Minting where
  snapshot : StashedAccount
  seed : List UInt8

/-- A credential that the client has refreshed. -/
structure Minted where
  snapshot : StashedAccount
  rotated : Bool
  delta : Option Int
  after : Credential

inductive CyclePhase where
  | locking
  | readingCredential
  | readingOauth (blob : List UInt8)
  | unlocking (r : Except Error StashedAccount)
  | creating (m : Minting)
  | seeding (m : Minting)
  | writingClaudeJson (m : Minting)
  | spawning (m : Minting)
  | readingBack (m : Minting)
  | relocking (m : Minted)
  | rereadingCredential (m : Minted)
  | rereadingOauth (m : Minted) (blob : List UInt8)
  | restashingCredential (m : Minted)
  | restashingOauth (m : Minted)
  | reunlocking (m : Minted) (r : Except Error Bool)
  | deleting (left : ℕ) (result : Except Error RefreshReport)
  | sleeping (left : ℕ) (result : Except Error RefreshReport)
  | deletingBlocking (result : Except Error RefreshReport)
  | removing (result : Except Error RefreshReport)
  | finished (result : Except Error RefreshReport)

namespace CyclePhase

variable (account : Account)

/-- The operation of a phase, or the result of the cycle. -/
def next : CyclePhase → CycleSeams.Op ⊕ Except Error RefreshReport
  | .locking => .inl (.inl .acquireSwapLock)
  | .readingCredential => .inl (.inl (.findCredential account.stash))
  | .readingOauth _ => .inl (.inl (.findOauthAccount account.stash))
  | .unlocking _ => .inl (.inl .releaseSwapLock)
  | .creating _ => .inl (.inr (.createIsolatedDir account.accountUuid))
  | .seeding m => .inl (.inr (.seed account.accountUuid m.seed))
  | .writingClaudeJson _ => .inl (.inr (.writeClaudeJson account.accountUuid))
  | .spawning _ => .inl (.inr (.spawn account.accountUuid))
  | .readingBack _ => .inl (.inr (.readBack account.accountUuid))
  | .relocking _ => .inl (.inl .acquireSwapLock)
  | .rereadingCredential _ => .inl (.inl (.findCredential account.stash))
  | .rereadingOauth _ _ => .inl (.inl (.findOauthAccount account.stash))
  | .restashingCredential m => .inl (.inl (.addCredential account.stash m.after.blob))
  | .restashingOauth m => .inl (.inl (.addOauthAccount account.stash m.snapshot.oauthAccount.raw))
  | .reunlocking _ _ => .inl (.inl .releaseSwapLock)
  | .deleting _ _ => .inl (.inr (.delete account.accountUuid))
  | .sleeping _ _ => .inl (.inr .sleep)
  | .deletingBlocking _ => .inl (.inr (.deleteBlocking account.accountUuid))
  | .removing _ => .inl (.inr (.removeDirAll account.accountUuid))
  | .finished result => .inr result

/-- The teardown, with so many attempts left. -/
def tearingDown (result : Except Error RefreshReport) : ℕ → CyclePhase
  | 0 => .deletingBlocking result
  | left + 1 => .deleting left result

/-- The teardown of a cycle that ends with the result. -/
def ending (result : Except Error RefreshReport) : CyclePhase :=
  tearingDown result IsolatedSession.teardownDeleteRetries

variable [SerdeJson]

/-- What the read-back leads to. -/
def classified (m : Minting) (after : Credential) : CyclePhase :=
  match classify m.snapshot.credential.blob m.seed after.blob with
  | (.refreshed rotated, delta) => .relocking ⟨m.snapshot, rotated, delta, after⟩
  | (outcome, delta) => .ending (.ok ⟨outcome, delta, false⟩)

variable [SerdeToVec] (nowMs : Int)

/-- What the snapshot leads to. -/
def snapshotted : Except Error StashedAccount → CyclePhase
  | .error e => .finished (.error e)
  | .ok snapshot =>
    match backdate snapshot.credential.blob nowMs with
    | none => .finished (.ok .indeterminate)
    | some seed => .creating ⟨snapshot, seed⟩

/-- Where the reply to its operation takes a phase. -/
def after : CyclePhase → (o : CycleSeams.Op) → CycleSeams.Reply o → CyclePhase
  | .locking, .inl .acquireSwapLock, r =>
    match (r : Except Error Unit) with
    | .ok () => .readingCredential
    | .error e => .finished (.error e)
  | .readingCredential, .inl (.findCredential _), r =>
    match (r : Except Error (List UInt8)) with
    | .ok blob => .readingOauth blob
    | .error e => .unlocking (.error e)
  | .readingOauth blob, .inl (.findOauthAccount _), r =>
    match (r : Except Error OauthPayload) with
    | .ok payload =>
      .unlocking (match AccountStash.decodeOauth account.stash payload with
        | .ok oauth => .ok ⟨⟨blob⟩, oauth⟩
        | .error e => .error e)
    | .error e => .unlocking (.error e)
  | .unlocking r, .inl .releaseSwapLock, _ => snapshotted nowMs r
  | .creating m, .inr (.createIsolatedDir _), r =>
    match (r : Except Error Unit) with
    | .ok () => .seeding m
    | .error e => .finished (.error e)
  | .seeding m, .inr (.seed _ _), r =>
    match (r : Except Error Unit) with
    | .ok () => .writingClaudeJson m
    | .error e => .ending (.error e)
  | .writingClaudeJson m, .inr (.writeClaudeJson _), r =>
    match (r : Except Error Unit) with
    | .ok () => .spawning m
    | .error e => .ending (.error e)
  | .spawning m, .inr (.spawn _), r =>
    match (r : Except Error Unit) with
    | .ok () => .readingBack m
    | .error _ => .ending (.ok ⟨.error .spawnFailed, none, false⟩)
  | .readingBack m, .inr (.readBack _), r =>
    match (r : Except Error Credential) with
    | .ok after => classified m after
    | .error _ => .ending (.ok ⟨.error .readbackUnreadable, none, false⟩)
  | .relocking m, .inl .acquireSwapLock, r =>
    match (r : Except Error Unit) with
    | .ok () => .rereadingCredential m
    | .error e => .ending (.error e)
  | .rereadingCredential m, .inl (.findCredential _), r =>
    match (r : Except Error (List UInt8)) with
    | .ok blob => .rereadingOauth m blob
    | .error e => .reunlocking m (.error e)
  | .rereadingOauth m blob, .inl (.findOauthAccount _), r =>
    match (r : Except Error OauthPayload) with
    | .ok payload =>
      match AccountStash.decodeOauth account.stash payload with
      | .ok _ =>
        if (Credential.mk blob).matches m.snapshot.credential then .restashingCredential m
        else .reunlocking m (.ok false)
      | .error e => .reunlocking m (.error e)
    | .error e => .reunlocking m (.error e)
  | .restashingCredential m, .inl (.addCredential _ _), r =>
    match (r : Except Error Unit) with
    | .ok () => .restashingOauth m
    | .error e => .reunlocking m (.error e)
  | .restashingOauth m, .inl (.addOauthAccount _ _), r =>
    match (r : Except Error Unit) with
    | .ok () => .reunlocking m (.ok true)
    | .error e => .reunlocking m (.error e)
  | .reunlocking m r, .inl .releaseSwapLock, _ =>
    .ending (match r with
      | .ok reStashed => .ok ⟨.refreshed m.rotated, m.delta, reStashed⟩
      | .error e => .error e)
  | .deleting left result, .inr (.delete _), r =>
    match (r : Except Error Unit) with
    | .ok () => .removing result
    | .error _ => .sleeping left result
  | .sleeping left result, .inr .sleep, _ => tearingDown result left
  | .deletingBlocking result, .inr (.deleteBlocking _), _ => .removing result
  | .removing result, .inr (.removeDirAll _), _ => .finished result
  | x, _, _ => x

end CyclePhase

section Embodiment

variable [SerdeJson] [SerdeToVec]

def cycleAutomaton (account : Account) (nowMs : Int) :
    Automaton CycleSeams CyclePhase (Except Error RefreshReport) where
  next := CyclePhase.next account
  after := CyclePhase.after account nowMs

variable (account : Account) (nowMs : Int)

/-- What is left of the cycle once the session has its result. -/
def teardownThen (result : Except Error RefreshReport) : CycleSeam (Except Error RefreshReport) :=
  (do
    ExceptT.lift (IsolatedSession.teardown account.accountUuid)
    ExceptT.mk (pure result) : CycleM RefreshReport).run

theorem embodies_removing (result : Except Error RefreshReport) :
    Embodies (cycleAutomaton account nowMs)
      (IsolatedSession.removeDirAll account.accountUuid >>= fun _ => pure result) (.removing result) :=
  embodies_perform rfl (fun _ => embodies_pure rfl)

theorem embodies_tearingDown (result : Except Error RefreshReport) (n : ℕ) :
    Embodies (cycleAutomaton account nowMs)
      (IsolatedSession.deleteRetried account.accountUuid n >>= fun deleted =>
        (if deleted then IsolatedSession.removeDirAll account.accountUuid
        else do
          IsolatedSession.deleteBlocking account.accountUuid
          IsolatedSession.removeDirAll account.accountUuid) >>= fun _ => pure result)
      (.tearingDown result n) := by
  induction n with
  | zero =>
    apply embodies_perform rfl
    intro _
    exact embodies_removing account nowMs result
  | succ n ih =>
    apply embodies_perform rfl
    intro r
    cases r with
    | ok => exact embodies_removing account nowMs result
    | error e =>
      apply embodies_perform rfl
      intro _
      exact ih

theorem embodies_teardownThen (result : Except Error RefreshReport) :
    Embodies (cycleAutomaton account nowMs) (teardownThen account result) (.ending result) := by
  have h := embodies_tearingDown account nowMs result IsolatedSession.teardownDeleteRetries
  have hrun : teardownThen account result = (IsolatedSession.teardown account.accountUuid >>= fun _ =>
      pure result) := by
    unfold teardownThen
    rw [ExceptT.run_bind, ExceptT.run_lift, map_eq_pure_bind, bind_assoc]
    rfl
  rw [hrun]
  unfold IsolatedSession.teardown
  rw [bind_assoc]
  exact h

/-- The report of a session whose client has refreshed the credential. -/
def restashReport (m : Minted) : Except Error Bool → Except Error RefreshReport
  | .ok reStashed => .ok ⟨.refreshed m.rotated, m.delta, reStashed⟩
  | .error e => .error e

/-- What is left of the cycle while the swap lock is held for the compare-and-set. -/
def restashThen (m : Minted) (body : Attempt Bool) : CycleSeam (Except Error RefreshReport) :=
  (onSeams (do
    let r ← ExceptT.lift body.run
    ExceptT.lift SwapLock.release
    ExceptT.mk (pure r))).run >>= fun r => teardownThen account (restashReport m r)

theorem embodies_reunlocking (m : Minted) (r : Except Error Bool) :
    Embodies (cycleAutomaton account nowMs) (restashThen account m (ExceptT.mk (pure r)))
      (.reunlocking m r) := by
  apply embodies_perform rfl
  intro _
  exact embodies_teardownThen account nowMs (restashReport m r)

theorem embodies_restashing (m : Minted) :
    Embodies (cycleAutomaton account nowMs)
      (restashThen account m (do
        AccountStash.write account.stash ⟨m.after, m.snapshot.oauthAccount⟩
        pure true))
      (.restashingCredential m) := by
  apply embodies_perform rfl
  intro r
  cases r with
  | error e => exact embodies_reunlocking account nowMs m (.error e)
  | ok =>
    apply embodies_perform rfl
    intro r
    cases r with
    | error e => exact embodies_reunlocking account nowMs m (.error e)
    | ok => exact embodies_reunlocking account nowMs m (.ok true)

/-- The comparison, once the stash has been read again. -/
theorem embodies_compared (m : Minted) (blob : List UInt8) (decoded : Except Error OauthAccount) :
    Embodies (cycleAutomaton account nowMs)
      (restashThen account m (do
        let current ← (do
          let oauthAccount ← ExceptT.mk (pure decoded)
          pure ⟨⟨blob⟩, oauthAccount⟩ : Attempt StashedAccount)
        if current.credential.matches m.snapshot.credential then do
          AccountStash.write account.stash ⟨m.after, m.snapshot.oauthAccount⟩
          pure true
        else pure false))
      (match decoded with
        | .ok _ =>
          if (Credential.mk blob).matches m.snapshot.credential then .restashingCredential m
          else .reunlocking m (.ok false)
        | .error e => .reunlocking m (.error e)) := by
  cases decoded with
  | error e => exact embodies_reunlocking account nowMs m (.error e)
  | ok oauth =>
    by_cases h : (Credential.mk blob).matches m.snapshot.credential = true
    · dsimp only
      rw [if_pos h]
      have hbody := embodies_restashing account nowMs m
      change Embodies _ (restashThen account m (if (Credential.mk blob).matches m.snapshot.credential then
        _ else _)) _
      rw [if_pos h]
      exact hbody
    · dsimp only
      rw [if_neg h]
      change Embodies _ (restashThen account m (if (Credential.mk blob).matches m.snapshot.credential then
        _ else _)) _
      rw [if_neg h]
      exact embodies_reunlocking account nowMs m (.ok false)

theorem embodies_relocking (m : Minted) :
    Embodies (cycleAutomaton account nowMs)
      ((onSeams (reStash account.stash m.snapshot m.after)).run >>= fun r =>
        teardownThen account (restashReport m r))
      (.relocking m) := by
  apply embodies_perform rfl
  intro r
  cases r with
  | error e => exact embodies_teardownThen account nowMs (.error e)
  | ok =>
    apply embodies_perform rfl
    intro r
    cases r with
    | error e => exact embodies_reunlocking account nowMs m (.error e)
    | ok blob =>
      apply embodies_perform rfl
      intro r
      cases r with
      | error e => exact embodies_reunlocking account nowMs m (.error e)
      | ok payload =>
        exact embodies_compared account nowMs m blob (AccountStash.decodeOauth account.stash payload)

/-- What is left of the cycle once the session's client has been given its chance. -/
def mintedThen (m : Minting) (minted : CycleM (RefreshOutcome × Option Int × Option Credential)) :
    CycleSeam (Except Error RefreshReport) :=
  (do
    let (outcome, delta, after) ← minted
    let reStashed ← match outcome, after with
      | .refreshed _, some after => onSeams (reStash account.stash m.snapshot after)
      | _, _ => pure false
    pure ⟨outcome, delta, reStashed⟩ : CycleM RefreshReport).run >>= teardownThen account

theorem embodies_classified (m : Minting) (after : Credential) :
    Embodies (cycleAutomaton account nowMs)
      (mintedThen account m (do
        let (outcome, delta) := classify m.snapshot.credential.blob m.seed after.blob
        pure (outcome, delta, some after)))
      (.classified m after) := by
  unfold CyclePhase.classified
  obtain ⟨outcome, delta⟩ := classify m.snapshot.credential.blob m.seed after.blob
  cases outcome with
  | refreshed rotated =>
    have h := embodies_relocking account nowMs ⟨m.snapshot, rotated, delta, after⟩
    have hrun : mintedThen account m (pure (.refreshed rotated, delta, some after)) =
        (onSeams (reStash account.stash m.snapshot after)).run >>= fun r =>
          teardownThen account (restashReport ⟨m.snapshot, rotated, delta, after⟩ r) := by
      unfold mintedThen
      change ((onSeams (reStash account.stash m.snapshot after) >>= fun reStashed =>
        pure ⟨.refreshed rotated, delta, reStashed⟩ : CycleM RefreshReport).run >>=
          teardownThen account) = _
      rw [ExceptT.run_bind, bind_assoc]
      congr 1
      funext r
      cases r with
      | ok reStashed => rfl
      | error e => rfl
    exact hrun ▸ h
  | noChange => exact embodies_teardownThen account nowMs (.ok ⟨.noChange, delta, false⟩)
  | dead => exact embodies_teardownThen account nowMs (.ok ⟨.dead, delta, false⟩)
  | error reason => exact embodies_teardownThen account nowMs (.ok ⟨.error reason, delta, false⟩)

theorem embodies_seeding (m : Minting) :
    Embodies (cycleAutomaton account nowMs)
      ((runIsolated account m.seed m.snapshot).run >>= teardownThen account) (.seeding m) := by
  apply embodies_perform rfl
  intro r
  cases r with
  | error e => exact embodies_teardownThen account nowMs (.error e)
  | ok =>
    apply embodies_perform rfl
    intro r
    cases r with
    | error e => exact embodies_teardownThen account nowMs (.error e)
    | ok =>
      apply embodies_perform rfl
      intro r
      cases r with
      | error e => exact embodies_teardownThen account nowMs (.ok ⟨.error .spawnFailed, none, false⟩)
      | ok =>
        apply embodies_perform rfl
        intro r
        cases r with
        | error e =>
          exact embodies_teardownThen account nowMs (.ok ⟨.error .readbackUnreadable, none, false⟩)
        | ok after => exact embodies_classified account nowMs m after

/-- What is left of the cycle once the stash has been read. -/
def snapshotThen (snapshot : CycleM StashedAccount) : CycleSeam (Except Error RefreshReport) :=
  (do
    let snapshot ← snapshot
    match backdate snapshot.credential.blob nowMs with
    | none => pure .indeterminate
    | some seed => do
      IsolatedSession.create account.accountUuid
      let result ← ExceptT.lift (runIsolated account seed snapshot).run
      ExceptT.lift (IsolatedSession.teardown account.accountUuid)
      ExceptT.mk (pure result) : CycleM RefreshReport).run

theorem embodies_snapshotted (r : Except Error StashedAccount) :
    Embodies (cycleAutomaton account nowMs) (snapshotThen account nowMs (ExceptT.mk (pure r)))
      (.snapshotted nowMs r) := by
  cases r with
  | error e => exact embodies_pure rfl
  | ok snapshot =>
    unfold snapshotThen CyclePhase.snapshotted
    rw [ExceptT.run_bind, ExceptT.run_mk, pure_bind]
    dsimp only
    cases backdate snapshot.credential.blob nowMs with
    | none => exact embodies_pure rfl
    | some seed =>
      apply embodies_perform rfl
      intro r
      cases r with
      | error e => exact embodies_pure rfl
      | ok =>
        have hrun : (do
            let result ← ExceptT.lift (runIsolated account seed snapshot).run
            ExceptT.lift (IsolatedSession.teardown account.accountUuid)
            ExceptT.mk (pure result) : CycleM RefreshReport).run =
            (runIsolated account seed snapshot).run >>= teardownThen account := by
          rw [ExceptT.run_bind, ExceptT.run_lift, map_eq_pure_bind, bind_assoc]
          rfl
        have h := embodies_seeding account nowMs ⟨snapshot, seed⟩
        rw [← hrun] at h
        exact h

theorem embodies_unlocking (r : Except Error StashedAccount) :
    Embodies (cycleAutomaton account nowMs)
      (snapshotThen account nowMs (onSeams (do
        ExceptT.lift SwapLock.release
        ExceptT.mk (pure r))))
      (.unlocking r) := by
  apply embodies_perform rfl
  intro _
  exact embodies_snapshotted account nowMs r

theorem embodies_decoded (blob : List UInt8) (decoded : Except Error OauthAccount) :
    Embodies (cycleAutomaton account nowMs)
      (snapshotThen account nowMs (onSeams (do
        let r ← ExceptT.lift (do
          let oauthAccount ← ExceptT.mk (pure decoded)
          pure ⟨⟨blob⟩, oauthAccount⟩ : Attempt StashedAccount).run
        ExceptT.lift SwapLock.release
        ExceptT.mk (pure r))))
      (.unlocking (match decoded with
        | .ok oauth => .ok ⟨⟨blob⟩, oauth⟩
        | .error e => .error e)) := by
  cases decoded with
  | error e => exact embodies_unlocking account nowMs (.error e)
  | ok oauth => exact embodies_unlocking account nowMs (.ok ⟨⟨blob⟩, oauth⟩)

/-- The cycle goes through the phases, from the first lock on. -/
theorem embodies_refreshCycle :
    Embodies (cycleAutomaton account nowMs) (refreshCycle account nowMs).run .locking := by
  apply embodies_perform rfl
  intro r
  cases r with
  | error e => exact embodies_pure rfl
  | ok =>
    apply embodies_perform rfl
    intro r
    cases r with
    | error e => exact embodies_unlocking account nowMs (.error e)
    | ok blob =>
      apply embodies_perform rfl
      intro r
      cases r with
      | error e => exact embodies_unlocking account nowMs (.error e)
      | ok payload =>
        exact embodies_decoded account nowMs blob (AccountStash.decodeOauth account.stash payload)

end Embodiment

end Sessiometer
