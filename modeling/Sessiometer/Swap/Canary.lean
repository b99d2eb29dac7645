import Sessiometer.Swap.Engine

/-! # Who is active, and the canary before a swap -/

namespace Sessiometer

open Effects

/-- The first roster account, but for a skipped one, whose stash reads and matches. -/
def firstMatching (canonical : Credential) (skip : Option ℕ) :
    List Account → ℕ → Seam (Option (ℕ × StashedAccount))
  | [], _ => pure none
  | account :: rest, i =>
    if skip = some i then firstMatching canonical skip rest (i + 1)
    else do
      match ← (AccountStash.read account.stash).run with
      | .ok stashed =>
        if stashed.credential.matches canonical then pure (some (i, stashed))
        else firstMatching canonical skip rest (i + 1)
      | .error _ => firstMatching canonical skip rest (i + 1)

/-- The index of the first roster account under a uuid. -/
def rosterPosition (roster : List Account) (accountUuid : String) : Option ℕ :=
  roster.findIdx? (fun a => a.accountUuid == accountUuid)

namespace Active

def resolveViaDisplay (roster : List Account) : Seam (Option ℕ) := do
  match ← ClaudeState.readOauthAccount.run with
  | .ok oauth => pure (rosterPosition roster oauth.accountUuid)
  | .error _ => pure none

/-- By token first; the display only when no stash holds the canonical credential. -/
def resolveAccountFor (roster : List Account) (canonical : Credential) : Seam (Option ℕ) := do
  match ← firstMatching canonical none roster 0 with
  | some (i, _) => pure (some i)
  | none => resolveViaDisplay roster

end Active

inductive InconclusiveReason where
  | displayUnresolved
  | noStashMatch (canonicalWellFormed : Bool)
deriving DecidableEq

inductive CanaryOutcome where
  | ok
  | notFound
  | ambiguous (count : ℕ)
  | drift (displayed matched : ℕ)
  | inconclusive (reason : InconclusiveReason)
deriving DecidableEq

inductive Liveness where
  | skipped
  | uninformative
  | overridden
  | live
  | rejected
  | inconclusive
deriving DecidableEq

def Liveness.asStr : Liveness → String
  | .skipped => "skipped"
  | .uninformative => "uninformative"
  | .overridden => "overridden"
  | .live => "live"
  | .rejected => "rejected"
  | .inconclusive => "inconclusive"

inductive ProbeGate where
  | disarmed
  | armed
  | uninformative
  | overridden
deriving DecidableEq

namespace Canary

/-- Brings the display into line with the account whose stash holds the canonical credential. -/
def reconcileDisplay (roster : List Account) (canonical : Credential) : Attempt Unit := do
  match ← ExceptT.lift (firstMatching canonical none roster 0) with
  | none => pure ()
  | some (_, stashed) =>
    let displayed ← ExceptT.lift ClaudeState.readOauthAccount.run
    if isOkAnd (fun o => o.accountUuid == stashed.oauthAccount.accountUuid) displayed then pure ()
    else ClaudeState.writeOauthAccount stashed.oauthAccount

/-- The offline cross-check: does the displayed account's own stash hold the credential? -/
def crossCheck [SerdeJson] (roster : List Account) (canonical : Credential) :
    Seam CanaryOutcome := do
  match ← Active.resolveViaDisplay roster with
  | none => pure (.inconclusive .displayUnresolved)
  | some displayed =>
    let own ← (AccountStash.read (roster.getD displayed ⟨"", "", false⟩).stash).run
    if isOkAnd (fun stashed => stashed.credential.matches canonical) own then pure .ok
    else do
      match ← firstMatching canonical (some displayed) roster 0 with
      | some (matched, _) => pure (.drift displayed matched)
      | none => pure (.inconclusive (.noStashMatch (isWellFormedCredential canonical.blob)))

/-- `canary::run`: resolution probe, display reconcile, then the cross-check. -/
def run [SerdeJson] (roster : List Account) : Attempt CanaryOutcome := do
  match ← ExceptT.lift CredentialStore.probeResolution.run with
  | .error .credentialNotFound => pure .notFound
  | .error (.credentialAmbiguous count) => pure (.ambiguous count)
  | .error other => throw other
  | .ok () =>
    match ← ExceptT.lift CredentialStore.read.run with
    | .error .credentialNotFound => pure .notFound
    | .error other => throw other
    | .ok canonical =>
      let _ ← ExceptT.lift (reconcileDisplay roster canonical).run
      ExceptT.lift (crossCheck roster canonical)

def livenessOf : Except Error PolledReading → Liveness
  | .ok _ => .live
  | .error .usageUnauthorized => .rejected
  | .error _ => .inconclusive

def probeLiveness (account : Account) (gate : ProbeGate) : Seam Liveness := do
  match gate with
  | .disarmed => pure .skipped
  | .uninformative => pure .uninformative
  | .overridden => pure .overridden
  | .armed => do
    let polled ← Prog.call (S := Seams) (.poll account true)
    pure (livenessOf polled)

def probeRefuses (liveness : Liveness) (strict : Bool) : Bool :=
  strict && (liveness == .rejected || liveness == .inconclusive)

def probeAlarms (liveness : Liveness) : Bool :=
  !(liveness == .skipped || liveness == .live)

end Canary

/-! ## The canary reads, and at most heals the display -/

section Quiet

theorem quiet_canonicalRead : Only (Op.isQuiet · = true) CredentialStore.read.run :=
  ⟨rfl, fun _ => trivial⟩

theorem quiet_stashRead (service : String) :
    Only (Op.isQuiet · = true) (AccountStash.read service).run := by
  unfold AccountStash.read
  refine only_except_bind (only_call rfl) (fun blob => ?_)
  refine only_except_bind (only_call rfl) (fun payload => ?_)
  exact only_except_bind trivial (fun oauth => trivial)

theorem quiet_readOauthAccount :
    Only (Op.isQuiet · = true) ClaudeState.readOauthAccount.run :=
  only_except_bind (only_call rfl) (fun _ => trivial)

theorem quiet_writeOauthAccount (oauth : OauthAccount) :
    Only (Op.isQuiet · = true) (ClaudeState.writeOauthAccount oauth).run := by
  unfold ClaudeState.writeOauthAccount
  refine only_except_bind (only_call rfl) (fun root => ?_)
  cases root.insert "oauthAccount" oauth.raw with
  | some root' => exact only_call rfl
  | none => trivial

theorem quiet_firstMatching (canonical : Credential) (skip : Option ℕ) (roster : List Account)
    (i : ℕ) : Only (Op.isQuiet · = true) (firstMatching canonical skip roster i) := by
  induction roster generalizing i with
  | nil => trivial
  | cons account rest ih =>
    unfold firstMatching
    split
    · exact ih (i + 1)
    · refine only_bind (quiet_stashRead account.stash) (fun r => ?_)
      cases r with
      | error e => exact ih (i + 1)
      | ok stashed =>
        dsimp only
        split
        · trivial
        · exact ih (i + 1)

theorem quiet_resolveViaDisplay (roster : List Account) :
    Only (Op.isQuiet · = true) (Active.resolveViaDisplay roster) := by
  refine only_bind quiet_readOauthAccount (fun r => ?_)
  cases r <;> trivial

theorem quiet_resolveAccountFor (roster : List Account) (canonical : Credential) :
    Only (Op.isQuiet · = true) (Active.resolveAccountFor roster canonical) := by
  refine only_bind (quiet_firstMatching canonical none roster 0) (fun r => ?_)
  cases r with
  | some x => trivial
  | none => exact quiet_resolveViaDisplay roster

theorem quiet_reconcileDisplay (roster : List Account) (canonical : Credential) :
    Only (Op.isQuiet · = true) (Canary.reconcileDisplay roster canonical).run := by
  unfold Canary.reconcileDisplay
  refine only_except_bind (only_lift (quiet_firstMatching canonical none roster 0)) (fun r => ?_)
  cases r with
  | none => trivial
  | some x =>
    refine only_except_bind (only_lift quiet_readOauthAccount) (fun displayed => ?_)
    split
    · trivial
    · exact quiet_writeOauthAccount x.2.oauthAccount

theorem quiet_crossCheck [SerdeJson] (roster : List Account) (canonical : Credential) :
    Only (Op.isQuiet · = true) (Canary.crossCheck roster canonical) := by
  unfold Canary.crossCheck
  refine only_bind (quiet_resolveViaDisplay roster) (fun r => ?_)
  cases r with
  | none => trivial
  | some displayed =>
    refine only_bind (quiet_stashRead _) (fun own => ?_)
    split
    · trivial
    · refine only_bind (quiet_firstMatching canonical (some displayed) roster 0) (fun m => ?_)
      cases m <;> trivial

theorem quiet_canaryRun [SerdeJson] (roster : List Account) :
    Only (Op.isQuiet · = true) (Canary.run roster).run := by
  unfold Canary.run
  refine only_except_bind (only_lift (only_call rfl)) (fun r => ?_)
  match r with
  | .ok () =>
    refine only_except_bind (only_lift (only_call rfl)) (fun c => ?_)
    match c with
    | .ok canonical =>
      exact only_except_bind (only_lift (quiet_reconcileDisplay roster canonical))
        (fun _ => only_lift (quiet_crossCheck roster canonical))
    | .error e => cases e <;> trivial
  | .error e => cases e <;> trivial

theorem quiet_probeLiveness (account : Account) (gate : ProbeGate) :
    Only (Op.isQuiet · = true) (Canary.probeLiveness account gate) := by
  cases gate with
  | armed => exact only_bind (only_call rfl) (fun _ => trivial)
  | _ => trivial

end Quiet

end Sessiometer
