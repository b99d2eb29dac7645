import Sessiometer.Swap.Stores

namespace Sessiometer

open Effects

structure SwapReport where
  canonicalConfirmed : Bool
  oauthCowritten : Bool
deriving DecidableEq, Repr

/-- `result.is_ok()`. -/
def isOk {α : Type} : Except Error α → Bool
  | .ok _ => true
  | .error _ => false

/-- `result.is_ok_and(p)`. -/
def isOkAnd {α : Type} (p : α → Bool) : Except Error α → Bool
  | .ok a => p a
  | .error _ => false

structure SwapInputs where
  outgoingCurrent : Credential
  outgoingPrev : StashedAccount
  incoming : StashedAccount

/-- The canonical item is demonstrably the incoming account's and not the outgoing one's. -/
def SwapInputs.wrongIdentity (x : SwapInputs) : Bool :=
  !x.outgoingCurrent.matches x.outgoingPrev.credential &&
    x.outgoingCurrent.matches x.incoming.credential

/-- `swap`, step 1: every input is read, and the identity guard passed, before any write. -/
def swapInputs (outgoingStash incomingStash : String) : Attempt SwapInputs := do
  let outgoingCurrent ← CredentialStore.read
  let outgoingPrev ← AccountStash.read outgoingStash
  let incoming ← AccountStash.read incomingStash
  let inputs : SwapInputs := ⟨outgoingCurrent, outgoingPrev, incoming⟩
  if inputs.wrongIdentity then throw .swapWrongIdentityRestash else pure inputs

/-- Steps 3 to 5 of `swap` and of `adopt_target`: install the incoming account, co-write its
identity as far as that goes, and read the canonical item back. -/
def installIncoming (incoming : StashedAccount) : Attempt SwapReport := do
  CredentialStore.write incoming.credential
  let oauthCowritten ← ExceptT.lift (isOk <$> (ClaudeState.writeOauthAccount incoming.oauthAccount).run)
  let canonicalConfirmed ← ExceptT.lift
    (isOkAnd (·.matches incoming.credential) <$> CredentialStore.read.run)
  pure ⟨canonicalConfirmed, oauthCowritten⟩

/-- `swap`, steps 2 to 5: re-stash the outgoing account, then install the incoming one. -/
def swapWrites (outgoingStash : String) (inputs : SwapInputs) : Attempt SwapReport := do
  AccountStash.write outgoingStash ⟨inputs.outgoingCurrent, inputs.outgoingPrev.oauthAccount⟩
  installIncoming inputs.incoming

def swap (outgoingStash incomingStash : String) : Attempt SwapReport := do
  let inputs ← swapInputs outgoingStash incomingStash
  swapWrites outgoingStash inputs

/-- `adopt_target`: a canonical item that merely could not be read is not taken to be gone. -/
def adoptTarget (incomingStash : String) : Attempt SwapReport := do
  let incoming ← AccountStash.read incomingStash
  match ← ExceptT.lift CredentialStore.read.run with
  | .ok _ => pure ()
  | .error .credentialNotFound => pure ()
  | .error err => throw err
  installIncoming incoming

/-- Runs `body` under the swap lock, released however the body ends. -/
def withSwapLock {α : Type} (body : Attempt α) : Attempt α := do
  SwapLock.acquire
  let r ← ExceptT.lift body.run
  ExceptT.lift SwapLock.release
  ExceptT.mk (pure r)

def swapLocked (outgoingStash incomingStash : String) : Attempt SwapReport :=
  withSwapLock (swap outgoingStash incomingStash)

def adoptTargetLocked (incomingStash : String) : Attempt SwapReport :=
  withSwapLock (adoptTarget incomingStash)

end Sessiometer
