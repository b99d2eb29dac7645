import Sessiometer.Refresh.Cycle
import Sessiometer.Swap.Script

/-! # Scripted cycles -/

namespace Sessiometer

open Effects

/-- A codec for credentials of a few bytes: the first names the refresh token, and there are as many
others as the expiry has milliseconds. -/
@[reducible] def sampleText : SerdeJson where
  fromSlice := fun
    | token :: rest => some (.object [("claudeAiOauth", .object [("accessToken", .string "access"),
        ("refreshToken", .string (if token = 0 then "" else if token = 1 then "first" else "second")),
        ("expiresAt", .int rest.length)])])
    | [] => none

@[reducible] def sampleToVec : SerdeToVec where
  toVec := fun value =>
    let field := fun key => (value.get "claudeAiOauth").bind (·.get key)
    let token := (field "refreshToken").bind Value.asStr
    let expiry := (field "expiresAt").bind Value.asI64
    (if token = some "" then 0 else if token = some "first" then 1 else 2) ::
      List.replicate (expiry.getD 0).toNat 0

section Scripted

local instance scriptedJson : SerdeJson := sampleText

/-- A client that presents the refresh token of its item: the live one is exchanged, and an item with
another is cleared. -/
def exchanging (session : String) (w : RefreshWorld) : RefreshWorld :=
  match (w.isolated session).item.bind refreshToken with
  | none => w
  | some token =>
    if token = (w.grants session).live then
      { w.setItem session (some [2, 0, 0, 0]) with
        grants := Function.update w.grants session ⟨"second", "second" :: (w.grants session).issued⟩ }
    else w.setItem session (some [0])

/-- The surroundings when nothing fails but, if asked for, the deletions. -/
def calmCycle (deletes : Bool) (pid : ℕ) : Handler CycleSeams RefreshWorld
  | .inl o, w => ((calmly pid o w.world).1, { w with world := (calmly pid o w.world).2 })
  | .inr (.createIsolatedDir session), w => (.ok (), w.setDir session true false)
  | .inr (.seed session blob), w => (.ok (), w.setItem session (some blob))
  | .inr (.writeClaudeJson session), w => (.ok (), w.setDir session (w.isolated session).dir true)
  | .inr (.spawn session), w => (.ok (), exchanging session w)
  | .inr (.readBack session), w =>
    (Script.item .credentialNotFound ((w.isolated session).item.map Credential.mk), w)
  | .inr (.delete session), w =>
    if deletes then (.ok (), w.setItem session none) else (.error .io, w)
  | .inr (.deleteBlocking session), w => ((), if deletes then w.setItem session none else w)
  | .inr (.removeDirAll session), w => ((), w.setDir session false false)
  | .inr .sleep, w => ((), w)

theorem calmCycle_refines (deletes : Bool) (pid : ℕ) :
    (calmCycle deletes pid).Refines (refreshing (fun session w _ w' => w' = exchanging session w) pid) := by
  intro o w
  cases o with
  | inl o => exact ⟨calmly_refines pid o w.world, rfl, rfl⟩
  | inr o =>
    cases o with
    | createIsolatedDir | seed | spawn | sleep => rfl
    | writeClaudeJson session => exact .inr rfl
    | readBack session =>
      refine ⟨rfl, ?_⟩
      cases h : (w.isolated session).item <;> simp [calmCycle, h, Script.item, Reads]
    | delete session => cases deletes <;> simp [calmCycle, refreshing, isolatedSurroundings]
    | deleteBlocking session => cases deletes <;> simp [calmCycle, refreshing, isolatedSurroundings]
    | removeDirAll session => exact ⟨false, false, rfl⟩

/-- The first operations of a program, as a handler answers them. -/
def runFor {S : Interface} {W α : Type} (H : Handler S W) : ℕ → Prog S α → W → Prog S α × W
  | n + 1, .perform o k, w => runFor H n (k (H o w).1) (H o w).2
  | _, p, w => (p, w)

/-- The occurrences of these operations. -/
def traceFor {S : Interface} {W α : Type} (H : Handler S W) :
    ℕ → Prog S α → W → List (Occurrence S)
  | n + 1, .perform o k, w => ⟨o, (H o w).1⟩ :: traceFor H n (k (H o w).1) (H o w).2
  | _, _, _ => []

theorem steps_runFor {S : Interface} {W α : Type} {H : Handler S W} {D : Device S W}
    (hH : H.Refines D) (n : ℕ) (p : Prog S α) (w : W) :
    Steps D p w (traceFor H n p w) (runFor H n p w).1 (runFor H n p w).2 := by
  induction n generalizing p w with
  | zero => exact .refl _ _
  | succ n ih =>
    cases p with
    | pure a => exact .refl _ _
    | perform o k => exact .head (hH o w) (ih (k (H o w).1) (H o w).2)

/-- A parked account whose stash holds the live credential, about to be refreshed. -/
def parkedWorld : RefreshWorld where
  world := atRest (captured (some ⟨[2, 9]⟩) [(sampleAccount "A", ⟨[1, 0]⟩)]) "B"
  isolated := fun _ => ⟨false, false, none⟩
  grants := fun _ => ⟨"first", ["first"]⟩

end Scripted

end Sessiometer
