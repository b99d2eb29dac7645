import Sessiometer.Daemon.Moves
import Sessiometer.Daemon.Reconcile
import Sessiometer.Effects.Order
import Sessiometer.Swap.NoLoss
import Sessiometer.Swap.Use

/-! # What an adoption overwrites

An adoption writes nothing but the canonical item and the display, and these only where the canonical
item was read, or is confirmed to be gone. A credential that an account is known for is re-stashed
before it is overwritten, unless a read of what it is known by fails. -/

namespace Sessiometer

open Effects

section Reads

variable {pid : ℕ} {w w' : World} {tr : List (Occurrence Seams)} {service : String}

theorem mute_canonicalRead : Only (Op.isWrite · = false) CredentialStore.read.run := only_call rfl

theorem mute_stashRead (service : String) :
    Only (Op.isWrite · = false) (AccountStash.read service).run := by
  unfold AccountStash.read
  refine only_except_bind (only_call rfl) (fun blob => ?_)
  refine only_except_bind (only_call rfl) (fun payload => ?_)
  exact only_except_bind trivial (fun oauth => trivial)

theorem steps_call {o : Op} {r : o.Reply}
    (h : Steps (surroundings pid) (Prog.call (S := Seams) o) w tr (.pure r) w') :
    tr = [⟨o, r⟩] ∧ surroundings pid o w r w' := by
  rcases steps_perform_iff.mp h with ⟨-, hq, -⟩ | ⟨r', w₁, tr', rfl, hd, hs⟩
  · cases hq
  · obtain ⟨rfl, hq, rfl⟩ := steps_pure_iff.mp hs
    cases hq
    exact ⟨rfl, hd⟩

theorem steps_stashRead {a : StashedAccount}
    (h : Steps (surroundings pid) (AccountStash.read service).run w tr (.pure (.ok a)) w') :
    w' = w ∧ w.stores.stash service = .ok a := by
  have hwp : wp ((surroundings pid).under Eq) (onStores fun _ _ _ => True)
      (AccountStash.read service).run w
      (fun r w' => w = w' ∧ ∀ a, r = .ok a → w.stores.stash service = .ok a) :=
    wp_stash_read KeepsStores.eq (fun _ _ _ => trivial) (fun r w' heq ha => ⟨heq, ha⟩)
  have hdone := wp_exec (wp_device hwp (fun _ _ _ _ => surroundings_under_eq)
    (fun _ _ _ _ _ h => h)) ⟨tr, h⟩
  exact ⟨hdone.1.symm, hdone.2 a rfl⟩

end Reads

/-! ## The adoption -/

/-- A stash, or a refresh that writes one. -/
def Op.writesAnyStash : Op → Bool
  | .addCredential _ _ => true
  | .addOauthAccount _ _ => true
  | .refresh _ => true
  | _ => false

/-- The canonical item was read, or is confirmed to be gone. -/
def PermitsAdoption (w : World) (reply : Except Error Credential) : Prop :=
  (∃ c, reply = .ok c ∧ w.stores.canonical = some c) ∨
    (reply = .error .credentialNotFound ∧ w.stores.canonical = none)

/-- Either nothing was written, or the incoming stash was read, and after it the canonical item, before
the first write. No stash is written. -/
structure AdoptSafe (w : World) (incoming : String) (tr : List (Occurrence Seams)) (w' : World) :
    Prop where
  stashes : ∀ x ∈ tr, x.1.writesAnyStash = false
  written : ((∀ x ∈ tr, x.1.isWrite = false) ∧ w'.stores = w.stores ∧ w'.claudeJson = w.claudeJson) ∨
    ∃ a reply tr₁ tr₂, tr = tr₁ ++ ⟨.readCanonical, reply⟩ :: tr₂ ∧
      (∀ x ∈ tr₁, x.1.isWrite = false) ∧ w.stores.stash incoming = .ok a ∧
        PermitsAdoption w reply ∧ ∀ x ∈ tr₂, ∀ c, x.1 = .writeCanonical c → c = a.credential

section Adoption

variable {pid : ℕ} {w w' : World} {tr : List (Occurrence Seams)} {incoming : String}

theorem only_writeOauthAccount {φ : Op → Prop} (oauth : OauthAccount) (hread : φ .readClaudeJson)
    (hwrite : ∀ root, φ (.writeClaudeJson root)) :
    Only φ (ClaudeState.writeOauthAccount oauth).run := by
  unfold ClaudeState.writeOauthAccount
  refine only_except_bind (only_call hread) (fun root => ?_)
  cases root.insert "oauthAccount" oauth.raw with
  | some root' => exact only_call (hwrite root')
  | none => trivial

theorem only_installIncoming {φ : Op → Prop} (a : StashedAccount)
    (hwrite : φ (.writeCanonical a.credential)) (hdisplay : φ .readClaudeJson)
    (hcowrite : ∀ root, φ (.writeClaudeJson root)) (hread : φ .readCanonical) :
    Only φ (installIncoming a).run := by
  unfold installIncoming
  refine only_except_bind (only_call hwrite) (fun _ => ?_)
  refine only_except_bind (only_lift ?_) (fun _ => ?_)
  · exact only_bind (only_writeOauthAccount a.oauthAccount hdisplay hcowrite) (fun _ => trivial)
  · refine only_except_bind (only_lift ?_) (fun _ => trivial)
    exact only_bind (only_call hread) (fun _ => trivial)

theorem stashless_adoptTarget (incoming : String) :
    Only (Op.writesAnyStash · = false) (adoptTarget incoming).run := by
  unfold adoptTarget
  refine only_except_bind ?_ (fun a => ?_)
  · unfold AccountStash.read
    refine only_except_bind (only_call rfl) (fun blob => ?_)
    refine only_except_bind (only_call rfl) (fun payload => ?_)
    exact only_except_bind trivial (fun oauth => trivial)
  · have hinstall := only_installIncoming (φ := (Op.writesAnyStash · = false)) a rfl rfl
      (fun _ => rfl) rfl
    refine only_except_bind (only_lift (only_call rfl)) (fun reply => ?_)
    cases reply with
    | ok c => exact hinstall
    | error e => cases e <;> first | exact hinstall | trivial

theorem steps_adoptTarget {q : Seam (Except Error SwapReport)}
    (h : Steps (surroundings pid) (adoptTarget incoming).run w tr q w') :
    (∀ x ∈ tr, x.1.isWrite = false) ∨
      ∃ a reply tr₁ tr₂, tr = tr₁ ++ ⟨.readCanonical, reply⟩ :: tr₂ ∧
        (∀ x ∈ tr₁, x.1.isWrite = false) ∧ w.stores.stash incoming = .ok a ∧
          PermitsAdoption w reply ∧ Steps (surroundings pid) (installIncoming a).run w tr₂ q w' := by
  unfold adoptTarget at h
  rcases steps_except_bind h with ⟨p', hs⟩ | ⟨a, w₁, tr₁, tr₂, rfl, hstash, hrest⟩
  · exact .inl ((mute_stashRead incoming).steps hs)
  have hmute := (mute_stashRead incoming).steps hstash
  obtain ⟨rfl, ha⟩ := steps_stashRead hstash
  rcases steps_except_bind hrest with ⟨p', hs⟩ | ⟨reply, w₂, tr₃, tr₄, rfl, hprobe, hend⟩
  · refine .inl (fun x hx => ?_)
    rcases List.mem_append.mp hx with hx | hx
    · exact hmute x hx
    · exact (only_lift mute_canonicalRead).steps hs x hx
  obtain ⟨rfl, rfl, hread⟩ := steps_call (steps_lift hprobe)
  have hquiet : (∀ x ∈ tr₁ ++ [(⟨.readCanonical, reply⟩ : Occurrence Seams)], x.1.isWrite = false) := by
    intro x hx
    rcases List.mem_append.mp hx with hx | hx
    · exact hmute x hx
    · rw [List.mem_singleton.mp hx]
      rfl
  cases reply with
  | ok c => exact .inr ⟨a, .ok c, tr₁, tr₄, by simp, hmute, ha, .inl ⟨c, rfl, hread⟩, hend⟩
  | error e =>
    by_cases habsent : e = .credentialNotFound
    · subst habsent
      exact .inr ⟨a, _, tr₁, tr₄, by simp, hmute, ha, .inr ⟨rfl, hread rfl⟩, hend⟩
    · have hstop : tr₄ = [] := by
        cases e <;> first | exact absurd rfl habsent | exact (steps_pure_iff.mp hend).1
      rw [hstop, List.append_nil]
      exact .inl hquiet

theorem adoptTarget_safe {q : Seam (Except Error SwapReport)}
    (h : Steps (surroundings pid) (adoptTarget incoming).run w tr q w') :
    AdoptSafe w incoming tr w' := by
  refine ⟨(stashless_adoptTarget incoming).steps h, ?_⟩
  rcases steps_adoptTarget h with hmute | ⟨a, reply, tr₁, tr₂, htr, hmute, ha, hreply, hinstall⟩
  · exact .inl ⟨hmute, steps_no_write h hmute⟩
  · refine .inr ⟨a, reply, tr₁, tr₂, htr, hmute, ha, hreply, ?_⟩
    refine (only_installIncoming (φ := fun o => ∀ c, o = .writeCanonical c → c = a.credential) a
      ?_ ?_ ?_ ?_).steps hinstall
    · intro c hc
      exact (Op.writeCanonical.inj hc).symm
    · exact fun _ hc => by cases hc
    · exact fun _ _ hc => by cases hc
    · exact fun _ hc => by cases hc

end Adoption

end Sessiometer
