import Mathlib.Data.List.Nodup
import Sessiometer.Effects.Runs
import Sessiometer.Daemon.Run
import Sessiometer.Daemon.Undisturbed

/-! # The daemon's own writes

Left to itself the daemon commits whatever it puts in the canonical item, so that no tick takes it
for an external change. After a swap the credential is read again from the incoming stash, and there
the two may come apart. -/

namespace Sessiometer

open Effects

/-- The canonical item has been installed from this stash, and the watch does not know it yet. -/
structure Promoted (watch : CanonicalWatch) (t : Stores) (service : String) : Prop where
  unknown : ∃ prev, watch.last = some prev ∧ t.canonical ≠ some prev
  installed : ∃ a, t.stash service = .ok a ∧ t.canonical = some a.credential

/-- The stash that the canonical item has just been installed from can be read. -/
def Rereads (watch : CanonicalWatch) (t : Stores) : (o : Op) → o.Reply → Prop
  | .findCredential service, (r : Except Error (List UInt8)) =>
    Promoted watch t service → isOk r = true
  | .findOauthAccount service, (r : Except Error OauthPayload) =>
    Promoted watch t service → isOk r = true
  | _, _ => True

/-- The undisturbed surroundings where the re-read of a swap's incoming stash does not fail, or does
not matter. -/
def rereading (pid : ℕ) (watch : CanonicalWatch) : Device Seams World :=
  fun o w r w' => undisturbed pid o w r w' ∧ Rereads watch w.stores o r

theorem rereading_within (pid : ℕ) (watch : CanonicalWatch) :
    (rereading pid watch).Within (undisturbed pid) :=
  fun _ _ _ _ hd => hd.1

/-- The watch is in step with the canonical item, and has reported nothing. -/
structure InStep (core : Core) (t : Stores) : Prop where
  baseline : ∀ c, core.canonicalWatch.last = some c → t.canonical = some c
  unreported : core.externalChanges = []
  distinct : (core.roster.map (·.accountUuid)).Nodup
  listed : ∀ i, core.active = some i → i < core.roster.length

theorem InStep.of_canonical {core : Core} {t t' : Stores} (h : InStep core t)
    (ht : t'.canonical = t.canonical) : InStep core t' :=
  ⟨fun c hc => ht.trans (h.baseline c hc), h.unreported, h.distinct, h.listed⟩

theorem InStep.of_active {core : Core} {t : Stores} (h : InStep core t) {active : Option ℕ}
    (hactive : ∀ i, active = some i → i < core.roster.length) :
    InStep { core with active := active } t :=
  ⟨h.baseline, h.unreported, h.distinct, hactive⟩

/-- What the watch commits is what the canonical item holds. -/
theorem InStep.commit {core : Core} {t t' : Stores} (h : InStep core t) {c : Credential}
    (ht : t'.canonical = some c) : InStep { core with canonicalWatch := ⟨some c⟩ } t' := by
  refine ⟨?_, h.unreported, h.distinct, h.listed⟩
  intro c' hc'
  cases hc'
  exact ht

/-- Two accounts of a roster that names none twice have two stashes. -/
theorem stash_ne_of_distinct {d : Daemon} {i j : ℕ} (hd : (d.roster.map (·.accountUuid)).Nodup)
    (hij : i ≠ j) (hi : i < d.roster.length) (hj : j < d.roster.length) :
    (d.account i).stash ≠ (d.account j).stash := by
  intro h
  have huuid := stash_injective h
  unfold Daemon.account at huuid
  simp only [List.getD_eq_getElem?_getD, List.getElem?_eq_getElem hi, List.getElem?_eq_getElem hj,
    Option.getD_some] at huuid
  have hi' : i < (d.roster.map (·.accountUuid)).length := by rwa [List.length_map]
  have hj' : j < (d.roster.map (·.accountUuid)).length := by rwa [List.length_map]
  have hget : (d.roster.map (·.accountUuid))[i] = (d.roster.map (·.accountUuid))[j] := by
    simpa using huuid
  exact hij (List.Nodup.getElem_inj_iff hd |>.mp hget)

section Parts

variable {pid : ℕ} {D : Device Seams World} (hD : D.Within (undisturbed pid)) {d d' : Daemon}
  {w w' : World}

theorem ensures_of_exec {α : Type} {J : CoreInv} {K : α → CoreInv} {m : DaemonM α}
    (h : ∀ d w, J d.core w.stores → ∀ a d' w', Exec D (m.run d) w (a, d') w' →
      K a d'.core w'.stores) : Ensures D anything J K m := by
  intro d w hJ
  apply wp_iff_exec.mpr
  rintro ⟨a, d'⟩ w' he
  exact h d w hJ a d' w' he

include hD

theorem inStep_upkeep : Upkeep pid D anything InStep where
  device := within_surroundings hD
  quiet := fun _ _ _ _ _ _ => trivial
  refresh := by
    intro account w r w' hd
    refine ⟨trivial, fun core h => h.of_canonical ?_⟩
    rcases (hD _ _ _ _ hd).1 with rfl | ⟨payload, rfl⟩
    · rfl
    · rfl

/-- The account that a credential is resolved to is one of the roster. -/
theorem exec_resolveAccountFor_listed {c : Credential} {resolved : Option ℕ}
    (he : Exec D ((resolveAccountFor c).run d) w (resolved, d') w') :
    ∀ i, resolved = some i → i < d.roster.length := by
  unfold resolveAccountFor at he
  rw [exec_get_bind] at he
  obtain ⟨hresolve, -⟩ := exec_state_lift_iff.mp he
  have hmay := exec_resolveAccountFor_may hD hresolve
  intro i hi
  cases hmay.2 i hi with
  | token hget _ _ => exact (List.getElem?_eq_some_iff.mp hget).1
  | display _ hposition => exact (List.findIdx?_eq_some_iff_getElem.mp hposition).1

omit hD in
theorem exec_resolveViaDisplay_listed {roster : List Account} {resolved : Option ℕ}
    (he : Exec D (Active.resolveViaDisplay roster) w resolved w') :
    ∀ i, resolved = some i → i < roster.length := by
  obtain ⟨r, w₁, -, he⟩ := exec_bind_iff.mp he
  intro i hi
  cases r with
  | error e =>
    obtain ⟨rfl, -⟩ := exec_pure_iff.mp he
    cases hi
  | ok oauth =>
    obtain ⟨rfl, -⟩ := exec_pure_iff.mp he
    exact (List.findIdx?_eq_some_iff_getElem.mp hi).1

theorem exec_resolveActive_listed {resolved : Option ℕ}
    (he : Exec D (resolveActive.run d) w (resolved, d') w') :
    ∀ i, resolved = some i → i < d.roster.length := by
  unfold resolveActive at he
  rw [exec_get_bind] at he
  obtain ⟨r, d₁, w₁, hread, he⟩ := exec_state_bind.mp he
  obtain ⟨-, hd⟩ := exec_state_lift_iff.mp hread
  dsimp only at hd
  subst hd
  cases r with
  | ok c => exact exec_resolveAccountFor_listed hD he
  | error e =>
    obtain ⟨hdisplay, -⟩ := exec_state_lift_iff.mp he
    exact exec_resolveViaDisplay_listed hdisplay

end Parts

end Sessiometer
