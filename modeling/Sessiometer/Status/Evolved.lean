import Sessiometer.Model.Evolution
import Sessiometer.Status.Snapshot

/-!
# The status contract under additive change

Beside each record: the contract's keys with those a writer may leave out, the value a reader must
find when some of them are, and that the derived reader finds it.
-/

namespace Sessiometer.Status

open Evolution

/-! ## Readers against an evolved object -/

@[simp] theorem u8_ofU8 (n : UInt8) : u8 (ofU8 n) = some n := by
  have hn := n.toNat_lt
  have hrange : (0 : Int) ≤ n.toNat ∧ (n.toNat : Int) < 256 := by omega
  simp [u8, ofU8, number, hrange]

@[simp] theorem u32_ofU32 (n : UInt32) : u32 (ofU32 n) = some n := by
  have hn := n.toNat_lt
  have hrange : (0 : Int) ≤ n.toNat ∧ (n.toNat : Int) < 4294967296 := by omega
  simp [u32, ofU32, number, hrange]

@[simp] theorem u64_ofU64 (n : UInt64) : u64 (ofU64 n) = some n := by
  have hn := n.toNat_lt
  have hrange : (0 : Int) ≤ n.toNat ∧ (n.toNat : Int) < 18446744073709551616 := by omega
  simp [u64, ofU64, number, hrange]

@[simp] theorem i64_ofI64 (n : Int64) : i64 (ofI64 n) = some n := by
  have hlow := n.le_toInt
  have hhigh := n.toInt_lt
  have hrange : (-9223372036854775808 : Int) ≤ n.toInt ∧ n.toInt < 9223372036854775808 := by omega
  simp [i64, ofI64, number, hrange]

@[simp] theorem string_string (s : String) : string (.string s) = some s := rfl

@[simp] theorem bool_bool (b : Bool) : bool (.bool b) = some b := rfl

@[simp] theorem fields_object (es : Fields) : fields (.object es) = some es := rfl

/-- A reader goes on with what it read. -/
theorem read_bind {α β : Type} {x : Option α} {a : α} {f : α → Option β} {r : Option β}
    (hx : x = some a) (h : f a = r) : (x >>= f) = r := by
  rw [hx]
  exact h

@[simp] theorem lookup_skipNone {α : Type} (key key' : String) (write : α → Value) (x : Option α) :
    (skipNone key write x).lookup key' = if key' == key then x.map write else none := by
  cases x with
  | none => simp [skipNone]
  | some x => by_cases hkey : key' == key <;> simp [skipNone, List.lookup_cons, hkey]

@[simp] theorem lookup_flag (key key' : String) (v : Value) (x : Bool) :
    List.lookup key' (if x = true then [(key, v)] else []) =
      if key' == key then (if x = true then some v else none) else none := by
  cases x with
  | false => simp
  | true => by_cases hkey : key' == key <;> simp [List.lookup_cons, hkey]

/-- What `read` makes of any evolution of what `write` wrote. -/
def Survives {α : Type} (evolves : Value → Value → Prop) (write : α → Value)
    (read : Value → Option α) (withDefaults : Value → α → α) : Prop :=
  ∀ x v', evolves (write x) v' → read v' = some (withDefaults v' x)

/-- Nothing in the value may be left out. -/
def asWritten {α : Type} (_ : Value) (x : α) : α := x

section Readers

variable {α : Type} {evolves : Value → Value → Prop} {write : α → Value} {read : Value → Option α}
  {withDefaults : Value → α → α} {es es' : Fields} {key : String}

theorem same_survives (hread : ∀ x, read (write x) = some x) : Survives Same write read asWritten := by
  intro x v' h
  rw [h]
  exact hread x

theorem required_kept (hsurvives : Survives evolves write read withDefaults)
    (h : Field.Kept ⟨key, false, evolves⟩ (.object es) (.object es')) {x : α}
    (hx : es.lookup key = some (write x)) :
    required read es' key = some (withDefaults ((es'.lookup key).getD .null) x) := by
  obtain ⟨w', hw', hevolves⟩ := h.present rfl hx
  have hget : es'.lookup key = some w' := hw'
  simp [required, hget, hsurvives x w' hevolves]

theorem required_same (hread : ∀ x, read (write x) = some x)
    (h : Field.Kept ⟨key, false, Same⟩ (.object es) (.object es')) {x : α}
    (hx : es.lookup key = some (write x)) : required read es' key = some x :=
  required_kept (same_survives hread) h hx

theorem defaulted_kept (hsurvives : Survives evolves write read asWritten) {d : α}
    (h : Field.Kept ⟨key, true, evolves⟩ (.object es) (.object es')) {x : α}
    (hx : es.lookup key = some (write x)) :
    defaulted read d es' key = some (orDefault (.object es') key d x) := by
  obtain hnone | ⟨w', hw', hevolves⟩ := h.omitted_or hx
  · have hget : es'.lookup key = none := hnone
    simp [defaulted, orDefault, hnone, hget]
  · have hget : es'.lookup key = some w' := hw'
    simp [defaulted, orDefault, hw', hget, hsurvives x w' hevolves, asWritten]

theorem optional_kept (hsurvives : Survives evolves write read withDefaults)
    (hstable : NullStable evolves) (hwrite : ∀ x, write x ≠ .null)
    (h : Field.Kept ⟨key, true, evolves⟩ (.object es) (.object es')) {x : Option α}
    (hx : es.lookup key = some (nullable write x) ∨ es.lookup key = x.map write) :
    optional read es' key = some (within (.object es') key withDefaults x) := by
  by_cases hnone : es.lookup key = none
  · have habsent : es'.lookup key = none := h.absent hnone
    have habsent' : (Value.object es').get key = none := habsent
    simp [optional, within, habsent, habsent']
  · obtain ⟨w, hw⟩ := Option.ne_none_iff_exists'.mp hnone
    obtain homitted | ⟨w', hw', hevolves⟩ := h.omitted_or hw
    · have hget : es'.lookup key = none := homitted
      simp [optional, within, homitted, hget]
    · have hget : es'.lookup key = some w' := hw'
      cases x with
      | none =>
        have hnull : w = .null := by
          rw [hw] at hx
          simpa [nullable] using hx
        have hnull' : w' = .null := (hstable w w' hevolves).mpr hnull
        simp [optional, within, hget, hw', hnull']
      | some y =>
        have hwritten : w = write y := by
          rw [hw] at hx
          simpa [nullable] using hx
        have hne : w' ≠ .null := by
          intro hnull
          exact hwrite y (hwritten ▸ (hstable w w' hevolves).mp hnull)
        have hread := hsurvives y w' (hwritten ▸ hevolves)
        simp [optional, within, hget, hw', hread]

theorem array_survives (hsurvives : Survives evolves write read withDefaults) :
    Survives (EachItem evolves) (fun xs => .array (xs.map write)) (array read)
      (fun v' => eachWithin v' withDefaults) := by
  rintro xs v' ⟨items', rfl, hitems⟩
  simp only [array, eachWithin]
  induction xs generalizing items' with
  | nil =>
    have hnil : items' = [] := by simpa using hitems
    simp [hnil]
  | cons x xs ih =>
    obtain ⟨w', rest', hw', hrest, rfl⟩ := List.forall₂_cons_left_iff.mp hitems
    simp [hsurvives x w' hw', ih rest' hrest]

end Readers

/-! ## Records nothing may be left out of -/

/-- The keys of an object the contract wants whole. -/
def whole (keys : List String) : Value → Value → Prop :=
  Record (keys.map fun key => ⟨key, false, Same⟩)

theorem whole_lookup {keys : List String} {es : Fields} {v' : Value} (h : whole keys (.object es) v') :
    ∃ es' : Fields, v' = .object es' ∧ ∀ key ∈ keys, es'.lookup key = es.lookup key := by
  obtain ⟨es', rfl, hkept⟩ := h.object
  refine ⟨es', rfl, fun key hkey => ?_⟩
  have hfield := hkept ⟨key, false, Same⟩ (List.mem_map.mpr ⟨key, hkey, rfl⟩)
  exact hfield.get_eq

theorem required_whole {α : Type} {write : α → Value} {read : Value → Option α} {es es' : Fields}
    {key : String} (hread : ∀ x, read (write x) = some x) (hsame : es'.lookup key = es.lookup key)
    {x : α} (hx : es.lookup key = some (write x)) : required read es' key = some x := by
  rw [required, hsame, hx]
  exact hread x

theorem whole_refl (keys : List String) (v : Value) : whole keys v v := by
  apply record_refl
  intro f hf w
  obtain ⟨key, -, rfl⟩ := List.mem_map.mp hf
  exact same_refl w

namespace SchemaVersion

def contract : Value → Value → Prop := whole ["major", "minor"]

theorem survives : Survives contract encode decode asWritten := by
  intro s v' h
  obtain ⟨es', rfl, hsame⟩ := whole_lookup h
  have hmajor : required u32 es' "major" = some s.major :=
    required_whole u32_ofU32 (hsame _ (by simp)) (by simp)
  have hminor : required u32 es' "minor" = some s.minor :=
    required_whole u32_ofU32 (hsame _ (by simp)) (by simp [List.lookup_cons])
  simp [decode, hmajor, hminor, asWritten]

end SchemaVersion

namespace BlindActive

def contract : Value → Value → Prop :=
  whole ["blind_secs", "last_known_session_pct", "auto_protection_degraded"]

theorem survives : Survives contract encode decode asWritten := by
  intro b v' h
  obtain ⟨es', rfl, hsame⟩ := whole_lookup h
  have hsecs : required u64 es' "blind_secs" = some b.blindSecs :=
    required_whole u64_ofU64 (hsame _ (by simp)) (by simp)
  have hpct : required u8 es' "last_known_session_pct" = some b.lastKnownSessionPct :=
    required_whole u8_ofU8 (hsame _ (by simp)) (by simp [List.lookup_cons])
  have hdegraded : required bool es' "auto_protection_degraded" = some b.autoProtectionDegraded :=
    required_whole bool_bool (hsame _ (by simp)) (by simp [List.lookup_cons])
  simp [decode, hsecs, hpct, hdegraded, asWritten]

end BlindActive

namespace BlindPreemptSwap

def contract : Value → Value → Prop := whole ["from_label", "to_label", "last_known_session_pct"]

theorem survives : Survives contract encode decode asWritten := by
  intro b v' h
  obtain ⟨es', rfl, hsame⟩ := whole_lookup h
  simp [decode, required, hsame, List.lookup_cons, asWritten]

end BlindPreemptSwap

namespace LandingOvershoot

def contract : Value → Value → Prop := whole ["from_label", "decision_pct", "landing_pct"]

theorem survives : Survives contract encode decode asWritten := by
  intro l v' h
  obtain ⟨es', rfl, hsame⟩ := whole_lookup h
  simp [decode, required, hsame, List.lookup_cons, asWritten]

end LandingOvershoot

namespace ExpiryCohort

def contract : Value → Value → Prop := whole ["size", "observed", "earliest", "span_secs"]

theorem survives : Survives contract encode decode asWritten := by
  intro c v' h
  obtain ⟨es', rfl, hsame⟩ := whole_lookup h
  have hsize : required u32 es' "size" = some c.size :=
    required_whole u32_ofU32 (hsame _ (by simp)) (by simp)
  have hobserved : required u32 es' "observed" = some c.observed :=
    required_whole u32_ofU32 (hsame _ (by simp)) (by simp [List.lookup_cons])
  have hearliest : required i64 es' "earliest" = some c.earliest :=
    required_whole i64_ofI64 (hsame _ (by simp)) (by simp [List.lookup_cons])
  have hspan : required i64 es' "span_secs" = some c.spanSecs :=
    required_whole i64_ofI64 (hsame _ (by simp)) (by simp [List.lookup_cons])
  simp [decode, hsize, hobserved, hearliest, hspan, asWritten]

end ExpiryCohort

namespace CanonicalScrub

def contract : Value → Value → Prop := whole ["state"]

theorem survives : Survives contract encode decode asWritten := by
  intro s v' h
  obtain ⟨es', rfl, hsame⟩ := whole_lookup h
  cases s <;> simp [decode, required, hsame, asWritten, state]

end CanonicalScrub

namespace CanaryStatus

def contract : Value → Value → Prop :=
  whole ["verdict", "count", "displayed", "matched", "overridden"]

theorem survives : Survives contract encode decode asWritten := by
  intro c v' h
  by_cases hcount : ∃ count, c = ambiguous count
  · obtain ⟨count, rfl⟩ := hcount
    obtain ⟨es', rfl, hsame⟩ := whole_lookup h
    have hverdict : required string es' "verdict" = some "ambiguous" :=
      required_whole string_string (hsame _ (by simp)) (by simp)
    have hcount : required u64 es' "count" = some count :=
      required_whole u64_ofU64 (hsame _ (by simp)) (by simp [List.lookup_cons])
    simp [decode, hverdict, hcount, asWritten]
  cases c with
  | ambiguous count => exact absurd ⟨count, rfl⟩ hcount
  | _ =>
    obtain ⟨es', rfl, hsame⟩ := whole_lookup h
    simp [decode, required, hsame, List.lookup_cons, asWritten]

end CanaryStatus

namespace NextSwapReason

def contract : Value → Value → Prop := whole ["kind", "resets_at"]

theorem survives : Survives contract encode decode asWritten := by
  intro r v' h
  cases r <;> obtain ⟨es', rfl, hsame⟩ := whole_lookup h <;>
    simp [decode, required, hsame, List.lookup_cons, asWritten]

end NextSwapReason

@[simp] theorem CredentialHealth.decode_encode (h : CredentialHealth) :
    CredentialHealth.decode h.encode = some h := by
  cases h <;> simp [CredentialHealth.encode, CredentialHealth.decode, CredentialHealth.token]

@[simp] theorem ExpiryHorizon.decode_encode (h : ExpiryHorizon) :
    ExpiryHorizon.decode h.encode = some h := by
  cases h <;> simp [ExpiryHorizon.encode, ExpiryHorizon.decode, ExpiryHorizon.token]

@[simp] theorem NoTargetCause.decode_encode (c : NoTargetCause) :
    NoTargetCause.decode c.encode = some c := by
  cases c <;> simp [NoTargetCause.encode, NoTargetCause.decode, NoTargetCause.token]

@[simp] theorem SystemicRefreshSource.decode_encode (s : SystemicRefreshSource) :
    SystemicRefreshSource.decode s.encode = some s := by
  cases s <;> simp [SystemicRefreshSource.encode, SystemicRefreshSource.decode,
    SystemicRefreshSource.token]

/-! ## Records with optional and defaulted keys -/

theorem string_ne_null (s : String) : Value.string s ≠ .null := by simp

theorem bool_ne_null (b : Bool) : Value.bool b ≠ .null := by simp

theorem ofU8_ne_null (n : UInt8) : ofU8 n ≠ .null := by simp [ofU8]

theorem ofU32_ne_null (n : UInt32) : ofU32 n ≠ .null := by simp [ofU32]

theorem ofI64_ne_null (n : Int64) : ofI64 n ≠ .null := by simp [ofI64]

/-- An optional field whose value the contract does not look into. -/
theorem optional_same {α : Type} {write : α → Value} {read : Value → Option α} {es es' : Fields}
    {key : String} (hread : ∀ x, read (write x) = some x) (hwrite : ∀ x, write x ≠ .null)
    (h : Field.Kept ⟨key, true, Same⟩ (.object es) (.object es')) {x : Option α}
    (hx : es.lookup key = some (nullable write x) ∨ es.lookup key = x.map write) :
    optional read es' key = some (within (.object es') key asWritten x) :=
  optional_kept (same_survives hread) same_nullStable hwrite h hx

namespace RefreshHealth

def contract : Value → Value → Prop :=
  Record [⟨"last_ok", false, Same⟩, ⟨"rotated", true, Same⟩,
    ⟨"consecutive_failures", false, Same⟩]

def withDefaults (v' : Value) (h : RefreshHealth) : RefreshHealth :=
  { h with rotated := within v' "rotated" asWritten h.rotated }

theorem survives : Survives contract encode decode withDefaults := by
  intro r v' h
  obtain ⟨es', rfl, hkept⟩ := h.object
  simp only [List.forall_mem_cons] at hkept
  obtain ⟨hok, hrotated, hfailures, -⟩ := hkept
  have hok := required_same bool_bool hok (x := r.lastOk) (by simp)
  have hrotated := optional_same bool_bool bool_ne_null hrotated (x := r.rotated)
    (.inr (by simp [List.lookup_cons, List.lookup_append]))
  have hfailures := required_same u32_ofU32 hfailures (x := r.consecutiveFailures)
    (by simp [List.lookup_cons, List.lookup_append])
  simp [decode, hok, hrotated, hfailures, withDefaults]

end RefreshHealth

namespace AccountExpiry

def contract : Value → Value → Prop :=
  Record [⟨"expires_at", true, Same⟩, ⟨"horizon_state", true, Same⟩, ⟨"cohort_id", true, Same⟩]

def withDefaults (v' : Value) (e : AccountExpiry) : AccountExpiry :=
  { expiresAt := within v' "expires_at" asWritten e.expiresAt
    horizonState := orDefault v' "horizon_state" .unknown e.horizonState
    cohortId := within v' "cohort_id" asWritten e.cohortId }

theorem survives : Survives contract encode decode withDefaults := by
  intro e v' h
  obtain ⟨es', rfl, hkept⟩ := h.object
  simp only [List.forall_mem_cons] at hkept
  obtain ⟨hexpires, hhorizon, hcohort, -⟩ := hkept
  have hexpires := optional_same i64_ofI64 ofI64_ne_null hexpires (x := e.expiresAt)
    (.inl (by simp))
  have hhorizon := defaulted_kept (same_survives ExpiryHorizon.decode_encode)
    (d := .unknown) hhorizon (x := e.horizonState) (by simp [List.lookup_cons])
  have hcohort := optional_same u32_ofU32 ofU32_ne_null hcohort (x := e.cohortId)
    (.inr (by simp [List.lookup_cons]))
  simp [decode, hexpires, hhorizon, hcohort, withDefaults]

end AccountExpiry

namespace NextSwap

def contract : Value → Value → Prop :=
  Record [⟨"state", false, Same⟩, ⟨"to", false, Same⟩, ⟨"reason", true, NextSwapReason.contract⟩,
    ⟨"cause", true, Same⟩, ⟨"resets_at", true, Same⟩]

def withDefaults (v' : Value) : NextSwap → NextSwap
  | target to' reason => .target to' (within v' "reason" asWritten reason)
  | noViableTarget cause resetsAt =>
    .noViableTarget (within v' "cause" asWritten cause) (within v' "resets_at" asWritten resetsAt)
  | awaitingData => .awaitingData

theorem survives : Survives contract encode decode withDefaults := by
  intro n v' h
  cases n with
  | target to' reason =>
    obtain ⟨es', rfl, hkept⟩ := h.object
    simp only [List.forall_mem_cons] at hkept
    obtain ⟨hstate, hto, hreason, -⟩ := hkept
    have hstate := required_same string_string hstate (x := "target") (by simp)
    have hto := required_same string_string hto (x := to') (by simp [List.lookup_cons])
    have hreason := optional_kept NextSwapReason.survives (record_nullStable _)
      (fun r => by cases r <;> simp [NextSwapReason.encode]) hreason (x := reason)
      (.inl (by simp [List.lookup_cons]))
    simp [decode, hstate, hto, hreason, withDefaults]
  | noViableTarget cause resetsAt =>
    obtain ⟨es', rfl, hkept⟩ := h.object
    simp only [List.forall_mem_cons] at hkept
    obtain ⟨hstate, -, -, hcause, hresets, -⟩ := hkept
    have hstate := required_same string_string hstate (x := "no_viable_target")
      (by simp)
    have hcause := optional_same NoTargetCause.decode_encode
      (fun c => by simp [NoTargetCause.encode]) hcause (x := cause) (.inl (by simp [List.lookup_cons]))
    have hresets := optional_same i64_ofI64 ofI64_ne_null hresets (x := resetsAt)
      (.inl (by simp [List.lookup_cons]))
    simp [decode, hstate, hcause, hresets, withDefaults]
  | awaitingData =>
    obtain ⟨es', rfl, hkept⟩ := h.object
    simp only [List.forall_mem_cons] at hkept
    have hstate := required_same string_string hkept.1 (x := "awaiting_data") (by simp)
    simp [decode, hstate, withDefaults]

end NextSwap

namespace AccountStatusLine

def contract : Value → Value → Prop :=
  Record [⟨"label", false, Same⟩, ⟨"active", false, Same⟩, ⟨"enabled", false, Same⟩,
    ⟨"quarantined", false, Same⟩, ⟨"recovering", true, Same⟩, ⟨"session_pct", true, Same⟩,
    ⟨"weekly_pct", true, Same⟩, ⟨"session_resets_at", true, Same⟩,
    ⟨"weekly_resets_at", true, Same⟩, ⟨"weekly_exhausted", true, Same⟩,
    ⟨"access_expires_at", true, Same⟩, ⟨"refresh_health", true, RefreshHealth.contract⟩,
    ⟨"auth", true, Same⟩, ⟨"blind_active", true, BlindActive.contract⟩,
    ⟨"expiry", true, AccountExpiry.contract⟩]

def withDefaults (v' : Value) (a : AccountStatusLine) : AccountStatusLine :=
  { a with
    recovering := orDefault v' "recovering" false a.recovering
    sessionPct := within v' "session_pct" asWritten a.sessionPct
    weeklyPct := within v' "weekly_pct" asWritten a.weeklyPct
    sessionResetsAt := within v' "session_resets_at" asWritten a.sessionResetsAt
    weeklyResetsAt := within v' "weekly_resets_at" asWritten a.weeklyResetsAt
    weeklyExhausted := orDefault v' "weekly_exhausted" false a.weeklyExhausted
    accessExpiresAt := within v' "access_expires_at" asWritten a.accessExpiresAt
    refreshHealth := within v' "refresh_health" RefreshHealth.withDefaults a.refreshHealth
    health := within v' "auth" asWritten a.health
    blindActive := within v' "blind_active" asWritten a.blindActive
    expiry := within v' "expiry" AccountExpiry.withDefaults a.expiry }

theorem survives : Survives contract encode decode withDefaults := by
  intro a v' h
  obtain ⟨es', rfl, hkept⟩ := h.object
  simp only [List.forall_mem_cons] at hkept
  obtain ⟨hlabel, hactive, henabled, hquarantined, hrecovering, hsession, hweekly, hsessionAt,
    hweeklyAt, hexhausted, haccess, hrefresh, hauth, hblind, hexpiry, -⟩ := hkept
  have hlabel := required_same string_string hlabel (x := a.label)
    (by simp)
  have hactive := required_same bool_bool hactive (x := a.active)
    (by simp [List.lookup_cons])
  have henabled := required_same bool_bool henabled (x := a.enabled)
    (by simp [List.lookup_cons])
  have hquarantined := required_same bool_bool hquarantined (x := a.quarantined)
    (by simp [List.lookup_cons])
  have hrecovering := defaulted_kept (same_survives bool_bool) (d := false) hrecovering
    (x := a.recovering) (by simp [List.lookup_cons])
  have hsession := optional_same u8_ofU8 ofU8_ne_null hsession (x := a.sessionPct)
    (.inl (by simp [List.lookup_cons]))
  have hweekly := optional_same u8_ofU8 ofU8_ne_null hweekly (x := a.weeklyPct)
    (.inl (by simp [List.lookup_cons]))
  have hsessionAt := optional_same i64_ofI64 ofI64_ne_null hsessionAt (x := a.sessionResetsAt)
    (.inl (by simp [List.lookup_cons]))
  have hweeklyAt := optional_same i64_ofI64 ofI64_ne_null hweeklyAt (x := a.weeklyResetsAt)
    (.inl (by simp [List.lookup_cons]))
  have hexhausted := defaulted_kept (same_survives bool_bool) (d := false) hexhausted
    (x := a.weeklyExhausted) (by simp [List.lookup_cons])
  have haccess := optional_same i64_ofI64 ofI64_ne_null haccess (x := a.accessExpiresAt)
    (.inl (by simp [List.lookup_cons]))
  have hrefresh := optional_kept RefreshHealth.survives (record_nullStable _)
    (fun r => by simp [RefreshHealth.encode]) hrefresh (x := a.refreshHealth)
    (.inl (by simp [List.lookup_cons]))
  have hauth := optional_same CredentialHealth.decode_encode
    (fun c => by simp [CredentialHealth.encode]) hauth (x := a.health)
    (.inl (by simp [List.lookup_cons]))
  have hblind := optional_kept BlindActive.survives (record_nullStable _)
    (fun b => by simp [BlindActive.encode]) hblind (x := a.blindActive)
    (.inr (by simp [List.lookup_cons, List.lookup_append]))
  have hexpiry := optional_kept AccountExpiry.survives (record_nullStable _)
    (fun e => by simp [AccountExpiry.encode]) hexpiry (x := a.expiry)
    (.inr (by simp [List.lookup_cons, List.lookup_append]))
  unfold decode
  exact read_bind rfl <| read_bind hlabel <| read_bind hactive <| read_bind henabled <|
    read_bind hquarantined <| read_bind hrecovering <| read_bind hsession <| read_bind hweekly <|
    read_bind hsessionAt <| read_bind hweeklyAt <| read_bind hexhausted <| read_bind haccess <|
    read_bind hrefresh <| read_bind hauth <| read_bind hblind <| read_bind hexpiry rfl

end AccountStatusLine

/-! ## The envelope and its frames -/

/-- A flag written only when it is set. -/
theorem flag_kept {es es' : Fields} {key : String} {x : Bool}
    (h : Field.Kept ⟨key, true, Same⟩ (.object es) (.object es'))
    (hx : es.lookup key = if x then some (.bool true) else none) :
    defaulted bool false es' key = some (orDefault (.object es') key false x) := by
  cases x with
  | true => exact defaulted_kept (same_survives bool_bool) h hx
  | false =>
    have habsent : (Value.object es').get key = none := h.absent hx
    have hget : es'.lookup key = none := habsent
    simp [defaulted, orDefault, habsent, hget]

namespace StatusResponse

def contract : List Field :=
  [⟨"accounts", false, EachItem AccountStatusLine.contract⟩,
    ⟨"next_swap", true, NextSwap.contract⟩, ⟨"refresh_enabled", true, Same⟩,
    ⟨"systemic_refresh_failure", true, Same⟩, ⟨"systemic_refresh_source", true, Same⟩,
    ⟨"canonical_scrub", true, CanonicalScrub.contract⟩, ⟨"keychain_locked", true, Same⟩,
    ⟨"recent_blind_preempt_swap", true, BlindPreemptSwap.contract⟩,
    ⟨"recent_landing_overshoot", true, LandingOvershoot.contract⟩,
    ⟨"canary", true, CanaryStatus.contract⟩, ⟨"expiry_cohort", true, ExpiryCohort.contract⟩]

def withDefaults (v' : Value) (r : StatusResponse) : StatusResponse :=
  { accounts := eachWithin ((v'.get "accounts").getD .null) AccountStatusLine.withDefaults r.accounts
    nextSwap := within v' "next_swap" NextSwap.withDefaults r.nextSwap
    refreshEnabled := within v' "refresh_enabled" asWritten r.refreshEnabled
    systemicRefreshFailure :=
      within v' "systemic_refresh_failure" asWritten r.systemicRefreshFailure
    systemicRefreshSource := within v' "systemic_refresh_source" asWritten r.systemicRefreshSource
    canonicalScrub := within v' "canonical_scrub" asWritten r.canonicalScrub
    keychainLocked := orDefault v' "keychain_locked" false r.keychainLocked
    recentBlindPreemptSwap :=
      within v' "recent_blind_preempt_swap" asWritten r.recentBlindPreemptSwap
    recentLandingOvershoot :=
      within v' "recent_landing_overshoot" asWritten r.recentLandingOvershoot
    canary := within v' "canary" asWritten r.canary
    expiryCohort := within v' "expiry_cohort" asWritten r.expiryCohort }

theorem ofFields_kept {r : StatusResponse} {es es' : Fields}
    (hwritten : ∀ f ∈ contract, es.lookup f.key = r.entries.lookup f.key)
    (hkept : ∀ f ∈ contract, f.Kept (.object es) (.object es')) :
    ofFields es' = some (r.withDefaults (.object es')) := by
  simp only [contract, List.forall_mem_cons] at hkept hwritten
  obtain ⟨haccounts, hnext, hrefresh, hsystemic, hsource, hscrub, hlocked, hblind, hlanding,
    hcanary, hcohort, -⟩ := hkept
  obtain ⟨waccounts, wnext, wrefresh, wsystemic, wsource, wscrub, wlocked, wblind, wlanding,
    wcanary, wcohort, -⟩ := hwritten
  have haccounts := required_kept (array_survives AccountStatusLine.survives) haccounts
    (x := r.accounts) (by simp [waccounts, entries])
  have hnext := optional_kept NextSwap.survives (record_nullStable _)
    (fun n => by cases n <;> simp [NextSwap.encode]) hnext (x := r.nextSwap)
    (.inl (by simp [wnext, entries, List.lookup_cons]))
  have hrefresh := optional_same bool_bool bool_ne_null hrefresh (x := r.refreshEnabled)
    (.inl (by simp [wrefresh, entries, List.lookup_cons]))
  have hsystemic := optional_same u32_ofU32 ofU32_ne_null hsystemic (x := r.systemicRefreshFailure)
    (.inl (by simp [wsystemic, entries, List.lookup_cons]))
  have hsource := optional_same SystemicRefreshSource.decode_encode
    (fun s => by simp [SystemicRefreshSource.encode]) hsource (x := r.systemicRefreshSource)
    (.inr (by simp [wsource, entries, List.lookup_cons, List.lookup_append]))
  have hscrub := optional_kept CanonicalScrub.survives (record_nullStable _)
    (fun s => by simp [CanonicalScrub.encode]) hscrub (x := r.canonicalScrub)
    (.inr (by simp [wscrub, entries, List.lookup_cons, List.lookup_append]))
  have hlocked := flag_kept hlocked (x := r.keychainLocked)
    (by simp [wlocked, entries, List.lookup_cons, List.lookup_append])
  have hblind := optional_kept BlindPreemptSwap.survives (record_nullStable _)
    (fun b => by simp [BlindPreemptSwap.encode]) hblind (x := r.recentBlindPreemptSwap)
    (.inr (by simp [wblind, entries, List.lookup_cons, List.lookup_append]))
  have hlanding := optional_kept LandingOvershoot.survives (record_nullStable _)
    (fun l => by simp [LandingOvershoot.encode]) hlanding (x := r.recentLandingOvershoot)
    (.inr (by simp [wlanding, entries, List.lookup_cons, List.lookup_append]))
  have hcanary := optional_kept CanaryStatus.survives (record_nullStable _)
    (fun c => by cases c <;> simp [CanaryStatus.encode]) hcanary (x := r.canary)
    (.inr (by simp [wcanary, entries, List.lookup_cons, List.lookup_append]))
  have hcohort := optional_kept ExpiryCohort.survives (record_nullStable _)
    (fun c => by simp [ExpiryCohort.encode]) hcohort (x := r.expiryCohort)
    (.inr (by simp [wcohort, entries, List.lookup_cons, List.lookup_append]))
  unfold ofFields
  exact read_bind haccounts <| read_bind hnext <| read_bind hrefresh <| read_bind hsystemic <|
    read_bind hsource <| read_bind hscrub <| read_bind hlocked <| read_bind hblind <|
    read_bind hlanding <| read_bind hcanary <| read_bind hcohort rfl

end StatusResponse

namespace VersionedStatus

def contract : List Field :=
  [⟨"schema_version", true, SchemaVersion.contract⟩, ⟨"generated_at", true, Same⟩] ++
    StatusResponse.contract

def withDefaults (v' : Value) (s : VersionedStatus) : VersionedStatus :=
  { schemaVersion := orDefault v' "schema_version" .default s.schemaVersion
    generatedAt := orDefault v' "generated_at" 0 s.generatedAt
    status := s.status.withDefaults v' }

theorem decode_kept {s : VersionedStatus} {es es' : Fields}
    (hwritten : ∀ f ∈ contract, es.lookup f.key = s.entries.lookup f.key)
    (hkept : ∀ f ∈ contract, f.Kept (.object es) (.object es')) :
    decode (.object es') = some (s.withDefaults (.object es')) := by
  have hpayload : ∀ f ∈ StatusResponse.contract,
      s.entries.lookup f.key = s.status.entries.lookup f.key := by
    simp [StatusResponse.contract, entries, List.lookup_cons]
  have hstatus := StatusResponse.ofFields_kept (r := s.status)
    (fun f hf => (hwritten f (List.mem_append_right _ hf)).trans (hpayload f hf))
    (fun f hf => hkept f (List.mem_append_right _ hf))
  have hversion := defaulted_kept SchemaVersion.survives (d := .default)
    (hkept ⟨"schema_version", true, SchemaVersion.contract⟩ (by simp [contract]))
    (x := s.schemaVersion) (by simp [hwritten _ (List.mem_cons_self ..), entries])
  have hgenerated := defaulted_kept (same_survives i64_ofI64) (d := 0)
    (hkept ⟨"generated_at", true, Same⟩ (by simp [contract])) (x := s.generatedAt)
    (by simp [hwritten _ (List.mem_cons_of_mem _ (List.mem_cons_self ..)), entries, List.lookup_cons])
  simp [decode, hversion, hgenerated, hstatus, withDefaults]

end VersionedStatus

/-! ## Nothing left out -/

section Written

variable {α : Type} {inner : Value → α → α} {v : Value} {key : String}

theorem within_written (write : α → Value) (hinner : ∀ y, inner (write y) y = y) {x : Option α}
    (h : v.get key = some (nullable write x) ∨ v.get key = x.map write) :
    within v key inner x = x := by
  cases x with
  | none => cases hv : v.get key <;> simp [within, hv]
  | some y =>
    have hv : v.get key = some (write y) := by simpa [nullable] using h
    simp [within, hv, hinner]

theorem within_asWritten (write : α → Value) {x : Option α}
    (h : v.get key = some (nullable write x) ∨ v.get key = x.map write) :
    within v key asWritten x = x := within_written write (fun _ => rfl) h

theorem eachWithin_written (write : α → Value) (hinner : ∀ y, inner (write y) y = y) (xs : List α) :
    eachWithin (.array (xs.map write)) inner xs = xs := by
  induction xs with
  | nil => rfl
  | cons x xs ih =>
    simp only [eachWithin] at ih
    simp [eachWithin, hinner, ih]

end Written

namespace RefreshHealth

theorem withDefaults_encode (h : RefreshHealth) : h.withDefaults h.encode = h := by
  have hrotated : within h.encode "rotated" asWritten h.rotated = h.rotated :=
    within_asWritten .bool (.inr (by simp [encode, Value.get, List.lookup_cons, List.lookup_append]))
  simp [withDefaults, hrotated]

end RefreshHealth

namespace AccountExpiry

theorem withDefaults_encode (e : AccountExpiry) : e.withDefaults e.encode = e := by
  have hexpires : within e.encode "expires_at" asWritten e.expiresAt = e.expiresAt :=
    within_asWritten ofI64 (.inl (by simp [encode, Value.get]))
  have hcohort : within e.encode "cohort_id" asWritten e.cohortId = e.cohortId :=
    within_asWritten ofU32 (.inr (by simp [encode, Value.get, List.lookup_cons]))
  have hhorizon : orDefault e.encode "horizon_state" .unknown e.horizonState = e.horizonState := by
    simp [orDefault, encode, Value.get, List.lookup_cons]
  simp [withDefaults, hexpires, hcohort, hhorizon]

end AccountExpiry

namespace NextSwap

theorem withDefaults_encode (n : NextSwap) : n.withDefaults n.encode = n := by
  cases n with
  | target to' reason =>
    simp only [withDefaults, target.injEq, true_and]
    exact within_asWritten NextSwapReason.encode (.inl (by simp [encode, Value.get, List.lookup_cons]))
  | noViableTarget cause resetsAt =>
    simp only [withDefaults, noViableTarget.injEq]
    constructor
    · exact within_asWritten NoTargetCause.encode (.inl (by simp [encode, Value.get, List.lookup_cons]))
    · exact within_asWritten ofI64 (.inl (by simp [encode, Value.get, List.lookup_cons]))
  | awaitingData => rfl

end NextSwap

namespace AccountStatusLine

theorem withDefaults_encode (a : AccountStatusLine) : a.withDefaults a.encode = a := by
  have hsession : within a.encode "session_pct" asWritten a.sessionPct = a.sessionPct :=
    within_asWritten ofU8 (.inl (by simp [encode, Value.get, List.lookup_cons]))
  have hweekly : within a.encode "weekly_pct" asWritten a.weeklyPct = a.weeklyPct :=
    within_asWritten ofU8 (.inl (by simp [encode, Value.get, List.lookup_cons]))
  have hsessionAt : within a.encode "session_resets_at" asWritten a.sessionResetsAt =
      a.sessionResetsAt :=
    within_asWritten ofI64 (.inl (by simp [encode, Value.get, List.lookup_cons]))
  have hweeklyAt : within a.encode "weekly_resets_at" asWritten a.weeklyResetsAt =
      a.weeklyResetsAt :=
    within_asWritten ofI64 (.inl (by simp [encode, Value.get, List.lookup_cons]))
  have haccess : within a.encode "access_expires_at" asWritten a.accessExpiresAt =
      a.accessExpiresAt :=
    within_asWritten ofI64 (.inl (by simp [encode, Value.get, List.lookup_cons]))
  have hrefresh : within a.encode "refresh_health" RefreshHealth.withDefaults a.refreshHealth =
      a.refreshHealth :=
    within_written RefreshHealth.encode RefreshHealth.withDefaults_encode
      (.inl (by simp [encode, Value.get, List.lookup_cons]))
  have hauth : within a.encode "auth" asWritten a.health = a.health :=
    within_asWritten CredentialHealth.encode (.inl (by simp [encode, Value.get, List.lookup_cons]))
  have hblind : within a.encode "blind_active" asWritten a.blindActive = a.blindActive :=
    within_asWritten BlindActive.encode
      (.inr (by simp [encode, Value.get, List.lookup_cons, List.lookup_append]))
  have hexpiry : within a.encode "expiry" AccountExpiry.withDefaults a.expiry = a.expiry :=
    within_written AccountExpiry.encode AccountExpiry.withDefaults_encode
      (.inr (by simp [encode, Value.get, List.lookup_cons, List.lookup_append]))
  have hrecovering : orDefault a.encode "recovering" false a.recovering = a.recovering := by
    simp [orDefault, encode, Value.get, List.lookup_cons]
  have hexhausted : orDefault a.encode "weekly_exhausted" false a.weeklyExhausted =
      a.weeklyExhausted := by
    simp [orDefault, encode, Value.get, List.lookup_cons]
  simp [withDefaults, hsession, hweekly, hsessionAt, hweeklyAt, haccess, hrefresh, hauth, hblind,
    hexpiry, hrecovering, hexhausted]

end AccountStatusLine

namespace StatusResponse

theorem withDefaults_written {r : StatusResponse} {es : Fields}
    (hwritten : ∀ f ∈ contract, es.lookup f.key = r.entries.lookup f.key) :
    r.withDefaults (.object es) = r := by
  simp only [contract, List.forall_mem_cons] at hwritten
  obtain ⟨waccounts, wnext, wrefresh, wsystemic, wsource, wscrub, wlocked, wblind, wlanding,
    wcanary, wcohort, -⟩ := hwritten
  have haccounts : eachWithin (((Value.object es).get "accounts").getD .null)
      AccountStatusLine.withDefaults r.accounts = r.accounts := by
    have hget : (Value.object es).get "accounts" =
        some (.array (r.accounts.map AccountStatusLine.encode)) := by
      simp [Value.get, waccounts, entries]
    rw [hget]
    exact eachWithin_written _ AccountStatusLine.withDefaults_encode _
  have hnext : within (.object es) "next_swap" NextSwap.withDefaults r.nextSwap = r.nextSwap :=
    within_written NextSwap.encode NextSwap.withDefaults_encode
      (.inl (by simp [Value.get, wnext, entries, List.lookup_cons]))
  have hrefresh : within (.object es) "refresh_enabled" asWritten r.refreshEnabled =
      r.refreshEnabled :=
    within_asWritten .bool (.inl (by simp [Value.get, wrefresh, entries, List.lookup_cons]))
  have hsystemic : within (.object es) "systemic_refresh_failure" asWritten
      r.systemicRefreshFailure = r.systemicRefreshFailure :=
    within_asWritten ofU32 (.inl (by simp [Value.get, wsystemic, entries, List.lookup_cons]))
  have hsource : within (.object es) "systemic_refresh_source" asWritten
      r.systemicRefreshSource = r.systemicRefreshSource :=
    within_asWritten SystemicRefreshSource.encode
      (.inr (by simp [Value.get, wsource, entries, List.lookup_cons, List.lookup_append]))
  have hscrub : within (.object es) "canonical_scrub" asWritten r.canonicalScrub =
      r.canonicalScrub :=
    within_asWritten CanonicalScrub.encode
      (.inr (by simp [Value.get, wscrub, entries, List.lookup_cons, List.lookup_append]))
  have hlocked : orDefault (.object es) "keychain_locked" false r.keychainLocked =
      r.keychainLocked := by
    cases hl : r.keychainLocked <;>
      simp [orDefault, Value.get, wlocked, entries, List.lookup_cons, List.lookup_append, hl]
  have hblind : within (.object es) "recent_blind_preempt_swap" asWritten
      r.recentBlindPreemptSwap = r.recentBlindPreemptSwap :=
    within_asWritten BlindPreemptSwap.encode
      (.inr (by simp [Value.get, wblind, entries, List.lookup_cons, List.lookup_append]))
  have hlanding : within (.object es) "recent_landing_overshoot" asWritten
      r.recentLandingOvershoot = r.recentLandingOvershoot :=
    within_asWritten LandingOvershoot.encode
      (.inr (by simp [Value.get, wlanding, entries, List.lookup_cons, List.lookup_append]))
  have hcanary : within (.object es) "canary" asWritten r.canary = r.canary :=
    within_asWritten CanaryStatus.encode
      (.inr (by simp [Value.get, wcanary, entries, List.lookup_cons, List.lookup_append]))
  have hcohort : within (.object es) "expiry_cohort" asWritten r.expiryCohort = r.expiryCohort :=
    within_asWritten ExpiryCohort.encode
      (.inr (by simp [Value.get, wcohort, entries, List.lookup_cons, List.lookup_append]))
  simp only [withDefaults, haccounts, hnext, hrefresh, hsystemic, hsource, hscrub, hlocked, hblind,
    hlanding, hcanary, hcohort]

end StatusResponse

theorem VersionedStatus.withDefaults_written {s : VersionedStatus} {es : Fields}
    (hwritten : ∀ f ∈ contract, es.lookup f.key = s.entries.lookup f.key) :
    s.withDefaults (.object es) = s := by
  have hversion := hwritten ⟨"schema_version", true, SchemaVersion.contract⟩ (by simp [contract])
  have hgenerated := hwritten ⟨"generated_at", true, Same⟩ (by simp [contract])
  have hpayload : ∀ f ∈ StatusResponse.contract,
      s.entries.lookup f.key = s.status.entries.lookup f.key := by
    simp [StatusResponse.contract, entries, List.lookup_cons]
  have hstatus := StatusResponse.withDefaults_written (r := s.status)
    (fun f hf => (hwritten f (List.mem_append_right _ hf)).trans (hpayload f hf))
  simp [withDefaults, orDefault, Value.get, hversion, hgenerated, hstatus, entries, List.lookup_cons]

theorem VersionedStatus.contract_refl : ∀ f ∈ contract, ∀ w, f.value w w := by
  have hhealth : ∀ w, RefreshHealth.contract w w := record_refl (by simp [same_refl])
  have hexpiry : ∀ w, AccountExpiry.contract w w := record_refl (by simp [same_refl])
  have hblind : ∀ w, BlindActive.contract w w := whole_refl _
  have haccount : ∀ w, AccountStatusLine.contract w w :=
    record_refl (by simp [same_refl, hhealth, hexpiry, hblind])
  have hreason : ∀ w, NextSwapReason.contract w w := whole_refl _
  have hnext : ∀ w, NextSwap.contract w w := record_refl (by simp [same_refl, hreason])
  have hversion : ∀ w, SchemaVersion.contract w w := whole_refl _
  have hscrub : ∀ w, CanonicalScrub.contract w w := whole_refl _
  have hpreempt : ∀ w, BlindPreemptSwap.contract w w := whole_refl _
  have hlanding : ∀ w, LandingOvershoot.contract w w := whole_refl _
  have hcanary : ∀ w, CanaryStatus.contract w w := whole_refl _
  have hcohort : ∀ w, ExpiryCohort.contract w w := whole_refl _
  simp [contract, StatusResponse.contract, same_refl, hversion, hnext, hscrub, hpreempt, hlanding,
    hcanary, hcohort, eachItem_refl haccount]

end Sessiometer.Status
