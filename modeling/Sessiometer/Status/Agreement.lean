import Sessiometer.Menubar.Wire
import Sessiometer.Model.Compact
import Sessiometer.Status.Evolved

/-!
# The status wire in two languages

Whatever the daemon's own decoder accepts, the menu-bar client's decoder accepts with every value
it mirrors equal. With what the contract lets a writer leave out or add, this makes the two readers
agree on every frame of the stream.
-/

namespace Sessiometer.Status

open Evolution
open Menubar (Decoding decodeIfPresent container)

/-! ## One reader follows the other -/

@[simp] theorem ok_bind {α β : Type} (x : α) (f : α → Decoding β) : (.ok x >>= f) = f x := rfl

@[simp] theorem ok_map {α β : Type} (x : α) (f : α → β) : (Except.ok x : Decoding α).map f = .ok (f x) :=
  rfl

theorem decoding_bind {α β : Type} {x : Decoding α} {a : α} {f : α → Decoding β} {r : Decoding β}
    (hx : x = .ok a) (h : f a = r) : (x >>= f) = r := by
  rw [hx]
  exact h

/-- What `read` accepts, `reader` accepts as its image. -/
def Follows {α β : Type} (read : Value → Option α) (reader : Value → Decoding β) (mirror : α → β) :
    Prop :=
  ∀ v x, read v = some x → reader v = .ok (mirror x)

section Readers

variable {α β : Type} {read : Value → Option α} {reader : Value → Decoding β} {mirror : α → β}
  {fs : Fields} {key : String}

theorem fields_followed {v : Value} (h : fields v = some fs) : container v = .ok fs := by
  cases v with
  | object es =>
    have hes : es = fs := by simpa [fields] using h
    simp [container, hes]
  | _ => simp [fields] at h

theorem required_followed (hread : Follows read reader mirror) {x : α}
    (h : required read fs key = some x) : Menubar.decode reader fs key = .ok (mirror x) := by
  obtain ⟨v, hv, hx⟩ := Option.bind_eq_some_iff.mp h
  simp only [Menubar.decode, hv]
  exact hread v x hx

/-- An optional field, whose value has to be followed only where it is read. -/
theorem optional_followed_at {x : Option α}
    (hread : ∀ v y, x = some y → read v = some y → reader v = .ok (mirror y))
    (h : optional read fs key = some x) : decodeIfPresent reader fs key = .ok (x.map mirror) := by
  unfold optional at h
  unfold decodeIfPresent
  cases hv : fs.lookup key with
  | none =>
    have hx : x = none := by simpa [hv] using h.symm
    simp [hx]
  | some v =>
    cases v with
    | null =>
      have hx : x = none := by simpa [hv] using h.symm
      simp [hx]
    | _ =>
      simp only [hv] at h
      obtain ⟨y, hy, rfl⟩ := Option.map_eq_some_iff.mp h
      simp [hread _ y rfl hy]

theorem optional_followed (hread : Follows read reader mirror) {x : Option α}
    (h : optional read fs key = some x) : decodeIfPresent reader fs key = .ok (x.map mirror) :=
  optional_followed_at (fun v y _ => hread v y) h

theorem defaulted_followed (hread : Follows read reader mirror) (hnull : read .null = none)
    {d x : α} (h : defaulted read d fs key = some x) :
    ∃ y, decodeIfPresent reader fs key = .ok y ∧ y.getD (mirror d) = mirror x := by
  unfold defaulted at h
  unfold decodeIfPresent
  cases hv : fs.lookup key with
  | none =>
    have hx : d = x := by simpa [hv] using h
    exact ⟨none, rfl, congrArg mirror hx⟩
  | some v =>
    simp only [hv] at h
    cases v with
    | null => simp [hnull] at h
    | _ => exact ⟨some (mirror x), by simp [hread _ x h], rfl⟩

theorem array_followed (hread : Follows read reader mirror) :
    Follows (array read) (Menubar.array reader) (fun xs => xs.map mirror) := by
  intro v xs h
  cases v with
  | array items =>
    simp only [array] at h
    simp only [Menubar.array]
    induction items generalizing xs with
    | nil =>
      have hxs : xs = [] := by simpa using h.symm
      simp [hxs, pure, Except.pure]
    | cons v items ih =>
      simp only [List.mapM_cons, Option.bind_eq_bind, Option.bind_eq_some_iff] at h
      obtain ⟨x, hx, rest, hrest, hxs⟩ := h
      have hxs : x :: rest = xs := by simpa using hxs
      simp [← hxs, hread v x hx, ih rest hrest, pure, Except.pure]
  | _ => simp [array] at h

end Readers

theorem string_followed : Follows string Menubar.string id := by
  intro v s h
  cases v with
  | string t => exact congrArg Except.ok (Option.some.inj h)
  | _ => simp [string] at h

theorem bool_followed : Follows bool Menubar.bool id := by
  intro v b h
  cases v with
  | bool c => exact congrArg Except.ok (Option.some.inj h)
  | _ => simp [bool] at h

theorem number_followed {α : Type} (low high : Int) (make : Int → α) :
    Follows (number low high make) (Menubar.number low high make) id := by
  intro v x h
  cases v with
  | int n =>
    by_cases hn : low ≤ n ∧ n < high
    · simp only [number, if_pos hn, Option.some.injEq] at h
      simp [Menubar.number, Menubar.whole, hn, h]
    · simp [number, hn] at h
  | _ => simp [number] at h

theorem u8_followed : Follows u8 Menubar.uint8 id := number_followed _ _ _

theorem u32_followed : Follows u32 Menubar.uint32 id := number_followed _ _ _

theorem u64_followed : Follows u64 Menubar.uint64 id := number_followed _ _ _

theorem i64_followed : Follows i64 Menubar.int64 id := number_followed _ _ _

/-! ## What the client mirrors -/

namespace SchemaVersion

def mirror (s : SchemaVersion) : Menubar.SchemaVersion := { major := s.major, minor := s.minor }

theorem followed : Follows decode Menubar.SchemaVersion.decode mirror := by
  intro v s h
  simp only [decode, Option.bind_eq_bind, Option.bind_eq_some_iff, Option.pure_def,
    Option.some.injEq] at h
  obtain ⟨fs, hfs, major, hmajor, minor, hminor, rfl⟩ := h
  simp [Menubar.SchemaVersion.decode, fields_followed hfs, required_followed u32_followed hmajor,
    required_followed u32_followed hminor, mirror]

end SchemaVersion

namespace RefreshHealth

def mirror (h : RefreshHealth) : Menubar.RefreshHealth :=
  { lastOk := h.lastOk, rotated := h.rotated, consecutiveFailures := h.consecutiveFailures }

theorem followed : Follows decode Menubar.RefreshHealth.decode mirror := by
  intro v r h
  simp only [decode, Option.bind_eq_bind, Option.bind_eq_some_iff, Option.pure_def,
    Option.some.injEq] at h
  obtain ⟨fs, hfs, lastOk, hok, rotated, hrotated, failures, hfailures, rfl⟩ := h
  simp [Menubar.RefreshHealth.decode, fields_followed hfs, required_followed bool_followed hok,
    optional_followed bool_followed hrotated, required_followed u32_followed hfailures, mirror]

end RefreshHealth

namespace BlindActive

def mirror (b : BlindActive) : Menubar.BlindActive :=
  { blindSecs := b.blindSecs
    lastKnownSessionPct := b.lastKnownSessionPct
    autoProtectionDegraded := b.autoProtectionDegraded }

theorem followed : Follows decode Menubar.BlindActive.decode mirror := by
  intro v b h
  simp only [decode, Option.bind_eq_bind, Option.bind_eq_some_iff, Option.pure_def,
    Option.some.injEq] at h
  obtain ⟨fs, hfs, secs, hsecs, pct, hpct, degraded, hdegraded, rfl⟩ := h
  simp [Menubar.BlindActive.decode, fields_followed hfs, required_followed u64_followed hsecs,
    required_followed u8_followed hpct, required_followed bool_followed hdegraded, mirror]

end BlindActive

namespace CanonicalScrub

def mirror : CanonicalScrub → Menubar.CanonicalScrub
  | recovering => .recovering
  | exhausted => .exhausted

theorem followed : Follows decode Menubar.CanonicalScrub.decode mirror := by
  intro v s h
  simp only [decode, Option.bind_eq_bind, Option.bind_eq_some_iff] at h
  obtain ⟨fs, hfs, state, hstate, h⟩ := h
  simp only [Menubar.CanonicalScrub.decode, fields_followed hfs,
    required_followed string_followed hstate, ok_bind, id]
  split_ifs at h ⊢ <;> cases h <;> rfl

end CanonicalScrub

namespace SystemicRefreshSource

def mirror : SystemicRefreshSource → Menubar.SystemicRefreshSource
  | sweep => .sweep
  | preflight => .preflight

/-- The client reads the token itself, and what it stands for after. -/
theorem token_followed : Follows decode Menubar.string token := by
  intro v s h
  simp only [decode, Option.bind_eq_bind, Option.bind_eq_some_iff] at h
  obtain ⟨raw, hraw, h⟩ := h
  rw [string_followed v raw hraw]
  split_ifs at h with hsweep hpreflight
  · cases h
    exact congrArg Except.ok hsweep
  · cases h
    exact congrArg Except.ok hpreflight

theorem ofWireToken_token (s : SystemicRefreshSource) :
    Menubar.SystemicRefreshSource.ofWireToken s.token = s.mirror := by
  cases s <;> simp [Menubar.SystemicRefreshSource.ofWireToken, token, mirror]

end SystemicRefreshSource

namespace CredentialHealth

def mirror : CredentialHealth → Menubar.CredentialHealth
  | healthy => .healthy
  | unknown => .unknown
  | stale => .stale
  | atRisk => .atRisk
  | degraded => .degraded
  | dead => .dead

theorem followed : Follows decode Menubar.CredentialHealth.decode mirror := by
  intro v c h
  simp only [decode, Option.bind_eq_bind, Option.bind_eq_some_iff] at h
  obtain ⟨raw, hraw, h⟩ := h
  simp only [Menubar.CredentialHealth.decode, string_followed v raw hraw, ok_bind, id]
  split_ifs at h ⊢ <;> cases h <;> rfl

end CredentialHealth

namespace ExpiryHorizon

def mirror : ExpiryHorizon → Menubar.ExpiryHorizon
  | unknown => .unknown
  | beyond => .beyond
  | within => .within
  | lapsed => .lapsed

theorem followed : Follows decode Menubar.ExpiryHorizon.decode mirror := by
  intro v e h
  simp only [decode, Option.bind_eq_bind, Option.bind_eq_some_iff] at h
  obtain ⟨raw, hraw, h⟩ := h
  simp only [Menubar.ExpiryHorizon.decode, string_followed v raw hraw, ok_map, id,
    Menubar.ExpiryHorizon.ofWireToken]
  split_ifs at h <;> cases h <;> simp_all [mirror]

end ExpiryHorizon

namespace AccountExpiry

/-- The cohort id is the daemon's own. -/
def mirror (e : AccountExpiry) : Menubar.AccountExpiry :=
  { expiresAt := e.expiresAt, horizonState := e.horizonState.mirror }

theorem followed : Follows decode Menubar.AccountExpiry.decode mirror := by
  intro v e h
  simp only [decode, Option.bind_eq_bind, Option.bind_eq_some_iff, Option.pure_def,
    Option.some.injEq] at h
  obtain ⟨fs, hfs, expiresAt, hexpires, horizon, hhorizon, cohort, -, rfl⟩ := h
  obtain ⟨seen, hseen, hget⟩ := defaulted_followed ExpiryHorizon.followed rfl hhorizon
  have hget : seen.getD .unknown = horizon.mirror := hget
  simp [Menubar.AccountExpiry.decode, fields_followed hfs, optional_followed i64_followed hexpires,
    hseen, hget, mirror]

end AccountExpiry

namespace NextSwapReason

def mirror : NextSwapReason → Menubar.NextSwapReason
  | soonestReset resetsAt => .soonestReset resetsAt
  | onlyCandidate => .onlyCandidate
  | rosterOrder => .rosterOrder

theorem followed : Follows decode Menubar.NextSwapReason.decode mirror := by
  intro v r h
  simp only [decode, Option.bind_eq_bind, Option.bind_eq_some_iff] at h
  obtain ⟨fs, hfs, kind, hkind, h⟩ := h
  simp only [Menubar.NextSwapReason.decode, fields_followed hfs,
    required_followed string_followed hkind, ok_bind, id]
  split_ifs at h ⊢
  · obtain ⟨resetsAt, hresets, hr⟩ := Option.bind_eq_some_iff.mp h
    have hr : soonestReset resetsAt = r := Option.some.inj hr
    simp [required_followed i64_followed hresets, ← hr, mirror, pure, Except.pure]
  all_goals
    cases h
    rfl

end NextSwapReason

namespace NoTargetCause

def mirror : NoTargetCause → Menubar.NoTargetCause
  | session => .session
  | weekly => .weekly

theorem followed : Follows decode Menubar.NoTargetCause.decode mirror := by
  intro v c h
  simp only [decode, Option.bind_eq_bind, Option.bind_eq_some_iff] at h
  obtain ⟨raw, hraw, h⟩ := h
  simp only [Menubar.NoTargetCause.decode, string_followed v raw hraw, ok_bind, id]
  split_ifs at h ⊢ <;> cases h <;> rfl

end NoTargetCause

namespace NextSwap

def mirror : NextSwap → Menubar.NextSwap
  | target to' reason => .target to' (reason.map NextSwapReason.mirror)
  | noViableTarget cause resetsAt => .noViableTarget (cause.map NoTargetCause.mirror) resetsAt
  | awaitingData => .awaitingData

theorem followed : Follows decode Menubar.NextSwap.decode mirror := by
  intro v n h
  simp only [decode, Option.bind_eq_bind, Option.bind_eq_some_iff] at h
  obtain ⟨fs, hfs, state, hstate, h⟩ := h
  simp only [Menubar.NextSwap.decode, fields_followed hfs,
    required_followed string_followed hstate, ok_bind, id]
  split_ifs at h ⊢
  · simp only [Option.bind_eq_some_iff] at h
    obtain ⟨to', hto, reason, hreason, hn⟩ := h
    have hn : target to' reason = n := Option.some.inj hn
    simp [required_followed string_followed hto, optional_followed NextSwapReason.followed hreason,
      Menubar.tolerateUnknownKind, ← hn, mirror, pure, Except.pure]
  · simp only [Option.bind_eq_some_iff] at h
    obtain ⟨cause, hcause, resetsAt, hresets, hn⟩ := h
    have hn : noViableTarget cause resetsAt = n := Option.some.inj hn
    simp [optional_followed NoTargetCause.followed hcause, optional_followed i64_followed hresets,
      ← hn, mirror, pure, Except.pure]
  all_goals
    cases h
    rfl

end NextSwap

namespace CanaryStatus

/-- The client counts ambiguous matches in a signed 64-bit integer. -/
def CountFits : CanaryStatus → Prop
  | ambiguous count => count.toNat < 9223372036854775808
  | _ => True

def mirror : CanaryStatus → Menubar.CanaryStatus
  | ok => .ok
  | inconclusive => .inconclusive
  | notFound => .notFound
  | ambiguous count => .ambiguous (Int64.ofInt count.toNat)
  | drift displayed matched overridden => .drift displayed matched overridden
  | refusedUnparseableCanonical => .refusedUnparseableCanonical

theorem count_followed {v : Value} {count : UInt64} (h : u64 v = some count)
    (hfits : count.toNat < 9223372036854775808) :
    Menubar.int64 v = .ok (Int64.ofInt count.toNat) := by
  cases v with
  | int n =>
    simp only [u64, number] at h
    split_ifs at h with hn
    have hcount : UInt64.ofNat n.toNat = count := Option.some.inj h
    have hnat : count.toNat = n.toNat := by
      have hlt : n.toNat < 18446744073709551616 := by omega
      rw [← hcount]
      exact UInt64.toNat_ofNat_of_lt hlt
    have hrange : (-9223372036854775808 : Int) ≤ n ∧ n < 9223372036854775808 := by omega
    have hint : (count.toNat : Int) = n := by omega
    rw [hint]
    simp only [Menubar.int64, Menubar.number, Menubar.whole, if_pos hrange]
  | _ => simp [u64, number] at h

theorem followed {v : Value} {c : CanaryStatus} (h : decode v = some c) (hfits : c.CountFits) :
    Menubar.CanaryStatus.decode v = .ok c.mirror := by
  simp only [decode, Option.bind_eq_bind, Option.bind_eq_some_iff] at h
  obtain ⟨fs, hfs, verdict, hverdict, h⟩ := h
  simp only [Menubar.CanaryStatus.decode, fields_followed hfs,
    required_followed string_followed hverdict, ok_bind, id]
  by_cases hambiguous : verdict = "ambiguous"
  · have hkinds : verdict ≠ "ok" ∧ verdict ≠ "inconclusive" ∧ verdict ≠ "not_found" := by
      simp [hambiguous]
    obtain ⟨hok, hinconclusive, hmissing⟩ := hkinds
    rw [if_neg hok, if_neg hinconclusive, if_neg hmissing, if_pos hambiguous] at h ⊢
    obtain ⟨count, hcount, hc⟩ := Option.bind_eq_some_iff.mp h
    have hc : ambiguous count = c := Option.some.inj hc
    subst hc
    obtain ⟨w, hw, hu64⟩ := Option.bind_eq_some_iff.mp hcount
    have hint := count_followed hu64 hfits
    simp [Menubar.decode, hw, hint, mirror, pure, Except.pure]
  by_cases hdrift : verdict = "drift"
  · have hkinds : verdict ≠ "ok" ∧ verdict ≠ "inconclusive" ∧ verdict ≠ "not_found" := by
      simp [hdrift]
    obtain ⟨hok, hinconclusive, hmissing⟩ := hkinds
    rw [if_neg hok, if_neg hinconclusive, if_neg hmissing, if_neg hambiguous, if_pos hdrift] at h ⊢
    simp only [Option.bind_eq_some_iff] at h
    obtain ⟨displayed, hdisplayed, matched, hmatched, overridden, hoverridden, hc⟩ := h
    have hc : drift displayed matched overridden = c := Option.some.inj hc
    simp [required_followed string_followed hdisplayed, required_followed string_followed hmatched,
      required_followed bool_followed hoverridden, ← hc, mirror, pure, Except.pure]
  rw [if_neg hambiguous, if_neg hdrift] at h ⊢
  split_ifs at h ⊢
  all_goals
    cases h
    rfl

end CanaryStatus

namespace AccountStatusLine

def mirror (a : AccountStatusLine) : Menubar.AccountStatusLine :=
  { label := a.label
    active := a.active
    enabled := a.enabled
    quarantined := a.quarantined
    recovering := a.recovering
    sessionPct := a.sessionPct
    weeklyPct := a.weeklyPct
    sessionResetsAt := a.sessionResetsAt
    weeklyResetsAt := a.weeklyResetsAt
    weeklyExhausted := a.weeklyExhausted
    accessExpiresAt := a.accessExpiresAt
    refreshHealth := a.refreshHealth.map RefreshHealth.mirror
    auth := a.health.map CredentialHealth.mirror
    blindActive := a.blindActive.map BlindActive.mirror
    expiry := a.expiry.map AccountExpiry.mirror }

theorem followed : Follows decode Menubar.AccountStatusLine.decode mirror := by
  intro v a h
  unfold decode at h
  obtain ⟨fs, hfs, h⟩ := Option.bind_eq_some_iff.mp h
  obtain ⟨label, hlabel, h⟩ := Option.bind_eq_some_iff.mp h
  obtain ⟨active, hactive, h⟩ := Option.bind_eq_some_iff.mp h
  obtain ⟨enabled, henabled, h⟩ := Option.bind_eq_some_iff.mp h
  obtain ⟨quarantined, hquarantined, h⟩ := Option.bind_eq_some_iff.mp h
  obtain ⟨recovering, hrecovering, h⟩ := Option.bind_eq_some_iff.mp h
  obtain ⟨session, hsession, h⟩ := Option.bind_eq_some_iff.mp h
  obtain ⟨weekly, hweekly, h⟩ := Option.bind_eq_some_iff.mp h
  obtain ⟨sessionAt, hsessionAt, h⟩ := Option.bind_eq_some_iff.mp h
  obtain ⟨weeklyAt, hweeklyAt, h⟩ := Option.bind_eq_some_iff.mp h
  obtain ⟨exhausted, hexhausted, h⟩ := Option.bind_eq_some_iff.mp h
  obtain ⟨access, haccess, h⟩ := Option.bind_eq_some_iff.mp h
  obtain ⟨refresh, hrefresh, h⟩ := Option.bind_eq_some_iff.mp h
  obtain ⟨health, hhealth, h⟩ := Option.bind_eq_some_iff.mp h
  obtain ⟨blind, hblind, h⟩ := Option.bind_eq_some_iff.mp h
  obtain ⟨expiry, hexpiry, h⟩ := Option.bind_eq_some_iff.mp h
  cases h
  obtain ⟨seenRecovering, hseenRecovering, hgetRecovering⟩ :=
    defaulted_followed bool_followed rfl hrecovering
  obtain ⟨seenExhausted, hseenExhausted, hgetExhausted⟩ :=
    defaulted_followed bool_followed rfl hexhausted
  simp only [id] at hgetRecovering hgetExhausted
  have hlabel := required_followed string_followed hlabel
  have hactive := required_followed bool_followed hactive
  have henabled := required_followed bool_followed henabled
  have hquarantined := required_followed bool_followed hquarantined
  have hsession := optional_followed u8_followed hsession
  have hweekly := optional_followed u8_followed hweekly
  have hsessionAt := optional_followed i64_followed hsessionAt
  have hweeklyAt := optional_followed i64_followed hweeklyAt
  have haccess := optional_followed i64_followed haccess
  have hrefresh := optional_followed RefreshHealth.followed hrefresh
  have hhealth := optional_followed CredentialHealth.followed hhealth
  have hblind := optional_followed BlindActive.followed hblind
  have hexpiry := optional_followed AccountExpiry.followed hexpiry
  rw [Option.map_id] at hsession hweekly hsessionAt hweeklyAt haccess
  unfold Menubar.AccountStatusLine.decode
  refine decoding_bind (fields_followed hfs) <| decoding_bind hlabel <| decoding_bind hactive <|
    decoding_bind henabled <| decoding_bind hquarantined <| decoding_bind hseenRecovering <|
    decoding_bind hsession <| decoding_bind hweekly <| decoding_bind hsessionAt <|
    decoding_bind hweeklyAt <| decoding_bind hseenExhausted <| decoding_bind haccess <|
    decoding_bind hrefresh <| decoding_bind hhealth <| decoding_bind hblind <|
    decoding_bind hexpiry ?_
  rw [hgetRecovering, hgetExhausted]
  rfl

end AccountStatusLine

namespace VersionedStatus

/-- The two recent-event mentions and the expiry cohort are not in the client's model. -/
def mirror (s : VersionedStatus) : Menubar.VersionedStatus :=
  { schemaVersion := s.schemaVersion.mirror
    generatedAt := s.generatedAt
    accounts := s.status.accounts.map AccountStatusLine.mirror
    nextSwap := s.status.nextSwap.map NextSwap.mirror
    refreshEnabled := s.status.refreshEnabled
    systemicRefreshFailure := s.status.systemicRefreshFailure
    systemicRefreshSource := s.status.systemicRefreshSource.map SystemicRefreshSource.mirror
    canonicalScrub := s.status.canonicalScrub.map CanonicalScrub.mirror
    keychainLocked := s.status.keychainLocked
    canary := s.status.canary.map CanaryStatus.mirror }

theorem followed {v : Value} {s : VersionedStatus} (h : decode v = some s)
    (hcanary : ∀ c, s.status.canary = some c → c.CountFits) :
    Menubar.VersionedStatus.decode v = .ok s.mirror := by
  simp only [decode, StatusResponse.ofFields, Option.bind_eq_bind, Option.bind_eq_some_iff,
    Option.pure_def, Option.some.injEq] at h
  obtain ⟨fs, hfs, version, hversion, generated, hgenerated, status, ⟨accounts, haccounts, next,
    hnext, enabled, henabled, failure, hfailure, source, hsource, scrub, hscrub, locked, hlocked,
    preempt, -, landing, -, canary, hcanaryRead, cohort, -, rfl⟩, rfl⟩ := h
  obtain ⟨seenVersion, hseenVersion, hgetVersion⟩ :=
    defaulted_followed SchemaVersion.followed rfl hversion
  obtain ⟨seenGenerated, hseenGenerated, hgetGenerated⟩ :=
    defaulted_followed i64_followed rfl hgenerated
  obtain ⟨seenLocked, hseenLocked, hgetLocked⟩ := defaulted_followed bool_followed rfl hlocked
  have hgetVersion : seenVersion.getD .preFreeze = version.mirror := hgetVersion
  simp only [id] at hgetGenerated hgetLocked
  have hsource := optional_followed SystemicRefreshSource.token_followed hsource
  have hcanaryRead := optional_followed_at
    (fun w c hc hw => CanaryStatus.followed hw (hcanary c hc)) hcanaryRead
  have htoken : Menubar.SystemicRefreshSource.ofWireToken ∘ SystemicRefreshSource.token =
      SystemicRefreshSource.mirror := by
    ext s
    exact SystemicRefreshSource.ofWireToken_token s
  have haccounts := required_followed (array_followed AccountStatusLine.followed) haccounts
  have hnext := optional_followed NextSwap.followed hnext
  have henabled := optional_followed bool_followed henabled
  have hfailure := optional_followed u32_followed hfailure
  have hscrub := optional_followed CanonicalScrub.followed hscrub
  rw [Option.map_id] at henabled hfailure
  unfold Menubar.VersionedStatus.decode
  refine decoding_bind (fields_followed hfs) <| decoding_bind hseenVersion <|
    decoding_bind hseenGenerated <| decoding_bind haccounts <| decoding_bind hnext <|
    decoding_bind henabled <| decoding_bind hfailure <| decoding_bind hsource <|
    decoding_bind hscrub <| decoding_bind hseenLocked <| decoding_bind hcanaryRead ?_
  rw [hgetVersion, hgetGenerated, hgetLocked, Option.map_map, htoken]
  rfl

end VersionedStatus

/-! ## The frames of the stream -/

def snapshotContract : List Field := ⟨"type", false, Same⟩ :: VersionedStatus.contract

def heartbeatContract : List Field :=
  [⟨"type", false, Same⟩, ⟨"generated_at", false, Same⟩,
    ⟨"schema_version", true, SchemaVersion.contract⟩]

theorem snapshotFrame_written (s : VersionedStatus) : ∀ f ∈ VersionedStatus.contract,
    List.lookup f.key (("type", .string "snapshot") :: s.entries) = s.entries.lookup f.key := by
  simp [VersionedStatus.contract, StatusResponse.contract, List.lookup_cons]

def encodeSnapshotFrame [FloatText] (s : VersionedStatus) : String :=
  String.ofList (compact (snapshotFrame s))

theorem withDefaults_frame (s : VersionedStatus) : s.withDefaults (snapshotFrame s) = s :=
  VersionedStatus.withDefaults_written (snapshotFrame_written s)

theorem snapshotFrame_refl (s : VersionedStatus) :
    Record snapshotContract (snapshotFrame s) (snapshotFrame s) := by
  apply record_refl
  simp only [snapshotContract, List.forall_mem_cons]
  exact ⟨same_refl, VersionedStatus.contract_refl⟩

section Lines

variable [SerdeText] [Menubar.JsonDecoder] {line : String} {v' : Value}

/-- What the two parsers, being faithful, make of a line that holds this document. -/
def Reads (line : String) (v : Value) : Prop :=
  SerdeText.fromStr line = some v ∧ Menubar.JsonDecoder.parse line = some v

omit [Menubar.JsonDecoder] in
theorem parseWatchFrame_snapshot {s : VersionedStatus} (hline : SerdeText.fromStr line = some v')
    (h : Record snapshotContract (snapshotFrame s) v') :
    parseWatchFrame line = some (.snapshot (s.withDefaults v')) := by
  obtain ⟨es', rfl, hkept⟩ := h.object
  simp only [snapshotContract, List.forall_mem_cons] at hkept
  obtain ⟨htype, hkept⟩ := hkept
  have htype : es'.lookup "type" = some (.string "snapshot") := htype.get_eq
  have hdecode := VersionedStatus.decode_kept (snapshotFrame_written s) hkept
  simp [parseWatchFrame, hline, optional, htype, hdecode]

omit [Menubar.JsonDecoder] in
theorem parseStatus_reply {s : VersionedStatus} (hline : SerdeText.fromStr line = some v')
    (h : Record VersionedStatus.contract s.encode v') :
    parseStatus line = some (s.withDefaults v') := by
  obtain ⟨es', rfl, hkept⟩ := h.object
  have hdecode := VersionedStatus.decode_kept (fun f _ => rfl) hkept
  simp [parseStatus, hline, hdecode]

omit [Menubar.JsonDecoder] in
theorem parseWatchFrame_heartbeat {generatedAt : Int64} (hline : SerdeText.fromStr line = some v')
    (h : Record heartbeatContract (heartbeatFrame generatedAt) v') :
    parseWatchFrame line =
      some (.heartbeat generatedAt (orDefault v' "schema_version" .default statusSchemaVersion)) := by
  obtain ⟨es', rfl, hkept⟩ := h.object
  simp only [heartbeatContract, List.forall_mem_cons] at hkept
  obtain ⟨htype, hgenerated, hversion, -⟩ := hkept
  have htype : es'.lookup "type" = some (.string "heartbeat") := htype.get_eq
  have hgenerated := required_same i64_ofI64 hgenerated (x := generatedAt) (by simp [List.lookup_cons])
  have hversion := defaulted_kept SchemaVersion.survives (d := .default) hversion
    (x := statusSchemaVersion) (by simp [List.lookup_cons])
  have hkind : required string es' "type" = some "heartbeat" := by simp [required, htype]
  simp [parseWatchFrame, hline, optional, htype, HeartbeatFrame.decode, hkind, hgenerated, hversion]

/-- The client's reading of a snapshot line follows the daemon's. -/
theorem snapshot_followed {s : VersionedStatus} (hreads : Reads line v')
    (hcanary : ∀ c, s.status.canary = some c → c.CountFits)
    (h : parseWatchFrame line = some (.snapshot s)) :
    Menubar.parseWatchFrame line = .ok (.snapshot s.mirror) := by
  obtain ⟨hserde, hswift⟩ := hreads
  simp only [parseWatchFrame, hserde, Option.bind_eq_bind, Option.bind_some,
    Option.bind_eq_some_iff] at h
  obtain ⟨fs, hfs, kind, hkind, h⟩ := h
  have hkind := optional_followed string_followed hkind
  by_cases hsnapshot : kind = some "snapshot"
  · rw [if_pos hsnapshot] at h
    obtain ⟨status, hstatus, hs⟩ := Option.bind_eq_some_iff.mp h
    have hs : status = s := by simpa using hs
    subst hs
    have hdecode := VersionedStatus.followed hstatus hcanary
    simp [Menubar.parseWatchFrame, Menubar.decodeLine, hswift, Menubar.probe, fields_followed hfs,
      hkind, hsnapshot, hdecode, pure, Except.pure]
  · rw [if_neg hsnapshot] at h
    split_ifs at h
    · simp [Option.bind_eq_some_iff] at h
    · simp at h

theorem heartbeat_followed {generatedAt : Int64} {version : SchemaVersion} (hreads : Reads line v')
    (h : parseWatchFrame line = some (.heartbeat generatedAt version)) :
    Menubar.parseWatchFrame line = .ok (.heartbeat generatedAt version.mirror) := by
  obtain ⟨hserde, hswift⟩ := hreads
  simp only [parseWatchFrame, hserde, Option.bind_eq_bind, Option.bind_some,
    Option.bind_eq_some_iff] at h
  obtain ⟨fs, hfs, kind, hkind, h⟩ := h
  have hkind := optional_followed string_followed hkind
  by_cases hheartbeat : kind = some "heartbeat"
  · have hsnapshot : kind ≠ some "snapshot" := by simp [hheartbeat]
    rw [if_neg hsnapshot, if_pos hheartbeat] at h
    obtain ⟨⟨generated, seen⟩, hframe, hs⟩ := Option.bind_eq_some_iff.mp h
    have hs : generated = generatedAt ∧ seen = version := by simpa using hs
    obtain ⟨rfl, rfl⟩ := hs
    simp only [HeartbeatFrame.decode, hfs, Option.bind_eq_bind, Option.bind_some,
      Option.bind_eq_some_iff] at hframe
    obtain ⟨tag, -, hframe⟩ := hframe
    split_ifs at hframe
    simp only [Option.bind_eq_some_iff, Option.pure_def, Option.some.injEq, Prod.mk.injEq] at hframe
    obtain ⟨_, hgenerated, _, hversion, rfl, rfl⟩ := hframe
    obtain ⟨seenVersion, hseenVersion, hgetVersion⟩ :=
      defaulted_followed SchemaVersion.followed rfl hversion
    have hgetVersion : seenVersion.getD .preFreeze = SchemaVersion.mirror _ := hgetVersion
    simp [Menubar.parseWatchFrame, Menubar.decodeLine, hswift, Menubar.probe, fields_followed hfs,
      hkind, hheartbeat, Menubar.HeartbeatFrame.decode, required_followed i64_followed hgenerated,
      hseenVersion, hgetVersion, pure, Except.pure]
  · rw [if_neg hheartbeat] at h
    split_ifs at h
    · simp [Option.bind_eq_some_iff] at h
    · simp at h

/-- A snapshot's frame is one line, and both clients read from it the status it was made of; from
what another version may write in its place, the same with the declared defaults; and a heartbeat
is a heartbeat to both. -/
theorem status_wire_agreement [FloatText] (snapshot : StatusSnapshot)
    (hcanary : ∀ c, snapshot.canary = some c → c.CountFits) :
    let status := versionedStatusResponse snapshot
    '\n' ∉ (encodeSnapshotFrame status).toList ∧
    (Reads (encodeSnapshotFrame status) (snapshotFrame status) →
      parseWatchFrame (encodeSnapshotFrame status) = some (.snapshot status) ∧
      Menubar.parseWatchFrame (encodeSnapshotFrame status) = .ok (.snapshot status.mirror)) ∧
    (∀ reply, SerdeText.fromStr reply = some status.encode → parseStatus reply = some status) ∧
    (∀ line v', Record snapshotContract (snapshotFrame status) v' → Reads line v' →
      parseWatchFrame line = some (.snapshot (status.withDefaults v')) ∧
      Menubar.parseWatchFrame line = .ok (.snapshot (status.withDefaults v').mirror)) ∧
    (∀ reply v', Record VersionedStatus.contract status.encode v' →
      SerdeText.fromStr reply = some v' → parseStatus reply = some (status.withDefaults v')) ∧
    ∀ generatedAt line v', Record heartbeatContract (heartbeatFrame generatedAt) v' →
      Reads line v' → ∃ version : SchemaVersion,
        version = orDefault v' "schema_version" .default statusSchemaVersion ∧
        parseWatchFrame line = some (.heartbeat generatedAt version) ∧
        Menubar.parseWatchFrame line = .ok (.heartbeat generatedAt version.mirror) := by
  intro status
  have hsnapshot : ∀ line v', Record snapshotContract (snapshotFrame status) v' → Reads line v' →
      parseWatchFrame line = some (.snapshot (status.withDefaults v')) ∧
      Menubar.parseWatchFrame line = .ok (.snapshot (status.withDefaults v').mirror) := by
    intro line v' hevolves hreads
    have hrust := parseWatchFrame_snapshot hreads.1 hevolves
    have hfits : ∀ c, (status.withDefaults v').status.canary = some c → c.CountFits := by
      intro c hc
      obtain ⟨w, -, hw⟩ := Option.bind_eq_some_iff.mp hc
      obtain ⟨c', hc', rfl⟩ := Option.map_eq_some_iff.mp hw
      exact hcanary c' hc'
    exact ⟨hrust, snapshot_followed hreads hfits hrust⟩
  have hreply : ∀ reply v', Record VersionedStatus.contract status.encode v' →
      SerdeText.fromStr reply = some v' → parseStatus reply = some (status.withDefaults v') :=
    fun reply v' hevolves hline => parseStatus_reply hline hevolves
  refine ⟨?_, ?_, ?_, hsnapshot, hreply, ?_⟩
  · simpa [encodeSnapshotFrame] using newline_notMem_compact (snapshotFrame status)
  · intro hreads
    have hboth := hsnapshot _ _ (snapshotFrame_refl status) hreads
    rwa [withDefaults_frame] at hboth
  · intro reply hline
    have hread := hreply reply _ (record_refl VersionedStatus.contract_refl _) hline
    rwa [VersionedStatus.encode, VersionedStatus.withDefaults_written fun f _ => rfl] at hread
  · intro generatedAt line v' hevolves hreads
    have hrust := parseWatchFrame_heartbeat hreads.1 hevolves
    exact ⟨_, rfl, hrust, heartbeat_followed hreads hrust⟩

end Lines

/-! ## A count the client cannot hold -/

def ambiguousSnapshot (count : UInt64) : StatusSnapshot :=
  { accounts := []
    nextSwap := none
    refreshEnabled := true
    generatedAt := 0
    systemicRefresh := none
    systemicRefreshSource := none
    canonicalScrub := none
    keychainLocked := false
    recentBlindPreemptSwap := none
    recentLandingOvershoot := none
    canary := some (.ambiguous count)
    expiryCohort := none }

/-- The text of integers, and a stand-in no frame of the contract needs for floats. -/
@[reducible] def integerFloatText : FloatText where
  write := fun q => integerText q.num
  numeric := by
    intro q c hc
    unfold integerText at hc
    split_ifs at hc
    · rw [List.mem_cons] at hc
      obtain rfl | hc := hc
      · simp
      · exact .inl (Nat.isDigit_of_mem_toDigits (by decide) (by decide) hc)
    · exact .inl (Nat.isDigit_of_mem_toDigits (by decide) (by decide) hc)

/-- A parser that reads this document's own text. -/
@[reducible] def serdeOf (v : Value) : SerdeText where
  fromStr line :=
    letI := integerFloatText
    if line = String.ofList (compact v) then some v else none

@[reducible] def swiftOf (v : Value) : Menubar.JsonDecoder where
  parse line :=
    letI := integerFloatText
    if line = String.ofList (compact v) then some v else none

/-- An ambiguous canary that counts `2 ^ 63` matches drops the whole frame on the client. -/
theorem ambiguous_count_unread :
    ¬ ∀ (_ : FloatText) (_ : SerdeText) (_ : Menubar.JsonDecoder) (snapshot : StatusSnapshot),
      Reads (encodeSnapshotFrame (versionedStatusResponse snapshot))
        (snapshotFrame (versionedStatusResponse snapshot)) →
      ∃ status, Menubar.parseWatchFrame
        (encodeSnapshotFrame (versionedStatusResponse snapshot)) = .ok (.snapshot status) := by
  intro h
  let _ := integerFloatText
  let status := versionedStatusResponse (ambiguousSnapshot 9223372036854775808)
  let _ := serdeOf (snapshotFrame status)
  let _ := swiftOf (snapshotFrame status)
  have hreads : Reads (encodeSnapshotFrame status) (snapshotFrame status) :=
    ⟨if_pos rfl, if_pos rfl⟩
  obtain ⟨seen, hseen⟩ := h _ _ _ (ambiguousSnapshot 9223372036854775808) hreads
  have hprobe : Menubar.probe (snapshotFrame status) = .ok (some "snapshot") := by decide +kernel
  have hbody : Menubar.VersionedStatus.decode (snapshotFrame status) = .error .decodingError := by
    decide +kernel
  have hparse : Menubar.JsonDecoder.parse (encodeSnapshotFrame status) =
      some (snapshotFrame status) := hreads.2
  have hrefused : Menubar.parseWatchFrame (encodeSnapshotFrame status) =
      .error .decodingError := by
    simp only [Menubar.parseWatchFrame, Menubar.decodeLine, hparse, hprobe, hbody]
    rfl
  rw [hrefused] at hseen
  cases hseen

theorem status_wire_agreement_ambiguous :
    letI := integerFloatText
    letI := serdeOf (snapshotFrame (versionedStatusResponse (ambiguousSnapshot 2)))
    letI := swiftOf (snapshotFrame (versionedStatusResponse (ambiguousSnapshot 2)))
    let status := versionedStatusResponse (ambiguousSnapshot 2)
    '\n' ∉ (encodeSnapshotFrame status).toList ∧
    parseWatchFrame (encodeSnapshotFrame status) = some (.snapshot status) ∧
    Menubar.parseWatchFrame (encodeSnapshotFrame status) = .ok (.snapshot status.mirror) := by
  let _ := integerFloatText
  let _ := serdeOf (snapshotFrame (versionedStatusResponse (ambiguousSnapshot 2)))
  let _ := swiftOf (snapshotFrame (versionedStatusResponse (ambiguousSnapshot 2)))
  have hcanary : ∀ c, (ambiguousSnapshot 2).canary = some c → c.CountFits := by
    intro c hc
    have hc : CanaryStatus.ambiguous 2 = c := Option.some.inj hc
    subst hc
    exact (by decide : (2 : UInt64).toNat < 9223372036854775808)
  obtain ⟨hline, hframe, -⟩ := status_wire_agreement (ambiguousSnapshot 2) hcanary
  have hreads : Reads
      (encodeSnapshotFrame (versionedStatusResponse (ambiguousSnapshot 2)))
      (snapshotFrame (versionedStatusResponse (ambiguousSnapshot 2))) := ⟨if_pos rfl, if_pos rfl⟩
  exact ⟨hline, hframe hreads⟩

end Sessiometer.Status
