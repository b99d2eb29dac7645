import Mathlib.Data.List.Forall2
import Sessiometer.Effects.Runs
import Sessiometer.Log.Follow

/-! # What a follow emits

Writers append to the log at any time, also between two operations of a poll. Between two polls the file
may be truncated, rewritten, removed or replaced as well. -/

namespace Sessiometer.Log

open Effects Framing

/-! ## One poll -/

section Polls

variable {D : Device LogSeams Disk} {disk disk' : Disk} {file : LogFile}

theorem exec_attempt_iff {o : LogOp} {r : Except FollowError (LogOp.Reply o)} :
    Exec D (attempt o).run disk r disk' ↔ ∃ reply, r = .ok reply ∧ D o disk reply disk' := by
  unfold attempt Prog.call
  rw [exec_lift_iff]
  constructor
  · rintro ⟨reply, hr, h⟩
    obtain ⟨reply', disk₁, hd, hpure⟩ := exec_perform_iff.mp h
    obtain ⟨rfl, rfl⟩ := exec_pure_iff.mp hpure
    exact ⟨reply, hr, hd⟩
  · rintro ⟨reply, hr, hd⟩
    exact ⟨reply, hr, exec_perform_iff.mpr ⟨reply, disk', hd, exec_pure_iff.mpr ⟨rfl, rfl⟩⟩⟩

theorem exec_attempt_bind {o : LogOp} {α : Type} {f : LogOp.Reply o → Following α}
    {r : Except FollowError α} : Exec D (attempt o >>= f).run disk r disk' ↔
      ∃ reply disk₁, D o disk reply disk₁ ∧ Exec D (f reply).run disk₁ r disk' := by
  rw [exec_except_bind_iff]
  constructor
  · rintro (⟨e, -, h⟩ | ⟨reply, disk₁, h, hk⟩)
    · obtain ⟨reply, hr, -⟩ := exec_attempt_iff.mp h
      cases hr
    · obtain ⟨reply', hr, hd⟩ := exec_attempt_iff.mp h
      cases hr
      exact ⟨reply, disk₁, hd, hk⟩
  · rintro ⟨reply, disk₁, hd, hk⟩
    exact .inr ⟨reply, disk₁, exec_attempt_iff.mpr ⟨reply, rfl, hd⟩, hk⟩

theorem exec_done_iff {α : Type} {x : Except FollowError α} {r : Except FollowError α} :
    Exec D (ExceptT.mk (pure x) : Following α).run disk r disk' ↔ r = x ∧ disk' = disk :=
  exec_pure_iff

/-- The byte before a place tells whether a line ends there. -/
theorem anchored_spec {offset : ℕ} {r : Except FollowError Bool} (hoffset : offset ≤ file.content.length)
    (h : Exec (fileSystem.under Grows) (anchored offset).run (some file) r disk') :
    Grows (some file) disk' ∧ ∀ b, r = .ok b → (b = true ↔ Boundary lineFeed file.content offset) := by
  cases offset with
  | zero =>
    obtain ⟨rfl, rfl⟩ := exec_done_iff.mp h
    refine ⟨.refl _, ?_⟩
    intro b hb
    cases hb
    simp [boundary_zero]
  | succ previous =>
    obtain ⟨reply, disk₁, ⟨disk₂, hgrows, hd⟩, hk⟩ := exec_attempt_bind.mp h
    obtain ⟨file', rfl, -, hcontent⟩ := hgrows.file
    have hsame : file'.content[previous]? = file.content[previous]? := by
      obtain ⟨more, hmore⟩ := hcontent
      rw [← hmore, List.getElem?_append_left (by omega)]
    cases reply with
    | ok byte =>
      obtain ⟨rfl, read, hread, hbyte⟩ := hd
      cases hread
      obtain ⟨rfl, rfl⟩ := exec_done_iff.mp hk
      refine ⟨hgrows, ?_⟩
      intro b hb
      cases hb
      rw [boundary_succ, ← hsame, hbyte]
      simp
    | error err =>
      obtain ⟨rfl, hd⟩ := hd
      cases err with
      | unexpectedEof =>
        obtain ⟨read, hread, hlength⟩ := hd rfl
        cases hread
        have hle := hcontent.length_le
        omega
      | notFound =>
        obtain ⟨rfl, rfl⟩ := exec_done_iff.mp hk
        exact ⟨hgrows, fun b hb => by cases hb⟩
      | other =>
        obtain ⟨rfl, rfl⟩ := exec_done_iff.mp hk
        exact ⟨hgrows, fun b hb => by cases hb⟩

/-- Nothing new is at the end of the file. Otherwise the reading starts between two lines, and where the
last one stopped if that still is such a place. -/
structure Classified (follower : Follower) (file : LogFile)
    (r : Except FollowError (Option (Transition × ℕ))) (disk' : Disk) : Prop where
  grows : Grows (some file) disk'
  idle : r = .ok none → disk' = some file ∧ ∃ attached, follower.attached = some attached ∧
    attached.identity = file.identity ∧ attached.offset = file.content.length
  read : ∀ transition start, r = .ok (some (transition, start)) → Boundary lineFeed file.content start ∧
    (start ≠ 0 → ∃ attached, follower.attached = some attached ∧ start = attached.offset) ∧
    ∀ attached, follower.attached = some attached → attached.identity = file.identity →
      Boundary lineFeed file.content attached.offset → start = attached.offset

theorem Classified.fresh {follower : Follower} {transition : Transition} (hgrows : Grows (some file) disk')
    (hnot : ∀ attached, follower.attached = some attached → attached.identity = file.identity →
      ¬ Boundary lineFeed file.content attached.offset) :
    Classified follower file (.ok (some (transition, 0))) disk' where
  grows := hgrows
  idle := by simp
  read := by
    intro transition' start hstart
    cases hstart
    refine ⟨boundary_zero _, fun h0 => absurd rfl h0, ?_⟩
    exact fun attached ha hidentity hb => absurd hb (hnot attached ha hidentity)

theorem classify_spec {follower : Follower} {r : Except FollowError (Option (Transition × ℕ))}
    (h : Exec (fileSystem.under Grows)
      (follower.classify file.identity file.content.length).run (some file) r disk') :
    Classified follower file r disk' := by
  unfold Follower.classify at h
  cases ha : follower.attached with
  | none =>
    rw [ha] at h
    obtain ⟨rfl, rfl⟩ := exec_done_iff.mp h
    exact .fresh (.refl _) (by simp [ha])
  | some attached =>
    rw [ha] at h
    dsimp only at h
    by_cases hidentity : attached.identity = file.identity
    · rw [if_neg (fun hne => hne hidentity)] at h
      by_cases hshort : file.content.length < attached.offset
      · rw [if_pos hshort] at h
        obtain ⟨rfl, rfl⟩ := exec_done_iff.mp h
        apply Classified.fresh (.refl _)
        intro attached' ha' _ hb
        cases ha.symm.trans ha'
        have hle := hb.1
        omega
      · rw [if_neg hshort] at h
        by_cases hlong : attached.offset < file.content.length
        · rw [if_pos hlong] at h
          rcases exec_except_bind_iff.mp h with ⟨e, rfl, he⟩ | ⟨b, disk₁, hb, hk⟩
          · obtain ⟨hgrows, -⟩ := anchored_spec (by omega) he
            exact ⟨hgrows, by simp, by simp⟩
          · obtain ⟨hgrows, hanchored⟩ := anchored_spec (by omega) hb
            have hiff := hanchored b rfl
            by_cases hb' : b = true
            · rw [if_pos hb'] at hk
              obtain ⟨rfl, rfl⟩ := exec_done_iff.mp hk
              refine ⟨hgrows, by simp, ?_⟩
              intro transition start hstart
              cases hstart
              refine ⟨hiff.mp hb', fun _ => ⟨attached, ha, rfl⟩, ?_⟩
              intro attached' ha' _ _
              cases ha.symm.trans ha'
              rfl
            · rw [if_neg hb'] at hk
              obtain ⟨rfl, rfl⟩ := exec_done_iff.mp hk
              apply Classified.fresh hgrows
              intro attached' ha' _ hboundary
              cases ha.symm.trans ha'
              exact hb' (hiff.mpr hboundary)
        · rw [if_neg hlong] at h
          obtain ⟨rfl, rfl⟩ := exec_done_iff.mp h
          exact ⟨.refl _, fun _ => ⟨rfl, attached, ha, hidentity, by omega⟩, by simp⟩
    · rw [if_pos hidentity] at h
      obtain ⟨rfl, rfl⟩ := exec_done_iff.mp h
      apply Classified.fresh (.refl _)
      intro attached' ha' hidentity' _
      cases ha.symm.trans ha'
      exact hidentity hidentity'

theorem readForward_spec {start : ℕ} {r : Except FollowError (String × ℕ)}
    (h : Exec (fileSystem.under Grows) (readForward start).run (some file) r disk') :
    ∃ file', disk' = some file' ∧ Grows (some file) disk' ∧ ∀ text offset, r = .ok (text, offset) →
      utf8Bytes text = complete lineFeed (file'.content.drop start) ∧
        offset = start + completeLength lineFeed (file'.content.drop start) := by
  obtain ⟨reply, disk₁, ⟨disk₂, hgrows, hd⟩, hk⟩ := exec_attempt_bind.mp h
  obtain ⟨file', rfl, -, -⟩ := hgrows.file
  cases reply with
  | error err =>
    obtain ⟨rfl, -⟩ := hd
    obtain ⟨rfl, rfl⟩ := exec_done_iff.mp hk
    exact ⟨file', rfl, hgrows, by simp⟩
  | ok bytes =>
    obtain ⟨rfl, read, hread, rfl⟩ := hd
    cases hread
    dsimp only at hk
    cases htext : fromUtf8 (complete lineFeed (file'.content.drop start)) with
    | none =>
      rw [htext] at hk
      obtain ⟨rfl, rfl⟩ := exec_done_iff.mp hk
      exact ⟨file', rfl, hgrows, by simp⟩
    | some text =>
      rw [htext] at hk
      obtain ⟨rfl, rfl⟩ := exec_done_iff.mp hk
      refine ⟨file', rfl, hgrows, ?_⟩
      intro text' offset hr
      cases hr
      exact ⟨utf8Bytes_of_fromUtf8 htext, rfl⟩

/-- What a poll that succeeds has done: the file was not there, or has nothing new, or was read. -/
inductive PollOutcome (follower : Follower) (disk disk' : Disk) (polled : Polled)
    (follower' : Follower) : Prop
  | absent : disk' = none → utf8Bytes polled.text = [] → follower' = ⟨none⟩ →
      PollOutcome follower disk disk' polled follower'
  | idle {file : LogFile} {attached : Attachment} : disk' = some file →
      follower.attached = some attached → attached.identity = file.identity →
      attached.offset = file.content.length → utf8Bytes polled.text = [] → follower' = follower →
      PollOutcome follower disk disk' polled follower'
  | read {file : LogFile} {start : ℕ} : disk' = some file → Boundary lineFeed file.content start →
      (start ≠ 0 → ∃ attached, follower.attached = some attached ∧ start = attached.offset) →
      (∀ attached file₀, follower.attached = some attached → disk = some file₀ →
        attached.identity = file₀.identity → Boundary lineFeed file₀.content attached.offset →
        start = attached.offset) →
      utf8Bytes polled.text = complete lineFeed (file.content.drop start) →
      follower'.attached =
        some ⟨file.identity, start + completeLength lineFeed (file.content.drop start)⟩ →
      PollOutcome follower disk disk' polled follower'

theorem poll_spec {follower : Follower} {r : Except FollowError (Polled × Follower)}
    (h : Exec (fileSystem.under Grows) follower.poll.run disk r disk') :
    Grows disk disk' ∧ ∀ polled follower', r = .ok (polled, follower') →
      PollOutcome follower disk disk' polled follower' := by
  obtain ⟨reply, disk₁, ⟨disk₂, hgrows, hd⟩, hk⟩ := exec_attempt_bind.mp h
  cases reply with
  | error err =>
    obtain ⟨rfl, hnone⟩ := hd
    cases err with
    | notFound =>
      obtain ⟨rfl, rfl⟩ := exec_done_iff.mp hk
      refine ⟨hgrows, ?_⟩
      intro polled follower' hr
      cases hr
      exact .absent (hnone rfl) utf8Bytes_empty rfl
    | unexpectedEof =>
      obtain ⟨rfl, rfl⟩ := exec_done_iff.mp hk
      exact ⟨hgrows, by simp⟩
    | other =>
      obtain ⟨rfl, rfl⟩ := exec_done_iff.mp hk
      exact ⟨hgrows, by simp⟩
  | ok stat =>
    obtain ⟨identity, len⟩ := stat
    obtain ⟨rfl, file, rfl, rfl, rfl⟩ := hd
    rcases exec_except_bind_iff.mp hk with ⟨e, rfl, he⟩ | ⟨next, disk₃, hclassify, hresume⟩
    · exact ⟨hgrows.trans (classify_spec he).grows, by simp⟩
    · obtain ⟨hgrows', hidle, hread⟩ := classify_spec hclassify
      cases next with
      | none =>
        obtain ⟨rfl, attached, ha, hidentity, hoffset⟩ := hidle rfl
        obtain ⟨rfl, rfl⟩ := exec_done_iff.mp hresume
        refine ⟨hgrows, ?_⟩
        intro polled follower' hr
        cases hr
        exact .idle rfl ha hidentity hoffset utf8Bytes_empty rfl
      | some next =>
        obtain ⟨transition, start⟩ := next
        obtain ⟨hboundary, hfrom, hstart⟩ := hread transition start rfl
        obtain ⟨file₃, rfl, hidentity₃, hcontent₃⟩ := hgrows'.file
        rcases exec_except_bind_iff.mp hresume with ⟨e, rfl, he⟩ | ⟨v, disk₄, hforward, hpure⟩
        · obtain ⟨file₄, rfl, hgrows₄, -⟩ := readForward_spec he
          exact ⟨(hgrows.trans hgrows').trans hgrows₄, by simp⟩
        · obtain ⟨file₄, rfl, hgrows₄, htext⟩ := readForward_spec hforward
          obtain ⟨text, offset⟩ := v
          obtain ⟨hbytes, rfl⟩ := htext text offset rfl
          obtain ⟨rfl, rfl⟩ := exec_done_iff.mp hpure
          obtain ⟨file', hfile', hidentity₄, hcontent₄⟩ := hgrows₄.file
          cases hfile'
          refine ⟨(hgrows.trans hgrows').trans hgrows₄, ?_⟩
          intro polled follower' hr
          cases hr
          refine .read rfl ((hboundary.mono hcontent₃).mono hcontent₄) hfrom ?_ hbytes ?_
          · intro attached file₀ ha hfile₀ hidentity₀ hboundary₀
            subst hfile₀
            obtain ⟨file'', hfile'', hidentity'', hcontent''⟩ := hgrows.file
            cases hfile''
            exact hstart attached ha (hidentity₀.trans hidentity''.symm) (hboundary₀.mono hcontent'')
          · rw [hidentity₄, hidentity₃]

/-! ## Polls that fail -/

theorem soundFileSystem_within : (soundFileSystem.under Grows).Within (fileSystem.under Grows) := by
  rintro o disk r disk' ⟨disk₁, hgrows, hd⟩
  refine ⟨disk₁, hgrows, ?_⟩
  cases o with
  | metadata => exact hd.1
  | readByteAt offset => exact hd.1
  | readToEnd offset => exact hd.1

theorem anchored_sound {offset : ℕ} {e : FollowError} (hoffset : offset ≤ file.content.length) :
    ¬ Exec (soundFileSystem.under Grows) (anchored offset).run (some file) (.error e) disk' := by
  intro h
  cases offset with
  | zero =>
    have hr := (exec_done_iff.mp h).1
    cases hr
  | succ previous =>
    obtain ⟨reply, disk₁, ⟨disk₂, hgrows, -, hd⟩, hk⟩ := exec_attempt_bind.mp h
    obtain ⟨file', rfl, -, hcontent⟩ := hgrows.file
    cases reply with
    | ok byte =>
      have hr := (exec_done_iff.mp hk).1
      cases hr
    | error err =>
      rcases hd err rfl with ⟨-, hnone⟩ | ⟨-, hlength⟩
      · cases hnone
      · have hle := hcontent.length_le
        change file'.content.length ≤ previous at hlength
        omega

theorem classify_sound {follower : Follower} {e : FollowError} :
    ¬ Exec (soundFileSystem.under Grows)
      (follower.classify file.identity file.content.length).run (some file) (.error e) disk' := by
  intro h
  unfold Follower.classify at h
  cases ha : follower.attached with
  | none =>
    rw [ha] at h
    have hr := (exec_done_iff.mp h).1
    cases hr
  | some attached =>
    rw [ha] at h
    dsimp only at h
    by_cases hidentity : attached.identity = file.identity
    · rw [if_neg (fun hne => hne hidentity)] at h
      by_cases hshort : file.content.length < attached.offset
      · rw [if_pos hshort] at h
        have hr := (exec_done_iff.mp h).1
        cases hr
      · rw [if_neg hshort] at h
        by_cases hlong : attached.offset < file.content.length
        · rw [if_pos hlong] at h
          rcases exec_except_bind_iff.mp h with ⟨e', -, he⟩ | ⟨b, disk₁, -, hk⟩
          · exact anchored_sound (by omega) he
          · cases b with
            | true =>
              have hr := (exec_done_iff.mp hk).1
              cases hr
            | false =>
              have hr := (exec_done_iff.mp hk).1
              cases hr
        · rw [if_neg hlong] at h
          have hr := (exec_done_iff.mp h).1
          cases hr
    · rw [if_pos hidentity] at h
      have hr := (exec_done_iff.mp h).1
      cases hr

theorem readForward_sound {start : ℕ} {e : FollowError}
    (h : Exec (soundFileSystem.under Grows) (readForward start).run (some file) (.error e) disk') :
    ∃ file', disk' = some file' ∧ file.content <+: file'.content ∧
      ¬ ValidUtf8 (complete lineFeed (file'.content.drop start)) := by
  obtain ⟨reply, disk₁, ⟨disk₂, hgrows, hread, hd⟩, hk⟩ := exec_attempt_bind.mp h
  obtain ⟨file', rfl, -, hcontent⟩ := hgrows.file
  cases reply with
  | error err => cases (hd err rfl).2
  | ok bytes =>
    obtain ⟨rfl, read, hread, rfl⟩ := hread
    cases hread
    dsimp only at hk
    cases htext : fromUtf8 (complete lineFeed (file'.content.drop start)) with
    | none =>
      rw [htext] at hk
      obtain ⟨-, rfl⟩ := exec_done_iff.mp hk
      exact ⟨file', rfl, hcontent, fromUtf8_eq_none.mp htext⟩
    | some text =>
      rw [htext] at hk
      have hr := (exec_done_iff.mp hk).1
      cases hr

/-- A sound file system fails a poll only for a finished line that is not text. -/
theorem poll_sound {follower : Follower} {e : FollowError}
    (h : Exec (soundFileSystem.under Grows) follower.poll.run disk (.error e) disk') :
    ∃ file start, disk' = some file ∧ Boundary lineFeed file.content start ∧
      ¬ ValidUtf8 (complete lineFeed (file.content.drop start)) := by
  obtain ⟨reply, disk₁, ⟨disk₂, hgrows, hstat, hd⟩, hk⟩ := exec_attempt_bind.mp h
  cases reply with
  | error err =>
    obtain ⟨rfl, -⟩ := hd err rfl
    have hr := (exec_done_iff.mp hk).1
    cases hr
  | ok stat =>
    obtain ⟨identity, len⟩ := stat
    obtain ⟨rfl, file, rfl, rfl, rfl⟩ := hstat
    rcases exec_except_bind_iff.mp hk with ⟨e', -, he⟩ | ⟨next, disk₃, hclassify, hresume⟩
    · exact absurd he classify_sound
    · have hspec := classify_spec (exec_within soundFileSystem_within hclassify)
      cases next with
      | none =>
        have hr := (exec_done_iff.mp hresume).1
        cases hr
      | some next =>
        obtain ⟨transition, start⟩ := next
        obtain ⟨hboundary, -⟩ := hspec.read transition start rfl
        obtain ⟨file₃, rfl, -, hcontent₃⟩ := hspec.grows.file
        rcases exec_except_bind_iff.mp hresume with ⟨e', -, he⟩ | ⟨v, disk₄, -, hpure⟩
        · obtain ⟨file₄, rfl, hcontent₄, hinvalid⟩ := readForward_sound he
          exact ⟨file₄, start, rfl, (hboundary.mono hcontent₃).mono hcontent₄, hinvalid⟩
        · have hr := (exec_done_iff.mp hpure).1
          cases hr

/-! ## Polls that a removal overtakes -/

/-- A file is created, grows or goes away. -/
def GrowsOrGoes (disk disk' : Disk) : Prop := Grows disk disk' ∨ disk' = none ∧ disk ≠ none

/-- A poll after which the file is gone has not read it. -/
theorem poll_removed {follower follower' : Follower} {polled : Polled}
    (h : Exec (fileSystem.under GrowsOrGoes) follower.poll.run disk (.ok (polled, follower')) none) :
    utf8Bytes polled.text = [] := by
  obtain ⟨reply, disk₁, -, hk⟩ := exec_attempt_bind.mp h
  cases reply with
  | error err =>
    cases err with
    | notFound =>
      obtain ⟨hr, -⟩ := exec_done_iff.mp hk
      cases hr
      exact utf8Bytes_empty
    | unexpectedEof =>
      have hr := (exec_done_iff.mp hk).1
      cases hr
    | other =>
      have hr := (exec_done_iff.mp hk).1
      cases hr
  | ok stat =>
    rcases exec_except_bind_iff.mp hk with ⟨e, he, -⟩ | ⟨next, disk₃, -, hresume⟩
    · cases he
    · cases next with
      | none =>
        obtain ⟨hr, -⟩ := exec_done_iff.mp hresume
        cases hr
        exact utf8Bytes_empty
      | some next =>
        rcases exec_except_bind_iff.mp hresume with ⟨e, he, -⟩ | ⟨v, disk₄, hforward, hpure⟩
        · cases he
        · obtain ⟨-, hgone⟩ := exec_done_iff.mp hpure
          obtain ⟨reply, disk₅, ⟨disk₆, -, hd⟩, hread⟩ := exec_attempt_bind.mp hforward
          cases reply with
          | error err =>
            have hr := (exec_done_iff.mp hread).1
            cases hr
          | ok bytes =>
            obtain ⟨rfl, file, rfl, rfl⟩ := hd
            dsimp only at hread
            cases htext : fromUtf8 (complete lineFeed (file.content.drop next.2)) with
            | none =>
              rw [htext] at hread
              have hr := (exec_done_iff.mp hread).1
              cases hr
            | some text =>
              rw [htext] at hread
              have hstays := (exec_done_iff.mp hread).2
              cases hgone.trans hstays

end Polls

/-! ## Runs -/

/-- The log, what it held before each change that was no append, and the follower. -/
structure Followed where
  past : List (List UInt8) := []
  disk : Disk
  follower : Follower := Follower.new

/-- What the log has held, with the current content last. -/
def Followed.versions (s : Followed) : List (List UInt8) := s.past ++ [contents s.disk]

inductive FollowLabel where
  | wrote
  | changed
  | polled (p : Polled)

inductive FollowStep : Followed → FollowLabel → Followed → Prop
  | wrote {s : Followed} {disk' : Disk} : Grows s.disk disk' →
      FollowStep s .wrote { s with disk := disk' }
  | changed {s : Followed} (disk' : Disk) :
      FollowStep s .changed { s with disk := disk', past := s.past ++ [contents s.disk] }
  | polled {s : Followed} {disk' : Disk} {polled : Polled} {follower' : Follower} :
      Exec (fileSystem.under Grows) s.follower.poll.run s.disk (.ok (polled, follower')) disk' →
      FollowStep s (.polled polled) { s with disk := disk', follower := follower' }

def FollowLabel.emitted : FollowLabel → List UInt8
  | .polled p => utf8Bytes p.text
  | _ => []

/-- What the polls have emitted, poll by poll. -/
def emissions (tr : List FollowLabel) : List (List UInt8) :=
  (tr.map FollowLabel.emitted).filter (· ≠ [])

def FollowLabel.Changes : FollowLabel → Prop
  | .changed => True
  | _ => False

/-- Part of what the log has held. -/
structure Span where
  version : ℕ
  start : ℕ
  stop : ℕ

/-- The bytes are those of the part, and it is made of whole lines. -/
def Span.Holds (versions : List (List UInt8)) (x : Span) (bytes : List UInt8) : Prop :=
  ∃ content, versions[x.version]? = some content ∧ Boundary lineFeed content x.start ∧
    Boundary lineFeed content x.stop ∧ x.start < x.stop ∧
    bytes = (content.take x.stop).drop x.start

def Span.Before (x y : Span) : Prop :=
  x.version < y.version ∨ x.version = y.version ∧ x.stop ≤ y.start

/-- The follower stands between two lines of the current file, behind the part. -/
def Followed.Past (s : Followed) (x : Span) : Prop :=
  ∃ file attached, s.disk = some file ∧ s.follower.attached = some attached ∧
    attached.identity = file.identity ∧ Boundary lineFeed file.content attached.offset ∧
    x.stop ≤ attached.offset

/-- The invariant of the parts that have been emitted. -/
structure Spanned (s : Followed) (emitted : List (List UInt8)) (spans : List Span) : Prop where
  holds : List.Forall₂ (Span.Holds s.versions) spans emitted
  ordered : spans.Pairwise Span.Before
  listed : ∀ x ∈ spans, x.version ≤ s.past.length
  current : ∀ x ∈ spans, x.version = s.past.length → s.Past x

theorem emissions_silent {tr : List FollowLabel} {l : FollowLabel} (h : l.emitted = []) :
    emissions (tr ++ [l]) = emissions tr := by
  simp [emissions, h]

theorem emissions_emitted {tr : List FollowLabel} {l : FollowLabel} (h : l.emitted ≠ []) :
    emissions (tr ++ [l]) = emissions tr ++ [l.emitted] := by
  simp [emissions, h]

section Steps

variable {s s' : Followed} {disk' : Disk} {emitted : List (List UInt8)} {spans : List Span} {x : Span}

theorem Span.Holds.mono {versions versions' : List (List UInt8)} {bytes : List UInt8}
    (h : x.Holds versions bytes)
    (hv : ∀ (i : ℕ) (content : List UInt8), versions[i]? = some content →
      ∃ content', versions'[i]? = some content' ∧ content <+: content') : x.Holds versions' bytes := by
  obtain ⟨content, hget, hstart, hstop, hlt, hbytes⟩ := h
  obtain ⟨content', hget', hpre⟩ := hv _ _ hget
  refine ⟨content', hget', hstart.mono hpre, hstop.mono hpre, hlt, ?_⟩
  rw [hstop.take_of_prefix hpre]
  exact hbytes

theorem Followed.versions_grow (hgrows : Grows s.disk disk') (follower : Follower) :
    ∀ (i : ℕ) (content : List UInt8), s.versions[i]? = some content → ∃ content',
      ({ s with disk := disk', follower := follower } : Followed).versions[i]? = some content' ∧
        content <+: content' := by
  intro i content hget
  unfold Followed.versions at hget ⊢
  by_cases hi : i < s.past.length
  · rw [List.getElem?_append_left hi] at hget ⊢
    exact ⟨content, hget, List.prefix_rfl⟩
  · have hle : s.past.length ≤ i := by omega
    rw [List.getElem?_append_right hle] at hget ⊢
    obtain ⟨hzero, hcontent⟩ := List.getElem?_eq_some_iff.mp hget
    have hindex : i - s.past.length = 0 := by
      rw [List.length_singleton] at hzero
      omega
    simp only [hindex, List.getElem_cons_zero] at hcontent
    rw [hindex, ← hcontent]
    exact ⟨contents disk', rfl, hgrows.content⟩

theorem Followed.Past.grows (h : s.Past x) (hgrows : Grows s.disk disk') :
    ({ s with disk := disk' } : Followed).Past x := by
  obtain ⟨file, attached, hdisk, ha, hidentity, hboundary, hstop⟩ := h
  rw [hdisk] at hgrows
  obtain ⟨file', rfl, hidentity', hcontent⟩ := hgrows.file
  exact ⟨file', attached, rfl, ha, hidentity.trans hidentity'.symm, hboundary.mono hcontent, hstop⟩

theorem Spanned.grows (h : Spanned s emitted spans) (hgrows : Grows s.disk disk') :
    Spanned { s with disk := disk' } emitted spans where
  holds := h.holds.imp fun _ _ hx => hx.mono (Followed.versions_grow hgrows s.follower)
  ordered := h.ordered
  listed := h.listed
  current := fun x hx hv => (h.current x hx hv).grows hgrows

theorem Spanned.changed (h : Spanned s emitted spans) (disk' : Disk) :
    Spanned { s with disk := disk', past := s.past ++ [contents s.disk] } emitted spans where
  holds := by
    apply h.holds.imp
    intro x bytes hx
    apply hx.mono
    intro i content hget
    refine ⟨content, ?_, List.prefix_rfl⟩
    obtain ⟨hlt, -⟩ := List.getElem?_eq_some_iff.mp hget
    exact (List.getElem?_append_left hlt).trans hget
  ordered := h.ordered
  listed := by
    intro x hx
    have hle := h.listed x hx
    rw [List.length_append]
    omega
  current := by
    intro x hx hv
    have hle := h.listed x hx
    rw [List.length_append, List.length_singleton] at hv
    omega

/-- A reading goes on behind what has been emitted of the file. -/
theorem Followed.Past.resumes {start : ℕ} (h : s.Past x)
    (hstart : ∀ attached file₀, s.follower.attached = some attached → s.disk = some file₀ →
      attached.identity = file₀.identity → Boundary lineFeed file₀.content attached.offset →
      start = attached.offset) : x.stop ≤ start := by
  obtain ⟨file₀, attached, hdisk, ha, hidentity, hboundary, hstop⟩ := h
  rw [hstart attached file₀ ha hdisk hidentity hboundary]
  exact hstop

theorem Spanned.polled {polled : Polled} {follower' : Follower} (h : Spanned s emitted spans)
    (hgrows : Grows s.disk disk') (ho : PollOutcome s.follower s.disk disk' polled follower') :
    ∃ spans', Spanned { s with disk := disk', follower := follower' }
      (emitted ++ [utf8Bytes polled.text].filter (· ≠ [])) spans' := by
  cases ho with
  | absent hdisk htext hfollower =>
    rw [htext]
    refine ⟨spans, ?_, h.ordered, h.listed, ?_⟩
    · rw [List.filter_singleton]
      simp only [ne_eq, not_true, decide_false, cond_false, List.append_nil]
      exact h.holds.imp fun _ _ hx => hx.mono (Followed.versions_grow hgrows follower')
    · intro x hx hv
      obtain ⟨file, attached, hfile, -⟩ := h.current x hx hv
      obtain ⟨file', hfile', -⟩ := hgrows.kept file hfile
      rw [hdisk] at hfile'
      cases hfile'
  | idle hdisk ha hidentity hoffset htext hfollower =>
    rw [htext, hfollower]
    refine ⟨spans, ?_⟩
    rw [List.filter_singleton]
    simp only [ne_eq, not_true, decide_false, cond_false, List.append_nil]
    exact h.grows hgrows
  | @read file start hdisk hboundary hfrom hstart htext ha =>
    subst hdisk
    obtain ⟨hstop, -⟩ := hboundary.advance
    have hholds := h.holds.imp fun _ _ hx => hx.mono (Followed.versions_grow hgrows follower')
    have hbehind : ∀ x ∈ spans, x.version = s.past.length → x.stop ≤ start :=
      fun x hx hv => (h.current x hx hv).resumes hstart
    have hpast : ∀ x : Span, x.stop ≤ start + completeLength lineFeed (file.content.drop start) →
        ({ s with disk := some file, follower := follower' } : Followed).Past x :=
      fun x hx => ⟨file, _, rfl, ha, rfl, hstop, hx⟩
    rw [htext, List.filter_singleton]
    by_cases hnil : complete lineFeed (file.content.drop start) = []
    · simp only [hnil, ne_eq, not_true, decide_false, cond_false, List.append_nil]
      exact ⟨spans, hholds, h.ordered, h.listed,
        fun x hx hv => hpast x (Nat.le_add_right_of_le (hbehind x hx hv))⟩
    · simp only [hnil, ne_eq, not_false_eq_true, decide_true, cond_true]
      have hpos : 0 < completeLength lineFeed (file.content.drop start) := by
        rw [← length_complete]
        exact List.length_pos_iff.mpr hnil
      refine ⟨spans ++
        [⟨s.past.length, start, start + completeLength lineFeed (file.content.drop start)⟩], ?_, ?_, ?_, ?_⟩
      · apply List.rel_append hholds
        refine .cons ⟨file.content, ?_, hboundary, hstop, Nat.lt_add_of_pos_right hpos, ?_⟩ .nil
        · simp [Followed.versions, contents]
        · exact (drop_take_complete lineFeed file.content start).symm
      · rw [List.pairwise_append]
        refine ⟨h.ordered, List.pairwise_singleton _ _, ?_⟩
        intro x hx y hy
        rw [List.mem_singleton.mp hy]
        rcases Nat.lt_or_eq_of_le (h.listed x hx) with hlt | heq
        · exact .inl hlt
        · exact .inr ⟨heq, hbehind x hx heq⟩
      · intro x hx
        rcases List.mem_append.mp hx with hx | hx
        · exact h.listed x hx
        · rw [List.mem_singleton.mp hx]
      · intro x hx hv
        rcases List.mem_append.mp hx with hx | hx
        · exact hpast x (Nat.le_add_right_of_le (hbehind x hx hv))
        · rw [List.mem_singleton.mp hx]
          exact hpast _ (le_refl _)

end Steps

theorem FollowStep.spanned {s s' : Followed} {l : FollowLabel} {tr : List FollowLabel}
    (h : ∃ spans, Spanned s (emissions tr) spans) (hs : FollowStep s l s') :
    ∃ spans, Spanned s' (emissions (tr ++ [l])) spans := by
  obtain ⟨spans, hspans⟩ := h
  cases hs with
  | wrote hgrows =>
    rw [emissions_silent rfl]
    exact ⟨spans, hspans.grows hgrows⟩
  | changed disk' =>
    rw [emissions_silent rfl]
    exact ⟨spans, hspans.changed disk'⟩
  | @polled disk' polled follower' he =>
    obtain ⟨hgrows, hspec⟩ := poll_spec he
    obtain ⟨spans', hspans'⟩ := hspans.polled hgrows (hspec polled follower' rfl)
    refine ⟨spans', ?_⟩
    have hemissions : emissions (tr ++ [.polled polled]) =
        emissions tr ++ [utf8Bytes polled.text].filter (· ≠ []) := by
      simp [emissions, FollowLabel.emitted]
    rw [hemissions]
    exact hspans'

/-! ## Runs of appends -/

/-- The invariant of the runs in which the log only grows: what has been emitted is the file as far as the
follower has come. -/
structure Caught (s : Followed) (emitted : List UInt8) : Prop where
  valid : ValidUtf8 emitted
  detached : s.follower.attached = none → emitted = []
  reached : ∀ attached, s.follower.attached = some attached → ∃ file, s.disk = some file ∧
    attached.identity = file.identity ∧ Boundary lineFeed file.content attached.offset ∧
    emitted = file.content.take attached.offset

theorem Caught.grows {s : Followed} {emitted : List UInt8} {disk' : Disk} (h : Caught s emitted)
    (hgrows : Grows s.disk disk') : Caught { s with disk := disk' } emitted where
  valid := h.valid
  detached := h.detached
  reached := by
    intro attached ha
    obtain ⟨file, hdisk, hidentity, hboundary, hemitted⟩ := h.reached attached ha
    rw [hdisk] at hgrows
    obtain ⟨file', rfl, hidentity', hcontent⟩ := hgrows.file
    refine ⟨file', rfl, hidentity.trans hidentity'.symm, hboundary.mono hcontent, ?_⟩
    rw [hboundary.take_of_prefix hcontent]
    exact hemitted

/-- What has been emitted is a beginning of the file up to the end of a line. -/
theorem Caught.prefix {s : Followed} {emitted : List UInt8} (h : Caught s emitted) :
    emitted <+: contents s.disk ∧ Terminated lineFeed emitted := by
  cases ha : s.follower.attached with
  | none =>
    rw [h.detached ha]
    exact ⟨List.nil_prefix, .nil⟩
  | some attached =>
    obtain ⟨file, hdisk, -, hboundary, hemitted⟩ := h.reached attached ha
    rw [hdisk, hemitted]
    exact ⟨List.take_prefix _ _, hboundary.2⟩

/-- A poll that succeeds emits the rest of the whole lines. -/
theorem Caught.polled {s : Followed} {emitted : List UInt8} {disk' : Disk} {polled : Polled}
    {follower' : Follower} (h : Caught s emitted) (hgrows : Grows s.disk disk')
    (ho : PollOutcome s.follower s.disk disk' polled follower') :
    Caught { s with disk := disk', follower := follower' } (emitted ++ utf8Bytes polled.text) ∧
      emitted ++ utf8Bytes polled.text = complete lineFeed (contents disk') := by
  cases ho with
  | absent hdisk htext hfollower =>
    subst hdisk hfollower
    have hempty : emitted = [] := by
      have hpre := h.prefix.1.trans hgrows.content
      exact List.prefix_nil.mp hpre
    rw [htext, hempty]
    exact ⟨⟨.nil, fun _ => rfl, fun attached ha => by cases ha⟩, rfl⟩
  | @idle file attached hdisk ha hidentity hoffset htext hfollower =>
    subst hdisk hfollower
    rw [htext, List.append_nil]
    have hcaught := h.grows hgrows
    refine ⟨hcaught, ?_⟩
    obtain ⟨file', hfile', -, hboundary, hemitted⟩ := hcaught.reached attached ha
    cases hfile'
    have hwhole : emitted = file.content := by
      rw [hemitted, hoffset, List.take_length]
    have hterminated : Terminated lineFeed file.content := by
      rw [← hwhole]
      exact h.prefix.2
    rw [hwhole]
    exact (complete_of_terminated hterminated).symm
  | @read file start hdisk hboundary hfrom hstart htext ha =>
    subst hdisk
    have hemitted : emitted = file.content.take start := by
      cases hattached : s.follower.attached with
      | none =>
        have hzero : start = 0 := by
          by_contra h0
          obtain ⟨attached, hsome, -⟩ := hfrom h0
          cases hattached.symm.trans hsome
        rw [h.detached hattached, hzero, List.take_zero]
      | some attached =>
        obtain ⟨file₀, hdisk₀, hidentity₀, hboundary₀, hemitted₀⟩ := h.reached attached hattached
        rw [hstart attached file₀ hattached hdisk₀ hidentity₀ hboundary₀, hemitted₀]
        rw [hdisk₀] at hgrows
        obtain ⟨file', hfile', -, hcontent⟩ := hgrows.file
        cases hfile'
        exact (hboundary₀.take_of_prefix hcontent).symm
    obtain ⟨hstop, htake⟩ := hboundary.advance
    have hall : emitted ++ utf8Bytes polled.text = complete lineFeed file.content := by
      rw [hemitted, htext, hboundary.complete_eq]
    refine ⟨⟨h.valid.append (utf8Bytes_valid _), ?_, ?_⟩, hall⟩
    · intro hnone
      rw [ha] at hnone
      cases hnone
    · intro attached hattached
      cases ha.symm.trans hattached
      exact ⟨file, rfl, rfl, hstop, by rw [hall, htake]⟩

/-- Everything a run has emitted. -/
def emittedText (tr : List FollowLabel) : List UInt8 := tr.flatMap FollowLabel.emitted

theorem runs_caught {disk : Disk} {s : Followed} {tr : List FollowLabel}
    (hr : Runs FollowStep { disk := disk } tr s) (hunchanged : ∀ l ∈ tr, ¬ l.Changes) :
    Caught s (emittedText tr) ∧
      ∀ before polled, tr = before ++ [.polled polled] → emittedText tr = complete lineFeed (contents s.disk) := by
  induction hr with
  | refl =>
    refine ⟨⟨.nil, fun _ => rfl, fun attached ha => by cases ha⟩, ?_⟩
    intro before polled h
    simp at h
  | @snoc tr s s' l hr hs ih =>
    have hcaught := (ih fun l hl => hunchanged l (List.mem_append_left _ hl)).1
    have hlast : ∀ before polled, tr ++ [l] = before ++ [.polled polled] → l = .polled polled := by
      intro before polled h
      exact List.singleton_inj.mp (List.append_inj' h rfl).2
    have htext : emittedText (tr ++ [l]) = emittedText tr ++ l.emitted := by
      simp [emittedText]
    rw [htext]
    cases hs with
    | wrote hgrows =>
      refine ⟨?_, fun before polled h => by cases hlast before polled h⟩
      change Caught _ (emittedText tr ++ [])
      rw [List.append_nil]
      exact hcaught.grows hgrows
    | changed disk' => exact absurd trivial (hunchanged .changed (by simp))
    | @polled disk' polled follower' he =>
      obtain ⟨hgrows, hspec⟩ := poll_spec he
      obtain ⟨hnext, hall⟩ := hcaught.polled hgrows (hspec polled follower' rfl)
      exact ⟨hnext, fun _ _ _ => hall⟩

/-- A follow whose file only grows emits its whole lines, once and in order, and a poll fails for nothing
but a line that is not text. A file that is truncated, rewritten, removed or replaced between two polls
starts anew: what is emitted of each of its contents are whole lines, none of them twice. -/
theorem follow_emits_lines {disk : Disk} {s : Followed} {tr : List FollowLabel}
    (hr : Runs FollowStep { disk := disk } tr s) :
    (∃ spans : List Span, List.Forall₂ (Span.Holds s.versions) spans (emissions tr) ∧
      spans.Pairwise Span.Before) ∧
    ((∀ l ∈ tr, ¬ l.Changes) →
      (∀ before polled, tr = before ++ [.polled polled] →
        emittedText tr = complete lineFeed (contents s.disk)) ∧
      ∀ r disk', Exec (soundFileSystem.under Grows) s.follower.poll.run s.disk r disk' →
        ((∃ v, r = .ok v) ↔ ValidUtf8 (complete lineFeed (contents disk')))) ∧
    ∀ polled follower', Exec (fileSystem.under GrowsOrGoes) s.follower.poll.run s.disk
      (.ok (polled, follower')) none → utf8Bytes polled.text = [] := by
  refine ⟨?_, ?_, fun polled follower' => poll_removed⟩
  · obtain ⟨spans, hspans⟩ : ∃ spans, Spanned s (emissions tr) spans := by
      apply hr.invariant (I := fun tr s => ∃ spans, Spanned s (emissions tr) spans)
      · exact ⟨[], .nil, .nil, by simp, by simp⟩
      · intro tr s l s' h hs
        exact hs.spanned h
    exact ⟨spans, hspans.holds, hspans.ordered⟩
  · intro hunchanged
    obtain ⟨hcaught, hall⟩ := runs_caught hr hunchanged
    refine ⟨hall, ?_⟩
    intro r disk' he
    constructor
    · rintro ⟨⟨polled, follower'⟩, rfl⟩
      obtain ⟨hgrows, hspec⟩ := poll_spec (exec_within soundFileSystem_within he)
      obtain ⟨hnext, htext⟩ := hcaught.polled hgrows (hspec polled follower' rfl)
      rw [← htext]
      exact hnext.valid
    · intro hvalid
      cases r with
      | ok v => exact ⟨v, rfl⟩
      | error e =>
        obtain ⟨file, start, rfl, hboundary, hinvalid⟩ := poll_sound he
        change ValidUtf8 (complete lineFeed file.content) at hvalid
        rw [hboundary.complete_eq] at hvalid
        exact absurd (hvalid.of_append hboundary.2).2 hinvalid

/-! ## Samples -/

/-- A log with one line, and the one that replaces it. -/
def rotatedAway : LogFile := ⟨⟨1, 1⟩, utf8Bytes "a\n"⟩

def rotatedIn : LogFile := ⟨⟨1, 2⟩, utf8Bytes "b\n"⟩

/-- A log with one line that is not text. -/
def binaryLog : LogFile := ⟨⟨1, 1⟩, [0xFF, lineFeed]⟩

theorem rotatedIn_whole : complete lineFeed rotatedIn.content = rotatedIn.content := by
  decide +kernel

theorem exec_readForward {R : Disk → Disk → Prop} {disk : Disk} {file : LogFile} {text : String}
    (hR : R disk (some file)) (hwhole : complete lineFeed file.content = file.content)
    (htext : file.content = utf8Bytes text) : Exec (fileSystem.under R) (readForward 0).run disk
      (.ok (text, completeLength lineFeed file.content)) (some file) := by
  apply exec_attempt_bind.mpr
  refine ⟨(.ok file.content : Except IoError (List UInt8)), some file,
    ⟨some file, hR, rfl, file, rfl, rfl⟩, ?_⟩
  have hsome : fromUtf8 (complete lineFeed file.content) = some text := by
    rw [hwhole, htext]
    exact fromUtf8_utf8Bytes text
  dsimp only
  rw [hsome, Nat.zero_add]
  exact exec_pure_iff.mpr ⟨rfl, rfl⟩

/-- A poll that reads a whole file from its start, as another file or the same one. -/
theorem exec_poll {R : Disk → Disk → Prop} {disk : Disk} {stat file : LogFile} {follower : Follower}
    {transition : Transition} {text : String} (hR : R disk (some stat)) (hchanged : R (some stat) (some file))
    (hclassify : ∀ len, follower.classify stat.identity len = pure (some (transition, 0)))
    (hwhole : complete lineFeed file.content = file.content) (htext : file.content = utf8Bytes text) :
    Exec (fileSystem.under R) follower.poll.run disk
      (.ok (⟨text, transition⟩, ⟨some ⟨stat.identity, completeLength lineFeed file.content⟩⟩))
      (some file) := by
  apply exec_attempt_bind.mpr
  refine ⟨(.ok (stat.identity, stat.content.length) : Except IoError (FileIdentity × ℕ)), some stat,
    ⟨some stat, hR, rfl, stat, rfl, rfl, rfl⟩, ?_⟩
  dsimp only
  rw [hclassify]
  apply exec_except_bind (exec_pure_iff.mpr ⟨rfl, rfl⟩)
  exact exec_except_bind (exec_readForward hchanged hwhole htext) (exec_pure_iff.mpr ⟨rfl, rfl⟩)

theorem exec_poll_fresh {file : LogFile} {text : String} {follower : Follower} {transition : Transition}
    (hclassify : ∀ len, follower.classify file.identity len = pure (some (transition, 0)))
    (hwhole : complete lineFeed file.content = file.content) (htext : file.content = utf8Bytes text) :
    Exec (fileSystem.under Grows) follower.poll.run (some file)
      (.ok (⟨text, transition⟩, ⟨some ⟨file.identity, completeLength lineFeed file.content⟩⟩))
      (some file) :=
  exec_poll (.refl _) (.refl _) hclassify hwhole htext

def rotatedLabels : List FollowLabel :=
  [.polled ⟨"a\n", .attached⟩, .changed, .polled ⟨"b\n", .replaced⟩]

theorem runs_rotated : ∃ s, Runs FollowStep { disk := some rotatedAway } rotatedLabels s ∧
    s.versions = [utf8Bytes "a\n", utf8Bytes "b\n"] := by
  have hwhole : complete lineFeed rotatedAway.content = rotatedAway.content := by decide +kernel
  have hfirst : Exec (fileSystem.under Grows) Follower.new.poll.run (some rotatedAway) _ _ :=
    exec_poll_fresh (fun _ => rfl) hwhole rfl
  have hclassify : ∀ len, Follower.classify
      ⟨some ⟨rotatedAway.identity, completeLength lineFeed rotatedAway.content⟩⟩ rotatedIn.identity len =
        pure (some (.replaced, 0)) := fun _ => rfl
  have hsecond := exec_poll_fresh hclassify rotatedIn_whole rfl
  refine ⟨_, runs_cons_iff.mpr ⟨_, .polled hfirst, runs_cons_iff.mpr ⟨_, .changed (some rotatedIn),
    runs_single (.polled hsecond)⟩⟩, rfl⟩

theorem follow_emits_lines_rotated : ∃ s, Runs FollowStep { disk := some rotatedAway } rotatedLabels s ∧
    ∃ spans : List Span, List.Forall₂ (Span.Holds s.versions) spans (emissions rotatedLabels) ∧
      spans.Pairwise Span.Before := by
  obtain ⟨s, hrun, -⟩ := runs_rotated
  exact ⟨s, hrun, (follow_emits_lines hrun).1⟩

/-- A line that is not text is an error, not a text with replacement characters. And a file that is
replaced between the two looks of one poll is read twice. -/
theorem binary_line_rejected :
    (∃ e, Exec (soundFileSystem.under Grows) Follower.new.poll.run (some binaryLog) (.error e)
      (some binaryLog)) ∧ complete lineFeed (contents (some binaryLog)) = [0xFF, lineFeed] ∧
    ∃ transition transition' follower' follower'',
      Exec (fileSystem.under fun _ disk' => disk' = some rotatedAway ∨ disk' = some rotatedIn)
        Follower.new.poll.run (some rotatedAway) (.ok (⟨"b\n", transition⟩, follower')) (some rotatedIn) ∧
      Exec (fileSystem.under Grows) follower'.poll.run (some rotatedIn)
        (.ok (⟨"b\n", transition'⟩, follower'')) (some rotatedIn) := by
  refine ⟨?_, by decide +kernel, .attached, .replaced,
    ⟨some ⟨rotatedAway.identity, completeLength lineFeed rotatedIn.content⟩⟩,
    ⟨some ⟨rotatedIn.identity, completeLength lineFeed rotatedIn.content⟩⟩, ?_, ?_⟩
  · refine ⟨.invalidData "the event log is not valid UTF-8", ?_⟩
    apply exec_attempt_bind.mpr
    refine ⟨(.ok (binaryLog.identity, 2) : Except IoError (FileIdentity × ℕ)), some binaryLog,
      ⟨some binaryLog, .refl _, ⟨rfl, binaryLog, rfl, rfl, rfl⟩, fun err h => by cases h⟩, ?_⟩
    apply exec_except_bind (exec_pure_iff.mpr ⟨rfl, rfl⟩)
    apply exec_except_bind_iff.mpr
    refine .inl ⟨_, rfl, ?_⟩
    apply exec_attempt_bind.mpr
    refine ⟨(.ok binaryLog.content : Except IoError (List UInt8)), some binaryLog,
      ⟨some binaryLog, .refl _, ⟨rfl, binaryLog, rfl, rfl⟩, fun err h => by cases h⟩, ?_⟩
    have hnone : fromUtf8 (complete lineFeed binaryLog.content) = none := by decide +kernel
    dsimp only
    rw [hnone]
    exact exec_pure_iff.mpr ⟨rfl, rfl⟩
  · exact exec_poll (.inl rfl) (.inr rfl) (fun _ => rfl) rotatedIn_whole rfl
  · exact exec_poll_fresh (fun _ => rfl) rotatedIn_whole rfl

end Sessiometer.Log
