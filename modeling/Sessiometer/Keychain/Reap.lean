import Sessiometer.Effects.Rules
import Sessiometer.Keychain.Services

/-! # The reap of a service

The deletes are addressed by what was read of the dump; a delete by the service alone may take any item
of the service that is left. -/

namespace Sessiometer.Keychain

open Framing Log Effects

/-! ## The program -/

inductive SecurityOp where
  | dumpKeychain
  | deleteGenericPassword (service : Text) (acct : Option Bytes)

/-- What a command leaves; there is no code where a signal ended it. -/
structure Output where
  code : Option ℤ
  stdout : Bytes

def Security : Interface := ⟨SecurityOp, fun _ => Except Error Output⟩

def keychainError (op : String) (code : ℤ) : Error :=
  if code = 36 then .keychainLocked op else if code = 44 then .credentialNotFound else .keychain op code

def enumerate (service : Text) : Prog Security (Except Error ReapTargets) := do
  match ← Prog.call (S := Security) .dumpKeychain with
  | .error e => pure (.error e)
  | .ok output =>
    if output.code ≠ some 0 then
      pure (.error (keychainError "isolated reap enumerate" (output.code.getD (-1))))
    else pure (.ok (parseReapTargets service (fromUtf8Lossy output.stdout)))

/-- An item that is not there is no failure. -/
def deleteOne (service : Text) (acct : Option Bytes) : Prog Security (Except Error Bool) := do
  match ← Prog.call (S := Security) (.deleteGenericPassword service acct) with
  | .error e => pure (.error e)
  | .ok output =>
    if output.code = some 0 then pure (.ok true)
    else if output.code.getD (-1) = 44 then pure (.ok false)
    else pure (.error (keychainError "isolated reap delete" (output.code.getD (-1))))

/-- Every delete is attempted; the first failure is kept. -/
def sweep (service : Text) : List (Option Bytes) → ℕ → Option Error → Prog Security (ℕ × Option Error)
  | [], deleted, firstErr => pure (deleted, firstErr)
  | acct :: plan, deleted, firstErr => do
    match ← deleteOne service acct with
    | .ok true => sweep service plan (deleted + 1) firstErr
    | .ok false => sweep service plan deleted firstErr
    | .error err => sweep service plan deleted (firstErr.or (some err))

def reap (service : Text) : Prog Security (Except Error ℕ) := do
  match ← enumerate service with
  | .error e => pure (.error e)
  | .ok targets =>
    let (deleted, firstErr) ← sweep service targets.plan 0 none
    match firstErr with
    | some err => pure (.error err)
    | none => pure (.ok deleted)

/-! ## The keychain -/

/-- The item is one that a delete under the service and the account may take. -/
def Item.Addressed (service : Text) (acct : Option Bytes) (item : Item) : Prop :=
  item.OfService service ∧ ∀ bytes, acct = some bytes → item.account = some bytes

/-- What `security` may reply, and the items that it leaves. -/
inductive Answers : (o : SecurityOp) → List Item → Except Error Output → List Item → Prop
  | dumped (items : List Item) :
    Answers .dumpKeychain items (.ok ⟨some 0, asBytes (dump items)⟩) items
  | deleted {service : Text} {acct : Option Bytes} {item : Item} {before after : List Item} {stdout : Bytes} :
    item.Addressed service acct →
      Answers (.deleteGenericPassword service acct) (before ++ item :: after) (.ok ⟨some 0, stdout⟩)
        (before ++ after)
  | missing {service : Text} {acct : Option Bytes} {items : List Item} {stdout : Bytes} :
    (∀ item ∈ items, ¬ item.Addressed service acct) →
      Answers (.deleteGenericPassword service acct) items (.ok ⟨some 44, stdout⟩) items
  | undumped {items : List Item} {output : Output} :
    output.code ≠ some 0 → Answers .dumpKeychain items (.ok output) items
  | undeleted {service : Text} {acct : Option Bytes} {items : List Item} {output : Output} :
    output.code ≠ some 0 → output.code ≠ some 44 →
      Answers (.deleteGenericPassword service acct) items (.ok output) items
  | failed {o : SecurityOp} {items : List Item} (e : Error) : Answers o items (.error e) items

def security : Device Security (List Item) := Answers

/-! ## The plan -/

section Plan

variable {service : Text} {found plan : List (Option Bytes)} {items : List Item}

theorem foldl_add (found : List (Option Bytes)) (targets : ReapTargets) :
    found.foldl ReapTargets.add targets =
      ⟨targets.accts ++ found.filterMap id, targets.acctless + found.count none⟩ := by
  induction found generalizing targets with
  | nil => simp
  | cons acct found ih =>
    rw [List.foldl_cons, ih]
    cases acct with
    | none =>
      simp only [ReapTargets.add, List.filterMap_cons, id_eq, List.count_cons_self]
      congr 1
      omega
    | some bytes => simp [ReapTargets.add]

/-- The plan deletes once for every item that was found. -/
theorem perm_plan (found : List (Option Bytes)) :
    found.Perm (found.foldl ReapTargets.add ⟨[], 0⟩).plan := by
  rw [foldl_add]
  unfold ReapTargets.plan
  simp only [List.nil_append, Nat.zero_add]
  induction found with
  | nil => exact .refl _
  | cons acct found ih =>
    cases acct with
    | none =>
      rw [List.filterMap_cons_none rfl, List.count_cons_self, List.replicate_succ]
      exact (ih.cons none).trans List.perm_middle.symm
    | some bytes =>
      have hsome : (some bytes :: found).filterMap id = bytes :: found.filterMap id :=
        List.filterMap_cons_some rfl
      rw [hsome, List.map_cons, List.cons_append, List.count_cons_of_ne (by simp)]
      exact ih.cons (some bytes)

/-- Nothing is addressed by its account once the deletes by the service alone have begun. -/
def AddressedFirst (plan : List (Option Bytes)) : Prop :=
  plan.Pairwise (fun acct later => acct = none → later = none)

theorem addressedFirst_plan (targets : ReapTargets) : AddressedFirst targets.plan := by
  unfold AddressedFirst ReapTargets.plan
  rw [List.pairwise_append]
  refine ⟨?_, ?_, ?_⟩
  · exact List.pairwise_map.mpr (List.pairwise_of_forall (fun _ _ h => by cases h))
  · exact List.pairwise_replicate.mpr (.inr (fun _ => rfl))
  · intro acct _ later hlater _
    exact List.eq_of_mem_replicate hlater

end Plan

/-! ## The sweep -/

section Sweep

variable {service : Text} {plan : List (Option Bytes)} {items : List Item}

/-- The accounts of the service's items. -/
def accountsOf (service : Text) (items : List Item) : List (Option Bytes) :=
  (items.filter (fun item => item.OfService service)).map Item.account

/-- The items that are none of the service's. -/
def others (service : Text) (items : List Item) : List Item :=
  items.filter (fun item => ¬ item.OfService service)

theorem accountsOf_removed {item : Item} (hitem : item.OfService service) (before after : List Item) :
    (accountsOf service (before ++ item :: after)).Perm
      (item.account :: accountsOf service (before ++ after)) := by
  unfold accountsOf
  rw [List.filter_append, List.filter_cons, if_pos (by simpa using hitem), List.filter_append,
    List.map_append, List.map_append, List.map_cons]
  exact List.perm_middle

theorem others_removed {item : Item} (hitem : item.OfService service) (before after : List Item) :
    others service (before ++ item :: after) = others service (before ++ after) := by
  unfold others
  rw [List.filter_append, List.filter_cons, if_neg (by simpa using hitem), List.filter_append]

theorem others_of_none (h : accountsOf service items = []) : others service items = items := by
  have hnone := List.filter_eq_nil_iff.mp (List.map_eq_nil_iff.mp h)
  unfold others
  rw [List.filter_eq_self]
  intro item hitem
  simpa using hnone item hitem

theorem wp_deleteOne {acct : Option Bytes} {Q : Except Error Bool → List Item → Prop}
    (hdeleted : ∀ before item after, items = before ++ item :: after → item.Addressed service acct →
      Q (.ok true) (before ++ after))
    (hmissing : (∀ item ∈ items, ¬ item.Addressed service acct) → Q (.ok false) items)
    (hfailed : ∀ e, Q (.error e) items) :
    wp security anything (deleteOne service acct) items Q := by
  intro reply items' hreply
  refine ⟨trivial, ?_⟩
  cases hreply with
  | deleted haddressed => exact hdeleted _ _ _ rfl haddressed
  | missing hnone => exact hmissing hnone
  | undeleted hcode hcode' =>
    rename_i output
    have hnot : output.code.getD (-1) ≠ 44 := by
      cases hc : output.code with
      | none => decide
      | some code =>
        rw [hc] at hcode'
        exact fun h => hcode' (congrArg some h)
    change wp security anything (if output.code = some 0 then _ else _) _ Q
    rw [if_neg hcode, if_neg hnot]
    exact hfailed _
  | failed e => exact hfailed e

theorem sweep_failed (service : Text) (plan : List (Option Bytes)) (deleted : ℕ) (err : Error) :
    Returns (fun result => result.2 ≠ none) (sweep service plan deleted (some err)) := by
  induction plan generalizing deleted with
  | nil => exact Option.some_ne_none err
  | cons acct plan ih =>
    unfold sweep
    rw [returns_bind]
    apply returns_of_forall
    intro reply
    cases reply with
    | error e => exact ih deleted
    | ok found =>
      cases found with
      | true => exact ih (deleted + 1)
      | false => exact ih deleted

/-- With each delete that does not fail, the item goes that the plan deletes next. -/
theorem wp_sweep (hleft : (accountsOf service items).Perm plan) (hplan : AddressedFirst plan)
    (deleted : ℕ) (firstErr : Option Error) :
    wp security anything (sweep service plan deleted firstErr) items (fun result items' =>
      result.2 = none → firstErr = none ∧ items' = others service items ∧
        result.1 = deleted + plan.length) := by
  induction plan generalizing items deleted firstErr with
  | nil =>
    intro herr
    exact ⟨herr, (others_of_none hleft.eq_nil).symm, rfl⟩
  | cons acct plan ih =>
    have hmore : AddressedFirst plan := (List.pairwise_cons.mp hplan).2
    unfold sweep
    rw [wp_bind]
    apply wp_deleteOne
    · intro before item after hitems haddressed
      subst hitems
      have hremoved := (accountsOf_removed haddressed.1 before after).symm.trans hleft
      -- by the service alone only an item without an account can go, for no other is left
      have haccount : item.account = acct := by
        cases acct with
        | some bytes => exact haddressed.2 bytes rfl
        | none =>
          rcases List.mem_cons.mp (hremoved.subset List.mem_cons_self) with h | h
          · exact h
          · exact (List.pairwise_cons.mp hplan).1 _ h rfl
      rw [haccount] at hremoved
      have hrest := ih (hremoved.cons_inv) hmore (deleted + 1) firstErr
      rw [others_removed haddressed.1]
      apply wp_mono hrest
      intro result items' h herr
      obtain ⟨hnone, hothers, hcount⟩ := h herr
      refine ⟨hnone, hothers, ?_⟩
      rw [hcount, List.length_cons]
      omega
    · intro hmissing
      obtain ⟨item, hitem, haccount⟩ : ∃ item, item ∈ items.filter (fun item => item.OfService service) ∧
          item.account = acct := by
        have hmem : acct ∈ accountsOf service items := hleft.symm.subset List.mem_cons_self
        exact List.mem_map.mp hmem
      rw [List.mem_filter, decide_eq_true_eq] at hitem
      refine absurd ⟨hitem.2, ?_⟩ (hmissing item hitem.1)
      intro bytes hbytes
      rw [haccount, hbytes]
    · intro e
      have herr : ∃ err, firstErr.or (some e) = some err := by
        cases firstErr with
        | none => exact ⟨e, rfl⟩
        | some err => exact ⟨err, rfl⟩
      obtain ⟨err, herr⟩ := herr
      have hfailed := sweep_failed service plan deleted err
      rw [← herr] at hfailed
      have hruns : wp security anything (sweep service plan deleted (firstErr.or (some e))) items
          (fun _ _ => True) := wp_of_forall (fun _ _ _ _ _ => trivial) items
      apply wp_mono (wp_returns hruns hfailed)
      intro result items' h hnone
      exact absurd hnone h.2

end Sweep

/-! ## The service -/

section Service

variable {service : Text} {items : List Item}

/-- Whatever item a delete by the service alone takes, a reap that reports no failure leaves no item
of the service and every other. -/
theorem reap_leaves_others (h : Readable service items) {n : ℕ} {items' : List Item}
    (hrun : Exec security (reap service) items (.ok n) items') :
    items' = others service items ∧ n = (accountsOf service items).length := by
  have hwp : wp security anything (reap service) items (fun result items' =>
      ∀ n, result = .ok n → items' = others service items ∧ n = (accountsOf service items).length) := by
    unfold reap
    rw [wp_bind]
    intro reply items₁ hreply
    refine ⟨trivial, ?_⟩
    cases hreply with
    | dumped =>
      have htargets : parseReapTargets service (fromUtf8Lossy (asBytes (dump items))) =
          (accountsOf service items).foldl ReapTargets.add ⟨[], 0⟩ := by
        unfold asBytes parseReapTargets
        rw [fromUtf8Lossy_encode, serviceMatches_iff.mpr h]
        rfl
      change wp security anything (sweep service
        (parseReapTargets service (fromUtf8Lossy (asBytes (dump items)))).plan 0 none >>= _) items _
      rw [htargets, wp_bind]
      apply wp_mono (wp_sweep (perm_plan _) (addressedFirst_plan _) 0 none)
      rintro ⟨deleted, firstErr⟩ items' hsweep
      cases firstErr with
      | some err =>
        intro n hn
        cases hn
      | none =>
        obtain ⟨-, hothers, hcount⟩ := hsweep rfl
        intro n hn
        cases hn
        refine ⟨hothers, ?_⟩
        have hlength := (perm_plan (accountsOf service items)).length_eq
        dsimp only at hcount
        omega
    | undumped hcode =>
      rename_i output
      change wp security anything (if output.code ≠ some 0 then _ else _) items _
      rw [if_pos hcode]
      intro n hn
      cases hn
    | failed e =>
      intro n hn
      cases hn
  exact wp_exec hwp hrun n rfl

theorem parseResolve_of_matches {dumped : Text}
    (hmatches : serviceMatches service dumped = accountsOf service items) (bytes : Bytes) :
    parseResolve service dumped = .ok bytes ↔
      ∃ item, items.filter (fun item => item.OfService service) = [item] ∧ item.account = some bytes := by
  unfold parseResolve
  rw [hmatches]
  unfold accountsOf
  cases hitems : items.filter (fun item => item.OfService service) with
  | nil => simp
  | cons item more =>
    cases more with
    | nil =>
      rw [List.map_cons, List.map_nil]
      cases haccount : item.account with
      | none => simp [haccount]
      | some account => simp [haccount]
    | cons next more => simp

/-- What the parts that read the dump are for. -/
structure Sound (service : Text) (items : List Item) : Prop where
  matched : serviceMatches service (dump items) =
    (items.filter (fun item => item.OfService service)).map Item.account
  resolved : ∀ bytes, parseResolve service (dump items) = .ok bytes ↔
    ∃ item, items.filter (fun item => item.OfService service) = [item] ∧ item.account = some bytes
  reaped : ∀ n items', Exec security (reap service) items (.ok n) items' →
    items' = items.filter (fun item => ¬ item.OfService service)

/-- The service's items are found, resolved and reaped as they are, just where nothing misleads the
reader of the dump. -/
theorem sound_iff_readable (service : Text) (items : List Item) :
    Sound service items ↔ Readable service items := by
  constructor
  · exact fun h => serviceMatches_iff.mp h.matched
  · intro h
    have hmatches := serviceMatches_iff.mpr h
    exact ⟨hmatches, parseResolve_of_matches hmatches, fun n items' hrun => (reap_leaves_others h hrun).1⟩

theorem exec_enumerate (service : Text) (items : List Item) :
    Exec security (enumerate service) items (.ok (parseReapTargets service (dump items))) items := by
  have hdump : fromUtf8Lossy (asBytes (dump items)) = dump items := fromUtf8Lossy_encode _
  apply exec_perform_iff.mpr
  refine ⟨_, _, Answers.dumped items, ?_⟩
  apply exec_pure_iff.mpr
  exact ⟨congrArg (fun text => Except.ok (parseReapTargets service text)) hdump.symm, rfl⟩

theorem exec_deleteOne_missing {acct : Option Bytes} (h : ∀ item ∈ items, ¬ item.Addressed service acct) :
    Exec security (deleteOne service acct) items (.ok false) items := by
  apply exec_perform_iff.mpr
  exact ⟨.ok ⟨some 44, []⟩, _, Answers.missing h, exec_pure_iff.mpr ⟨rfl, rfl⟩⟩

/-- The service of an isolated directory. -/
def isolated : Text := "Claude Code-credentials-6d80187b".toList

/-- A generic password without an account, as a dump prints it. -/
def unaccounted : Item where
  path := "/tmp/x.keychain-db".toList
  version := 512
  class' := genp
  attributes := [⟨.named acct "blob".toList, .null, by unfold AttributeKey.WellFormed; decide +kernel, trivial⟩,
    ⟨.named svce "blob".toList, .quoted isolated, by unfold AttributeKey.WellFormed; decide +kernel,
      by unfold Printed.WellFormed; decide +kernel⟩]
  path_absolute := rfl
  path_line := by decide +kernel
  class_line := by decide +kernel

/-- The item is resolved under an empty account, and a reap that reports no failure leaves it. -/
theorem null_account_left :
    unaccounted.OfService isolated ∧ unaccounted.account = none ∧
      parseResolve isolated (dump [unaccounted]) = .ok [] ∧
      Exec security (reap isolated) [unaccounted] (.ok 0) [unaccounted] ∧
      ¬ Sound isolated [unaccounted] := by
  have hof : unaccounted.OfService isolated := by decide +kernel
  have haccount : unaccounted.account = none := by decide +kernel
  have hparsed : parseReapTargets isolated (dump [unaccounted]) = ⟨[[]], 0⟩ := by decide +kernel
  have hunaddressed : ∀ item ∈ [unaccounted], ¬ item.Addressed isolated (some []) := by
    intro item hitem haddressed
    rw [List.mem_singleton.mp hitem] at haddressed
    have hempty := haddressed.2 [] rfl
    rw [haccount] at hempty
    cases hempty
  have hrun : Exec security (reap isolated) [unaccounted] (.ok 0) [unaccounted] := by
    have henumerate := exec_enumerate isolated [unaccounted]
    rw [hparsed] at henumerate
    have hsweep : Exec security (sweep isolated [some []] 0 none) [unaccounted] (0, none) [unaccounted] :=
      exec_bind_iff.mpr ⟨_, _, exec_deleteOne_missing hunaddressed, exec_pure_iff.mpr ⟨rfl, rfl⟩⟩
    exact exec_bind_iff.mpr ⟨_, _, henumerate,
      exec_bind_iff.mpr ⟨_, _, hsweep, exec_pure_iff.mpr ⟨rfl, rfl⟩⟩⟩
  refine ⟨hof, haccount, by decide +kernel, hrun, ?_⟩
  intro h
  have hnull := (sound_iff_readable isolated [unaccounted]).mp h
  exact hnull.accounts unaccounted List.mem_cons_self hof (by decide +kernel)

end Service

end Sessiometer.Keychain
