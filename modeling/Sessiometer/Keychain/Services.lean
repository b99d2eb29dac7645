import Sessiometer.Keychain.Matches

/-! # The items of a service

When the reader of the dump finds the generic passwords of the service, each with its account. -/

namespace Sessiometer.Keychain

open Framing Log

/-- No other item of the service bears the mark of a generic password, and nothing that the dump
prints as null stands where the reader looks. -/
structure Readable (service : Text) (items : List Item) : Prop where
  unmarked : ∀ item ∈ items, item.service = some (asBytes service) → item.Marked → item.class' = genp
  accounts : ∀ item ∈ items, item.OfService service → item.printed acct ≠ some .null
  services : service = [] → ∀ item ∈ items, item.Marked → item.printed svce ≠ some .null

section Services

variable {service : Text} {item : Item} {items : List Item}

theorem asBytes_eq_nil (text : Text) : asBytes text = [] ↔ text = [] := by
  constructor
  · intro h
    cases text with
    | nil => rfl
    | cons c text =>
      have hc := List.append_eq_nil_iff.mp h
      exact absurd hc.1 (String.utf8EncodeChar_ne_nil)
  · rintro rfl
    rfl

theorem marked_of_genp (h : item.class' = genp) : item.Marked := by
  have hrow : '\n' :: genpMark ∈ item.rows.map ('\n' :: ·) := by
    apply List.mem_map_of_mem
    unfold Item.rows
    rw [h]
    exact List.mem_cons_of_mem _ List.mem_cons_self
  have hinfix : '\n' :: genpMark <:+: item.body := by
    unfold Item.body
    rw [List.flatMap_def]
    exact (List.infix_of_mem_flatten hrow).trans (List.suffix_append _ _).isInfix
  exact (List.suffix_cons _ _).isInfix.trans hinfix

theorem value_eq_none {value : Printed} : value.value = none ↔ value = .null := by
  cases value with
  | quoted text => simp [Printed.value]
  | hex upper first more shown => simp [Printed.value]
  | null => simp [Printed.value]

theorem map_getD_eq_bind (printed : Option Printed) :
    printed.map (fun value => value.value.getD []) = printed.bind Printed.value ↔
      printed ≠ some .null := by
  cases printed with
  | none => simp
  | some value =>
    rw [Option.map_some, Option.bind_some, ne_eq, Option.some.injEq, ← value_eq_none]
    cases value.value with
    | none => simp
    | some bytes => simp

/-- An item is matched as it should be unless one of its attributes misleads the reader. -/
theorem itemMatch_eq_iff :
    itemMatch service item = (if item.OfService service then some item.account else none) ↔
      (item.service = some (asBytes service) → item.Marked → item.class' = genp) ∧
      (item.OfService service → item.printed acct ≠ some .null) ∧
      (service = [] → item.Marked → item.printed svce ≠ some .null) := by
  by_cases hmark : item.Marked
  · have hmatch : itemMatch service item =
        if (item.printed svce).map (fun value => value.value.getD []) = some (asBytes service) then
          some ((item.printed acct).map (fun value => value.value.getD [])) else none :=
      if_neg (not_not.mpr hmark)
    rw [hmatch]
    by_cases hnull : item.printed svce = some .null
    · have hservice : item.service = none := by
        unfold Item.service
        rw [hnull]
        rfl
      have hnot : ¬ item.OfService service := by
        unfold Item.OfService
        rw [hservice]
        simp
      rw [if_neg hnot, hnull, hservice]
      simp only [hmark, hnot, Option.map_some, Printed.value, Option.getD_none, ne_eq, not_true_eq_false,
        false_implies, true_and, imp_false, reduceCtorEq, ite_eq_right_iff, Option.some.injEq,
        forall_const]
      rw [← asBytes_eq_nil service]
      exact not_congr eq_comm
    · have hservice : (item.printed svce).map (fun value => value.value.getD []) = item.service :=
        (map_getD_eq_bind _).mpr hnull
      rw [hservice]
      by_cases hof : item.service = some (asBytes service)
      · rw [if_pos hof]
        by_cases hclass : item.class' = genp
        · have hyes : item.OfService service := ⟨hclass, hof⟩
          rw [if_pos hyes, Option.some.injEq]
          unfold Item.account
          rw [map_getD_eq_bind]
          simp [hof, hclass, hyes, hnull]
        · have hno : ¬ item.OfService service := fun h => hclass h.1
          rw [if_neg hno]
          simp [hof, hclass, hmark]
      · have hno : ¬ item.OfService service := fun h => hof h.2
        rw [if_neg hof, if_neg hno]
        simp [hof, hno, hnull]
  · have hclass : item.class' ≠ genp := fun h => hmark (marked_of_genp h)
    have hno : ¬ item.OfService service := fun h => hclass h.1
    rw [if_neg hno]
    unfold itemMatch
    rw [if_pos hmark]
    simp [hmark, hno]

theorem filterMap_inj {α β : Type} {f g : α → Option β} {l : List α}
    (himp : ∀ a ∈ l, (g a).isSome → (f a).isSome) (h : l.filterMap f = l.filterMap g) :
    ∀ a ∈ l, f a = g a := by
  have hlength : ∀ l : List α, (∀ a ∈ l, (g a).isSome → (f a).isSome) →
      (l.filterMap g).length ≤ (l.filterMap f).length := by
    intro l
    induction l with
    | nil => intro _; rfl
    | cons a l ih =>
      intro himp
      have hrest := ih (fun b hb => himp b (List.mem_cons_of_mem _ hb))
      have hhead := himp a List.mem_cons_self
      cases hg : g a with
      | none =>
        rw [List.filterMap_cons_none hg]
        cases hf : f a with
        | none => rwa [List.filterMap_cons_none hf]
        | some b =>
          rw [List.filterMap_cons_some hf, List.length_cons]
          omega
      | some c =>
        rw [hg] at hhead
        obtain ⟨b, hf⟩ := Option.isSome_iff_exists.mp (hhead rfl)
        rw [List.filterMap_cons_some hg, List.filterMap_cons_some hf, List.length_cons, List.length_cons]
        omega
  induction l with
  | nil => simp
  | cons a l ih =>
    have hmore : ∀ b ∈ l, (g b).isSome → (f b).isSome :=
      fun b hb => himp b (List.mem_cons_of_mem _ hb)
    have hhead := himp a List.mem_cons_self
    cases hg : g a with
    | none =>
      rw [List.filterMap_cons_none hg] at h
      cases hf : f a with
      | none =>
        rw [List.filterMap_cons_none hf] at h
        simp only [List.forall_mem_cons, hf, hg, true_and]
        exact ih hmore h
      | some b =>
        have hle := hlength l hmore
        rw [List.filterMap_cons_some hf] at h
        have heq := congrArg List.length h
        rw [List.length_cons] at heq
        omega
    | some c =>
      rw [hg] at hhead
      obtain ⟨b, hf⟩ := Option.isSome_iff_exists.mp (hhead rfl)
      rw [List.filterMap_cons_some hg, List.filterMap_cons_some hf, List.cons.injEq] at h
      simp only [List.forall_mem_cons, hf, hg, h.1, true_and]
      exact ih hmore h.2

/-- The generic passwords of the service are found with their accounts, and nothing else, just where
nothing misleads the reader. -/
theorem serviceMatches_iff :
    serviceMatches service (dump items) =
      (items.filter (fun item => item.OfService service)).map Item.account ↔
        Readable service items := by
  have hspec : (items.filter (fun item => item.OfService service)).map Item.account =
      items.filterMap (fun item => if item.OfService service then some item.account else none) := by
    induction items with
    | nil => rfl
    | cons item items ih =>
      rw [List.filter_cons, List.filterMap_cons, ← ih]
      by_cases h : item.OfService service
      · simp [h]
      · simp [h]
  have hiff : Readable service items ↔ ∀ item ∈ items,
      itemMatch service item = if item.OfService service then some item.account else none := by
    simp only [itemMatch_eq_iff]
    constructor
    · rintro ⟨h₁, h₂, h₃⟩ item hitem
      exact ⟨h₁ item hitem, h₂ item hitem, fun hservice => h₃ hservice item hitem⟩
    · intro h
      exact ⟨fun item hitem => (h item hitem).1, fun item hitem => (h item hitem).2.1,
        fun hservice item hitem => (h item hitem).2.2 hservice⟩
  rw [serviceMatches_dump, hspec, hiff]
  constructor
  · apply filterMap_inj
    intro item _ hsome
    have hof : item.OfService service := by
      by_contra hno
      rw [if_neg hno] at hsome
      cases hsome
    have hdecoded : (item.printed svce).map (fun value => value.value.getD []) =
        some (asBytes service) := by
      rw [← hof.2]
      apply (map_getD_eq_bind _).mpr
      intro hnull
      have hservice := hof.2
      unfold Item.service at hservice
      rw [hnull] at hservice
      cases hservice
    unfold itemMatch
    rw [if_neg (not_not.mpr (marked_of_genp hof.1)), if_pos hdecoded]
    rfl
  · exact fun h => List.filterMap_congr h

end Services

end Sessiometer.Keychain
