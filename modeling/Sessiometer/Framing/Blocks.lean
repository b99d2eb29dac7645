import Mathlib.Data.List.Infix

/-! # Blocks of a text

A text cut at every occurrence of a pattern whose first element occurs in it only there. -/

namespace Framing

universe u

variable {α : Type u} [DecidableEq α]

/-- The pieces between the occurrences of the pattern, with the elements that are still to be
skipped. -/
def splitSkipping (pat : List α) : ℕ → List α → List (List α)
  | _, [] => [[]]
  | skip + 1, _ :: rest => splitSkipping pat skip rest
  | 0, a :: rest =>
    if pat.isPrefixOf (a :: rest) then [] :: splitSkipping pat (pat.length - 1) rest
    else (splitSkipping pat 0 rest).modifyHead (a :: ·)

/-- `str::split` at a pattern that is not empty. -/
def splitPattern (pat : List α) (l : List α) : List (List α) := splitSkipping pat 0 l

section Blocks

variable {sep : α} {tail pat block rest p q : List α}

omit [DecidableEq α] in
theorem prefix_of_prefix_append (hsep : sep ∉ tail) (h : tail <+: p ++ sep :: q) : tail <+: p := by
  apply List.prefix_of_prefix_length_le h (List.prefix_append p _)
  by_contra hlong
  obtain ⟨r, hr⟩ := h
  have hget : (p ++ sep :: q)[p.length]? = some sep := by simp
  rw [← hr, List.getElem?_append_left (by omega)] at hget
  exact hsep (List.mem_of_getElem? hget)

omit [DecidableEq α] in
/-- Two parts that both end at their first separator agree where one begins the other. -/
theorem append_cons_prefix {r : List α} (hp : sep ∉ p) (hq : sep ∉ q)
    (h : p ++ sep :: r <+: q ++ sep :: rest) : p = q ∧ r <+: rest := by
  induction p generalizing q with
  | nil =>
    cases q with
    | nil => exact ⟨rfl, (List.cons_prefix_cons.mp h).2⟩
    | cons b q => exact absurd (List.cons_prefix_cons.mp h).1 (fun h => hq (h ▸ List.mem_cons_self))
  | cons a p ih =>
    rw [List.mem_cons, not_or] at hp
    cases q with
    | nil => exact absurd (List.cons_prefix_cons.mp h).1.symm hp.1
    | cons b q =>
      obtain ⟨rfl, hmore⟩ := List.cons_prefix_cons.mp h
      obtain ⟨rfl, hr⟩ := ih hp.2 (fun h => hq (List.mem_cons_of_mem _ h)) hmore
      exact ⟨rfl, hr⟩

theorem splitSkipping_append (skipped rest : List α) :
    splitSkipping pat skipped.length (skipped ++ rest) = splitSkipping pat 0 rest := by
  induction skipped with
  | nil => rfl
  | cons a skipped ih => exact ih

theorem splitPattern_cons (h : ¬ pat <+: a :: rest) :
    splitPattern pat (a :: rest) = (splitPattern pat rest).modifyHead (a :: ·) := by
  change splitSkipping pat 0 (a :: rest) = _
  rw [splitSkipping, if_neg (fun hp => h (List.isPrefixOf_iff_prefix.mp hp))]
  rfl

/-- The first block ends at the pattern that follows it. -/
theorem splitPattern_append (hsep : sep ∉ tail) (hblock : ¬ sep :: tail <:+: block) (rest : List α) :
    splitPattern (sep :: tail) (block ++ (sep :: tail ++ rest)) =
      block :: splitPattern (sep :: tail) rest := by
  induction block with
  | nil =>
    have hpre : (sep :: tail).isPrefixOf (sep :: (tail ++ rest)) = true :=
      List.isPrefixOf_iff_prefix.mpr (List.prefix_append (sep :: tail) rest)
    change splitSkipping _ 0 (sep :: (tail ++ rest)) = _
    rw [splitSkipping, if_pos hpre]
    exact congrArg _ (splitSkipping_append tail rest)
  | cons a block ih =>
    have hnot : ¬ sep :: tail <+: a :: (block ++ (sep :: tail ++ rest)) := by
      intro h
      rw [List.cons_prefix_cons] at h
      have hpre : sep :: tail <+: a :: block :=
        List.cons_prefix_cons.mpr ⟨h.1, prefix_of_prefix_append hsep h.2⟩
      exact hblock hpre.isInfix
    rw [List.cons_append, splitPattern_cons hnot, ih (fun h => hblock (h.trans (List.suffix_cons _ _).isInfix))]
    rfl

theorem splitPattern_self (hblock : ¬ pat <:+: block) : splitPattern pat block = [block] := by
  induction block with
  | nil => rfl
  | cons a block ih =>
    rw [splitPattern_cons (fun h => hblock h.isInfix),
      ih (fun h => hblock (h.trans (List.suffix_cons _ _).isInfix))]
    rfl

omit [DecidableEq α] in
theorem infix_concat_iff_of_getLast? {a : α} (hne : pat ≠ []) (hlast : pat.getLast? ≠ some a) :
    pat <:+: block ++ [a] ↔ pat <:+: block := by
  rw [List.infix_concat_iff]
  apply or_iff_right
  rintro ⟨front, hfront⟩
  have hend := congrArg List.getLast? hfront
  rw [List.getLast?_append_of_ne_nil _ hne, List.getLast?_concat] at hend
  exact hlast hend

omit [DecidableEq α] in
theorem infix_append_cons (hblock : sep ∉ block) (h : sep :: tail <:+: block ++ sep :: rest) :
    tail <+: rest ∨ sep :: tail <:+: rest := by
  induction block with
  | nil =>
    rcases List.infix_cons_iff.mp h with h | h
    · exact .inl (List.cons_prefix_cons.mp h).2
    · exact .inr h
  | cons a block ih =>
    rw [List.mem_cons, not_or] at hblock
    rcases List.infix_cons_iff.mp h with h | h
    · exact absurd (List.cons_prefix_cons.mp h).1 hblock.1
    · exact ih hblock.2 h

omit [DecidableEq α] in
/-- The pattern does not occur in lines none of which begins with what follows its separator. -/
theorem notInfix_rows {rows : List (List α)} (hsep : sep ∉ tail) (hblock : sep ∉ block)
    (hrows : ∀ row ∈ rows, sep ∉ row ∧ ¬ tail <+: row) :
    ¬ sep :: tail <:+: block ++ rows.flatMap (sep :: ·) := by
  induction rows generalizing block with
  | nil =>
    rw [List.flatMap_nil, List.append_nil]
    exact fun h => hblock (h.subset List.mem_cons_self)
  | cons row rows ih =>
    obtain ⟨hrow, hstart⟩ := hrows row List.mem_cons_self
    have hmore := fun r hr => hrows r (List.mem_cons_of_mem _ hr)
    intro h
    rw [List.flatMap_cons, List.cons_append] at h
    rcases infix_append_cons hblock h with h | h
    · apply hstart
      cases rows with
      | nil =>
        rw [List.flatMap_nil, List.append_nil] at h
        exact h
      | cons next rows =>
        rw [List.flatMap_cons, List.cons_append] at h
        exact prefix_of_prefix_append hsep h
    · exact ih hrow hmore h

end Blocks

end Framing
