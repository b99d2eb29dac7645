import Sessiometer.Spans.Lists

/-! # Lists that meet

Two merged lists meet in a merged list. Several are met one after another, each with a list that is
wider, until nothing of what the wider ones have in common is left. -/

namespace Spans

universe u v

variable {τ : Type u} {κ : Type v}

section Meet

variable (tie : τ → τ → τ)

/-- The overlap of two spans, if there is one; its tag is that of the span that ends first. -/
def overlap (s u : Span τ) : List (Span τ) :=
  let lo := max s.lo u.lo
  let hi := min s.hi u.hi
  if lo < hi then
    [⟨lo, hi, if s.hi < u.hi then s.tag else if u.hi < s.hi then u.tag else tie s.tag u.tag⟩]
  else []

/-- A span against a list: the one that ends first is left behind. -/
def meetHead (s : Span τ) (next : List (Span τ) → List (Span τ)) : List (Span τ) → List (Span τ)
  | [] => []
  | u :: rest =>
    overlap tie s u ++ if s.hi ≤ u.hi then next (u :: rest) else meetHead s next rest

def meet : List (Span τ) → List (Span τ) → List (Span τ)
  | [], _ => []
  | s :: more, l => meetHead tie s (meet more) l

/-- The lists of several keys, each with a wider one. -/
def joint (windows : κ → List (Span τ) × List (Span Unit)) :
    Option (List (Span τ) × List (Span Unit)) → List κ → List (Span τ) × List (Span Unit)
  | acc, [] => acc.getD ([], [])
  | acc, k :: ks =>
    let met := match acc with
      | none => windows k
      | some prev => (meet tie prev.1 (windows k).1, meet (fun _ _ => ()) prev.2 (windows k).2)
    if met.2.isEmpty then met else joint windows (some met) ks

end Meet

section Overlap

variable {tie : τ → τ → τ} {s u o : Span τ} {t : ℤ}

theorem contains_overlap : Covers (overlap tie s u) t ↔ s.Contains t ∧ u.Contains t := by
  unfold overlap
  by_cases hne : max s.lo u.lo < min s.hi u.hi
  · simp only [hne, if_true, covers_cons, covers_nil, or_false]
    unfold Span.Contains
    simp only [max_le_iff, lt_min_iff]
    tauto
  · simp only [hne, if_false, covers_nil, false_iff]
    unfold Span.Contains
    omega

theorem mem_overlap (h : o ∈ overlap tie s u) : o.lo = max s.lo u.lo ∧ o.hi = min s.hi u.hi ∧
    o.lo < o.hi ∧
    o.tag = if s.hi < u.hi then s.tag else if u.hi < s.hi then u.tag else tie s.tag u.tag := by
  unfold overlap at h
  by_cases hne : max s.lo u.lo < min s.hi u.hi
  · simp only [hne, if_true, List.mem_singleton] at h
    subst h
    exact ⟨rfl, rfl, hne, rfl⟩
  · simp [hne] at h

end Overlap

section Meeting

variable {tie : τ → τ → τ} {a b more rest : List (Span τ)} {s u o : Span τ} {t : ℤ}
  {marked : τ → Prop} {S S' P P' : ℤ → Prop}

theorem meet_nil_right : meet tie a [] = [] := by
  cases a with
  | nil => rfl
  | cons s more => rfl

theorem meet_cons_cons : meet tie (s :: more) (u :: rest) =
    overlap tie s u ++
      if s.hi ≤ u.hi then meet tie more (u :: rest) else meet tie (s :: more) rest := rfl

/-- One of the two first spans is left behind at each turn. -/
theorem meet_induction {motive : List (Span τ) → List (Span τ) → Prop}
    (left : ∀ b, motive [] b) (right : ∀ a, motive a [])
    (first : ∀ s more u rest, s.hi ≤ u.hi → motive more (u :: rest) →
      motive (s :: more) (u :: rest))
    (second : ∀ s more u rest, u.hi < s.hi → motive (s :: more) rest →
      motive (s :: more) (u :: rest)) (a b : List (Span τ)) : motive a b := by
  induction a generalizing b with
  | nil => exact left b
  | cons s more ihmore =>
    induction b with
    | nil => exact right _
    | cons u rest ihrest =>
      by_cases hle : s.hi ≤ u.hi
      · exact first s more u rest hle (ihmore _)
      · exact second s more u rest (not_le.mp hle) ihrest

theorem mem_meet (h : o ∈ meet tie a b) : ∃ s ∈ a, ∃ u ∈ b, o ∈ overlap tie s u := by
  induction a, b using meet_induction with
  | left b => simp [meet] at h
  | right a => simp [meet_nil_right] at h
  | first s more u rest hle ih =>
    rw [meet_cons_cons, if_pos hle, List.mem_append] at h
    by_cases ho : o ∈ overlap tie s u
    · exact ⟨s, by simp, u, by simp, ho⟩
    · obtain ⟨s', hs', u', hu', ho'⟩ := ih (h.resolve_left ho)
      exact ⟨s', by simp [hs'], u', hu', ho'⟩
  | second s more u rest hlt ih =>
    rw [meet_cons_cons, if_neg (not_le.mpr hlt), List.mem_append] at h
    by_cases ho : o ∈ overlap tie s u
    · exact ⟨s, by simp, u, by simp, ho⟩
    · obtain ⟨s', hs', u', hu', ho'⟩ := ih (h.resolve_left ho)
      exact ⟨s', hs', u', by simp [hu'], ho'⟩

theorem covers_meet (ha : Merged a) (hb : Merged b) :
    Covers (meet tie a b) t ↔ Covers a t ∧ Covers b t := by
  constructor
  · rintro ⟨o, ho, ht⟩
    obtain ⟨s, hs, u, hu, hsu⟩ := mem_meet ho
    obtain ⟨hcs, hcu⟩ := contains_overlap.mp ⟨o, hsu, ht⟩
    exact ⟨⟨s, hs, hcs⟩, u, hu, hcu⟩
  · rintro ⟨hat, hbt⟩
    induction a, b using meet_induction with
    | left b => exact absurd hat covers_nil
    | right a => exact absurd hbt covers_nil
    | first s more u rest hle ih =>
      obtain ⟨-, hmore, ha⟩ := merged_cons.mp ha
      rw [meet_cons_cons, if_pos hle, covers_append, contains_overlap]
      by_cases hs : s.Contains t
      · have hu : u.Contains t := by
          refine (covers_cons.mp hbt).resolve_right ?_
          rintro ⟨v, hv, hlo, -⟩
          have := (merged_cons.mp hb).2.1 v hv
          have := hs.2
          omega
        exact Or.inl ⟨hs, hu⟩
      · exact Or.inr (ih ha hb ((covers_cons.mp hat).resolve_left hs) hbt)
    | second s more u rest hlt ih =>
      obtain ⟨-, hrest, hb⟩ := merged_cons.mp hb
      rw [meet_cons_cons, if_neg (not_le.mpr hlt), covers_append, contains_overlap]
      by_cases hu : u.Contains t
      · have hs : s.Contains t := by
          refine (covers_cons.mp hat).resolve_right ?_
          rintro ⟨v, hv, hlo, -⟩
          have := (merged_cons.mp ha).2.1 v hv
          have := hu.2
          omega
        exact Or.inl ⟨hs, hu⟩
      · exact Or.inr (ih ha hb hat ((covers_cons.mp hbt).resolve_left hu))

/-- An overlap ends where one of the two spans does, and behind both ends there is a gap. -/
theorem merged_overlap_append {l : List (Span τ)} (hl : Merged l)
    (hbehind : ∀ v ∈ l, min s.hi u.hi < v.lo) : Merged (overlap tie s u ++ l) := by
  by_cases hne : max s.lo u.lo < min s.hi u.hi
  · unfold overlap
    simp only [hne, if_true, List.singleton_append]
    exact merged_cons.mpr ⟨hne, hbehind, hl⟩
  · unfold overlap
    simpa only [hne, if_false, List.nil_append] using hl

theorem merged_meet (ha : Merged a) (hb : Merged b) : Merged (meet tie a b) := by
  induction a, b using meet_induction with
  | left b => exact merged_nil
  | right a =>
    rw [meet_nil_right]
    exact merged_nil
  | first s more u rest hle ih =>
    obtain ⟨-, hmore, ha⟩ := merged_cons.mp ha
    rw [meet_cons_cons, if_pos hle]
    refine merged_overlap_append (ih ha hb) fun v hv => ?_
    obtain ⟨s', hs', u', -, hv⟩ := mem_meet hv
    have := hmore s' hs'
    have := (mem_overlap hv).1
    omega
  | second s more u rest hlt ih =>
    obtain ⟨-, hrest, hb⟩ := merged_cons.mp hb
    rw [meet_cons_cons, if_neg (not_le.mpr hlt)]
    refine merged_overlap_append (ih ha hb) fun v hv => ?_
    obtain ⟨s', -, u', hu', hv⟩ := mem_meet hv
    have := hrest u' hu'
    have := (mem_overlap hv).1
    omega

/-- What two lists have in common. A span of it is marked when a list that ends there is. -/
theorem meet_tiles (htie : ∀ c d, marked (tie c d) ↔ marked c ∨ marked d)
    (ha : Tiles marked a S P) (hb : Tiles marked b S' P') :
    Tiles marked (meet tie a b) (fun t => S t ∧ S' t)
      fun e => ¬S e ∧ P e ∨ ¬S' e ∧ P' e where
  merged := merged_meet ha.merged hb.merged
  covers t := by rw [covers_meet ha.merged hb.merged, ha.covers, hb.covers]
  marks o ho := by
    obtain ⟨s, hs, u, hu, hsu⟩ := mem_meet ho
    obtain ⟨hlo, hhi, hne, htag⟩ := mem_overlap hsu
    have hsend : ¬S s.hi := fun h => ha.merged.not_covers_hi hs ((ha.covers _).mpr h)
    have huend : ¬S' u.hi := fun h => hb.merged.not_covers_hi hu ((hb.covers _).mpr h)
    rw [htag, hhi]
    by_cases hlt : s.hi < u.hi
    · have hgoing : S' s.hi := (hb.covers _).mp ⟨u, hu, by omega, hlt⟩
      rw [if_pos hlt, min_eq_left hlt.le, ha.marks s hs]
      simp [hsend, hgoing]
    · rw [if_neg hlt]
      by_cases hgt : u.hi < s.hi
      · have hgoing : S u.hi := (ha.covers _).mp ⟨s, hs, by omega, hgt⟩
        rw [if_pos hgt, min_eq_right hgt.le, hb.marks u hu]
        simp [huend, hgoing]
      · have heq : s.hi = u.hi := by omega
        rw [if_neg hgt, htie, ha.marks s hs, hb.marks u hu, ← heq, min_self]
        rw [← heq] at huend
        simp [hsend, huend]

end Meeting

section Joint

/-- A list of what is held of each key, and a wider one of what is known of it. -/
structure Windowed (marked : τ → Prop) (windows : κ → List (Span τ) × List (Span Unit))
    (H K P : κ → ℤ → Prop) : Prop where
  held : ∀ k, Tiles marked (windows k).1 (H k) (P k)
  known : ∀ k, Tiles (fun _ => False) (windows k).2 (K k) fun _ => False
  sub : ∀ k t, H k t → K k t

/-- What is held of all the keys at once, and known of all of them. What is held ends with the keys
that end first, and is marked when one of these is. -/
structure Common (marked : τ → Prop) (met : List (Span τ) × List (Span Unit)) (ks : List κ)
    (H K P : κ → ℤ → Prop) : Prop where
  held : Tiles marked met.1 (fun t => ∀ k ∈ ks, H k t) fun e => ∃ k ∈ ks, ¬H k e ∧ P k e
  known : Tiles (fun _ => False) met.2 (fun t => ∀ k ∈ ks, K k t) fun _ => False

variable {tie : τ → τ → τ} {marked : τ → Prop} {windows : κ → List (Span τ) × List (Span Unit)}
  {H K P : κ → ℤ → Prop} {met : List (Span τ) × List (Span Unit)} {k : κ} {ks done : List κ}
  {l : List (Span τ)} {S Q S' Q' : ℤ → Prop}

theorem Tiles.congr (h : Tiles marked l S Q) (hS : ∀ t, S t ↔ S' t) (hQ : ∀ e, ¬S e → (Q e ↔ Q' e)) :
    Tiles marked l S' Q' where
  merged := h.merged
  covers t := (h.covers t).trans (hS t)
  marks s hs := by
    have hend : ¬S s.hi := fun hcovered => h.merged.not_covers_hi hs ((h.covers _).mpr hcovered)
    exact (h.marks s hs).trans (hQ _ hend)

theorem Tiles.eq_nil (h : Tiles marked l S Q) (hS : ∀ t, ¬S t) : l = [] := by
  rw [List.eq_nil_iff_forall_not_mem]
  intro s hs
  exact hS s.lo ((h.covers _).mp ⟨s, hs, le_rfl, h.merged.1 s hs⟩)

theorem tiles_nil (hS : ∀ t, ¬S t) : Tiles marked ([] : List (Span τ)) S Q where
  merged := merged_nil
  covers t := by simp [covers_nil, hS t]
  marks s hs := by simp at hs

theorem Windowed.common (hw : Windowed marked windows H K P) : Common marked (windows k) [k] H K P where
  held := (hw.held k).congr (by simp) fun e he => by simp [he]
  known := (hw.known k).congr (by simp) fun e _ => Iff.rfl

theorem Windowed.meet (hw : Windowed marked windows H K P)
    (htie : ∀ c d, marked (tie c d) ↔ marked c ∨ marked d) (hdone : Common marked met done H K P) :
    Common marked (meet tie met.1 (windows k).1, meet (fun _ _ => ()) met.2 (windows k).2)
      (done ++ [k]) H K P where
  held := by
    refine (meet_tiles htie hdone.held (hw.held k)).congr (fun t => ?_) fun e he => ?_
    · simp [or_imp, forall_and]
    · have hsplit : (∃ j ∈ done ++ [k], ¬H j e ∧ P j e) ↔
          (∃ j ∈ done, ¬H j e ∧ P j e) ∨ ¬H k e ∧ P k e := by
        simp [or_and_right, exists_or]
      rw [hsplit]
      by_cases hall : ∀ j ∈ done, H j e
      · have hnone : ¬∃ j ∈ done, ¬H j e ∧ P j e := by
          rintro ⟨j, hj, hnot, -⟩
          exact hnot (hall j hj)
        simp [hnone]
      · simp [hall]
  known := by
    refine (meet_tiles (by simp) hdone.known (hw.known k)).congr (fun t => ?_) fun e _ => ?_
    · simp [or_imp, forall_and]
    · simp

/-- With nothing left that is known of all, nothing can be held of more. -/
theorem Common.of_nil (hw : Windowed marked windows H K P) (hdone : Common marked met done H K P)
    (hnil : met.2 = []) : Common marked met (done ++ ks) H K P := by
  have hknown : ∀ t, ¬∀ k ∈ done, K k t := by
    intro t ht
    have := (hdone.known.covers t).mpr ht
    rw [hnil] at this
    exact covers_nil this
  have hheld : ∀ t, ¬∀ k ∈ done, H k t := fun t ht => hknown t fun k hk => hw.sub k t (ht k hk)
  have hleft : met.1 = [] := hdone.held.eq_nil hheld
  constructor
  · rw [hleft]
    exact tiles_nil fun t ht => hheld t fun k hk => ht k (List.mem_append_left _ hk)
  · rw [hnil]
    exact tiles_nil fun t ht => hknown t fun k hk => ht k (List.mem_append_left _ hk)

theorem joint_cons (acc : Option (List (Span τ) × List (Span Unit))) :
    joint tie windows acc (k :: ks) =
      let met := match acc with
        | none => windows k
        | some prev => (Spans.meet tie prev.1 (windows k).1,
            Spans.meet (fun _ _ => ()) prev.2 (windows k).2)
      if met.2.isEmpty then met else joint tie windows (some met) ks := rfl

theorem Windowed.joint_some (hw : Windowed marked windows H K P)
    (htie : ∀ c d, marked (tie c d) ↔ marked c ∨ marked d) (hdone : Common marked met done H K P) :
    Common marked (joint tie windows (some met) ks) (done ++ ks) H K P := by
  induction ks generalizing met done with
  | nil => simpa [joint] using hdone
  | cons k ks ih =>
    have hmet := hw.meet (k := k) htie hdone
    rw [joint_cons, List.append_cons]
    simp only
    by_cases hnil : (Spans.meet (fun _ _ => ()) met.2 (windows k).2).isEmpty = true
    · rw [if_pos hnil]
      exact hmet.of_nil hw (List.isEmpty_iff.mp hnil)
    · rw [if_neg hnil]
      exact ih hmet

/-- Several keys are met in whatever order they come. -/
theorem Windowed.joint (hw : Windowed marked windows H K P)
    (htie : ∀ c d, marked (tie c d) ↔ marked c ∨ marked d) (hks : ks ≠ []) :
    Common marked (joint tie windows none ks) ks H K P := by
  cases ks with
  | nil => exact absurd rfl hks
  | cons k ks =>
    have hfirst := hw.common (k := k)
    rw [joint_cons]
    simp only
    by_cases hnil : (windows k).2.isEmpty = true
    · rw [if_pos hnil]
      exact hfirst.of_nil hw (List.isEmpty_iff.mp hnil)
    · rw [if_neg hnil]
      exact hw.joint_some htie hfirst

end Joint

end Spans
