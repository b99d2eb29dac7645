import Mathlib.Algebra.BigOperators.Group.List.Basic
import Mathlib.Algebra.Order.Group.Int
import Mathlib.Algebra.Ring.Int.Defs
import Mathlib.Data.Finset.Card
import Mathlib.Data.Finset.Image
import Mathlib.Data.List.Sort

/-! # Lists of spans

A span is a half-open stretch of instants with a tag. A merged list holds spans in their order, none of
them empty and no two of them abutting: its spans are the maximal runs of the instants it covers. Spans
are merged where they overlap or abut, and a span that is made of others has the tag of what ends it. -/

namespace Spans

universe u

structure Span (τ : Type u) where
  lo : ℤ
  hi : ℤ
  tag : τ
deriving DecidableEq

variable {τ : Type u}

def Span.Contains (s : Span τ) (t : ℤ) : Prop := s.lo ≤ t ∧ t < s.hi

instance (s : Span τ) (t : ℤ) : Decidable (s.Contains t) := inferInstanceAs (Decidable (_ ∧ _))

/-- Some span of the list contains the instant. -/
def Covers (l : List (Span τ)) (t : ℤ) : Prop := ∃ s ∈ l, s.Contains t

def Merged (l : List (Span τ)) : Prop :=
  (∀ s ∈ l, s.lo < s.hi) ∧ l.Pairwise fun s u => s.hi < u.lo

section Merge

variable (tie : τ → τ → τ)

/-- A span that takes in another one, which begins inside of it or at its end. -/
def Span.grow (last s : Span τ) : Span τ :=
  if last.hi < s.hi then { last with hi := s.hi, tag := s.tag }
  else if s.hi = last.hi then { last with tag := tie last.tag s.tag }
  else last

/-- The spans behind the last one that has been begun. -/
def mergeFrom (last : Span τ) : List (Span τ) → List (Span τ)
  | [] => [last]
  | s :: rest =>
    if s.lo ≤ last.hi then mergeFrom (last.grow tie s) rest else last :: mergeFrom s rest

def mergeSorted : List (Span τ) → List (Span τ)
  | [] => []
  | s :: rest => mergeFrom tie s rest

def merge (l : List (Span τ)) : List (Span τ) :=
  mergeSorted tie ((l.filter fun s => decide (s.lo < s.hi)).insertionSort fun s u => s.lo ≤ u.lo)

end Merge

/-- The list covers the instants of which `S` holds, in merged spans. Whether a span is marked is
told by where it ends. -/
structure Tiles (marked : τ → Prop) (l : List (Span τ)) (S P : ℤ → Prop) : Prop where
  merged : Merged l
  covers : ∀ t, Covers l t ↔ S t
  marks : ∀ s ∈ l, marked s.tag ↔ P s.hi

section Merged

variable {l : List (Span τ)} {s u last : Span τ} {t : ℤ}

theorem covers_cons : Covers (s :: l) t ↔ s.Contains t ∨ Covers l t := by
  simp [Covers]

theorem covers_nil : ¬Covers ([] : List (Span τ)) t := by
  simp [Covers]

theorem covers_append {more : List (Span τ)} :
    Covers (l ++ more) t ↔ Covers l t ∨ Covers more t := by
  simp [Covers, or_and_right, exists_or]

theorem merged_nil : Merged ([] : List (Span τ)) := by
  simp [Merged]

theorem merged_cons : Merged (s :: l) ↔ s.lo < s.hi ∧ (∀ u ∈ l, s.hi < u.lo) ∧ Merged l := by
  unfold Merged
  simp only [List.mem_cons, forall_eq_or_imp, List.pairwise_cons]
  tauto

theorem Merged.apart (h : Merged l) (hs : s ∈ l) (hu : u ∈ l) :
    s = u ∨ s.hi < u.lo ∨ u.hi < s.lo := by
  induction l with
  | nil => simp at hs
  | cons v rest ih =>
    obtain ⟨-, hfirst, hrest⟩ := merged_cons.mp h
    by_cases hsv : s = v
    · by_cases huv : u = v
      · exact Or.inl (hsv.trans huv.symm)
      · have hu : u ∈ rest := by simpa [huv] using hu
        have := hfirst u hu
        rw [hsv]
        omega
    · have hs : s ∈ rest := by simpa [hsv] using hs
      by_cases huv : u = v
      · have := hfirst s hs
        rw [huv]
        omega
      · exact ih hrest hs (by simpa [huv] using hu)

/-- A span of a merged list begins and ends a run of what is covered. -/
theorem Merged.not_covers_before (h : Merged l) (hs : s ∈ l) : ¬Covers l (s.lo - 1) := by
  rintro ⟨u, hu, hlo, hhi⟩
  have hne := h.1 s hs
  obtain rfl | hlt | hlt := h.apart hs hu
  · omega
  · omega
  · omega

theorem Merged.not_covers_hi (h : Merged l) (hs : s ∈ l) : ¬Covers l s.hi := by
  rintro ⟨u, hu, hlo, hhi⟩
  have hne := h.1 s hs
  obtain rfl | hlt | hlt := h.apart hs hu
  · omega
  · omega
  · omega

end Merged

section Merging

variable {marked : τ → Prop} {tie : τ → τ → τ} {l : List (Span τ)} {s last : Span τ}
  {S P : ℤ → Prop}

theorem grow_lo : (last.grow tie s).lo = last.lo := by
  unfold Span.grow
  split_ifs <;> rfl

theorem grow_hi : (last.grow tie s).hi = max last.hi s.hi := by
  unfold Span.grow
  split_ifs with hlt
  · exact (max_eq_right hlt.le).symm
  · exact (max_eq_left (not_lt.mp hlt)).symm
  · exact (max_eq_left (not_lt.mp hlt)).symm

variable (htie : ∀ c d, marked (tie c d) ↔ marked c ∨ marked d)

include htie

theorem grow_marked (hlast : marked last.tag ↔ P last.hi) (hs : marked s.tag ↔ P s.hi) :
    marked (last.grow tie s).tag ↔ P (last.grow tie s).hi := by
  unfold Span.grow
  split_ifs with hlt heq
  · exact hs
  · change marked (tie last.tag s.tag) ↔ P last.hi
    rw [htie, hlast, hs, heq, or_self]
  · exact hlast

theorem mergeFrom_tiles (hlast : last.lo < last.hi) (hmark : marked last.tag ↔ P last.hi)
    (hl : ∀ s ∈ l, s.lo < s.hi ∧ (marked s.tag ↔ P s.hi) ∧ last.lo ≤ s.lo)
    (hsorted : l.Pairwise fun s u => s.lo ≤ u.lo) :
    Tiles marked (mergeFrom tie last l) (Covers (last :: l)) P ∧
      ∀ s ∈ mergeFrom tie last l, last.lo ≤ s.lo := by
  induction l generalizing last with
  | nil =>
    unfold mergeFrom
    have hmerged : Merged [last] := merged_cons.mpr ⟨hlast, by simp, merged_nil⟩
    exact ⟨⟨hmerged, fun t => Iff.rfl, by simpa using hmark⟩, by simp⟩
  | cons s rest ih =>
    obtain ⟨hs, hsmark, hle⟩ := hl s (by simp)
    obtain ⟨hfirst, hsorted⟩ := List.pairwise_cons.mp hsorted
    have hrest : ∀ u ∈ rest, u.lo < u.hi ∧ (marked u.tag ↔ P u.hi) := by
      intro u hu
      have := hl u (by simp [hu])
      exact ⟨this.1, this.2.1⟩
    unfold mergeFrom
    by_cases hjoin : s.lo ≤ last.hi
    · rw [if_pos hjoin]
      have hlow : ∀ u ∈ rest, (last.grow tie s).lo ≤ u.lo := by
        intro u hu
        rw [grow_lo]
        exact hle.trans (hfirst u hu)
      have hne : (last.grow tie s).lo < (last.grow tie s).hi := by
        rw [grow_lo, grow_hi]
        omega
      obtain ⟨htiles, hbound⟩ := ih hne (grow_marked htie hmark hsmark)
        (fun u hu => ⟨(hrest u hu).1, (hrest u hu).2, hlow u hu⟩) hsorted
      rw [grow_lo] at hbound
      refine ⟨⟨htiles.merged, fun t => ?_, htiles.marks⟩, hbound⟩
      have hboth : (last.grow tie s).Contains t ↔ last.Contains t ∨ s.Contains t := by
        unfold Span.Contains
        rw [grow_lo, grow_hi]
        omega
      rw [htiles.covers, covers_cons, covers_cons, covers_cons, hboth, or_assoc]
    · rw [if_neg hjoin]
      obtain ⟨htiles, hbound⟩ := ih hs hsmark
        (fun u hu => ⟨(hrest u hu).1, (hrest u hu).2, hfirst u hu⟩) hsorted
      have hbehind : ∀ u ∈ mergeFrom tie s rest, last.hi < u.lo := by
        intro u hu
        have := hbound u hu
        omega
      refine ⟨⟨merged_cons.mpr ⟨hlast, hbehind, htiles.merged⟩, fun t => ?_, ?_⟩, ?_⟩
      · rw [covers_cons, covers_cons, htiles.covers]
      · simpa [hmark] using htiles.marks
      · simpa using fun u hu => hle.trans (hbound u hu)

/-- Merging keeps what is covered, and the mark of what ends a span. -/
theorem merge_tiles (hmarks : ∀ s ∈ l, s.lo < s.hi → (marked s.tag ↔ P s.hi))
    (hcovers : ∀ t, Covers l t ↔ S t) : Tiles marked (merge tie l) S P := by
  unfold merge
  have hperm := List.perm_insertionSort (fun s u : Span τ => s.lo ≤ u.lo)
    (l.filter fun s => decide (s.lo < s.hi))
  have hsorted : ((l.filter fun s => decide (s.lo < s.hi)).insertionSort
      fun s u => s.lo ≤ u.lo).Pairwise fun s u => s.lo ≤ u.lo := by
    have : Std.Total fun s u : Span τ => s.lo ≤ u.lo := ⟨fun s u => le_total _ _⟩
    have : IsTrans (Span τ) fun s u => s.lo ≤ u.lo := ⟨fun _ _ _ h h' => h.trans h'⟩
    exact List.pairwise_insertionSort _ _
  generalize (l.filter fun s => decide (s.lo < s.hi)).insertionSort (fun s u => s.lo ≤ u.lo) = sorted
    at hperm hsorted
  have hmem : ∀ s ∈ sorted, s.lo < s.hi ∧ (marked s.tag ↔ P s.hi) := by
    intro s hs
    obtain ⟨hsl, hne⟩ := List.mem_filter.mp (hperm.mem_iff.mp hs)
    have hne : s.lo < s.hi := by simpa using hne
    exact ⟨hne, hmarks s hsl hne⟩
  have hsame : ∀ t, Covers sorted t ↔ S t := by
    intro t
    rw [← hcovers]
    constructor
    · rintro ⟨s, hs, ht⟩
      exact ⟨s, (List.mem_filter.mp (hperm.mem_iff.mp hs)).1, ht⟩
    · rintro ⟨s, hs, ht⟩
      have hne : s.lo < s.hi := lt_of_le_of_lt ht.1 ht.2
      exact ⟨s, hperm.mem_iff.mpr (List.mem_filter.mpr ⟨hs, by simpa using hne⟩), ht⟩
  cases sorted with
  | nil => exact ⟨merged_nil, hsame, by simp [mergeSorted]⟩
  | cons s rest =>
    obtain ⟨hfirst, hsorted⟩ := List.pairwise_cons.mp hsorted
    obtain ⟨htiles, -⟩ := mergeFrom_tiles htie (hmem s (by simp)).1 (hmem s (by simp)).2
      (fun u hu => ⟨(hmem u (by simp [hu])).1, (hmem u (by simp [hu])).2, hfirst u hu⟩) hsorted
    exact ⟨htiles.merged, fun t => (htiles.covers t).trans (hsame t), htiles.marks⟩

end Merging

/-! ## What is covered, counted -/

/-- The instants from `lo` on, up to and not at `hi`. -/
def between (lo hi : ℤ) : Finset ℤ := (Finset.range (hi - lo).toNat).image fun n : ℕ => lo + n

theorem mem_between {lo hi t : ℤ} : t ∈ between lo hi ↔ lo ≤ t ∧ t < hi := by
  unfold between
  rw [Finset.mem_image]
  constructor
  · rintro ⟨n, hn, rfl⟩
    have := Finset.mem_range.mp hn
    omega
  · rintro ⟨hlo, hhi⟩
    exact ⟨(t - lo).toNat, Finset.mem_range.mpr (by omega), by omega⟩

theorem card_between (lo hi : ℤ) : (between lo hi).card = (hi - lo).toNat := by
  unfold between
  have hinjective : Function.Injective fun n : ℕ => lo + (n : ℤ) := fun m n h => by
    simp only at h
    omega
  rw [Finset.card_image_of_injective _ hinjective, Finset.card_range]

section Counting

variable {marked : τ → Prop} {l : List (Span τ)} {s : Span τ} {S : Finset ℤ} {P : ℤ → Prop} {t : ℤ}

theorem Merged.nodup_lo (h : Merged l) : (l.map Span.lo).Nodup := by
  rw [List.nodup_iff_pairwise_ne, List.pairwise_map]
  refine h.2.imp_of_mem fun {s u} hs _ hlt => ?_
  have := h.1 s hs
  omega

theorem Merged.nodup_hi (h : Merged l) : (l.map Span.hi).Nodup := by
  rw [List.nodup_iff_pairwise_ne, List.pairwise_map]
  refine h.2.imp_of_mem fun {s u} _ hu hlt => ?_
  have := h.1 u hu
  omega

theorem Tiles.mem_lo (h : Tiles marked l (· ∈ S) P) :
    t ∈ l.map Span.lo ↔ t ∈ S ∧ t - 1 ∉ S := by
  rw [List.mem_map, ← h.covers t, ← h.covers (t - 1)]
  constructor
  · rintro ⟨s, hs, rfl⟩
    exact ⟨⟨s, hs, le_rfl, h.merged.1 s hs⟩, h.merged.not_covers_before hs⟩
  · rintro ⟨⟨s, hs, hlo, hhi⟩, hbefore⟩
    refine ⟨s, hs, ?_⟩
    by_contra hne
    exact hbefore ⟨s, hs, by omega, by omega⟩

theorem Tiles.mem_hi (h : Tiles marked l (· ∈ S) P) :
    t ∈ l.map Span.hi ↔ t - 1 ∈ S ∧ t ∉ S := by
  rw [List.mem_map, ← h.covers t, ← h.covers (t - 1)]
  constructor
  · rintro ⟨s, hs, rfl⟩
    have := h.merged.1 s hs
    exact ⟨⟨s, hs, by omega, by omega⟩, h.merged.not_covers_hi hs⟩
  · rintro ⟨⟨s, hs, hlo, hhi⟩, hafter⟩
    refine ⟨s, hs, ?_⟩
    by_contra hne
    exact hafter ⟨s, hs, by omega, by omega⟩

/-- There are as many spans as maximal runs. -/
theorem Tiles.length_eq (h : Tiles marked l (· ∈ S) P) :
    l.length = (S.filter fun t => t - 1 ∉ S).card := by
  have hset : (l.map Span.lo).toFinset = S.filter fun t => t - 1 ∉ S := by
    ext t
    rw [List.mem_toFinset, h.mem_lo, Finset.mem_filter]
  rw [← hset, List.toFinset_card_of_nodup h.merged.nodup_lo, List.length_map]

/-- And as many marked ones as runs with a mark at their end. -/
theorem Tiles.countP_eq [DecidablePred P] (h : Tiles marked l (· ∈ S) P) {p : Span τ → Bool}
    (hp : ∀ s, p s = true ↔ marked s.tag) :
    l.countP p = (S.filter fun t => t + 1 ∉ S ∧ P (t + 1)).card := by
  have hnodup : ((l.filter p).map fun s => s.hi - 1).Nodup := by
    have hsub := (List.filter_sublist (p := p) (l := l)).map Span.hi
    have hhi := h.merged.nodup_hi.sublist hsub
    have := hhi.map (f := fun t : ℤ => t - 1) fun a b hab => by simpa using hab
    simpa [List.map_map, Function.comp_def] using this
  have hset : ((l.filter p).map fun s => s.hi - 1).toFinset =
      S.filter fun t => t + 1 ∉ S ∧ P (t + 1) := by
    ext t
    rw [List.mem_toFinset, Finset.mem_filter, List.mem_map]
    constructor
    · rintro ⟨s, hs, rfl⟩
      obtain ⟨hsl, hps⟩ := List.mem_filter.mp hs
      obtain ⟨hlast, hnot⟩ := h.mem_hi.mp (List.mem_map_of_mem hsl)
      rw [sub_add_cancel]
      exact ⟨hlast, hnot, (h.marks s hsl).mp ((hp s).mp hps)⟩
    · rintro ⟨ht, hnot, hmark⟩
      have hend : t + 1 ∈ l.map Span.hi := h.mem_hi.mpr ⟨by simpa using ht, hnot⟩
      obtain ⟨s, hs, hhi⟩ := List.mem_map.mp hend
      rw [← hhi] at hmark
      have hps : p s = true := (hp s).mpr ((h.marks s hs).mpr hmark)
      exact ⟨s, List.mem_filter.mpr ⟨hs, hps⟩, by omega⟩
  rw [List.countP_eq_length_filter, ← hset, List.toFinset_card_of_nodup hnodup, List.length_map]

/-- The spans are together as long as what they cover. -/
theorem Tiles.sum_length (h : Tiles marked l (· ∈ S) P) :
    (l.map fun s => s.hi - s.lo).sum = S.card := by
  have hmerged := h.merged
  have hcovers := h.covers
  clear h
  induction l generalizing S with
  | nil =>
    have hempty : S = ∅ := Finset.eq_empty_of_forall_notMem fun t ht => covers_nil ((hcovers t).mpr ht)
    simp [hempty]
  | cons s rest ih =>
    obtain ⟨hs, hfirst, hrest⟩ := merged_cons.mp hmerged
    have hbehind : ∀ t, Covers rest t ↔ t ∈ S.filter fun t => s.hi ≤ t := by
      intro t
      rw [Finset.mem_filter, ← hcovers, covers_cons]
      constructor
      · rintro ⟨u, hu, hlo, hhi⟩
        have := hfirst u hu
        exact ⟨Or.inr ⟨u, hu, hlo, hhi⟩, by omega⟩
      · rintro ⟨⟨-, hlt⟩ | hcovered, hle⟩
        · omega
        · exact hcovered
    have hinside : S.filter (fun t => ¬s.hi ≤ t) = between s.lo s.hi := by
      ext t
      rw [Finset.mem_filter, ← hcovers, covers_cons, mem_between]
      constructor
      · rintro ⟨⟨hlo, hhi⟩ | ⟨u, hu, hlo, -⟩, hlt⟩
        · exact ⟨hlo, hhi⟩
        · have := hfirst u hu
          omega
      · rintro ⟨hlo, hhi⟩
        exact ⟨Or.inl ⟨hlo, hhi⟩, by omega⟩
    have hcard := Finset.card_filter_add_card_filter_not (s := S) fun t => s.hi ≤ t
    rw [hinside, card_between] at hcard
    rw [List.map_cons, List.sum_cons, ih hrest hbehind]
    omega

end Counting

end Spans
