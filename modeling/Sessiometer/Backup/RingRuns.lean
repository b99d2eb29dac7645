import Mathlib.Data.List.Perm.Subperm
import Sessiometer.Backup.Saves

/-! # What the ring retains

What pruning leaves of the ring, and what holds of the retentions over a whole run of saves. -/

namespace Sessiometer.Backup

open Effects

/-! ## Pruning -/

/-- What is left: the newest, no more of them than the ring is deep, and no staged file that is older than
the newest; a staged file that is not older stays. -/
structure Pruned (s s' : Store) : Prop where
  kept : ∀ name stamp, s'.Holds name stamp → s'.files (entry name) = s.files (entry name)
  few : ∀ names : List (List Char), names.Nodup → (∀ name ∈ names, ∃ stamp, s'.Holds name stamp) →
    names.length ≤ ringDepth
  newest : ∀ name stamp name' stamp', s'.Holds name stamp → s.Holds name' stamp' →
    ¬ s'.Holds name' stamp' → stamp' ≤ stamp
  full : ∀ name stamp, s.Holds name stamp → ¬ s'.Holds name stamp →
    ∃ names : List (List Char), names.Nodup ∧ names.length = ringDepth ∧
      ∀ name ∈ names, ∃ stamp, s'.Holds name stamp
  swept : ∀ name stamp name' stamp', stampOf name = some stamp → s.Holds name' stamp' → stamp < stamp' →
    s'.files (entry name).tmp = none

/-- The staged files that are not older than every retention are left. -/
def Spares (s s' : Store) : Prop :=
  ∀ name stamp, stampOf name = some stamp → (∀ name' stamp', s.Holds name' stamp' → stamp' ≤ stamp) →
    s'.files (entry name).tmp = s.files (entry name).tmp

section Prune

variable {s : Store}

theorem pairwise_newestFirst (found : List (List Char × Stamp)) :
    (newestFirst found).Pairwise (fun a b => b.2 ≤ a.2) := by
  have hsorted := @List.pairwise_mergeSort _ (fun a b : List Char × Stamp => decide (b.2 ≤ a.2))
    (fun a b c hab hbc => by
      rw [decide_eq_true_iff] at hab hbc ⊢
      exact hbc.trans hab)
    (fun a b => by
      rw [Bool.or_eq_true, decide_eq_true_iff, decide_eq_true_iff]
      exact le_total _ _) found
  exact hsorted.imp (fun h => of_decide_eq_true h)

theorem mem_newestFirst {found : List (List Char × Stamp)} {x : List Char × Stamp} :
    x ∈ newestFirst found ↔ x ∈ found :=
  (List.mergeSort_perm _ _).mem_iff

theorem nodup_newestFirst {names : List (List Char)} (h : names.Nodup) :
    ((newestFirst (decoded names)).map Prod.fst).Nodup := by
  have hsub : ((decoded names).map Prod.fst).Sublist names := by
    clear h
    induction names with
    | nil => exact .slnil
    | cons name names ih =>
      unfold decoded at ih ⊢
      cases hstamp : stampOf name with
      | none =>
        rw [List.filterMap_cons_none (by rw [hstamp]; rfl)]
        exact ih.cons _
      | some stamp =>
        rw [List.filterMap_cons_some (by rw [hstamp]; rfl)]
        exact ih.cons_cons _
  have hperm : ((newestFirst (decoded names)).map Prod.fst).Perm ((decoded names).map Prod.fst) :=
    (List.mergeSort_perm _ _).map _
  exact hperm.nodup_iff.mpr (hsub.nodup h)

theorem stampOf_stranded {newest : Stamp} {name : List Char} (h : stranded newest name = true) :
    stampOf name = none ∧ ∃ stem stamp, name = stem ++ tmpSuffix ∧ stampOf stem = some stamp ∧
      stamp < newest := by
  unfold stranded at h
  split at h
  · next stem hstem =>
    obtain ⟨suffix, rfl, hsuffix⟩ := List.dropSuffix?_eq_some_iff.mp hstem
    rw [eq_of_beq hsuffix]
    refine ⟨stampOf_tmp, stem, ?_⟩
    cases hstamp : stampOf stem with
    | none =>
      rw [hstamp] at h
      cases h
    | some stamp =>
      rw [hstamp, Option.any_some, decide_eq_true_iff] at h
      exact ⟨stamp, rfl, rfl, h⟩
  · cases h

theorem stranded_tmp {newest stamp : Stamp} {name : List Char} (h : stampOf name = some stamp) :
    stranded newest (name ++ tmpSuffix) = decide (stamp < newest) := by
  unfold stranded
  rw [dropSuffix?_append]
  dsimp only
  rw [h]
  rfl

theorem wp_removeAll_unlinking {names : List (List Char)} : wp unlinking anything (removeAll names) s
    (fun _ s' => ∀ name, s'.files (entry name) = if name ∈ names then none else s.files (entry name)) := by
  induction names generalizing s with
  | nil =>
    intro name
    rw [if_neg List.not_mem_nil]
  | cons name names ih =>
    unfold removeAll
    rw [wp_bind]
    intro r s₁ hd
    refine ⟨trivial, ?_⟩
    have hremoved : ∀ name', s₁.files (entry name') =
        if name' = name then none else s.files (entry name') := by
      intro name'
      cases r with
      | true =>
        obtain ⟨-, rfl⟩ := hd
        by_cases heq : name' = name
        · rw [if_pos heq, heq]
          exact Function.update_self ..
        · rw [if_neg heq]
          exact Function.update_of_ne (fun h => heq (congrArg Path.name h)) _ _
      | false =>
        obtain ⟨hnone, rfl⟩ := hd
        by_cases heq : name' = name
        · rw [if_pos heq, heq]
          exact hnone
        · rw [if_neg heq]
    apply wp_mono ih
    intro u s₂ h name'
    rw [h name', hremoved name']
    by_cases hmem : name' ∈ names
    · rw [if_pos hmem, if_pos (List.mem_cons_of_mem _ hmem)]
    · by_cases heq : name' = name
      · rw [if_neg hmem, if_pos heq, if_pos (by simp [heq])]
      · rw [if_neg hmem, if_neg heq, if_neg (by simp [heq, hmem])]

theorem wp_readDir_unlinking {Q : List (List Char) → Store → Prop}
    (hQ : ∀ names, names.Nodup → (∀ name, name ∈ names ↔ s.files (entry name) ≠ none) → Q names s) :
    wp unlinking anything readDir s Q := by
  rintro names s' ⟨rfl, hnodup, hnames⟩
  exact ⟨trivial, hQ names hnodup hnames⟩

theorem wp_scan_unlinking {Q : List (List Char × Stamp) → Store → Prop}
    (hQ : ∀ names : List (List Char), names.Nodup →
      (∀ name, name ∈ names ↔ s.files (entry name) ≠ none) → Q (decoded names) s) :
    wp unlinking anything scan s Q := by
  unfold scan
  rw [wp_bind]
  apply wp_readDir_unlinking
  intro names hnodup hnames
  exact hQ names hnodup hnames

theorem wp_sweepBelow_unlinking {newest : Option (List Char × Stamp)} :
    wp unlinking anything (sweepBelow newest) s (fun _ s' => ∀ name, s'.files (entry name) =
      if newest.any (fun x => stranded x.2 name) = true then none else s.files (entry name)) := by
  unfold sweepBelow
  split
  · next newest =>
    unfold sweepAbandonedTemps
    rw [wp_bind]
    apply wp_readDir_unlinking
    intro names _ hnames
    apply wp_mono wp_removeAll_unlinking
    intro u s' h name
    rw [h name]
    simp only [List.mem_filter, Option.any_some]
    by_cases hstranded : stranded newest.2 name = true
    · by_cases hmem : name ∈ names
      · rw [if_pos ⟨hmem, hstranded⟩, if_pos hstranded]
      · have hnone : s.files (entry name) = none := by
          by_contra hsome
          exact hmem ((hnames name).mpr hsome)
        rw [if_neg (fun h => hmem h.1), if_pos hstranded, hnone]
    · rw [if_neg (fun h => hstranded h.2), if_neg hstranded]
  · intro name
    rfl

/-- Where files can be unlinked, a prune leaves the newest, and no debris below them. -/
theorem wp_prune_unlinking : wp unlinking anything prune s (fun _ s' => Pruned s s') := by
  unfold prune
  rw [wp_bind]
  apply wp_scan_unlinking
  intro names hnodup hnames
  rw [wp_bind]
  apply wp_mono wp_removeAll_unlinking
  intro u s₁ hremoved
  apply wp_mono wp_sweepBelow_unlinking
  intro u s' hswept
  have hpairwise := pairwise_newestFirst (decoded names)
  have hdistinct := nodup_newestFirst hnodup
  have hheld : ∀ name stamp, s.Holds name stamp ↔ (name, stamp) ∈ newestFirst (decoded names) := by
    intro name stamp
    rw [mem_newestFirst, mem_decoded, hnames name]
    exact and_comm
  generalize newestFirst (decoded names) = found at *
  have hsplit := List.take_append_drop ringDepth found
  have hsorted := hpairwise
  rw [← hsplit, List.pairwise_append] at hsorted
  rw [← hsplit, List.map_append, List.nodup_append] at hdistinct
  have hfile : ∀ name stamp, stampOf name = some stamp → s'.files (entry name) =
      if name ∈ (found.drop ringDepth).map Prod.fst then none else s.files (entry name) := by
    intro name stamp hstamp
    rw [hswept name, if_neg, hremoved name]
    intro hstranded
    cases hhead : found.head? with
    | none =>
      rw [hhead] at hstranded
      cases hstranded
    | some x =>
      rw [hhead, Option.any_some] at hstranded
      have hnone := (stampOf_stranded hstranded).1
      rw [hstamp] at hnone
      cases hnone
  have hleft : ∀ name stamp, s'.Holds name stamp ↔ (name, stamp) ∈ found.take ringDepth := by
    intro name stamp
    constructor
    · rintro ⟨hstamp, hsome⟩
      rw [hfile name stamp hstamp] at hsome
      by_cases hdropped : name ∈ (found.drop ringDepth).map Prod.fst
      · rw [if_pos hdropped] at hsome
        exact absurd rfl hsome
      · rw [if_neg hdropped] at hsome
        have hmem := (hheld name stamp).mp ⟨hstamp, hsome⟩
        rw [← hsplit] at hmem
        rcases List.mem_append.mp hmem with htake | hdrop
        · exact htake
        · exact absurd (List.mem_map_of_mem hdrop) hdropped
    · intro htake
      have hold := (hheld name stamp).mpr (List.mem_of_mem_take htake)
      refine ⟨hold.1, ?_⟩
      rw [hfile name stamp hold.1, if_neg]
      · exact hold.2
      · intro hdropped
        exact hdistinct.2.2 name (List.mem_map_of_mem htake) name hdropped rfl
  refine ⟨?_, ?_, ?_, ?_, ?_⟩
  · intro name stamp hname
    have hsome := hname.2
    rw [hfile name stamp hname.1] at hsome ⊢
    by_cases hdropped : name ∈ (found.drop ringDepth).map Prod.fst
    · rw [if_pos hdropped] at hsome
      exact absurd rfl hsome
    · exact if_neg hdropped
  · intro kept hkept hall
    have hsub : kept ⊆ (found.take ringDepth).map Prod.fst := by
      intro name hname
      obtain ⟨stamp, hstamp⟩ := hall name hname
      exact List.mem_map_of_mem ((hleft name stamp).mp hstamp)
    have hle := (List.subperm_of_subset hkept hsub).length_le
    rw [List.length_map, List.length_take] at hle
    omega
  · intro name stamp name' stamp' hname hname' hgone
    have htake := (hleft name stamp).mp hname
    have hmem := (hheld name' stamp').mp hname'
    rw [← hsplit] at hmem
    rcases List.mem_append.mp hmem with htake' | hdrop
    · exact absurd ((hleft name' stamp').mpr htake') hgone
    · exact hsorted.2.2 _ htake _ hdrop
  · intro name stamp hname hgone
    have hmem := (hheld name stamp).mp hname
    rw [← hsplit] at hmem
    have hdrop : (name, stamp) ∈ found.drop ringDepth := by
      rcases List.mem_append.mp hmem with htake | hdrop
      · exact absurd ((hleft name stamp).mpr htake) hgone
      · exact hdrop
    have hlong : 0 < (found.drop ringDepth).length := List.length_pos_of_mem hdrop
    rw [List.length_drop] at hlong
    refine ⟨(found.take ringDepth).map Prod.fst, hdistinct.1, ?_, ?_⟩
    · rw [List.length_map, List.length_take]
      omega
    · intro name' hname'
      obtain ⟨x, hx, rfl⟩ := List.mem_map.mp hname'
      exact ⟨x.2, (hleft x.1 x.2).mpr hx⟩
  · intro name stamp name' stamp' hstamp hname' hlt
    have hmem := (hheld name' stamp').mp hname'
    change s'.files (entry (name ++ tmpSuffix)) = none
    rw [hswept, if_pos]
    cases hfound : found with
    | nil =>
      rw [hfound] at hmem
      cases hmem
    | cons newest rest =>
      have hle : stamp' ≤ newest.2 := by
        rw [hfound] at hmem hpairwise
        rcases List.mem_cons.mp hmem with heq | hrest
        · rw [← heq]
        · exact (List.pairwise_cons.mp hpairwise).1 _ hrest
      rw [List.head?_cons, Option.any_some, stranded_tmp hstamp, decide_eq_true_iff]
      exact hlt.trans_le hle

/-- Whatever fails, a prune spares the staged files that are not older than every retention. -/
theorem wp_prune_spares [FromTomlStr] {s₀ : Store} {rendered : String}
    (hreplaced : s₀.Qualified ∧ s.files configFile = some (.text rendered)) :
    wp disk (Guards s₀ rendered) prune s (fun _ s' => Spares s s') := by
  unfold prune
  rw [wp_bind]
  apply wp_scan
  intro names hnames
  rw [wp_bind]
  apply wp_mono (wp_removeAll (fun name _ => .inr hreplaced))
  rintro u s₁ ⟨hconfig, hkept, -⟩
  have hspared : ∀ name stamp, stampOf name = some stamp →
      s₁.files (entry name).tmp = s.files (entry name).tmp := by
    intro name stamp _
    apply hkept
    intro hmem
    obtain ⟨x, hx, hname⟩ := List.mem_map.mp hmem
    have hdecoded := (mem_decoded.mp (mem_newestFirst.mp (List.mem_of_mem_drop hx))).2
    rw [hname, stampOf_tmp] at hdecoded
    cases hdecoded
  cases hhead : (newestFirst (decoded names)).head? with
  | none => exact fun name stamp hstamp _ => hspared name stamp hstamp
  | some newest =>
    have hnewest : newest ∈ decoded names := mem_newestFirst.mp (List.mem_of_head? hhead)
    have hheld : s.Holds newest.1 newest.2 :=
      ⟨(mem_decoded.mp hnewest).2, (hnames _).mp (mem_decoded.mp hnewest).1⟩
    unfold sweepBelow sweepAbandonedTemps
    rw [wp_bind]
    apply wp_readDir
    intro names' _ _
    have hreplaced' : s₀.Qualified ∧ s₁.files configFile = some (.text rendered) := by
      rw [hconfig]
      exact hreplaced
    apply wp_mono (wp_removeAll (fun name _ => .inr hreplaced'))
    rintro u s₂ ⟨-, hkept', -⟩
    intro name stamp hstamp hnewer
    have hleft : s₂.files (entry (name ++ tmpSuffix)) = s₁.files (entry (name ++ tmpSuffix)) := by
      apply hkept'
      intro hmem
      have hstranded := (List.mem_filter.mp hmem).2
      rw [stranded_tmp hstamp, decide_eq_true_iff] at hstranded
      exact not_lt.mpr (hnewer _ _ hheld) hstranded
    exact hleft.trans (hspared name stamp hstamp)

end Prune

/-! ## Runs of saves -/

section Runs

variable [FromTomlStr]

inductive SaveTurn where
  | saved
  | edited

/-- A save, which may be left unfinished at any operation; or what others do outside the ring. -/
inductive RingStep : Store → SaveTurn → Store → Prop
  | saved {s s' : Store} {rendered : String} {tr : List (Occurrence SaveSeams)}
      {q : Prog SaveSeams (Except SaveError Unit)} :
      Steps disk (saveTo rendered).run s tr q s' → RingStep s .saved s'
  | edited {s s' : Store} : s'.taken = s.taken → (∀ name, s'.files (entry name) = s.files (entry name)) →
      RingStep s .edited s'

/-- The retentions of the run are there, in the order of their names. -/
structure Ordered (s : Store) : Prop where
  sorted : s.taken.Pairwise (· < ·)
  held : ∀ name ∈ s.taken, ∃ stamp : Stamp, stamp.Named ∧ name = fileName stamp ∧ s.Holds name stamp

variable {s₀ s s' : Store} {rendered : String} {o : SaveOp} {r : SaveSeams.Reply o}

/-- A retention stays as it is, until it is unlinked. -/
theorem guarded_held (hd : disk o s r s') (hG : Guards s₀ rendered o s r s') {name : List Char}
    {stamp : Stamp} (hname : s.Holds name stamp) : s'.files (entry name) = s.files (entry name) ∨
      o = .removeFile (entry name) ∧ s'.files (entry name) = none := by
  cases o with
  | ensurePrivateDir dir => exact .inl (by rw [show s' = s from hd])
  | acquireWriteLock => exact .inl (by rw [show s' = s from hd])
  | readToString path => exact .inl (by rw [show s' = s from hd.1])
  | readDir => exact .inl (by rw [show s' = s from hd.1])
  | now => exact .inl (by rw [show s' = _ from hd.1])
  | ownerOnlyDeviation path => exact .inl (by rw [show s' = s from hd])
  | removeFile path =>
    by_cases hpath : path = entry name
    · cases r with
      | false => exact .inl (by rw [show s' = s from hd])
      | true =>
        right
        rw [show s' = s.remove path from hd.2, hpath]
        exact ⟨rfl, Function.update_self ..⟩
    · exact .inl ((apart_removed hd).files _ (fun h => hpath h.symm))
  | stage path contents =>
    left
    have hne : entry name ≠ path := by
      intro heq
      have hnone := hG.2 name heq.symm
      rw [hname.1] at hnone
      cases hnone
    cases r with
    | true =>
      rw [show s' = s.put path (.text contents) from hd.2]
      exact (apart_put s path _).files _ hne
    | false =>
      rcases hd with rfl | ⟨-, file, rfl⟩
      · rfl
      · exact (apart_put s path file).files _ hne
  | rename source target =>
    left
    cases r with
    | false => rw [show s' = s from hd]
    | true =>
      obtain ⟨file, -, rfl⟩ := hd
      obtain ⟨hsource, htarget⟩ := hG rfl
      have hne : entry name ≠ target := by
        rintro rfl
        rcases htarget with ⟨h, -⟩ | ⟨stamp', h, hnamed, -, habove⟩
        · exact entry_ne_configFile name h
        · have heq : name = fileName stamp' := congrArg Path.name h
          have hlt := habove name stamp hname
          have hdecoded := hname.1
          rw [heq, stampOf_fileName hnamed] at hdecoded
          cases hdecoded
          exact lt_irrefl _ hlt
      have hne' : entry name ≠ source := by
        rw [hsource]
        rintro heq
        have hend : name = target.name ++ tmpSuffix := congrArg Path.name heq
        have hdecoded := hname.1
        rw [hend, stampOf_tmp] at hdecoded
        cases hdecoded
      unfold Store.move
      dsimp only
      rw [Function.update_of_ne hne, Function.update_of_ne hne']

/-- The configuration is replaced where its text is in the ring already, if it qualifies. -/
theorem guarded_config (hd : disk o s r s') (hG : Guards s₀ rendered o s r s') :
    s'.files configFile = s.files configFile ∨
    ∀ contents, s.files configFile = some (.text contents) → qualifies contents = true →
      ∃ name stamp, s.Holds name stamp ∧ s.files (entry name) = some (.text contents) ∧
        s'.files (entry name) = some (.text contents) := by
  cases o with
  | ensurePrivateDir dir => exact .inl (by rw [show s' = s from hd])
  | acquireWriteLock => exact .inl (by rw [show s' = s from hd])
  | readToString path => exact .inl (by rw [show s' = s from hd.1])
  | readDir => exact .inl (by rw [show s' = s from hd.1])
  | now => exact .inl (by rw [show s' = _ from hd.1])
  | ownerOnlyDeviation path => exact .inl (by rw [show s' = s from hd])
  | removeFile path =>
    left
    cases r with
    | false => rw [show s' = s from hd]
    | true => exact (apart_removed hd).files _ (hG rfl).1.symm
  | stage path contents =>
    left
    cases r with
    | true =>
      rw [show s' = s.put path (.text contents) from hd.2]
      exact (apart_put s path _).files _ hG.1.symm
    | false =>
      rcases hd with rfl | ⟨-, file, rfl⟩
      · rfl
      · exact (apart_put s path file).files _ hG.1.symm
  | rename source target =>
    cases r with
    | false => exact .inl (by rw [show s' = s from hd])
    | true =>
      obtain ⟨hsource, htarget⟩ := hG rfl
      rcases htarget with ⟨htarget, hretained⟩ | ⟨stamp, htarget, -⟩
      · right
        intro contents hcontents hqualifies
        obtain ⟨name, stamp, hheld, hfile⟩ := hretained contents hcontents hqualifies
        refine ⟨name, stamp, hheld, hfile, ?_⟩
        rcases guarded_held hd hG hheld with hsame | ⟨h, -⟩
        · exact hsame.trans hfile
        · cases h
      · left
        obtain ⟨file, -, rfl⟩ := hd
        have hne : configFile ≠ target := by
          rw [htarget]
          exact (entry_ne_configFile _).symm
        have hne' : configFile ≠ source := by
          rw [hsource, htarget]
          exact tmp_ne_configFile.symm
        unfold Store.move
        dsimp only
        rw [Function.update_of_ne hne, Function.update_of_ne hne']

omit [FromTomlStr] in
theorem Ordered.of_taken (h : Ordered s) (htaken : s'.taken = s.taken)
    (hheld : ∀ name stamp, s.Holds name stamp → s'.files (entry name) = s.files (entry name)) :
    Ordered s' := by
  refine ⟨by rw [htaken]; exact h.sorted, ?_⟩
  intro name hname
  rw [htaken] at hname
  obtain ⟨stamp, hnamed, heq, hold⟩ := h.held name hname
  refine ⟨stamp, hnamed, heq, hold.1, ?_⟩
  rw [hheld name stamp hold]
  exact hold.2

/-- Every operation of a save keeps the order. -/
theorem guarded_ordered (h : Ordered s) (hd : disk o s r s') (hG : Guards s₀ rendered o s r s') :
    Ordered s' := by
  have hsame : (∀ path, o ≠ .removeFile path) → ∀ name stamp, s.Holds name stamp →
      s'.files (entry name) = s.files (entry name) := by
    intro hnot name stamp hname
    rcases guarded_held hd hG hname with hsame | ⟨heq, -⟩
    · exact hsame
    · exact absurd heq (hnot _)
  cases o with
  | ensurePrivateDir dir => exact h.of_taken (by rw [show s' = s from hd]) (hsame (by simp))
  | acquireWriteLock => exact h.of_taken (by rw [show s' = s from hd]) (hsame (by simp))
  | readToString path => exact h.of_taken (by rw [show s' = s from hd.1]) (hsame (by simp))
  | readDir => exact h.of_taken (by rw [show s' = s from hd.1]) (hsame (by simp))
  | now => exact h.of_taken (by rw [show s' = _ from hd.1]) (hsame (by simp))
  | ownerOnlyDeviation path => exact h.of_taken (by rw [show s' = s from hd]) (hsame (by simp))
  | stage path contents =>
    apply h.of_taken _ (hsame (by simp))
    cases r with
    | true => rw [show s' = s.put path (.text contents) from hd.2]; rfl
    | false =>
      rcases hd with rfl | ⟨-, file, rfl⟩
      · rfl
      · rfl
  | removeFile path =>
    cases r with
    | false =>
      rw [show s' = s from hd]
      exact h
    | true =>
      obtain ⟨-, rfl⟩ := hd
      have hfiles : ∀ name, entry name ≠ path → (s.remove path).files (entry name) = s.files (entry name) :=
        fun name hne => (apart_remove s path).files _ hne
      by_cases hdir : path.dir = .ring
      · have htaken : (s.remove path).taken = s.taken.filter (fun name => decide (name ≠ path.name)) :=
          if_pos hdir
        refine ⟨by rw [htaken]; exact h.sorted.filter _, ?_⟩
        intro name hname
        rw [htaken, List.mem_filter, decide_eq_true_iff] at hname
        obtain ⟨stamp, hnamed, heq, hold⟩ := h.held name hname.1
        refine ⟨stamp, hnamed, heq, hold.1, ?_⟩
        rw [hfiles name (fun hpath => hname.2 (congrArg Path.name hpath))]
        exact hold.2
      · apply h.of_taken (if_neg hdir)
        intro name stamp _
        apply hfiles
        rintro rfl
        exact hdir rfl
  | rename source target =>
    cases r with
    | false =>
      rw [show s' = s from hd]
      exact h
    | true =>
      have hkept := hsame (by simp)
      obtain ⟨file, -, rfl⟩ := hd
      obtain ⟨hsource, htarget⟩ := hG rfl
      rcases htarget with ⟨htarget, -⟩ | ⟨stamp, htarget, hnamed, -, habove⟩
      · apply h.of_taken _ hkept
        unfold Store.move
        rw [htarget]
        rfl
      · have htaken : (s.move source target file).taken = s.taken ++ [fileName stamp] := by
          unfold Store.move
          rw [htarget]
          rfl
        constructor
        · rw [htaken, List.pairwise_append]
          refine ⟨h.sorted, List.pairwise_singleton _ _, ?_⟩
          intro name hname name' hname'
          obtain ⟨stamp', hnamed', rfl, hold⟩ := h.held name hname
          rw [List.mem_singleton.mp hname']
          exact fileName_lt hnamed' hnamed (habove _ _ hold)
        · intro name hname
          rw [htaken] at hname
          rcases List.mem_append.mp hname with hold | hnew
          · obtain ⟨stamp', hnamed', heq, hheld⟩ := h.held name hold
            exact ⟨stamp', hnamed', heq, hheld.1, by rw [hkept name stamp' hheld]; exact hheld.2⟩
          · rw [List.mem_singleton.mp hnew]
            refine ⟨stamp, hnamed, rfl, stampOf_fileName hnamed, ?_⟩
            unfold Store.move
            rw [htarget]
            simp

theorem runs_ordered {turns : List SaveTurn} (htaken : s₀.taken = [])
    (hr : Runs RingStep s₀ turns s) : Ordered s := by
  apply hr.state_invariant
  · constructor
    · rw [htaken]
      exact .nil
    · rw [htaken]
      simp
  · intro s l s' h hs
    cases hs with
    | saved hsteps =>
      exact wp_always (fun o w r w' hw hd hG => guarded_ordered hw hd hG) wp_saveTo h hsteps
    | edited htaken hfiles => exact h.of_taken htaken (fun name _ _ => hfiles name)

/-- Over every run of saves, each of which may be left at any operation, and at every operation of a further
save: the retentions taken so far are in the order of their names; none is overwritten; a configuration that
qualifies is in the ring when it is replaced; and none is evicted but for the replacement of a qualifying
one. A save that fails leaves the configuration and every retention. One that does not has retained what it
replaced under an instant above every other, and prunes then; what it prunes are the oldest, where they can be
unlinked, and staged files that are older than the newest, never others. -/
theorem ring_retains {turns : List SaveTurn} (htaken : s₀.taken = []) (hr : Runs RingStep s₀ turns s)
    (rendered : String) :
    (∀ (tr : List (Occurrence SaveSeams)) (o : SaveOp)
      (k : SaveSeams.Reply o → Prog SaveSeams (Except SaveError Unit)) (s₁ : Store)
      (r : SaveSeams.Reply o) (s₂ : Store),
      Steps disk (saveTo rendered).run s tr (.perform o k) s₁ → disk o s₁ r s₂ →
        Ordered s₂ ∧
        (∀ name stamp, s₁.Holds name stamp → s₂.files (entry name) = s₁.files (entry name) ∨
          s₂.files (entry name) = none) ∧
        (s₂.files configFile = s₁.files configFile ∨
          ∀ contents, s₁.files configFile = some (.text contents) → qualifies contents = true →
            ∃ name stamp, s₁.Holds name stamp ∧ s₁.files (entry name) = some (.text contents) ∧
              s₂.files (entry name) = some (.text contents)) ∧
        (∀ name stamp, s.Holds name stamp → s₁.files (entry name) ≠ none → s₂.files (entry name) = none →
          s.Qualified ∧ s₁.files configFile = some (.text rendered))) ∧
    (∀ e s', Exec disk (saveTo rendered).run s (.error e) s' → Keeps s s') ∧
    (∀ s', Exec disk (saveTo rendered).run s (.ok ()) s' → ∃ s₁, Landed s s₁ rendered ∧
      (¬ s.Qualified → s' = s₁) ∧
      (s.Qualified → Exec disk prune s₁ () s' ∧ Spares s₁ s' ∧
        (Exec unlinking prune s₁ () s' → Pruned s₁ s'))) ∧
    ∀ stamp : Stamp, stamp.Named → stampOf (fileName stamp) = some stamp := by
  have hordered := runs_ordered htaken hr
  have hwp := @wp_saveTo _ s rendered
  refine ⟨?_, ?_, ?_, fun stamp hnamed => stampOf_fileName hnamed⟩
  · intro tr o k s₁ r s₂ hsteps hd
    have hG := ((wp_steps hwp hsteps) r s₂ hd).1
    have hordered₁ : Ordered s₁ :=
      wp_always (fun o w r w' hw hd hG => guarded_ordered hw hd hG) hwp hordered hsteps
    refine ⟨guarded_ordered hordered₁ hd hG, ?_, guarded_config hd hG, ?_⟩
    · intro name stamp hname
      rcases guarded_held hd hG hname with hsame | ⟨-, hnone⟩
      · exact .inl hsame
      · exact .inr hnone
    · intro name stamp hname hthere hgone
      rcases guarded_held hd hG ⟨hname.1, hthere⟩ with hsame | ⟨rfl, -⟩
      · rw [hsame] at hgone
        exact absurd hgone hthere
      · cases r with
        | false =>
          rw [show s₂ = s₁ from hd] at hgone
          exact absurd hgone hthere
        | true => exact (hG rfl).2 name stamp rfl hname
  · intro e s' he
    have hkeeps := wp_exec hwp he
    exact hkeeps
  · intro s' he
    obtain ⟨s₁, hlanded, hunqualified, hpruned⟩ := wp_exec hwp he
    refine ⟨s₁, hlanded, hunqualified, ?_⟩
    intro hqualified
    have hexec := hpruned hqualified
    have hspares := wp_exec (wp_prune_spares ⟨hqualified, hlanded.config⟩) hexec
    refine ⟨hexec, hspares, ?_⟩
    intro hunlinked
    have hpruned := wp_exec wp_prune_unlinking hunlinked
    exact hpruned

end Runs

/-! ## A prune that cannot unlink -/

section Stuck

variable {s : Store} {names : List (List Char)} {path : Path} {contents rendered : String}

/-- The names in the ring. -/
def Lists (s : Store) (names : List (List Char)) : Prop :=
  names.Nodup ∧ ∀ name, name ∈ names ↔ s.files (entry name) ≠ none

theorem exec_writePrivateFile (hfree : s.files path.tmp = none) :
    Exec disk (writePrivateFile path contents).run s (.ok ())
      ((s.put path.tmp (.text contents)).move path.tmp path (.text contents)) := by
  apply exec_perform_iff.mpr
  refine ⟨false, s, rfl, ?_⟩
  apply exec_perform_iff.mpr
  refine ⟨true, s.put path.tmp (.text contents), ⟨hfree, rfl⟩, ?_⟩
  apply exec_perform_iff.mpr
  refine ⟨true, _, ⟨.text contents, Function.update_self .., rfl⟩, ?_⟩
  exact exec_pure_iff.mpr ⟨rfl, rfl⟩

theorem exec_removeAll_stuck (names : List (List Char)) : Exec disk (removeAll names) s () s := by
  induction names with
  | nil => exact exec_pure_iff.mpr ⟨rfl, rfl⟩
  | cons name names ih =>
    apply exec_perform_iff.mpr
    exact ⟨false, s, rfl, ih⟩

theorem exec_scan (h : Lists s names) : Exec disk scan s (decoded names) s := by
  apply exec_perform_iff.mpr
  exact ⟨names, s, ⟨rfl, h⟩, exec_pure_iff.mpr ⟨rfl, rfl⟩⟩

theorem exec_prune_stuck (h : Lists s names) : Exec disk prune s () s := by
  unfold prune
  apply exec_bind_iff.mpr
  refine ⟨decoded names, s, exec_scan h, ?_⟩
  apply exec_bind_iff.mpr
  refine ⟨(), s, exec_removeAll_stuck _, ?_⟩
  unfold sweepBelow
  split
  · apply exec_perform_iff.mpr
    exact ⟨names, s, ⟨rfl, h⟩, exec_removeAll_stuck _⟩
  · exact exec_pure_iff.mpr ⟨rfl, rfl⟩

/-- The store after a retention. -/
def Store.retaining (s : Store) (target : List Char) (contents : String) : Store :=
  (s.put (entry target).tmp (.text contents)).move (entry target).tmp (entry target) (.text contents)

theorem lists_retaining {target : List Char} (h : Lists s names) (hfree : target ∉ names)
    (htmp : target ++ tmpSuffix ∉ names) : Lists (s.retaining target contents) (target :: names) := by
  have hfiles : ∀ name, (s.retaining target contents).files (entry name) =
      if name = target then some (.text contents)
      else if name = target ++ tmpSuffix then none else s.files (entry name) := by
    intro name
    unfold Store.retaining Store.move Store.put
    dsimp only
    by_cases heq : name = target
    · rw [if_pos heq, heq, Function.update_self]
    · have hne : entry name ≠ entry target := fun h => heq (congrArg Path.name h)
      rw [if_neg heq, Function.update_of_ne hne]
      by_cases hend : name = target ++ tmpSuffix
      · rw [if_pos hend, hend]
        exact Function.update_self ..
      · have hne' : entry name ≠ (entry target).tmp := fun h => hend (congrArg Path.name h)
        rw [if_neg hend, Function.update_of_ne hne', Function.update_of_ne hne']
  refine ⟨List.nodup_cons.mpr ⟨hfree, h.1⟩, ?_⟩
  intro name
  rw [List.mem_cons, hfiles name]
  by_cases heq : name = target
  · simp [heq]
  · rw [if_neg heq]
    by_cases hend : name = target ++ tmpSuffix
    · have hne : target ++ tmpSuffix ≠ target := by simp [tmpSuffix]
      rw [if_pos hend, hend]
      simp [htmp, hne]
    · rw [if_neg hend]
      simp [heq, h.2 name]

end Stuck

/-! ## Samples -/

section Sample

/-- A text is one account. -/
local instance sampleToml : FromTomlStr := ⟨fun text => some [⟨text, text, true⟩]⟩

/-- The retention of the first seconds. -/
def sampleEntry (secs : ℕ) : List Char := fileName (toLex (secs, 0))

/-- A configuration, and three retentions. -/
def fullRing : Store where
  files path :=
    if path = configFile ∨ path = entry (sampleEntry 1) ∨ path = entry (sampleEntry 2) ∨
        path = entry (sampleEntry 3) then some (.text "A") else none
  clock := toLex (9, 0)

theorem lists_fullRing : Lists fullRing [sampleEntry 3, sampleEntry 2, sampleEntry 1] := by
  refine ⟨by decide +kernel, ?_⟩
  intro name
  have hentry : ∀ secs, entry name = entry (sampleEntry secs) ↔ name = sampleEntry secs := by
    intro secs
    exact ⟨fun h => congrArg Path.name h, fun h => congrArg entry h⟩
  unfold fullRing
  simp only [entry_ne_configFile, hentry, false_or, List.mem_cons, List.not_mem_nil, or_false]
  by_cases h1 : name = sampleEntry 1
  · simp [h1]
  · by_cases h2 : name = sampleEntry 2
    · simp [h2]
    · by_cases h3 : name = sampleEntry 3
      · simp [h3]
      · simp [h1, h2, h3]

theorem exec_ensurePrivateDir (dir : Dir) (s : Store) : Exec disk (ensurePrivateDir dir).run s (.ok ()) s :=
  exec_perform_iff.mpr ⟨(Except.ok () : Except SaveError Unit), s, rfl, exec_pure_iff.mpr ⟨rfl, rfl⟩⟩

theorem exec_stampFor : Exec disk stampFor fullRing (toLex (9, 0)) fullRing := by
  unfold stampFor
  apply exec_bind_iff.mpr
  refine ⟨toLex (9, 0), fullRing, ?_, ?_⟩
  · exact exec_perform_iff.mpr ⟨toLex (9, 0), fullRing, ⟨rfl, by decide⟩, exec_pure_iff.mpr ⟨rfl, rfl⟩⟩
  · apply exec_bind_iff.mpr
    refine ⟨_, fullRing, exec_scan lists_fullRing, exec_pure_iff.mpr ⟨?_, rfl⟩⟩
    decide +kernel

theorem exec_retain {contents : String} : Exec disk (retain contents).run fullRing (.ok (sampleEntry 9))
    (fullRing.retaining (sampleEntry 9) contents) := by
  have hfree : fullRing.files (entry (sampleEntry 9)).tmp = none := by decide +kernel
  have hrepresentable : Exec disk (representable (toLex (9, 0))).run fullRing (.ok (toLex (9, 0))) fullRing :=
    exec_pure_iff.mpr ⟨rfl, rfl⟩
  unfold retain
  apply exec_except_bind (exec_ensurePrivateDir .ring fullRing)
  apply exec_except_bind (exec_lift exec_stampFor)
  apply exec_except_bind hrepresentable
  apply exec_except_bind (exec_writePrivateFile hfree)
  apply exec_perform_iff.mpr
  exact ⟨(Except.ok false : Except Unit Bool), _, rfl, exec_pure_iff.mpr ⟨rfl, rfl⟩⟩

theorem exec_retainIfQualifying : Exec disk retainIfQualifying.run fullRing (.ok (some (sampleEntry 9)))
    (fullRing.retaining (sampleEntry 9) "A") := by
  have hcontents : Exec disk (qualifyingContents configFile) fullRing (some "A") fullRing :=
    exec_perform_iff.mpr ⟨some "A", fullRing, ⟨rfl, rfl⟩, exec_pure_iff.mpr ⟨rfl, rfl⟩⟩
  unfold retainIfQualifying
  apply exec_except_bind (exec_lift hcontents)
  dsimp only
  rw [map_eq_pure_bind]
  exact exec_except_bind exec_retain (exec_pure_iff.mpr ⟨rfl, rfl⟩)

/-- To replace the configuration leaves the ring. -/
theorem lists_replaced (h : Lists s names) : Lists ((s.put configFile.tmp (.text contents)).move
    configFile.tmp configFile (.text contents)) names := by
  have hfiles : ∀ name, ((s.put configFile.tmp (.text contents)).move configFile.tmp configFile
      (.text contents)).files (entry name) = s.files (entry name) := by
    intro name
    have htmp : entry name ≠ configFile.tmp := by
      intro h
      cases congrArg Path.dir h
    unfold Store.move Store.put
    dsimp only
    rw [Function.update_of_ne (entry_ne_configFile name), Function.update_of_ne htmp,
      Function.update_of_ne htmp]
  refine ⟨h.1, ?_⟩
  intro name
  rw [hfiles name]
  exact h.2 name

/-- The full ring after a save whose unlinks have failed. -/
def overfullRing : Store :=
  ((fullRing.retaining (sampleEntry 9) "A").put configFile.tmp (.text "B")).move configFile.tmp configFile
    (.text "B")

theorem lists_overfullRing :
    Lists overfullRing [sampleEntry 9, sampleEntry 3, sampleEntry 2, sampleEntry 1] :=
  lists_replaced (lists_retaining lists_fullRing (by decide +kernel) (by decide +kernel))

theorem exec_saveTo_stuck : Exec disk (saveTo "B").run fullRing (.ok ()) overfullRing := by
  have hfree : (fullRing.retaining (sampleEntry 9) "A").files configFile.tmp = none := by decide +kernel
  have hlock : Exec disk acquireWriteLock fullRing true fullRing :=
    exec_perform_iff.mpr ⟨true, fullRing, rfl, exec_pure_iff.mpr ⟨rfl, rfl⟩⟩
  unfold saveTo
  apply exec_except_bind (exec_ensurePrivateDir .config fullRing)
  apply exec_except_bind (exec_lift hlock)
  apply exec_except_bind exec_retainIfQualifying
  apply exec_except_bind (exec_lift (exec_writePrivateFile hfree))
  exact exec_lift (exec_prune_stuck lists_overfullRing)

theorem ring_retains_full : ∃ s₁, Landed fullRing s₁ "B" ∧ Exec disk prune s₁ () overfullRing := by
  have hqualified : fullRing.Qualified := ⟨"A", rfl, rfl⟩
  obtain ⟨-, -, hsaved, -⟩ := ring_retains (show fullRing.taken = [] from rfl) .refl "B"
  obtain ⟨s₁, hlanded, -, hpruned⟩ := hsaved overfullRing exec_saveTo_stuck
  exact ⟨s₁, hlanded, (hpruned hqualified).1⟩

/-- A save whose unlinks fail leaves one retention more than the ring is deep. -/
theorem stuck_save_overfills : ∃ s', Exec disk (saveTo "B").run fullRing (.ok ()) s' ∧
    ∃ names : List (List Char), names.Nodup ∧ ringDepth < names.length ∧
      ∀ name ∈ names, ∃ stamp, s'.Holds name stamp := by
  refine ⟨overfullRing, exec_saveTo_stuck, _, lists_overfullRing.1, by decide, ?_⟩
  intro name hname
  have hthere := (lists_overfullRing.2 name).mp hname
  have hnamed : ∀ secs < 10, stampOf (sampleEntry secs) = some (toLex (secs, 0)) := by
    intro secs hsecs
    apply stampOf_fileName
    refine ⟨lt_of_lt_of_le hsecs (by decide), ?_⟩
    change 0 < 10 ^ nanosDigits
    decide
  simp only [List.mem_cons, List.not_mem_nil, or_false] at hname
  rcases hname with rfl | rfl | rfl | rfl
  · exact ⟨_, hnamed 9 (by decide), hthere⟩
  · exact ⟨_, hnamed 3 (by decide), hthere⟩
  · exact ⟨_, hnamed 2 (by decide), hthere⟩
  · exact ⟨_, hnamed 1 (by decide), hthere⟩

end Sample

end Sessiometer.Backup
