import Sessiometer.Backup.Ring

/-! # What a save does

Every save from any directory: what it guarantees of each of its operations, and what it leaves. -/

namespace Sessiometer.Backup

open Effects

/-! ## One save -/

/-- Nothing has changed but the file at one path. -/
structure Apart (path : Path) (s s' : Store) : Prop where
  files : ∀ p, p ≠ path → s'.files p = s.files p
  clock : s'.clock = s.clock

/-- The file has been replaced. -/
structure Written (path : Path) (contents : String) (s s' : Store) : Prop where
  files : ∀ p, p ≠ path.tmp → p ≠ path → s'.files p = s.files p
  here : s'.files path = some (.text contents)
  clock : s'.clock = s.clock

/-- The configuration is as it was, and so are the retentions. -/
structure Keeps (s s' : Store) : Prop where
  config : s'.files configFile = s.files configFile
  held : ∀ name stamp, s.Holds name stamp → s'.files (entry name) = s.files (entry name)

section Guards

variable [FromTomlStr]

/-- What a save from `s₀` guarantees of its operations. Only names that are no retention are staged; what is
renamed into the ring is above every retention; when the configuration is replaced, its text is in the ring
if it qualifies; and a retention from before the save is removed only once a qualifying configuration has
been replaced. -/
def Guards (s₀ : Store) (rendered : String) : Device SaveSeams Store
  | .removeFile path, s, (r : Bool), _ => r = true → path ≠ configFile ∧
    ∀ name stamp, path = entry name → s₀.Holds name stamp →
      s₀.Qualified ∧ s.files configFile = some (.text rendered)
  | .stage path _, _, _, _ => path ≠ configFile ∧ ∀ name, path = entry name → stampOf name = none
  | .rename source target, s, (r : Bool), _ => r = true → source = target.tmp ∧
    (target = configFile ∧ (∀ contents, s.files configFile = some (.text contents) →
        qualifies contents = true → ∃ name stamp, s.Holds name stamp ∧
          s.files (entry name) = some (.text contents)) ∨
      ∃ stamp : Stamp, target = entry (fileName stamp) ∧ stamp.Named ∧ s.clock ≤ stamp ∧
        ∀ name stamp', s.Holds name stamp' → stamp' < stamp)
  | _, _, _, _ => True

variable {s₀ s s' : Store} {rendered contents : String} {path : Path}

omit [FromTomlStr] in
theorem entry_ne_configFile (name : List Char) : entry name ≠ configFile := by
  intro h
  cases congrArg Path.dir h

omit [FromTomlStr] in
theorem configFile_tmp_ne : configFile.tmp ≠ configFile := by decide

omit [FromTomlStr] in
theorem tmp_ne_configFile {name : List Char} : (entry name).tmp ≠ configFile := entry_ne_configFile _

omit [FromTomlStr] in
theorem stampOf_entry_tmp {name name' : List Char} (h : (entry name).tmp = entry name') :
    stampOf name' = none := by
  have hname : name ++ tmpSuffix = name' := congrArg Path.name h
  rw [← hname]
  exact stampOf_tmp

omit [FromTomlStr] in
/-- What is staged is no retention. -/
theorem not_holds_tmp {name name' : List Char} {stamp : Stamp} (h : (entry name).tmp = entry name') :
    ¬ s.Holds name' stamp := by
  intro hheld
  have hnone := stampOf_entry_tmp h
  rw [hheld.1] at hnone
  cases hnone

omit [FromTomlStr] in
theorem stampOf_config_tmp {name : List Char} (h : configFile.tmp = entry name) : stampOf name = none := by
  cases congrArg Path.dir h

omit [FromTomlStr] in
theorem Keeps.refl (s : Store) : Keeps s s := ⟨rfl, fun _ _ _ => rfl⟩

omit [FromTomlStr] in
theorem Store.Holds.keeps {name : List Char} {stamp : Stamp} (h : s.Holds name stamp) (hs : Keeps s s') :
    s'.Holds name stamp := by
  refine ⟨h.1, ?_⟩
  rw [hs.held name stamp h]
  exact h.2

omit [FromTomlStr] in
theorem Keeps.trans {s'' : Store} (h : Keeps s s') (h' : Keeps s' s'') : Keeps s s'' := by
  refine ⟨h'.config.trans h.config, ?_⟩
  intro name stamp hname
  exact (h'.held name stamp (hname.keeps h)).trans (h.held name stamp hname)

omit [FromTomlStr] in
/-- To change a path that is neither the configuration nor a retention is to keep both. -/
theorem Apart.keeps (h : Apart path s s') (hconfig : path ≠ configFile)
    (hnone : ∀ name stamp, path = entry name → ¬ s.Holds name stamp) : Keeps s s' := by
  refine ⟨h.files _ hconfig.symm, ?_⟩
  intro name stamp hname
  exact h.files _ (fun heq => hnone name stamp heq.symm hname)

omit [FromTomlStr] in
theorem apart_remove (s : Store) (path : Path) : Apart path s (s.remove path) :=
  ⟨fun _ hp => Function.update_of_ne hp _ _, rfl⟩

omit [FromTomlStr] in
theorem apart_put (s : Store) (path : Path) (file : File) : Apart path s (s.put path file) :=
  ⟨fun _ hp => Function.update_of_ne hp _ _, rfl⟩

omit [FromTomlStr] in
theorem Apart.trans {s'' : Store} (h : Apart path s s') (h' : Apart path s' s'') : Apart path s s'' :=
  ⟨fun p hp => (h'.files p hp).trans (h.files p hp), h'.clock.trans h.clock⟩

omit [FromTomlStr] in
theorem apart_removed {r : Bool} (h : disk (.removeFile path) s r s') : Apart path s s' := by
  cases r with
  | true =>
    rw [show s' = s.remove path from h.2]
    exact apart_remove s path
  | false =>
    rw [show s' = s from h]
    exact ⟨fun _ _ => rfl, rfl⟩

theorem wp_removeFile {Q : Bool → Store → Prop}
    (hguard : path ≠ configFile ∧ ∀ name stamp, path = entry name → s₀.Holds name stamp →
      s₀.Qualified ∧ s.files configFile = some (.text rendered))
    (hQ : ∀ r s', disk (.removeFile path) s r s' → Q r s') :
    wp disk (Guards s₀ rendered) (removeFile path) s Q :=
  fun r s' hd => ⟨fun _ => hguard, hQ r s' hd⟩

theorem wp_readDir {Q : List (List Char) → Store → Prop}
    (hQ : ∀ names, names.Nodup → (∀ name, name ∈ names ↔ s.files (entry name) ≠ none) → Q names s) :
    wp disk (Guards s₀ rendered) readDir s Q := by
  rintro names s' ⟨rfl, hnodup, hnames⟩
  exact ⟨trivial, hQ names hnodup hnames⟩

theorem wp_scan {Q : List (List Char × Stamp) → Store → Prop}
    (hQ : ∀ names : List (List Char), (∀ name, name ∈ names ↔ s.files (entry name) ≠ none) →
      Q (decoded names) s) : wp disk (Guards s₀ rendered) scan s Q := by
  unfold scan
  rw [wp_bind]
  apply wp_readDir
  intro names _ hnames
  exact hQ names hnames

/-- What is written is staged beside the path, and renamed to it. -/
theorem wp_writePrivateFile (htmp : path.tmp ≠ configFile)
    (hstaged : ∀ name, path.tmp = entry name → stampOf name = none)
    (hguard : ∀ s₁, Apart path.tmp s s₁ → Guards s₀ rendered (.rename path.tmp path) s₁ true s₁) :
    wp disk (Guards s₀ rendered) (writePrivateFile path contents).run s (fun r s' =>
      match r with
      | .ok () => Written path contents s s'
      | .error _ => Apart path.tmp s s') := by
  have hne : path ≠ path.tmp := by
    intro h
    have hlength := congrArg List.length (congrArg Path.name h)
    simp [Path.tmp, tmpSuffix] at hlength
  unfold writePrivateFile
  rw [wp_except_bind]
  apply wp_removeFile
  · refine ⟨htmp, ?_⟩
    intro name stamp heq hheld
    have hnone := hstaged name heq
    rw [hheld.1] at hnone
    cases hnone
  · intro r s₁ hd
    have hremoved := apart_removed hd
    dsimp only
    rw [wp_except_bind]
    intro r s₂ hd
    refine ⟨⟨htmp, hstaged⟩, ?_⟩
    cases r with
    | false =>
      have hstage : Apart path.tmp s₁ s₂ := by
        rcases hd with rfl | ⟨-, file, rfl⟩
        · exact ⟨fun _ _ => rfl, rfl⟩
        · exact apart_put s₁ _ file
      exact hremoved.trans hstage
    | true =>
      obtain ⟨-, rfl⟩ := hd
      have hstage := hremoved.trans (apart_put s₁ path.tmp (.text contents))
      change wp disk (Guards s₀ rendered) ((ExceptT.lift (rename path.tmp path) >>= fun renamed =>
        if renamed then pure () else throw .io : Saving Unit)).run _ _
      rw [wp_except_bind]
      intro r s₃ hd
      cases r with
      | false =>
        refine ⟨?_, ?_⟩
        · intro h
          cases h
        · rw [show s₃ = _ from hd]
          exact hstage
      | true =>
        refine ⟨hguard _ hstage, ?_⟩
        obtain ⟨file, hfile, rfl⟩ := hd
        have htext : file = .text contents := by
          have hput : (s₁.put path.tmp (.text contents)).files path.tmp = some (.text contents) :=
            Function.update_self ..
          exact Option.some.inj (hfile.symm.trans hput)
        rw [htext]
        refine ⟨?_, Function.update_self .., hstage.clock⟩
        intro p hp hpath
        have hmoved : ((s₁.put path.tmp (.text contents)).move path.tmp path (.text contents)).files p =
            (s₁.put path.tmp (.text contents)).files p := by
          unfold Store.move
          dsimp only
          rw [Function.update_of_ne hpath, Function.update_of_ne hp]
        rw [hmoved]
        exact hstage.files p hp

omit [FromTomlStr] in
theorem mem_decoded {names : List (List Char)} {name : List Char} {stamp : Stamp} :
    (name, stamp) ∈ decoded names ↔ name ∈ names ∧ stampOf name = some stamp := by
  unfold decoded
  rw [List.mem_filterMap]
  constructor
  · rintro ⟨name', hname', h⟩
    obtain ⟨stamp', hstamp', heq⟩ := Option.map_eq_some_iff.mp h
    cases heq
    exact ⟨hname', hstamp'⟩
  · rintro ⟨hname, hstamp⟩
    exact ⟨name, hname, by rw [hstamp]; rfl⟩

omit [FromTomlStr] in
/-- The instant of a new retention is after every one that is there, and not before now. -/
theorem lt_clamped {stamp : Stamp} {found : List (List Char × Stamp)} :
    stamp ≤ clamped stamp found ∧ ∀ x ∈ found, x.2 < clamped stamp found := by
  unfold clamped
  cases hmax : (found.map Prod.snd).max? with
  | none =>
    have hnil : found = [] := List.map_eq_nil_iff.mp (List.max?_eq_none_iff.mp hmax)
    rw [hnil]
    exact ⟨le_refl _, by simp⟩
  | some newest =>
    have hle := (List.max?_eq_some_iff.mp hmax).2
    dsimp only
    by_cases hclamp : stamp ≤ newest
    · rw [if_pos hclamp]
      refine ⟨hclamp.trans lt_nextAfter.le, ?_⟩
      intro x hx
      exact (hle x.2 (List.mem_map_of_mem hx)).trans_lt lt_nextAfter
    · rw [if_neg hclamp]
      refine ⟨le_refl _, ?_⟩
      intro x hx
      exact (hle x.2 (List.mem_map_of_mem hx)).trans_lt (not_le.mp hclamp)

omit [FromTomlStr] in
theorem nanos_clamped {stamp : Stamp} {found : List (List Char × Stamp)}
    (hstamp : stamp.nanos < 10 ^ nanosDigits) (hfound : ∀ x ∈ found, x.2.nanos < 10 ^ nanosDigits) :
    (clamped stamp found).nanos < 10 ^ nanosDigits := by
  unfold clamped
  cases hmax : (found.map Prod.snd).max? with
  | none => exact hstamp
  | some newest =>
    dsimp only
    split
    · obtain ⟨x, hx, rfl⟩ := List.mem_map.mp (List.max?_eq_some_iff.mp hmax).1
      exact nanos_nextAfter (hfound x hx)
    · exact hstamp

/-- A retention of the text that was to be replaced. -/
structure Retained (contents : String) (s s' : Store) (target : List Char) : Prop where
  keeps : Keeps s s'
  here : s'.files (entry target) = some (.text contents)
  named : ∃ stamp : Stamp, target = fileName stamp ∧ stamp.Named ∧ s'.clock ≤ stamp ∧
    ∀ name stamp', s.Holds name stamp' → stamp' < stamp

theorem wp_stampFor {Q : Stamp → Store → Prop}
    (hQ : ∀ (stamp clock : Stamp), clock ≤ stamp → stamp.nanos < 10 ^ nanosDigits →
      (∀ name stamp', s.Holds name stamp' → stamp' < stamp) → Q stamp { s with clock := clock }) :
    wp disk (Guards s₀ rendered) stampFor s Q := by
  rintro clock s₁ ⟨rfl, hnanos⟩
  refine ⟨trivial, ?_⟩
  rintro names s₂ ⟨rfl, -, hnames⟩
  refine ⟨trivial, ?_⟩
  have hclamped := @lt_clamped clock (decoded names)
  apply hQ _ _ hclamped.1
  · apply nanos_clamped hnanos
    intro x hx
    exact (named_of_stampOf (mem_decoded.mp hx).2).nanos
  · intro name stamp' hheld
    exact hclamped.2 (name, stamp') (mem_decoded.mpr ⟨(hnames name).mpr hheld.2, hheld.1⟩)

/-- A retention that fails leaves the configuration and every retention; one that does not adds one. -/
theorem wp_retain (hs₀ : ∀ name stamp, s₀.Holds name stamp → s.Holds name stamp) :
    wp disk (Guards s₀ rendered) (retain contents).run s (fun r s' =>
      match r with
      | .ok target => Retained contents s s' target
      | .error _ => Keeps s s') := by
  unfold retain
  rw [wp_except_bind]
  intro r s₁ hd
  obtain rfl : s₁ = s := hd
  refine ⟨trivial, ?_⟩
  cases r with
  | error e => exact Keeps.refl _
  | ok u =>
    change wp disk (Guards s₀ rendered) ((ExceptT.lift stampFor >>= _ : Saving _)).run s₁ _
    rw [wp_except_bind, ExceptT.run_lift, map_eq_pure_bind, wp_bind]
    apply wp_stampFor
    intro stamp clock hclock hnanos habove
    have hkeeps : Keeps s₁ { s₁ with clock := clock } := ⟨rfl, fun _ _ _ => rfl⟩
    change wp disk (Guards s₀ rendered) ((representable stamp >>= _ : Saving _)).run _ _
    unfold representable
    by_cases hsecs : 10 ^ secsDigits ≤ stamp.secs
    · rw [if_pos hsecs]
      exact hkeeps
    · rw [if_neg hsecs]
      have hnamed : stamp.Named := ⟨not_le.mp hsecs, hnanos⟩
      have hdecoded := stampOf_fileName hnamed
      have hfree : ∀ s₂ : Store, (∀ name stamp', s₂.Holds name stamp' → stamp' < stamp) →
          ∀ stamp', ¬ s₂.Holds (fileName stamp) stamp' := by
        intro s₂ habove₂ stamp' hheld
        have heq : stamp = stamp' := Option.some.inj (hdecoded.symm.trans hheld.1)
        have hlt := habove₂ _ _ hheld
        rw [heq] at hlt
        exact lt_irrefl _ hlt
      rw [pure_bind, wp_except_bind]
      apply wp_mono (wp_writePrivateFile (show (entry (fileName stamp)).tmp ≠ configFile from tmp_ne_configFile)
        (fun name => stampOf_entry_tmp) ?_)
      · rintro r s₂ hwritten
        cases r with
        | error e =>
          apply hkeeps.trans
          exact Apart.keeps hwritten tmp_ne_configFile (fun name stamp' => not_holds_tmp)
        | ok u =>
          have hkept : Keeps s₁ s₂ := by
            apply hkeeps.trans
            refine ⟨hwritten.files _ tmp_ne_configFile.symm (entry_ne_configFile _).symm, ?_⟩
            intro name stamp' hheld
            apply hwritten.files _ (fun heq => not_holds_tmp heq.symm hheld)
            intro heq
            have hname : name = fileName stamp := congrArg Path.name heq
            rw [hname] at hheld
            exact hfree _ habove _ hheld
          change wp disk (Guards s₀ rendered)
            ((ExceptT.lift (ownerOnlyDeviation (entry (fileName stamp))) >>= _ : Saving _)).run _ _
          rw [wp_except_bind]
          intro r s₃ hd
          obtain rfl : s₃ = s₂ := hd
          refine ⟨trivial, ?_⟩
          cases r with
          | error e => exact hkept
          | ok deviates =>
            cases deviates with
            | false =>
              refine ⟨hkept, hwritten.here, stamp, rfl, hnamed, ?_, habove⟩
              rw [hwritten.clock]
              exact hclock
            | true =>
              change wp disk (Guards s₀ rendered)
                ((ExceptT.lift (removeFile (entry (fileName stamp))) >>= _ : Saving _)).run _ _
              rw [wp_except_bind]
              apply wp_removeFile
              · refine ⟨entry_ne_configFile _, ?_⟩
                intro name stamp' heq hheld
                have hname : fileName stamp = name := congrArg Path.name heq
                rw [← hname] at hheld
                exact absurd (hs₀ _ _ hheld) (hfree _ habove _)
              · intro r s₄ hd
                have hremoved := apart_removed hd
                refine ⟨(hremoved.files _ (entry_ne_configFile _).symm).trans hkept.config, ?_⟩
                intro name stamp' hheld
                rw [hremoved.files (entry name) ?_]
                · exact hkept.held name stamp' hheld
                · intro heq
                  have hname : name = fileName stamp := congrArg Path.name heq
                  rw [hname] at hheld
                  exact hfree _ habove _ hheld
      · intro s₂ hapart _
        refine ⟨rfl, .inr ⟨stamp, rfl, hnamed, ?_, ?_⟩⟩
        · rw [hapart.clock]
          exact hclock
        · intro name stamp' hheld
          apply habove name stamp'
          refine ⟨hheld.1, ?_⟩
          rw [← hapart.files (entry name) ?_]
          · exact hheld.2
          · exact fun heq => not_holds_tmp heq.symm hheld

/-- Unlinking in the ring leaves everything else. -/
theorem wp_removeAll {names : List (List Char)}
    (hguard : ∀ name ∈ names, (∀ stamp, ¬ s₀.Holds name stamp) ∨
      s₀.Qualified ∧ s.files configFile = some (.text rendered)) :
    wp disk (Guards s₀ rendered) (removeAll names) s (fun _ s' =>
      s'.files configFile = s.files configFile ∧
      (∀ name, name ∉ names → s'.files (entry name) = s.files (entry name)) ∧
      ∀ name, s'.files (entry name) ≠ none → s'.files (entry name) = s.files (entry name)) := by
  induction names generalizing s with
  | nil => exact ⟨rfl, fun _ _ => rfl, fun _ _ => rfl⟩
  | cons name names ih =>
    unfold removeAll
    rw [wp_bind]
    apply wp_removeFile
    · refine ⟨entry_ne_configFile _, ?_⟩
      intro name' stamp heq hheld
      have hname : name = name' := congrArg Path.name heq
      rcases hguard name List.mem_cons_self with hnone | hreplaced
      · rw [← hname] at hheld
        exact absurd hheld (hnone stamp)
      · exact hreplaced
    · intro r s₁ hd
      have hremoved := apart_removed hd
      have hconfig : s₁.files configFile = s.files configFile :=
        hremoved.files _ (entry_ne_configFile _).symm
      have hfile : ∀ name', name' ≠ name → s₁.files (entry name') = s.files (entry name') :=
        fun name' hne => hremoved.files _ (fun heq => hne (congrArg Path.name heq))
      have hguard' : ∀ name ∈ names, (∀ stamp, ¬ s₀.Holds name stamp) ∨
          s₀.Qualified ∧ s₁.files configFile = some (.text rendered) := by
        intro name' hname'
        rw [hconfig]
        exact hguard name' (List.mem_cons_of_mem _ hname')
      apply wp_mono (ih hguard')
      rintro u s₂ ⟨hconfig', hkept, hsome⟩
      refine ⟨hconfig'.trans hconfig, ?_, ?_⟩
      · intro name' hname'
        rw [List.mem_cons, not_or] at hname'
        exact (hkept name' hname'.2).trans (hfile name' hname'.1)
      · intro name' hname'
        rw [hsome name' hname']
        by_cases hne : name' = name
        · rw [hne]
          cases r with
          | true =>
            have hgone : s₁.files (entry name) = none := by
              rw [show s₁ = s.remove (entry name) from hd.2]
              exact Function.update_self ..
            rw [hne, hsome name (hne ▸ hname'), hgone] at hname'
            exact absurd rfl hname'
          | false => rw [show s₁ = s from hd]
        · exact hfile name' hne

/-- What a prune may do: it unlinks the oldest, and the staged files of older ones. -/
theorem wp_prune (hreplaced : s₀.Qualified ∧ s.files configFile = some (.text rendered)) :
    wp disk (Guards s₀ rendered) prune s (fun _ s' =>
      s'.files configFile = s.files configFile ∧
      (∀ name, s'.files (entry name) ≠ none → s'.files (entry name) = s.files (entry name))) := by
  unfold prune
  rw [wp_bind]
  apply wp_scan
  intro names _
  rw [wp_bind]
  apply wp_mono (wp_removeAll (fun name hname => .inr hreplaced))
  rintro u s₂ ⟨hconfig, -, hsome⟩
  unfold sweepBelow
  split
  · unfold sweepAbandonedTemps
    rw [wp_bind]
    apply wp_readDir
    intro names' _ _
    have hreplaced' : s₀.Qualified ∧ s₂.files configFile = some (.text rendered) := by
      rw [hconfig]
      exact hreplaced
    apply wp_mono (wp_removeAll (fun name hname => .inr hreplaced'))
    rintro u s₄ ⟨hconfig', -, hsome'⟩
    refine ⟨hconfig'.trans hconfig, ?_⟩
    intro name hname
    have heq := hsome' name hname
    rw [heq]
    apply hsome
    rw [← heq]
    exact hname
  · exact ⟨hconfig, hsome⟩

omit [FromTomlStr] in
theorem text?_bind {contents : String} : (s.files configFile).bind File.text? = some contents ↔
    s.files configFile = some (.text contents) := by
  cases hfile : s.files configFile with
  | none => simp
  | some file =>
    cases file with
    | text contents' => simp [File.text?]
    | unreadable => simp [File.text?]

/-- What is retained is the text of a configuration that qualifies; nothing is touched for another one. -/
def RetainedIf (s₀ : Store) (r : Except SaveError (Option (List Char))) (s' : Store) : Prop :=
  match r with
  | .error _ => Keeps s₀ s'
  | .ok none => ¬ s₀.Qualified ∧ s' = s₀
  | .ok (some target) => ∃ contents, s₀.files configFile = some (.text contents) ∧
      qualifies contents = true ∧ Retained contents s₀ s' target

theorem wp_retainIfQualifying :
    wp disk (Guards s₀ rendered) retainIfQualifying.run s₀ (RetainedIf s₀) := by
  unfold retainIfQualifying
  rw [wp_except_bind]
  rintro contents s₁ ⟨rfl, hread⟩
  refine ⟨trivial, ?_⟩
  change wp disk _ (Prog.pure (Except.ok (contents.filter qualifies))) s₁ _
  cases hfilter : contents.filter qualifies with
  | none =>
    refine ⟨?_, rfl⟩
    rintro ⟨text, htext, hqualifies⟩
    rw [text?_bind.mpr htext] at hread
    rw [hread, Option.filter_some, if_pos hqualifies] at hfilter
    cases hfilter
  | some text =>
    obtain ⟨hsome, hqualifies⟩ := Option.filter_eq_some_iff.mp hfilter
    rw [hsome] at hread
    change wp disk _ (some <$> retain text : Saving (Option (List Char))).run s₁ _
    rw [map_eq_pure_bind, wp_except_bind]
    apply wp_mono (wp_retain (fun _ _ h => h))
    rintro r s' hr
    cases r with
    | error e => exact hr
    | ok target => exact ⟨text, text?_bind.mp hread.symm, hqualifies, hr⟩

/-- What a save that reports success has done: the configuration has been replaced, and pruning is what is
left, unless the file that was replaced did not qualify. -/
structure Landed (s₀ s₁ : Store) (rendered : String) : Prop where
  config : s₁.files configFile = some (.text rendered)
  held : ∀ name stamp, s₀.Holds name stamp → s₁.files (entry name) = s₀.files (entry name)
  retained : s₀.Qualified → ∃ stamp : Stamp, stamp.Named ∧ s₁.clock ≤ stamp ∧
    s₁.files (entry (fileName stamp)) = s₀.files configFile ∧
    ∀ name stamp', s₀.Holds name stamp' → stamp' < stamp
  untouched : ¬ s₀.Qualified → ∀ name, s₁.files (entry name) = s₀.files (entry name)

/-- The configuration is replaced where its text is in the ring, if it qualifies. -/
theorem wp_replace (hretained : ∀ contents, s.files configFile = some (.text contents) →
      qualifies contents = true → ∃ name stamp, s.Holds name stamp ∧
        s.files (entry name) = some (.text contents)) :
    wp disk (Guards s₀ rendered) (writePrivateFile configFile rendered).run s (fun r s' =>
      (∀ name, s'.files (entry name) = s.files (entry name)) ∧ s'.clock = s.clock ∧
      s'.files configFile = match r with
        | .ok () => some (.text rendered)
        | .error _ => s.files configFile) := by
  have hentry : ∀ name, entry name ≠ configFile.tmp := by
    intro name h
    cases congrArg Path.dir h
  apply wp_mono (wp_writePrivateFile (show configFile.tmp ≠ configFile from configFile_tmp_ne)
    (fun name => stampOf_config_tmp) ?_)
  · intro r s' hr
    cases r with
    | error e => exact ⟨fun name => hr.files _ (hentry name), hr.clock, hr.files _ configFile_tmp_ne.symm⟩
    | ok u => exact ⟨fun name => hr.files _ (hentry name) (entry_ne_configFile name), hr.clock, hr.here⟩
  · intro s₁ hapart _
    refine ⟨rfl, .inl ⟨rfl, ?_⟩⟩
    intro contents hcontents hqualifies
    rw [hapart.files _ configFile_tmp_ne.symm] at hcontents
    obtain ⟨name, stamp, hheld, hfile⟩ := hretained contents hcontents hqualifies
    have heq := hapart.files (entry name) (hentry name)
    refine ⟨name, stamp, ⟨hheld.1, ?_⟩, heq.trans hfile⟩
    rw [heq]
    exact hheld.2

/-- A save as a whole. -/
theorem wp_saveTo : wp disk (Guards s₀ rendered) (saveTo rendered).run s₀ (fun r s' =>
    match r with
    | .error _ => Keeps s₀ s'
    | .ok () => ∃ s₁, Landed s₀ s₁ rendered ∧ (¬ s₀.Qualified → s' = s₁) ∧
      (s₀.Qualified → Exec disk prune s₁ () s')) := by
  unfold saveTo
  rw [wp_except_bind]
  intro r s₁ hd
  obtain rfl : s₁ = s₀ := hd
  refine ⟨trivial, ?_⟩
  cases r with
  | error e => exact Keeps.refl _
  | ok u =>
    change wp disk (Guards s₁ rendered) ((ExceptT.lift acquireWriteLock >>= _ : Saving _)).run _ _
    rw [wp_except_bind]
    intro r s₂ hd
    obtain rfl : s₂ = s₁ := hd
    refine ⟨trivial, ?_⟩
    cases r with
    | false => exact Keeps.refl _
    | true =>
      change wp disk (Guards s₂ rendered) ((retainIfQualifying >>= _ : Saving _)).run _ _
      rw [wp_except_bind]
      apply wp_mono wp_retainIfQualifying
      rintro r s₃ hr
      cases r with
      | error e => exact hr
      | ok retention =>
        change wp disk (Guards s₂ rendered)
          ((ExceptT.lift (writePrivateFile configFile rendered).run >>= _ : Saving _)).run _ _
        rw [wp_except_bind, ExceptT.run_lift, map_eq_pure_bind, wp_bind]
        cases retention with
        | none =>
          obtain ⟨hunqualified, rfl⟩ := hr
          apply wp_mono (wp_replace ?_)
          · rintro written s₄ ⟨hentries, -, hconfig⟩
            cases written with
            | error e => exact ⟨hconfig, fun name _ _ => hentries name⟩
            | ok u =>
              have hlanded : Landed s₃ s₄ rendered :=
                ⟨hconfig, fun name _ _ => hentries name, fun h => absurd h hunqualified,
                  fun _ => hentries⟩
              exact ⟨s₄, hlanded, fun _ => rfl, fun h => absurd h hunqualified⟩
          · intro contents hcontents hqualifies
            exact absurd ⟨contents, hcontents, hqualifies⟩ hunqualified
        | some target =>
          obtain ⟨contents, hcontents, hqualifies, hkeeps, hhere, stamp, rfl, hnamed, hclock, habove⟩ := hr
          have hqualified : s₂.Qualified := ⟨contents, hcontents, hqualifies⟩
          apply wp_mono (wp_replace ?_)
          · rintro written s₄ ⟨hentries, hclock', hconfig⟩
            cases written with
            | error e =>
              have hfree : ∀ stamp', ¬ s₂.Holds (fileName stamp) stamp' := by
                intro stamp' hheld
                have heq : stamp = stamp' := Option.some.inj ((stampOf_fileName hnamed).symm.trans hheld.1)
                have hlt := habove _ _ hheld
                rw [heq] at hlt
                exact lt_irrefl _ hlt
              change wp disk (Guards s₂ rendered)
                ((ExceptT.lift (rollBack (some (fileName stamp))) >>= fun _ => throw e : Saving Unit)).run
                  s₄ _
              rw [wp_except_bind, ExceptT.run_lift, map_eq_pure_bind, wp_bind]
              unfold rollBack
              rw [wp_bind]
              apply wp_removeFile
              · refine ⟨entry_ne_configFile _, ?_⟩
                intro name stamp' heq hheld
                have hname : fileName stamp = name := congrArg Path.name heq
                rw [← hname] at hheld
                exact absurd hheld (hfree _)
              · intro r s₅ hd
                have hremoved := apart_removed hd
                refine ⟨?_, ?_⟩
                · rw [hremoved.files _ (entry_ne_configFile _).symm, hconfig]
                  exact hkeeps.config
                · intro name stamp' hheld
                  rw [hremoved.files (entry name) ?_, hentries]
                  · exact hkeeps.held name stamp' hheld
                  · intro heq
                    have hname : name = fileName stamp := congrArg Path.name heq
                    rw [hname] at hheld
                    exact hfree _ hheld
            | ok u =>
              have hlanded : Landed s₂ s₄ rendered := by
                refine ⟨hconfig, ?_, ?_, fun h => absurd hqualified h⟩
                · intro name stamp' hheld
                  exact (hentries name).trans (hkeeps.held name stamp' hheld)
                · intro _
                  refine ⟨stamp, hnamed, ?_, ?_, habove⟩
                  · rw [hclock']
                    exact hclock
                  · rw [hentries, hhere, hcontents]
              change wp disk (Guards s₂ rendered)
                (ExceptT.lift (commit (some (fileName stamp))) : Saving Unit).run s₄ _
              rw [ExceptT.run_lift, map_eq_pure_bind, wp_bind]
              apply wp_iff_guaranteed.mpr
              refine ⟨wp_mono (wp_prune ⟨hqualified, hconfig⟩) (fun _ _ _ => trivial), ?_⟩
              intro _ s₅ he
              exact ⟨s₄, hlanded, fun h => absurd hqualified h, fun _ => he⟩
          · intro contents' hcontents' _
            rw [hkeeps.config, hcontents] at hcontents'
            cases hcontents'
            refine ⟨fileName stamp, stamp, ⟨stampOf_fileName hnamed, ?_⟩, hhere⟩
            rw [hhere]
            simp

end Guards

end Sessiometer.Backup
