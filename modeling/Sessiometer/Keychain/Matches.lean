import Sessiometer.Keychain.Dump

/-! # The dump read back

Every attribute is read as it was printed, and each block of the dump as the item it is of. -/

namespace Sessiometer.Keychain

open Framing Log

/-! ## Values -/

section Values

variable {cs p q : Text}

theorem dropPrefix?_eq_none (h : ¬ p <+: q) : q.dropPrefix? p = none := by
  cases hdrop : q.dropPrefix? p with
  | none => rfl
  | some rest =>
    obtain ⟨front, rfl, hfront⟩ := List.dropPrefix?_eq_some_iff.mp hdrop
    rw [beq_iff_eq] at hfront
    exact absurd (hfront ▸ List.prefix_append front rest) h

theorem trim_of_ends (hfirst : ∀ c, cs.head? = some c → isWhitespace c = false)
    (hlast : ∀ c, cs.getLast? = some c → isWhitespace c = false) : trim cs = cs := by
  have hkeep : ∀ ds : Text, (∀ c, ds.head? = some c → isWhitespace c = false) →
      ds.dropWhile isWhitespace = ds := by
    intro ds hds
    cases ds with
    | nil => rfl
    | cons d ds => rw [List.dropWhile_cons, hds d rfl, if_neg Bool.false_ne_true]
  unfold trim
  rw [hkeep cs hfirst, hkeep cs.reverse (by simpa using hlast), List.reverse_reverse]

theorem trim_enclosed {c d : Char} (hc : isWhitespace c = false) (hd : isWhitespace d = false)
    (mid : Text) : trim (c :: mid ++ [d]) = c :: mid ++ [d] := by
  apply trim_of_ends
  · intro c' h
    cases h
    exact hc
  · intro d' h
    rw [List.getLast?_concat] at h
    cases h
    exact hd

theorem toDigit_hexChar (upper : Bool) {n : ℕ} (h : n < 16) : toDigit (hexChar upper n) = some n := by
  have hall : ∀ upper : Bool, ∀ n : Fin 16, toDigit (hexChar upper n) = some (n : ℕ) := by decide
  exact hall upper ⟨n, h⟩

theorem div_lt_sixteen (byte : UInt8) : byte.toNat / 16 < 16 := by
  have h := byte.toNat_lt
  omega

theorem decodePairs_flatMap (upper : Bool) (bytes : Bytes) :
    decodePairs (bytes.flatMap (hexPair upper)) = some bytes := by
  induction bytes with
  | nil => rfl
  | cons byte bytes ih =>
    have hbyte : UInt8.ofNat (byte.toNat / 16 * 16 + byte.toNat % 16) = byte := by
      rw [Nat.div_add_mod']
      exact UInt8.ofNat_toNat
    rw [List.flatMap_cons]
    change decodePairs (hexChar upper (byte.toNat / 16) :: hexChar upper (byte.toNat % 16) ::
      bytes.flatMap (hexPair upper)) = _
    rw [decodePairs, toDigit_hexChar upper (div_lt_sixteen byte),
      toDigit_hexChar upper (Nat.mod_lt _ (by decide)), ih]
    change some (UInt8.ofNat (byte.toNat / 16 * 16 + byte.toNat % 16) :: bytes) = _
    rw [hbyte]

theorem length_flatMap_hexPair (upper : Bool) (bytes : Bytes) :
    (bytes.flatMap (hexPair upper)).length = 2 * bytes.length := by
  induction bytes with
  | nil => rfl
  | cons byte bytes ih =>
    rw [List.flatMap_cons, List.length_append, ih, List.length_cons]
    change 2 + _ = _
    omega

theorem isSome_toDigit_of_mem (upper : Bool) {bytes : Bytes} {c : Char}
    (h : c ∈ bytes.flatMap (hexPair upper)) : (toDigit c).isSome = true := by
  obtain ⟨byte, -, hc⟩ := List.mem_flatMap.mp h
  simp only [hexPair, List.mem_cons, List.not_mem_nil, or_false] at hc
  rcases hc with rfl | rfl
  · rw [toDigit_hexChar upper (div_lt_sixteen byte)]
    rfl
  · rw [toDigit_hexChar upper (Nat.mod_lt _ (by decide))]
    rfl

theorem isWhitespace_of_toDigit {c : Char} (h : (toDigit c).isSome = true) :
    isWhitespace c = false := by
  have hnat : ∀ a : Char, a ≤ c ↔ a.toNat ≤ c.toNat := fun a => Iff.rfl
  have hnat' : ∀ b : Char, c ≤ b ↔ c.toNat ≤ b.toNat := fun b => Iff.rfl
  have hrange : 48 ≤ c.toNat ∧ c.toNat ≤ 102 := by
    unfold toDigit at h
    simp only [hnat, hnat'] at h
    have h0 : '0'.toNat = 48 := rfl
    have h9 : '9'.toNat = 57 := rfl
    have ha : 'a'.toNat = 97 := rfl
    have hf : 'f'.toNat = 102 := rfl
    have hA : 'A'.toNat = 65 := rfl
    have hF : 'F'.toNat = 70 := rfl
    split at h
    · omega
    · split at h
      · omega
      · split at h
        · omega
        · cases h
  unfold isWhitespace
  simp only [List.mem_cons, List.not_mem_nil, or_false, Bool.or_eq_false_iff, decide_eq_false_iff_not,
    Bool.and_eq_false_iff]
  omega

theorem decodeAttrValue_quoted (text : Text) :
    decodeAttrValue (Printed.quoted text).text = some (asBytes text) := by
  have htrim : trim ('"' :: text ++ ['"']) = '"' :: (text ++ '"' :: []) :=
    trim_enclosed (by decide) (by decide) text
  have hdrop : ('"' :: (text ++ ['"'])).dropPrefix? ['"'] = some (text ++ ['"']) :=
    dropPrefix?_append ['"'] (text ++ ['"'])
  unfold decodeAttrValue
  dsimp only [Printed.text]
  rw [htrim, hdrop]
  dsimp only
  rw [rsplitOnce_append (List.not_mem_nil), Option.map_some]

theorem decodeAttrValue_hex (upper : Bool) (first : UInt8) (more : Bytes) (shown : Option Text) :
    decodeAttrValue (Printed.hex upper first more shown).text = some (first :: more) := by
  have hdigits : ∀ c ∈ (first :: more).flatMap (hexPair upper), (toDigit c).isSome = true :=
    fun c hc => isSome_toDigit_of_mem upper hc
  have hne : (first :: more).flatMap (hexPair upper) ≠ [] := by
    rw [List.flatMap_cons]
    exact List.append_ne_nil_of_left_ne_nil (List.cons_ne_nil _ _) _
  have htake : ((first :: more).flatMap (hexPair upper) ++
      shown.elim [] (fun shown => "  \"".toList ++ shown ++ ['"'])).takeWhile
        (fun c => (toDigit c).isSome) = (first :: more).flatMap (hexPair upper) := by
    rw [List.takeWhile_append_of_pos hdigits]
    cases shown with
    | none => exact List.append_nil _
    | some shown => exact List.append_nil _
  have htrim : trim (Printed.hex upper first more shown).text =
      (Printed.hex upper first more shown).text := by
    apply trim_of_ends
    · intro c hc
      cases hc
      decide
    · intro c hc
      cases shown with
      | none =>
        change (['0', 'x'] ++ (first :: more).flatMap (hexPair upper) ++ []).getLast? = some c at hc
        rw [List.append_nil, List.getLast?_append_of_ne_nil _ hne] at hc
        exact isWhitespace_of_toDigit (hdigits c (List.mem_of_getLast? hc))
      | some shown =>
        change (['0', 'x'] ++ (first :: more).flatMap (hexPair upper) ++
          ("  \"".toList ++ shown ++ ['"'])).getLast? = some c at hc
        rw [← List.append_assoc, List.getLast?_concat] at hc
        cases hc
        decide
  have hdrop : (Printed.hex upper first more shown).text.dropPrefix? ['0', 'x'] =
      some ((first :: more).flatMap (hexPair upper) ++
        shown.elim [] (fun shown => "  \"".toList ++ shown ++ ['"'])) :=
    dropPrefix?_append ['0', 'x'] _
  have hquote : (Printed.hex upper first more shown).text.dropPrefix? ['"'] = none := by
    apply dropPrefix?_eq_none
    intro h
    exact absurd (List.cons_prefix_cons.mp h).1 (by decide)
  unfold decodeAttrValue
  dsimp only
  rw [htrim, hquote, hdrop]
  dsimp only
  rw [htake, if_neg hne]
  unfold hexDecode
  rw [length_flatMap_hexPair, decodePairs_flatMap, if_neg (by omega)]

/-- A printed value is read back; one that is null is read as empty. -/
theorem decodeAttrValue_text (value : Printed) :
    decodeAttrValue value.text = some (value.value.getD []) := by
  cases value with
  | quoted text => exact decodeAttrValue_quoted text
  | hex upper first more shown => exact decodeAttrValue_hex upper first more shown
  | null => decide

end Values

/-! ## Blocks -/

section Blocks

variable {name : Text}

theorem lines_cons {first : Text} (hfirst : '\n' ∉ first) (hreturn : first.getLast? ≠ some '\r')
    (rest : Text) : lines (first ++ '\n' :: rest) = first :: lines rest := by
  unfold lines
  rw [splitInclusive_cons hfirst, List.map_cons]
  unfold stripEnd
  rw [List.getLast?_concat, if_pos rfl, List.dropLast_concat, if_neg hreturn]

theorem lines_last {last : Text} (hne : last ≠ []) (hlast : '\n' ∉ last) : lines last = [last] := by
  have hsplit : splitInclusive last = [last] := by
    induction last with
    | nil => exact absurd rfl hne
    | cons c last ih =>
      rw [List.mem_cons, not_or] at hlast
      rw [splitInclusive, if_neg (Ne.symm hlast.1)]
      by_cases hnil : last = []
      · rw [hnil]
        rfl
      · rw [ih hnil hlast.2]
  have hend : last.getLast? ≠ some '\n' := fun h => hlast (List.mem_of_getLast? h)
  unfold lines
  rw [hsplit, List.map_singleton]
  unfold stripEnd
  rw [if_neg hend]

/-- A row of a dump: one line that ends in a printed character. -/
def IsRow (row : Text) : Prop := row ≠ [] ∧ '\n' ∉ row ∧ row.getLast? ≠ some '\r'

instance (row : Text) : Decidable (IsRow row) := inferInstanceAs (Decidable (_ ∧ _ ∧ _))

theorem lines_rows {first : Text} {rows : List Text} {back : Text} (hfirst : IsRow first)
    (hrows : ∀ row ∈ rows, IsRow row) (hback : back = [] ∨ back = ['\n']) :
    lines (first ++ rows.flatMap ('\n' :: ·) ++ back) = first :: rows := by
  obtain ⟨hne, hline, hreturn⟩ := hfirst
  induction rows generalizing first with
  | nil =>
    rw [List.flatMap_nil, List.append_nil]
    rcases hback with rfl | rfl
    · rw [List.append_nil]
      exact lines_last hne hline
    · exact lines_cons hline hreturn []
  | cons row rows ih =>
    obtain ⟨hne', hline', hreturn'⟩ := hrows row List.mem_cons_self
    have hrest := ih (fun r hr => hrows r (List.mem_cons_of_mem _ hr)) hne' hline' hreturn'
    rw [List.flatMap_cons, List.cons_append, List.append_assoc, List.cons_append,
      lines_cons hline hreturn, hrest]

theorem IsRow.concat {row : Text} {c : Char} (hrow : '\n' ∉ row) (hc : c ≠ '\n') (hr : c ≠ '\r') :
    IsRow (row ++ [c]) := by
  refine ⟨List.append_ne_nil_of_right_ne_nil _ (List.cons_ne_nil _ _), ?_, ?_⟩
  · simp [hrow, Ne.symm hc]
  · rw [List.getLast?_concat]
    exact fun h => hr (Option.some.inj h)

theorem IsRow.append {front row : Text} (hfront : '\n' ∉ front) (hrow : IsRow row) :
    IsRow (front ++ row) := by
  obtain ⟨hne, hline, hreturn⟩ := hrow
  refine ⟨List.append_ne_nil_of_right_ne_nil _ hne, ?_, ?_⟩
  · simp [hfront, hline]
  · rw [List.getLast?_append_of_ne_nil _ hne]
    exact hreturn

theorem newline_notMem_key (attr : Attribute) : '\n' ∉ attr.key.text := by
  have hwf := attr.key_wf
  cases hkey : attr.key with
  | named name type' =>
    rw [hkey] at hwf
    simp [AttributeKey.text, hwf.2.1, hwf.2.2.2]
  | numbered number type' =>
    rw [hkey] at hwf
    simp [AttributeKey.text, hwf.1, hwf.2]

theorem newline_notMem_digits (upper : Bool) (bytes : Bytes) :
    '\n' ∉ bytes.flatMap (hexPair upper) :=
  fun h => absurd (isSome_toDigit_of_mem upper h) (by decide)

theorem isRow_value (attr : Attribute) : IsRow attr.value.text := by
  have hwf := attr.value_wf
  cases hvalue : attr.value with
  | quoted text =>
    rw [hvalue] at hwf
    have htext : '\n' ∉ text := hwf
    exact IsRow.concat (by simpa using htext) (by decide) (by decide)
  | hex upper first more shown =>
    rw [hvalue] at hwf
    have hdigits := newline_notMem_digits upper (first :: more)
    cases shown with
    | none =>
      have hne : (first :: more).flatMap (hexPair upper) ≠ [] := by
        rw [List.flatMap_cons]
        exact List.append_ne_nil_of_left_ne_nil (List.cons_ne_nil _ _) _
      change IsRow (['0', 'x'] ++ (first :: more).flatMap (hexPair upper) ++ [])
      rw [List.append_nil]
      refine IsRow.append (by decide) ⟨hne, hdigits, ?_⟩
      intro h
      exact absurd (isSome_toDigit_of_mem upper (List.mem_of_getLast? h)) (by decide)
    | some shown =>
      have hshown := hwf shown rfl
      change IsRow (['0', 'x'] ++ (first :: more).flatMap (hexPair upper) ++
        ("  \"".toList ++ shown ++ ['"']))
      apply IsRow.append
      · rw [List.mem_append, not_or]
        exact ⟨by decide, hdigits⟩
      · exact IsRow.concat (by simpa using hshown) (by decide) (by decide)
  | null => decide

theorem isRow_row (attr : Attribute) : IsRow attr.row := by
  have hkey := newline_notMem_key attr
  unfold Attribute.row
  apply IsRow.append
  · rw [List.mem_append, not_or]
    exact ⟨by decide, hkey⟩
  · exact IsRow.append (show '\n' ∉ ['='] by decide) (isRow_value attr)

theorem isRow_rows (item : Item) : ∀ row ∈ item.rows, IsRow row := by
  intro row hrow
  simp only [Item.rows, List.mem_cons, List.mem_map] at hrow
  rcases hrow with rfl | rfl | rfl | ⟨attr, -, rfl⟩
  · have hdigits : ∀ c ∈ Nat.toDigits 10 item.version, c.isDigit = true :=
      fun c hc => Nat.isDigit_of_mem_toDigits (by decide) (by decide) hc
    refine IsRow.append (by decide) ⟨Nat.toDigits_ne_nil, ?_, ?_⟩
    · exact fun h => absurd (hdigits _ h) (by decide)
    · exact fun h => absurd (hdigits _ (List.mem_of_getLast? h)) (by decide)
  · have hclass := item.class_line
    exact IsRow.concat (by simpa using hclass) (by decide) (by decide)
  · decide
  · exact isRow_row attr

theorem isRow_header (item : Item) : IsRow item.header := by
  have hpath := item.path_line
  exact IsRow.concat (by simpa using hpath) (by decide) (by decide)

/-- A row is taken for an attribute of the name just where it is one. -/
theorem dropPrefix?_row (hname : '"' ∉ name) (attr : Attribute) :
    (attr.row.dropWhile isWhitespace).dropPrefix? (needle name) =
      if attr.key = .named name "blob".toList then some attr.value.text else none := by
  have hkey : attr.key.text.head? = some '"' ∨ attr.key.text.head? = some '0' := by
    cases attr.key with
    | named => exact .inl rfl
    | numbered => exact .inr rfl
  have htrim : attr.row.dropWhile isWhitespace = attr.key.text ++ '=' :: attr.value.text := by
    have hspaces : ("    ".toList).all isWhitespace = true := by decide
    have hfirst : (attr.key.text ++ '=' :: attr.value.text).head?.all (fun c => !isWhitespace c) = true := by
      rcases hkey with h | h
      · rw [List.head?_append, h]
        rfl
      · rw [List.head?_append, h]
        rfl
    unfold Attribute.row
    rw [List.append_assoc, List.dropWhile_append_of_pos (List.all_eq_true.mp hspaces)]
    cases hcs : attr.key.text ++ '=' :: attr.value.text with
    | nil => rfl
    | cons c cs =>
      rw [hcs] at hfirst
      rw [List.dropWhile_cons, if_neg (by simpa using hfirst)]
  have hwf := attr.key_wf
  rw [htrim]
  cases hattr : attr.key with
  | named name' type' =>
    rw [hattr] at hwf
    have htext : (AttributeKey.named name' type').text ++ '=' :: attr.value.text =
        '"' :: (name' ++ '"' :: ('<' :: (type' ++ '>' :: ('=' :: attr.value.text)))) := by
      simp [AttributeKey.text]
    by_cases hsame : AttributeKey.named name' type' = .named name "blob".toList
    · cases hsame
      have hneedle : '"' :: (name ++ '"' :: ('<' :: ("blob".toList ++ '>' :: ('=' :: attr.value.text)))) =
          needle name ++ attr.value.text := by
        simp [needle]
      rw [if_pos rfl, htext, hneedle, dropPrefix?_append]
    · rw [if_neg hsame, htext]
      apply dropPrefix?_eq_none
      intro h
      have hneedle : needle name =
          '"' :: (name ++ '"' :: ('<' :: ("blob".toList ++ '>' :: ['=']))) := by
        simp [needle]
      rw [hneedle] at h
      obtain ⟨hnames, h⟩ := append_cons_prefix hname hwf.1 (List.cons_prefix_cons.mp h).2
      obtain ⟨htypes, -⟩ := append_cons_prefix (by decide) hwf.2.2.1 (List.cons_prefix_cons.mp h).2
      rw [← hnames, ← htypes] at hsame
      exact hsame rfl
  | numbered number type' =>
    rw [if_neg (by simp)]
    apply dropPrefix?_eq_none
    intro h
    exact absurd (List.cons_prefix_cons.mp h).1 (by decide)

theorem findSome?_attributes (hname : '"' ∉ name) (attributes : List Attribute) :
    (attributes.map Attribute.row).findSome? (fun line =>
        (line.dropWhile isWhitespace).dropPrefix? (needle name)) =
      ((attributes.find? (fun attr => attr.key = .named name "blob".toList)).map (·.value)).map
        Printed.text := by
  induction attributes with
  | nil => rfl
  | cons attr attributes ih =>
    rw [List.map_cons, List.findSome?_cons, dropPrefix?_row hname, List.find?_cons]
    by_cases hkey : attr.key = .named name "blob".toList
    · rw [if_pos hkey]
      simp [hkey]
    · rw [if_neg hkey]
      simp only [hkey, decide_false]
      exact ih

/-- What a block may have before its item and after it. -/
def Framed (item : Item) (block : Text) : Prop :=
  ∃ front back, (front = [] ∨ front = "keychain: ".toList) ∧ (back = [] ∨ back = ['\n']) ∧
    block = front ++ item.body ++ back

theorem blockAttr_framed {item : Item} {block : Text} (hblock : Framed item block)
    (hname : '"' ∉ name) (hroot : name.head? ≠ some '/') :
    blockAttr block name = (item.printed name).map (fun value => value.value.getD []) := by
  obtain ⟨front, back, hfront, hback, rfl⟩ := hblock
  have hrows : lines (front ++ item.body ++ back) = (front ++ item.header) :: item.rows := by
    have hfirst : IsRow (front ++ item.header) := by
      apply IsRow.append _ (isRow_header item)
      rcases hfront with rfl | rfl <;> decide
    unfold Item.body
    rw [← List.append_assoc]
    exact lines_rows hfirst (isRow_rows item) hback
  have hnot : ∀ line : Text, ¬ needle name <+: line.dropWhile isWhitespace →
      (line.dropWhile isWhitespace).dropPrefix? (needle name) = none :=
    fun line h => dropPrefix?_eq_none h
  have hheader : ((front ++ item.header).dropWhile isWhitespace).dropPrefix? (needle name) = none := by
    apply hnot
    obtain ⟨path, hpath⟩ : ∃ path, item.path = '/' :: path := by
      have habs := item.path_absolute
      cases hp : item.path with
      | nil => rw [hp] at habs; cases habs
      | cons c path =>
        rw [hp] at habs
        cases habs
        exact ⟨path, rfl⟩
    unfold Item.header
    rw [hpath]
    intro h
    rcases hfront with rfl | rfl
    · have hslash := (List.cons_prefix_cons.mp h).2
      cases name with
      | nil => exact absurd (List.cons_prefix_cons.mp hslash).1 (by decide)
      | cons c name =>
        apply hroot
        rw [List.head?_cons, (List.cons_prefix_cons.mp hslash).1]
    · exact absurd (List.cons_prefix_cons.mp h).1 (by decide)
  have hversion : (("version: ".toList ++ Nat.toDigits 10 item.version).dropWhile
      isWhitespace).dropPrefix? (needle name) = none :=
    hnot _ (fun h => absurd (List.cons_prefix_cons.mp h).1 (by decide))
  have hclass : (("class: \"".toList ++ item.class' ++ ['"']).dropWhile
      isWhitespace).dropPrefix? (needle name) = none :=
    hnot _ (fun h => absurd (List.cons_prefix_cons.mp h).1 (by decide))
  have hattributes : ("attributes:".toList.dropWhile isWhitespace).dropPrefix? (needle name) = none :=
    hnot _ (fun h => absurd (List.cons_prefix_cons.mp h).1 (by decide))
  have hfind : (lines (front ++ item.body ++ back)).findSome? (fun line =>
      (line.dropWhile isWhitespace).dropPrefix? (needle name)) =
        (item.printed name).map Printed.text := by
    rw [hrows, List.findSome?_cons, hheader]
    unfold Item.rows
    rw [List.findSome?_cons, hversion, List.findSome?_cons, hclass, List.findSome?_cons, hattributes]
    exact findSome?_attributes hname item.attributes
  unfold blockAttr
  rw [hfind]
  cases item.printed name with
  | none => rfl
  | some value => exact decodeAttrValue_text value

theorem mark_framed {item : Item} {block : Text} (hblock : Framed item block) :
    genpMark <:+: block ↔ item.Marked := by
  obtain ⟨front, back, hfront, hback, rfl⟩ := hblock
  have hne : genpMark ≠ [] := by decide
  have hlast : genpMark.getLast? ≠ some '\n' := by decide
  have hend : genpMark <:+: front ++ item.body ++ back ↔ genpMark <:+: front ++ item.body := by
    rcases hback with rfl | rfl
    · rw [List.append_nil]
    · exact infix_concat_iff_of_getLast? hne hlast
  rw [hend]
  rcases hfront with rfl | rfl
  · rfl
  · unfold Item.Marked genpMark
    simp [List.infix_cons_iff, List.cons_prefix_cons]

end Blocks

/-! ## Items -/

section Items

variable {service : Text} {items : List Item}

instance (item : Item) : Decidable item.Marked := inferInstanceAs (Decidable (_ <:+: _))

/-- What the reader makes of an item. -/
def itemMatch (service : Text) (item : Item) : Option (Option Bytes) :=
  if ¬ item.Marked then none
  else if (item.printed svce).map (fun value => value.value.getD []) = some (asBytes service) then
    some ((item.printed acct).map (fun value => value.value.getD []))
  else none

theorem blockMatch_framed {item : Item} {block : Text} (hblock : Framed item block) :
    blockMatch service block = itemMatch service item := by
  unfold blockMatch itemMatch
  rw [blockAttr_framed hblock (by decide) (by decide), blockAttr_framed hblock (by decide) (by decide)]
  by_cases hmark : item.Marked
  · rw [if_neg (not_not.mpr hmark), if_neg (not_not.mpr ((mark_framed hblock).mpr hmark))]
  · rw [if_pos hmark, if_pos (fun h => hmark ((mark_framed hblock).mp h))]

theorem notInfix_body {front : Text} (hfront : '\n' ∉ front) (item : Item) :
    ¬ keychainMark <:+: front ++ item.body := by
  unfold Item.body
  rw [← List.append_assoc]
  apply notInfix_rows (by decide)
  · rw [List.mem_append, not_or]
    exact ⟨hfront, (isRow_header item).2.1⟩
  · intro row hrow
    refine ⟨(isRow_rows item row hrow).2.1, ?_⟩
    intro h
    simp only [Item.rows, List.mem_cons, List.mem_map] at hrow
    rcases hrow with rfl | rfl | rfl | ⟨attr, -, rfl⟩ <;>
      exact absurd (List.cons_prefix_cons.mp h).1 (by decide)

theorem splitPattern_keychainMark {block : Text} (hblock : ¬ keychainMark <:+: block) (rest : Text) :
    splitPattern keychainMark (block ++ (keychainMark ++ rest)) =
      block :: splitPattern keychainMark rest :=
  splitPattern_append (show '\n' ∉ "keychain: ".toList by decide) hblock rest

/-- The blocks that follow a first one. -/
theorem blocks_match {front : Text} (hfront : front = [] ∨ front = "keychain: ".toList) (item : Item)
    (items : List Item) :
    (splitPattern keychainMark (front ++ item.body ++ ['\n'] ++ dump items)).filterMap
      (blockMatch service) = (item :: items).filterMap (itemMatch service) := by
  have hline : '\n' ∉ front := by
    rcases hfront with rfl | rfl <;> decide
  induction items generalizing item front with
  | nil =>
    have hlast : ¬ keychainMark <:+: front ++ item.body ++ ['\n'] := by
      rw [infix_concat_iff_of_getLast? (by decide) (by decide)]
      exact notInfix_body hline item
    have hframed : Framed item (front ++ item.body ++ ['\n']) := ⟨front, _, hfront, .inr rfl, rfl⟩
    change (splitPattern keychainMark (front ++ item.body ++ ['\n'] ++ [])).filterMap _ = _
    rw [List.append_nil, splitPattern_self hlast, List.filterMap_cons, List.filterMap_cons,
      blockMatch_framed hframed]
    rfl
  | cons next items ih =>
    have hmark : front ++ item.body ++ ['\n'] ++ dump (next :: items) =
        (front ++ item.body) ++ (keychainMark ++ ([] ++ next.body ++ ['\n'] ++ dump items)) := by
      unfold dump keychainMark
      rw [List.flatMap_cons]
      simp
    have hframed : Framed item (front ++ item.body) :=
      ⟨front, [], hfront, .inl rfl, (List.append_nil _).symm⟩
    rw [hmark, splitPattern_keychainMark (notInfix_body hline item), List.filterMap_cons,
      blockMatch_framed hframed, ih (.inl rfl) next List.not_mem_nil, ← List.filterMap_cons]

theorem serviceMatches_dump (service : Text) (items : List Item) :
    serviceMatches service (dump items) = items.filterMap (itemMatch service) := by
  cases items with
  | nil =>
    have hempty : blockMatch service [] = none := if_pos (by decide)
    change (splitPattern keychainMark []).filterMap _ = _
    rw [splitPattern_self (by decide), List.filterMap_cons, hempty]
    rfl
  | cons item items => exact blocks_match (.inr rfl) item items

end Items

end Sessiometer.Keychain
