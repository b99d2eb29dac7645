import Sessiometer.Keychain.Stash
import Sessiometer.Swap.Script

/-! # A stash that was written

The command of each half is read as it was meant, and what is found afterwards is what was stored: the
identity always, the credential where the program prints it as it is. -/

namespace Sessiometer.Keychain

open Framing Log

/-! ## Commands -/

section Commands

variable {service acct : String} {keychain payload : Bytes}

/-- The words of a command that writes an item, as they are spelled on its line. -/
def commandPieces (service acct : String) (keychain payload : Bytes) :
    List (Quoting.Piece UInt8) :=
  [.bare (stringBytes "add-generic-password"), .bare (stringBytes "-U"), .bare (stringBytes "-s"),
    .quoted (stringBytes service), .bare (stringBytes "-a"), .quoted (stringBytes acct),
    .bare (stringBytes "-w"), .quoted payload, .quoted keychain]

def commandText (service acct : String) (keychain payload : Bytes) : Bytes :=
  quoting.line space (commandPieces service acct keychain payload)

theorem pushQuoted_eq (out token : Bytes) : pushQuoted out token = out ++ quoting.quoted token := by
  unfold pushQuoted Quoting.quoted
  simp only [List.append_assoc, List.cons_append]
  rfl

theorem writeItemCommandLine_eq :
    writeItemCommandLine service acct keychain payload =
      commandText service acct keychain payload ++ [newline] := by
  have hadd : stringBytes "add-generic-password -U -s " =
      stringBytes "add-generic-password" ++ space :: (stringBytes "-U" ++ space ::
        (stringBytes "-s" ++ [space])) := by decide +kernel
  have haccount : stringBytes " -a " = space :: (stringBytes "-a" ++ [space]) := by decide +kernel
  have hsecret : stringBytes " -w " = space :: (stringBytes "-w" ++ [space]) := by decide +kernel
  unfold writeItemCommandLine
  simp only [pushQuoted_eq, hadd, haccount, hsecret]
  simp [commandText, commandPieces, Quoting.line, Quoting.text]

theorem plain_of_all {word : Bytes} (hne : word ≠ [])
    (h : word.all (fun b => b ≠ doubleQuote ∧ b ≠ backslash ∧ b ≠ space ∧ b ≠ 0x09) = true) :
    quoting.Plain word := by
  refine ⟨hne, fun b hb => ?_⟩
  have hb := List.all_eq_true.mp h b hb
  simp only [ne_eq, decide_eq_true_eq] at hb
  obtain ⟨hquote, hescape, hspace, htab⟩ := hb
  exact ⟨hquote, hescape, by simp [quoting, hspace, htab]⟩

theorem wellWritten_command {p : Quoting.Piece UInt8}
    (hp : p ∈ commandPieces service acct keychain payload) : quoting.WellWritten p := by
  simp only [commandPieces, List.mem_cons, List.not_mem_nil, or_false] at hp
  obtain rfl | rfl | rfl | rfl | rfl | rfl | rfl | rfl | rfl := hp
  · exact plain_of_all (by decide +kernel) (by decide +kernel)
  · exact plain_of_all (by decide +kernel) (by decide +kernel)
  · exact plain_of_all (by decide +kernel) (by decide +kernel)
  · trivial
  · exact plain_of_all (by decide +kernel) (by decide +kernel)
  · trivial
  · exact plain_of_all (by decide +kernel) (by decide +kernel)
  · trivial
  · trivial

theorem keeps_command :
    Quoting.Keeps quoting space ofCommand (commandPieces service acct keychain payload) := by
  refine ⟨by decide, by decide, by decide, fun word hword c hc => ?_⟩
  simp only [commandPieces, List.mem_cons, Quoting.Piece.bare.injEq, reduceCtorEq, List.not_mem_nil,
    or_false, false_or] at hword
  have hall : ∀ word : Bytes, word.all ofCommand = true → ∀ c ∈ word, ofCommand c = true :=
    fun word h => List.all_eq_true.mp h
  obtain rfl | rfl | rfl | rfl | rfl := hword
  · exact hall _ (by decide +kernel) c hc
  · exact hall _ (by decide +kernel) c hc
  · exact hall _ (by decide +kernel) c hc
  · exact hall _ (by decide +kernel) c hc
  · exact hall _ (by decide +kernel) c hc

/-- The command of an item is read as the arguments it was made of. -/
theorem words_command : quoting.words (commandText service acct keychain payload) =
    some (addArgs (stringBytes service) (stringBytes acct) payload keychain) :=
  Quoting.words_line (by decide) fun _ hp => wellWritten_command hp

/-- A command with a line break inside of a word ends between its quotes. -/
theorem words_broken_command (h : (commandText service acct keychain payload).all ofCommand ≠ true) :
    quoting.words ((writeItemCommandLine service acct keychain payload).takeWhile ofCommand) =
      none := by
  have hcut : ∃ p ∈ commandPieces service acct keychain payload, ∃ b ∈ p.word,
      ofCommand b = false := by
    by_contra hnone
    simp only [not_exists, not_and, Bool.not_eq_false] at hnone
    exact h (List.all_eq_true.mpr fun b hb => Quoting.keep_of_mem_line keeps_command hnone hb)
  have hstop : (commandText service acct keychain payload ++ [newline]).takeWhile ofCommand =
      (commandText service acct keychain payload).takeWhile ofCommand := by
    have hnewline : [newline].takeWhile ofCommand = [] := by decide
    rw [List.takeWhile_append]
    split
    · next hlength =>
      rw [hnewline, List.append_nil]
      exact ((List.takeWhile_prefix _).eq_of_length hlength).symm
    · rfl
  rw [writeItemCommandLine_eq, hstop]
  exact Quoting.words_takeWhile (by decide) (fun _ hp => wellWritten_command hp) keeps_command hcut

end Commands

/-! ## Hex text -/

section Hex

theorem utf8_hexChar (upper : Bool) {n : ℕ} (h : n < 16) :
    ∃ b, String.utf8EncodeChar (hexChar upper n) = [b] ∧ byteChar b = hexChar upper n ∧
      Printable b := by
  have hall : ∀ upper : Bool, ∀ n : Fin 16,
      String.utf8EncodeChar (hexChar upper n) = [UInt8.ofNat (hexChar upper n).toNat] ∧
        byteChar (UInt8.ofNat (hexChar upper n).toNat) = hexChar upper n ∧
        Printable (UInt8.ofNat (hexChar upper n).toNat) := by decide
  exact ⟨_, hall upper ⟨n, h⟩⟩

theorem exists_hexPair (upper : Bool) (byte : UInt8) :
    ∃ hi lo, asBytes (hexPair upper byte) = [hi, lo] ∧
      [hi, lo].map byteChar = hexPair upper byte ∧ Printable hi ∧ Printable lo := by
  obtain ⟨hi, hhi, hhi', hhi''⟩ := utf8_hexChar upper (div_lt_sixteen byte)
  obtain ⟨lo, hlo, hlo', hlo''⟩ := utf8_hexChar upper (Nat.mod_lt byte.toNat (by decide : 0 < 16))
  refine ⟨hi, lo, ?_, ?_, hhi'', hlo''⟩
  · simp [asBytes, hexPair, hhi, hlo]
  · simp [hexPair, hhi', hlo']

theorem asBytes_append (s t : Text) : asBytes (s ++ t) = asBytes s ++ asBytes t :=
  List.flatMap_append

theorem map_hexText (upper : Bool) (bytes : Bytes) :
    (hexText upper bytes).map byteChar = bytes.flatMap (hexPair upper) := by
  induction bytes with
  | nil => rfl
  | cons byte bytes ih =>
    obtain ⟨hi, lo, hbytes, hback, -⟩ := exists_hexPair upper byte
    unfold hexText at ih ⊢
    rw [List.flatMap_cons, asBytes_append, List.map_append, ih, hbytes, hback]

theorem printable_hexText (upper : Bool) (bytes : Bytes) : ∀ b ∈ hexText upper bytes, Printable b := by
  induction bytes with
  | nil => simp [hexText, asBytes]
  | cons byte bytes ih =>
    obtain ⟨hi, lo, hbytes, -, hhi, hlo⟩ := exists_hexPair upper byte
    unfold hexText at ih ⊢
    rw [List.flatMap_cons, asBytes_append, hbytes]
    intro b hb
    simp only [List.cons_append, List.nil_append, List.mem_cons] at hb
    obtain rfl | rfl | hb := hb
    · exact hhi
    · exact hlo
    · exact ih b hb

/-- `hex::decode` undoes `hex::encode`. -/
theorem hexDecode_hexText (upper : Bool) (bytes : Bytes) :
    hexDecode ((hexText upper bytes).map byteChar) = some bytes := by
  rw [map_hexText]
  unfold hexDecode
  rw [length_flatMap_hexPair, decodePairs_flatMap]
  simp

theorem all_printable {secret : Bytes} :
    secret.all (fun b => decide (Printable b)) = true ↔ ∀ b ∈ secret, Printable b := by
  simp

theorem shown_hexText (upper upper' : Bool) (bytes : Bytes) :
    shown upper (hexText upper' bytes) = hexText upper' bytes :=
  if_pos (all_printable.mpr (printable_hexText upper' bytes))

theorem shown_eq_iff (upper : Bool) (secret : Bytes) :
    shown upper secret = secret ↔ ∀ b ∈ secret, Printable b := by
  rw [← all_printable]
  unfold shown
  constructor
  · intro h
    by_contra hnot
    rw [if_neg hnot] at h
    exact hnot (all_printable.mpr (h ▸ printable_hexText upper secret))
  · intro h
    exact if_pos h

theorem strip_newline (bytes : Bytes) : stripOneTrailingNewline (bytes ++ [newline]) = bytes := by
  simp [stripOneTrailingNewline]

end Hex

/-! ## Writes and reads -/

namespace RealAccountStash

variable {κ : Type} {stash : RealAccountStash κ} {items : κ → Items} {k : κ} {service acct : String}
  {keychain payload : Bytes}

theorem addItem_ok (htool : stash.security.Serves items)
    (h : (stash.addItem k service acct keychain payload).2 = .ok ()) :
    (commandText service acct keychain payload).all ofCommand = true ∧
      items (stash.addItem k service acct keychain payload).1 =
        (items k).set keychain (stringBytes service) (stringBytes acct) payload := by
  unfold addItem at h ⊢
  dsimp only at h ⊢
  generalize hran : stash.security.interactive k
    (writeItemCommandLine service acct keychain payload) = ran at h ⊢
  obtain ⟨k', ran⟩ := ran
  have hcode : ran = .ok (some 0) := by
    cases ran with
    | error e => simp [Except.bind] at h
    | ok code =>
      by_cases hcode : code = some 0
      · rw [hcode]
      · simp [Except.bind, hcode] at h
  rw [hcode] at hran
  have hkept : (commandText service acct keychain payload).all ofCommand = true := by
    by_contra hbroken
    exact htool.refuses (words_broken_command hbroken) hran
  rw [writeItemCommandLine_eq] at hran
  exact ⟨hkept, htool.adds hkept words_command hran⟩

theorem findItem_stored (htool : stash.security.Serves items)
    (h : items k keychain (stringBytes service) (stringBytes acct) = some payload) :
    ∃ upper, stash.findItem k service acct keychain = .ok (shown upper payload) := by
  obtain ⟨upper, hrun⟩ := htool.finds h
  refine ⟨upper, ?_⟩
  have hrun : stash.security.run k (readItemArgs service acct keychain) =
      .ok (some 0, shown upper payload ++ [newline]) := hrun
  unfold findItem
  rw [hrun]
  simp [Except.bind, strip_newline]

variable [SerdeJson] [SerdeToVec] {account : StashedAccount}

/-- The identity half, as it is stored. -/
def identityPayload (account : StashedAccount) : Bytes :=
  hexText false (SerdeToVec.toVec account.oauthAccount.raw)

omit [SerdeJson] in
theorem write_ok (htool : stash.security.Serves items)
    (h : (stash.write k service account).2 = .ok ()) :
    ∃ keychain, stash.keychainPath = .ok keychain ∧
      (commandText service acctCredential keychain account.credential.blob).all ofCommand = true ∧
      (commandText service acctOauth keychain (identityPayload account)).all ofCommand = true ∧
      items (stash.write k service account).1 =
        ((items k).set keychain (stringBytes service) (stringBytes acctCredential)
          account.credential.blob).set keychain (stringBytes service) (stringBytes acctOauth)
          (identityPayload account) := by
  unfold write at h ⊢
  cases hpath : stash.keychainPath with
  | error e =>
    rw [hpath] at h
    simp at h
  | ok keychain =>
    rw [hpath] at h
    dsimp only at h ⊢
    generalize hfirst : stash.addItem k service acctCredential keychain account.credential.blob =
      first at h ⊢
    obtain ⟨k', ran⟩ := first
    cases ran with
    | error e => simp at h
    | ok u =>
      have hadd := addItem_ok htool (by rw [hfirst] : (stash.addItem k service acctCredential keychain
        account.credential.blob).2 = .ok ())
      rw [hfirst] at hadd
      have hadd' := addItem_ok htool h
      refine ⟨keychain, rfl, hadd.1, hadd'.1, ?_⟩
      exact hadd'.2.trans (by rw [hadd.2]; rfl)

theorem fromObjectBytes_toVec {o : OauthAccount}
    (h : SerdeJson.fromSlice (SerdeToVec.toVec o.raw) = some o.raw) :
    fromObjectBytes (SerdeToVec.toVec o.raw) = .ok o := by
  unfold fromObjectBytes
  rw [h]
  exact OauthAccount.fromObject_raw o

/-- What a read finds after a write: the identity, and the credential as the program prints it. -/
theorem read_written (htool : stash.security.Serves items)
    (hjson : SerdeJson.fromSlice (SerdeToVec.toVec account.oauthAccount.raw) =
      some account.oauthAccount.raw)
    (h : (stash.write k service account).2 = .ok ()) :
    ∃ upper, stash.read (stash.write k service account).1 service =
      .ok ⟨⟨shown upper account.credential.blob⟩, account.oauthAccount⟩ := by
  obtain ⟨keychain, hpath, -, -, hitems⟩ := write_ok htool h
  have hdistinct : stringBytes acctCredential ≠ stringBytes acctOauth := by decide +kernel
  have hcredential : items (stash.write k service account).1 keychain (stringBytes service)
      (stringBytes acctCredential) = some account.credential.blob := by
    rw [hitems]
    simp [Items.set, hdistinct]
  have hoauth : items (stash.write k service account).1 keychain (stringBytes service)
      (stringBytes acctOauth) = some (identityPayload account) := by
    rw [hitems]
    simp [Items.set]
  obtain ⟨upper, hcredential⟩ := findItem_stored htool hcredential
  obtain ⟨upper', hoauth⟩ := findItem_stored htool hoauth
  have hok : ∀ {α β : Type} (a : α) (f : α → Except Error β), (Except.ok a >>= f) = f a :=
    fun _ _ => rfl
  unfold identityPayload at hoauth
  rw [shown_hexText] at hoauth
  refine ⟨upper, ?_⟩
  unfold read
  rw [hpath, hok, hcredential, hok, hoauth, hok, hexDecode_hexText]
  change fromObjectBytes (SerdeToVec.toVec account.oauthAccount.raw) >>= _ = _
  rw [fromObjectBytes_toVec hjson]
  rfl

end RealAccountStash

/-! ## A keychain that serves -/

/-- A program over its secrets alone, which prints digits in lower case. -/
def plainSecurity : SecurityTool Items where
  interactive items stdin :=
    match quoting.words (stdin.takeWhile ofCommand) with
    | none => (items, .ok (some 1))
    | some args =>
      let (service, acct, payload, keychain) :=
        (args.getD 3 [], args.getD 5 [], args.getD 7 [], args.getD 8 [])
      if args = addArgs service acct payload keychain then
        (items.set keychain service acct payload, .ok (some 0))
      else (items, .ok (some 2))
  run items args :=
    let (service, acct, keychain) := (args.getD 3 [], args.getD 5 [], args.getD 6 [])
    if args = findArgs service acct keychain then
      match items keychain service acct with
      | some secret => .ok (some 0, shown false secret ++ [newline])
      | none => .ok (some 44, [])
    else .ok (some 2, [])

theorem takeWhile_command {line : Bytes} (h : line.all ofCommand = true) :
    (line ++ [newline]).takeWhile ofCommand = line := by
  rw [List.takeWhile_append_of_pos (List.all_eq_true.mp h)]
  simp [show ofCommand newline = false by decide]

theorem plainSecurity_adds {items : Items} {line service acct payload keychain : Bytes}
    (hline : line.all ofCommand = true)
    (hwords : quoting.words line = some (addArgs service acct payload keychain)) :
    plainSecurity.interactive items (line ++ [newline]) =
      (items.set keychain service acct payload, .ok (some 0)) := by
  unfold plainSecurity
  simp only [takeWhile_command hline, hwords]
  exact if_pos rfl

theorem plainSecurity_serves : plainSecurity.Serves id := by
  constructor
  · intro k k' line service acct payload keychain hline hwords hrun
    rw [plainSecurity_adds hline hwords] at hrun
    exact (congrArg Prod.fst hrun).symm
  · intro k k' stdin hwords hrun
    unfold plainSecurity at hrun
    simp only [hwords] at hrun
    simp at hrun
  · intro k keychain service acct secret hitem
    refine ⟨false, ?_⟩
    have hitem : k keychain service acct = some secret := hitem
    simp only [plainSecurity, findArgs, List.getD_cons_succ, List.getD_cons_zero, if_true, hitem]

theorem plain_addItem {items : Items} {service acct : String} {keychain payload : Bytes}
    (path : Except Error Bytes)
    (h : (commandText service acct keychain payload).all ofCommand = true) :
    (RealAccountStash.mk plainSecurity path).addItem items service acct keychain payload =
      (items.set keychain (stringBytes service) (stringBytes acct) payload, .ok ()) := by
  unfold RealAccountStash.addItem
  rw [writeItemCommandLine_eq, plainSecurity_adds h words_command]
  rfl

/-! ## The round trip -/

section RoundTrip

variable {κ : Type} {stash : RealAccountStash κ} {items : κ → Items} [SerdeJson] [SerdeToVec]

/-- A stash that was written is read with the identity it was given, and with its credential where the
program prints that as it is. -/
theorem write_then_read (htool : stash.security.Serves items) (k : κ) (service : String)
    (account : StashedAccount)
    (hjson : SerdeJson.fromSlice (SerdeToVec.toVec account.oauthAccount.raw) =
      some account.oauthAccount.raw)
    (h : (stash.write k service account).2 = .ok ()) :
    (∃ credential, stash.read (stash.write k service account).1 service =
        .ok ⟨credential, account.oauthAccount⟩ ∧
      (credential = account.credential ↔ ∀ b ∈ account.credential.blob, Printable b)) ∧
    ∃ keychain, stash.keychainPath = .ok keychain ∧
      ∀ half ∈ [(acctCredential, account.credential.blob),
          (acctOauth, asBytes (hexEncode (SerdeToVec.toVec account.oauthAccount.raw)))],
        ∃ line, writeItemCommandLine service half.1 keychain half.2 = line ++ [newline] ∧
          line.all ofCommand = true ∧
          quoting.words line =
            some (addArgs (stringBytes service) (stringBytes half.1) half.2 keychain) := by
  constructor
  · obtain ⟨upper, hread⟩ := RealAccountStash.read_written htool hjson h
    refine ⟨_, hread, ?_⟩
    rw [← shown_eq_iff upper]
    constructor
    · intro heq
      exact congrArg Credential.blob heq
    · intro heq
      rw [heq]
  · obtain ⟨keychain, hpath, hcredential, hoauth, -⟩ := RealAccountStash.write_ok htool h
    refine ⟨keychain, hpath, fun half hhalf => ⟨_, writeItemCommandLine_eq, ?_, words_command⟩⟩
    simp only [List.mem_cons, List.not_mem_nil, or_false] at hhalf
    obtain rfl | rfl := hhalf
    · exact hcredential
    · exact hoauth

end RoundTrip

section Samples

/-- The identity document of the samples, and its only text. -/
def accentedIdentity : OauthAccount := ⟨identityDocument "é", "é", rfl⟩

def accentedText : Bytes := stringBytes "\x7b\"accountUuid\":\"é\"\x7d"

local instance accentedJson : SerdeJson where
  fromSlice bytes := if bytes = accentedText then some accentedIdentity.raw else none

local instance accentedToVec : SerdeToVec where
  toVec _ := accentedText

def plainStash : RealAccountStash Items := ⟨plainSecurity, .ok (stringBytes "/k/login \"a\".db")⟩

theorem accented_json : SerdeJson.fromSlice (SerdeToVec.toVec accentedIdentity.raw) =
    some accentedIdentity.raw := if_pos rfl

theorem plainStash_write (blob : Bytes) (h : (commandText "Sessiometer/é" acctCredential
    (stringBytes "/k/login \"a\".db") blob).all ofCommand = true) :
    (plainStash.write (fun _ _ _ => none) "Sessiometer/é" ⟨⟨blob⟩, accentedIdentity⟩).2 = .ok () := by
  have hidentity : (commandText "Sessiometer/é" acctOauth (stringBytes "/k/login \"a\".db")
      (RealAccountStash.identityPayload ⟨⟨blob⟩, accentedIdentity⟩)).all ofCommand = true := by
    have hpayload : RealAccountStash.identityPayload ⟨⟨blob⟩, accentedIdentity⟩ =
      hexText false accentedText := rfl
    rw [hpayload]
    decide +kernel
  unfold RealAccountStash.write plainStash
  dsimp only
  rw [plain_addItem _ h]
  exact congrArg Prod.snd (plain_addItem _ hidentity)

/-- A credential with a quote and a backslash, under a name with an accent. -/
theorem quoted_credential_read_back :
    plainStash.read (plainStash.write (fun _ _ _ => none) "Sessiometer/é"
      ⟨⟨[0x22, 0x5c, 0x20]⟩, accentedIdentity⟩).1 "Sessiometer/é" =
      .ok ⟨⟨[0x22, 0x5c, 0x20]⟩, accentedIdentity⟩ := by
  obtain ⟨⟨credential, hread, hsame⟩, -⟩ := write_then_read plainSecurity_serves _ _ _ accented_json
    (plainStash_write [0x22, 0x5c, 0x20] (by decide +kernel))
  have hplain : ∀ b ∈ ([0x22, 0x5c, 0x20] : Bytes), Printable b := by simp [Printable]
  rw [hread, hsame.mpr hplain]

/-- A credential that is not plain text is read as its digits. -/
theorem accented_credential_altered :
    (plainStash.write (fun _ _ _ => none) "Sessiometer/é" ⟨⟨[0xc3, 0xa9]⟩, accentedIdentity⟩).2 =
        .ok () ∧
      plainStash.read (plainStash.write (fun _ _ _ => none) "Sessiometer/é"
        ⟨⟨[0xc3, 0xa9]⟩, accentedIdentity⟩).1 "Sessiometer/é" ≠
        .ok ⟨⟨[0xc3, 0xa9]⟩, accentedIdentity⟩ := by
  have hwrite := plainStash_write [0xc3, 0xa9] (by decide +kernel)
  refine ⟨hwrite, fun hsame => ?_⟩
  obtain ⟨upper, hread⟩ := RealAccountStash.read_written plainSecurity_serves accented_json hwrite
  rw [hread] at hsame
  obtain ⟨hcredential, -⟩ := StashedAccount.mk.inj (Except.ok.inj hsame)
  have hblob := Credential.mk.inj hcredential
  have hplain := (shown_eq_iff upper _).mp hblob 0xc3 (by simp)
  exact absurd hplain.2 (by decide +kernel)

end Samples

end Sessiometer.Keychain
