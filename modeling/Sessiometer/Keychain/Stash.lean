import Sessiometer.Framing.CommandLine
import Sessiometer.Keychain.Matches
import Sessiometer.Swap.Stores

/-! # The stash of an account in the keychain

The two items of a stash, written and read through the program `security`. -/

namespace Sessiometer.Keychain

open Framing Log

/-- The program: what it does with the commands of its standard input, and what it finds. A run gives
the exit code, none where a signal ended it. -/
structure SecurityTool (κ : Type) where
  interactive : κ → Bytes → κ × Except Error (Option ℤ)
  run : κ → List Bytes → Except Error (Option ℤ × Bytes)

structure RealAccountStash (κ : Type) where
  security : SecurityTool κ
  /-- `keychain_path`. -/
  keychainPath : Except Error Bytes

def acctCredential : String := "credential"

def acctOauth : String := "oauthAccount"

def stashError (op : String) (code : ℤ) : Error :=
  if code = 36 then .keychainLocked op else .keychain op code

def newline : UInt8 := 0x0a

def space : UInt8 := 0x20

def doubleQuote : UInt8 := 0x22

def backslash : UInt8 := 0x5c

def stringBytes (s : String) : Bytes := asBytes s.toList

def pushQuoted (out token : Bytes) : Bytes :=
  out ++ [doubleQuote] ++
    token.flatMap (fun b => if b = backslash ∨ b = doubleQuote then [backslash, b] else [b]) ++
    [doubleQuote]

def writeItemCommandLine (service acct : String) (keychain payload : Bytes) : Bytes :=
  let line := stringBytes "add-generic-password -U -s "
  let line := pushQuoted line (stringBytes service)
  let line := line ++ stringBytes " -a "
  let line := pushQuoted line (stringBytes acct)
  let line := line ++ stringBytes " -w "
  let line := pushQuoted line payload
  let line := line ++ [space]
  let line := pushQuoted line keychain
  line ++ [newline]

def readItemArgs (service acct : String) (keychain : Bytes) : List Bytes :=
  [stringBytes "find-generic-password", stringBytes "-w", stringBytes "-s", stringBytes service,
    stringBytes "-a", stringBytes acct, keychain]

def stripOneTrailingNewline (bytes : Bytes) : Bytes :=
  if bytes.getLast? = some newline then bytes.dropLast else bytes

/-- `hex::encode`. -/
def hexEncode (bytes : Bytes) : Text := bytes.flatMap (hexPair false)

/-- A byte `as char`. -/
def byteChar (b : UInt8) : Char := Char.ofNat b.toNat

/-- `OauthAccount::from_object_bytes`. -/
def fromObjectBytes [SerdeJson] (bytes : Bytes) : Except Error OauthAccount :=
  match SerdeJson.fromSlice bytes with
  | some v => OauthAccount.fromObject v
  | none => .error .claudeStateParse

namespace RealAccountStash

variable {κ : Type} (stash : RealAccountStash κ)

def addItem (k : κ) (service acct : String) (keychain payload : Bytes) : κ × Except Error Unit :=
  let ran := stash.security.interactive k (writeItemCommandLine service acct keychain payload)
  (ran.1, ran.2.bind fun code =>
    if code = some 0 then .ok () else .error (stashError "stash write" (code.getD (-1))))

def findItem (k : κ) (service acct : String) (keychain : Bytes) : Except Error Bytes :=
  (stash.security.run k (readItemArgs service acct keychain)).bind fun (code, stdout) =>
    if code = some 0 then .ok (stripOneTrailingNewline stdout)
    else if code.getD (-1) = 44 then .error (.stashIncomplete service)
    else .error (stashError "stash read" (code.getD (-1)))

/-- Credential first, then identity. -/
def write [SerdeToVec] (k : κ) (service : String) (account : StashedAccount) : κ × Except Error Unit :=
  match stash.keychainPath with
  | .error e => (k, .error e)
  | .ok keychain =>
    match stash.addItem k service acctCredential keychain account.credential.blob with
    | (k, .error e) => (k, .error e)
    | (k, .ok ()) =>
      stash.addItem k service acctOauth keychain
        (asBytes (hexEncode (SerdeToVec.toVec account.oauthAccount.raw)))

def read [SerdeJson] (k : κ) (service : String) : Except Error StashedAccount := do
  let keychain ← stash.keychainPath
  let credential ← stash.findItem k service acctCredential keychain
  let oauthHex ← stash.findItem k service acctOauth keychain
  let oauthBytes ← (hexDecode (oauthHex.map byteChar)).elim (.error (.stashIncomplete service)) .ok
  let oauthAccount ← fromObjectBytes oauthBytes
  .ok ⟨⟨credential⟩, oauthAccount⟩

end RealAccountStash

/-! ## What the program does -/

/-- How the program reads a command. -/
def quoting : Quoting UInt8 where
  quote := doubleQuote
  escape := backslash
  blank := fun b => b = space ∨ b = 0x09
  quote_ne_escape := by decide
  quote_solid := by decide
  escape_solid := by decide

/-- A command is read as a string that ends at a newline, or at a zero. -/
def ofCommand (b : UInt8) : Bool := b ≠ newline ∧ b ≠ 0

def Printable (b : UInt8) : Prop := 0x20 ≤ b.toNat ∧ b.toNat < 0x7f

instance (b : UInt8) : Decidable (Printable b) := inferInstanceAs (Decidable (_ ∧ _))

def hexText (upper : Bool) (bytes : Bytes) : Bytes := asBytes (bytes.flatMap (hexPair upper))

/-- What `-w` prints of a secret. -/
def shown (upper : Bool) (secret : Bytes) : Bytes :=
  if secret.all (fun b => decide (Printable b)) = true then secret else hexText upper secret

/-- The secrets, by the file of the keychain, the service and the account. -/
abbrev Items : Type := Bytes → Bytes → Bytes → Option Bytes

def Items.set (items : Items) (keychain service acct secret : Bytes) : Items :=
  fun f s a => if f = keychain ∧ s = service ∧ a = acct then some secret else items f s a

def addArgs (service acct payload keychain : Bytes) : List Bytes :=
  [stringBytes "add-generic-password", stringBytes "-U", stringBytes "-s", service,
    stringBytes "-a", acct, stringBytes "-w", payload, keychain]

def findArgs (service acct keychain : Bytes) : List Bytes :=
  [stringBytes "find-generic-password", stringBytes "-w", stringBytes "-s", service,
    stringBytes "-a", acct, keychain]

/-- What is relied on of the program: a command on one line is run, one that ends between quotes is
refused, and a secret that is there is printed. -/
structure SecurityTool.Serves {κ : Type} (security : SecurityTool κ) (items : κ → Items) : Prop where
  adds : ∀ {k k' line service acct payload keychain}, line.all ofCommand = true →
    quoting.words line = some (addArgs service acct payload keychain) →
    security.interactive k (line ++ [newline]) = (k', .ok (some 0)) →
    items k' = (items k).set keychain service acct payload
  refuses : ∀ {k k' stdin}, quoting.words (stdin.takeWhile ofCommand) = none →
    security.interactive k stdin ≠ (k', .ok (some 0))
  finds : ∀ {k keychain service acct secret}, items k keychain service acct = some secret →
    ∃ upper, security.run k (findArgs service acct keychain) =
      .ok (some 0, shown upper secret ++ [newline])

end Sessiometer.Keychain
