import Sessiometer.Framing.Blocks
import Sessiometer.Log.ReadBack
import Sessiometer.Usage.Trailer

/-! # The dump of a keychain

What `security dump-keychain` prints of the items, and what is read back of it. -/

namespace Sessiometer.Keychain

open Framing Log

abbrev Bytes := List UInt8

/-- `str::as_bytes`. -/
def asBytes (text : Text) : Bytes := text.flatMap String.utf8EncodeChar

/-! ## The reader -/

/-- `char::to_digit` in base sixteen. -/
def toDigit (c : Char) : Option ℕ :=
  if '0' ≤ c ∧ c ≤ '9' then some (c.toNat - 48)
  else if 'a' ≤ c ∧ c ≤ 'f' then some (c.toNat - 87)
  else if 'A' ≤ c ∧ c ≤ 'F' then some (c.toNat - 55)
  else none

def decodePairs : Text → Option Bytes
  | hi :: lo :: rest => do
    let hi ← toDigit hi
    let lo ← toDigit lo
    let bytes ← decodePairs rest
    pure (UInt8.ofNat (hi * 16 + lo) :: bytes)
  | _ => some []

/-- `hex::decode`. -/
def hexDecode (hex : Text) : Option Bytes := if hex.length % 2 ≠ 0 then none else decodePairs hex

def decodeAttrValue (rest : Text) : Option Bytes :=
  let rest := trim rest
  match rest.dropPrefix? ['"'] with
  | some after => (Sessiometer.rsplitOnce '"' after).map (asBytes ·.1)
  | none =>
    match rest.dropPrefix? ['0', 'x'] with
    | some hex =>
      let digits := hex.takeWhile (fun c => (toDigit c).isSome)
      if digits = [] then none else hexDecode digits
    | none => if rest = "<NULL>".toList then some [] else none

def needle (name : Text) : Text := '"' :: name ++ "\"<blob>=".toList

def blockAttr (block : Text) (name : Text) : Option Bytes :=
  ((lines block).findSome? (fun line => (line.dropWhile isWhitespace).dropPrefix? (needle name))).bind
    decodeAttrValue

def acct : Text := "acct".toList

def svce : Text := "svce".toList

def genp : Text := "genp".toList

/-- What marks a block as a generic password. -/
def genpMark : Text := "class: \"genp\"".toList

def keychainMark : Text := "\nkeychain: ".toList

/-- The account of the block, where the block counts. -/
def blockMatch (service : Text) (block : Text) : Option (Option Bytes) :=
  if ¬ genpMark <:+: block then none
  else if blockAttr block svce = some (asBytes service) then some (blockAttr block acct)
  else none

def serviceMatches (service : Text) (dump : Text) : List (Option Bytes) :=
  (splitPattern keychainMark dump).filterMap (blockMatch service)

def parseResolve (service : Text) (dump : Text) : Except Error Bytes :=
  match serviceMatches service dump with
  | [] => .error .credentialNotFound
  | [acct] => (acct.map .ok).getD (.error .credentialNotFound)
  | found => .error (.credentialAmbiguous found.length)

structure ReapTargets where
  accts : List Bytes
  acctless : ℕ
deriving DecidableEq

def ReapTargets.add (targets : ReapTargets) : Option Bytes → ReapTargets
  | some acct => ⟨targets.accts ++ [acct], targets.acctless⟩
  | none => ⟨targets.accts, targets.acctless + 1⟩

def parseReapTargets (service : Text) (dump : Text) : ReapTargets :=
  (serviceMatches service dump).foldl ReapTargets.add ⟨[], 0⟩

/-- The deletes in their order: by account first, then by the service alone. -/
def ReapTargets.plan (targets : ReapTargets) : List (Option Bytes) :=
  targets.accts.map some ++ List.replicate targets.acctless none

/-! ## The writer -/

/-- How an attribute is named: by its tag, or by its number where it has no tag. -/
inductive AttributeKey where
  | named (name type' : Text)
  | numbered (number type' : Text)
deriving DecidableEq

/-- A value as it is printed; what stands behind the digits shows them as text. -/
inductive Printed where
  | quoted (text : Text)
  | hex (upper : Bool) (first : UInt8) (more : Bytes) (shown : Option Text)
  | null
deriving DecidableEq

def hexChar (upper : Bool) (n : ℕ) : Char :=
  if n < 10 then Char.ofNat (48 + n) else Char.ofNat ((if upper then 55 else 87) + n)

def hexPair (upper : Bool) (byte : UInt8) : Text :=
  [hexChar upper (byte.toNat / 16), hexChar upper (byte.toNat % 16)]

def AttributeKey.text : AttributeKey → Text
  | .named name type' => '"' :: name ++ '"' :: '<' :: type' ++ ['>']
  | .numbered number type' => '0' :: 'x' :: number ++ ' ' :: '<' :: type' ++ ['>']

def Printed.text : Printed → Text
  | .quoted text => '"' :: text ++ ['"']
  | .hex upper first more shown =>
    '0' :: 'x' :: (first :: more).flatMap (hexPair upper) ++
      shown.elim [] (fun shown => "  \"".toList ++ shown ++ ['"'])
  | .null => "<NULL>".toList

/-- What the attribute is, apart from how it is printed. -/
def Printed.value : Printed → Option Bytes
  | .quoted text => some (asBytes text)
  | .hex _ first more _ => some (first :: more)
  | .null => none

def AttributeKey.WellFormed : AttributeKey → Prop
  | .named name type' => '"' ∉ name ∧ '\n' ∉ name ∧ '>' ∉ type' ∧ '\n' ∉ type'
  | .numbered number type' => '\n' ∉ number ∧ '\n' ∉ type'

def Printed.WellFormed : Printed → Prop
  | .quoted text => '\n' ∉ text
  | .hex _ _ _ shown => ∀ text, shown = some text → '\n' ∉ text
  | .null => True

structure Attribute where
  key : AttributeKey
  value : Printed
  key_wf : key.WellFormed
  value_wf : value.WellFormed

/-- An item of a keychain, which is a file under an absolute path. -/
structure Item where
  path : Text
  version : ℕ
  class' : Text
  attributes : List Attribute
  path_absolute : path.head? = some '/'
  path_line : '\n' ∉ path
  class_line : '\n' ∉ class'

def Attribute.row (attr : Attribute) : Text :=
  "    ".toList ++ attr.key.text ++ '=' :: attr.value.text

def Item.header (item : Item) : Text := '"' :: item.path ++ ['"']

def Item.rows (item : Item) : List Text :=
  ("version: ".toList ++ Nat.toDigits 10 item.version) :: ("class: \"".toList ++ item.class' ++ ['"']) ::
    "attributes:".toList :: item.attributes.map Attribute.row

/-- The lines of the item, behind the word that begins it. -/
def Item.body (item : Item) : Text := item.header ++ item.rows.flatMap ('\n' :: ·)

def dump (items : List Item) : Text :=
  items.flatMap (fun item => "keychain: ".toList ++ item.body ++ ['\n'])

/-! ## What the items are -/

def Item.printed (item : Item) (name : Text) : Option Printed :=
  (item.attributes.find? (fun attr => attr.key = .named name "blob".toList)).map (·.value)

def Item.service (item : Item) : Option Bytes := (item.printed svce).bind Printed.value

def Item.account (item : Item) : Option Bytes := (item.printed acct).bind Printed.value

/-- A generic password of the service. -/
def Item.OfService (service : Text) (item : Item) : Prop :=
  item.class' = genp ∧ item.service = some (asBytes service)

instance (service : Text) (item : Item) : Decidable (item.OfService service) :=
  inferInstanceAs (Decidable (_ ∧ _))

/-- The text that marks a generic password stands somewhere in the lines of the item. -/
def Item.Marked (item : Item) : Prop := genpMark <:+: item.body

end Sessiometer.Keychain
