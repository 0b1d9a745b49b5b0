import VaultAccess.Text.Utf8

/-!
# Percent encoding

A character that may not stand in some part of a URL is written there as its UTF-8 bytes, each as a
percent sign and two digits. Which characters those are differs from part to part; the sets grow from
`controls` to `userinfoSet`.
-/

namespace VaultAccess.Url

/-! ### Characters that are encoded -/

/-- Controls and everything outside ASCII. -/
def controls (c : Char) : Bool := c.toNat < 0x20 || 0x7E < c.toNat

/-- What is encoded in a fragment. -/
def fragmentSet (c : Char) : Bool :=
  controls c || c == ' ' || c == '"' || c == '<' || c == '>' || c.toNat == 0x60

/-- What is encoded in a query. -/
def querySet (c : Char) : Bool :=
  controls c || c == ' ' || c == '"' || c == '#' || c == '<' || c == '>'

/-- What is encoded in the query of a special URL. -/
def specialQuerySet (c : Char) : Bool := querySet c || c == '\''

/-- What is encoded in a path. -/
def pathSet (c : Char) : Bool :=
  fragmentSet c || c == '#' || c == '?' || c == '\x7b' || c == '\x7d'

/-- What is encoded in a user name or a password. -/
def userinfoSet (c : Char) : Bool :=
  pathSet c || c == '/' || c == ':' || c == ';' || c == '=' || c == '@' || c == '[' || c == '\\' ||
    c == ']' || c == '^' || c == '|'

/-! ### Encoding -/

/-- A hexadecimal digit. -/
def hexDigit (n : Nat) : Char :=
  if n < 10 then Char.ofNat (0x30 + n) else Char.ofNat (0x41 + (n - 10))

/-- A byte behind a percent sign. -/
def encodeByte (b : UInt8) : List Char :=
  ['%', hexDigit (b.toNat / 16), hexDigit (b.toNat % 16)]

/-- A character as it stands where the characters of a set are encoded. -/
def encodeChar (isEncoded : Char → Bool) (c : Char) : List Char :=
  if isEncoded c then (String.utf8EncodeChar c).flatMap encodeByte else [c]

/-- A text as it stands where the characters of a set are encoded. -/
def encode (isEncoded : Char → Bool) (cs : List Char) : List Char :=
  cs.flatMap (encodeChar isEncoded)

/-! ### Decoding -/

/-- The value of a hexadecimal digit. -/
def hexDigitValue? (b : UInt8) : Option Nat :=
  let n := b.toNat
  if 0x30 ≤ n ∧ n ≤ 0x39 then some (n - 0x30)
  else if 0x41 ≤ n ∧ n ≤ 0x46 then some (n - 0x41 + 10)
  else if 0x61 ≤ n ∧ n ≤ 0x66 then some (n - 0x61 + 10)
  else none

/-- The bytes that encoded bytes stand for. A percent sign without two digits stands for itself. -/
def decodeBytes : List UInt8 → List UInt8
  | a :: b :: c :: rest =>
    match a == 0x25, hexDigitValue? b, hexDigitValue? c with
    | true, some high, some low => (high * 16 + low).toUInt8 :: decodeBytes rest
    | _, _, _ => a :: decodeBytes (b :: c :: rest)
  | short => short

/-- The bytes that an encoded text stands for. -/
def decode (s : String) : List UInt8 := decodeBytes (Utf8.encode s)

end VaultAccess.Url
