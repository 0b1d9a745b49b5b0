/-!
# Base64

The standard alphabet with padding. `encode` writes three bytes as four symbols; `decode` accepts only
what `encode` writes: padding is required, and the bits of the last symbol that stand for no byte must
be zero.

A refused text names its fault. The groups of four are read from the left, and padding counts as
outside the alphabet except at the end of the last group, so the first byte that is out of place is
reported; only when there is none are the length, the padding and the unused bits looked at.
-/

namespace VaultAccess.Base64

/-- The symbol of a number below 64. -/
def symbol (n : Nat) : UInt8 :=
  if n < 26 then (0x41 + n).toUInt8
  else if n < 52 then (0x61 + (n - 26)).toUInt8
  else if n < 62 then (0x30 + (n - 52)).toUInt8
  else if n == 62 then 0x2B
  else 0x2F

/-- The number of a symbol. -/
def value? (b : UInt8) : Option Nat :=
  let n := b.toNat
  if 0x41 ≤ n ∧ n ≤ 0x5A then some (n - 0x41)
  else if 0x61 ≤ n ∧ n ≤ 0x7A then some (n - 0x61 + 26)
  else if 0x30 ≤ n ∧ n ≤ 0x39 then some (n - 0x30 + 52)
  else if n = 0x2B then some 62
  else if n = 0x2F then some 63
  else none

/-- The padding symbol. -/
def padding : UInt8 := 0x3D

/-- The symbols of a byte list. -/
def encode : List UInt8 → List UInt8
  | [] => []
  | [a] =>
    [symbol (a.toNat / 4), symbol (a.toNat % 4 * 16), padding, padding]
  | [a, b] =>
    [symbol (a.toNat / 4), symbol (a.toNat % 4 * 16 + b.toNat / 16), symbol (b.toNat % 16 * 4),
      padding]
  | a :: b :: c :: rest =>
    symbol (a.toNat / 4) :: symbol (a.toNat % 4 * 16 + b.toNat / 16) ::
      symbol (b.toNat % 16 * 4 + c.toNat / 64) :: symbol (c.toNat % 64) :: encode rest

/-- Symbols as a text. -/
def toText (symbols : List UInt8) : String :=
  String.ofList (symbols.map fun b ↦ Char.ofNat b.toNat)

/-- The Base64 text of a byte list. -/
def encodeText (bytes : List UInt8) : String :=
  toText (encode bytes)

/-- Why a byte list is no Base64. Offsets count bytes from the start. -/
inductive Fault where
  | invalidByte (offset : Nat) (byte : UInt8)
  | invalidLength (size : Nat)
  | invalidLastSymbol (offset : Nat) (byte : UInt8)
  | invalidPadding
  deriving Repr, DecidableEq

/-- The wording of a fault. -/
def Fault.message : Fault → String
  | .invalidByte o b => "Invalid symbol " ++ toString b.toNat ++ ", offset " ++ toString o ++ "."
  | .invalidLength n => "Invalid input length: " ++ toString n
  | .invalidLastSymbol o b =>
    "Invalid last symbol " ++ toString b.toNat ++ ", offset " ++ toString o ++ "."
  | .invalidPadding => "Invalid padding"

/-- The number of the symbol at an offset. -/
def valueAt (offset : Nat) (b : UInt8) : Except Fault Nat :=
  match value? b with
  | some v => .ok v
  | none => .error (.invalidByte offset b)

/-- The numbers of the symbols in a last group that starts at `offset`, from its byte `index` on;
`firstPad` is the index of the first padding seen. Padding may not be among the first two bytes and no
symbol may follow it. -/
def lastValues (offset index : Nat) (firstPad : Option Nat) :
    List UInt8 → Except Fault (List Nat)
  | [] => .ok []
  | b :: bs =>
    if b == padding then
      if index < 2 then .error (.invalidByte (offset + index) b)
      else lastValues offset (index + 1) (firstPad <|> some index) bs
    else
      match firstPad with
      | some i => .error (.invalidByte (offset + i) padding)
      | none => do
        return (← valueAt (offset + index) b) :: (← lastValues offset (index + 1) none bs)

/-- The bytes of a last group of at most four bytes that starts at `offset`. -/
def decodeLast (offset : Nat) (group : List UInt8) : Except Fault (List UInt8) := do
  match ← lastValues offset 0 none group with
  | [] => return []
  | [_] => throw (.invalidLength (offset + 1))
  | [v, w] =>
    if group.length ≠ 4 then throw .invalidPadding
    if w % 16 ≠ 0 then throw (.invalidLastSymbol (offset + 1) (symbol w))
    return [(v * 4 + w / 16).toUInt8]
  | [v, w, x] =>
    if group.length ≠ 4 then throw .invalidPadding
    if x % 4 ≠ 0 then throw (.invalidLastSymbol (offset + 2) (symbol x))
    return [(v * 4 + w / 16).toUInt8, (w % 16 * 16 + x / 4).toUInt8]
  | v :: w :: x :: y :: _ =>
    return [(v * 4 + w / 16).toUInt8, (w % 16 * 16 + x / 4).toUInt8, (x % 4 * 64 + y).toUInt8]

/-- The bytes of the groups from an offset on. A group is the last one if nothing follows it. -/
def decodeFrom (offset : Nat) : List UInt8 → Except Fault (List UInt8)
  | a :: b :: c :: d :: e :: rest => do
    let v ← valueAt offset a
    let w ← valueAt (offset + 1) b
    let x ← valueAt (offset + 2) c
    let y ← valueAt (offset + 3) d
    let bytes ← decodeFrom (offset + 4) (e :: rest)
    return (v * 4 + w / 16).toUInt8 :: (w % 16 * 16 + x / 4).toUInt8 ::
      (x % 4 * 64 + y).toUInt8 :: bytes
  | group => decodeLast offset group

/-- The bytes that a list of symbols stands for. One symbol too many that is none at all is reported
ahead of anything else. -/
def decode (symbols : List UInt8) : Except Fault (List UInt8) :=
  match symbols.getLast? with
  | some b =>
    if symbols.length % 4 == 1 && b != padding && (value? b).isNone then
      .error (.invalidByte (symbols.length - 1) b)
    else decodeFrom 0 symbols
  | none => .ok []

end VaultAccess.Base64
