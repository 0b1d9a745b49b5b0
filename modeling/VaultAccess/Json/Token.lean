import VaultAccess.Json.Literal
import VaultAccess.Json.Text

/-!
# Tokens

The bytes of a document as tokens. The scanner reads one byte at a time; its state is what it is in the
middle of. A word or a number ends at the first byte that cannot belong to it, and that byte is then
read from between tokens. A string is kept as its body: the scanner checks that it has no raw control
and that its escapes are complete.
-/

namespace VaultAccess.Json

/-- A token. A string carries its body. -/
inductive Token where
  | openObject
  | closeObject
  | openArray
  | closeArray
  | colon
  | comma
  | null
  | bool (b : Bool)
  | number (l : Literal)
  | string (body : List UInt8)
  deriving Repr, DecidableEq

namespace Scanner

/-- What the scanner is in the middle of. The bytes read so far are held in reverse; `digits` counts
the hexadecimal digits that an escape still owes. -/
inductive State where
  | between
  | word (read : List UInt8)
  | number (read : List UInt8)
  | string (read : List UInt8)
  | escape (read : List UInt8)
  | hex (digits : Nat) (read : List UInt8)
  deriving Repr, DecidableEq

/-- Whether a byte is a small letter. -/
def isLetter (b : UInt8) : Bool := 0x61 ≤ b && b ≤ 0x7A

/-- Whether a byte may stand in a number. -/
def isNumeric (b : UInt8) : Bool :=
  (0x30 ≤ b && b ≤ 0x39) || b == 0x2B || b == 0x2D || b == 0x2E || b == 0x45 || b == 0x65

/-- Whether a byte may start a number. -/
def startsNumber (b : UInt8) : Bool :=
  (0x30 ≤ b && b ≤ 0x39) || b == 0x2D

/-- Whether a byte is blank between tokens. -/
def isBlank (b : UInt8) : Bool := b == 0x20 || b == 0x09 || b == 0x0A || b == 0x0D

/-- ASCII bytes as characters. -/
def characters (bytes : List UInt8) : List Char :=
  bytes.map fun b ↦ Char.ofNat b.toNat

/-- The token of a finished word. -/
def word? (read : List UInt8) : Option Token :=
  match String.ofList (characters read.reverse) with
  | "null" => some .null
  | "true" => some (.bool true)
  | "false" => some (.bool false)
  | _ => none

/-- The token of a finished number. -/
def number? (read : List UInt8) : Option Token :=
  (Literal.ofChars? (characters read.reverse)).map .number

/-- One byte between tokens: the new state and the tokens that it completes. -/
def between? (b : UInt8) : Option (State × List Token) :=
  if isBlank b then some (.between, [])
  else if isLetter b then some (.word [b], [])
  else if startsNumber b then some (.number [b], [])
  else
    match b.toNat with
    | 0x22 => some (.string [], [])
    | 0x7B => some (.between, [.openObject])
    | 0x7D => some (.between, [.closeObject])
    | 0x5B => some (.between, [.openArray])
    | 0x5D => some (.between, [.closeArray])
    | 0x3A => some (.between, [.colon])
    | 0x2C => some (.between, [.comma])
    | _ => none

/-- One byte: the new state and the tokens that it completes. -/
def step? (s : State) (b : UInt8) : Option (State × List Token) :=
  match s with
  | .between => between? b
  | .word read =>
    if isLetter b then some (.word (b :: read), [])
    else do
      let t ← word? read
      let (s, ts) ← between? b
      return (s, t :: ts)
  | .number read =>
    if isNumeric b then some (.number (b :: read), [])
    else do
      let t ← number? read
      let (s, ts) ← between? b
      return (s, t :: ts)
  | .string read =>
    if b == 0x22 then some (.between, [.string read.reverse])
    else if b == 0x5C then some (.escape (b :: read), [])
    else if b < 0x20 then none
    else some (.string (b :: read), [])
  | .escape read =>
    if b == 0x75 then some (.hex 4 (b :: read), [])
    else if (shortEscape? b).isSome then some (.string (b :: read), [])
    else none
  | .hex digits read =>
    if (hexValue? b).isSome then
      some (if digits ≤ 1 then .string (b :: read) else .hex (digits - 1) (b :: read), [])
    else none

/-- The tokens that the end of the document completes. -/
def finish? : State → Option (List Token)
  | .between => some []
  | .word read => (word? read).map ([·])
  | .number read => (number? read).map ([·])
  | _ => none

/-- The tokens of the bytes that follow a state. -/
def scan? (s : State) : List UInt8 → Option (List Token)
  | [] => finish? s
  | b :: bytes => do
    let (s, ts) ← step? s b
    return ts ++ (← scan? s bytes)

end Scanner

/-- The tokens of a document. -/
def tokens? (bytes : List UInt8) : Option (List Token) :=
  Scanner.scan? .between bytes

end VaultAccess.Json
