import VaultAccess.Url.Domain.Name
import VaultAccess.Url.Percent

/-!
# Hosts

A host is a name or an address. In a special URL a name whose last part is a number has to be an
address of version four, which may be written with fewer parts, in octal or in hexadecimal; an address of
version six stands in brackets. All three are printed in one form each.
-/

namespace VaultAccess.Url

/-- A host. -/
inductive Host where
  | name (text : String)
  /-- An address of version four, as a number. -/
  | v4 (address : Nat)
  /-- An address of version six, as eight numbers. -/
  | v6 (pieces : List Nat)
  deriving Repr, DecidableEq

/-! ### Version four -/

/-- The value of a digit in some base. -/
def digitIn? (base : Nat) (c : Char) : Option Nat :=
  (hexDigitValue? c.toNat.toUInt8).filter fun d ↦ d < base && c.toNat < 0x80

/-- The number that digits spell in some base. -/
def numberIn? (base : Nat) (cs : List Char) : Option Nat :=
  cs.foldlM (fun n c ↦ (digitIn? base c).map (n * base + ·)) 0

/-- The number that one part of an address spells. -/
def partNumber? : List Char → Option Nat
  | [] => none
  | '0' :: 'x' :: cs => numberIn? 16 cs
  | '0' :: 'X' :: cs => numberIn? 16 cs
  | '0' :: c :: cs => numberIn? 8 (c :: cs)
  | cs => numberIn? 10 cs

/-- Parts without an empty one at the end. -/
def withoutEmptyLast (parts : List (List Char)) : List (List Char) :=
  if parts.length > 1 && parts.getLast? == some [] then parts.dropLast else parts

/-- Whether the last part of a name is a number, so that the name has to be an address. -/
def endsInNumber (cs : List Char) : Bool :=
  match (withoutEmptyLast (splitAt '.' cs)).getLast? with
  | none => false
  | some last =>
    (!last.isEmpty && (numberIn? 10 last).isSome) || (partNumber? last).isSome

/-- The address that the numbers of the parts make up: the last one fills all places that are left. -/
def addressOf? : List Nat → Option Nat
  | numbers =>
    match numbers.reverse with
    | [] => none
    | last :: firsts =>
      if firsts.length > 3 || firsts.any (· > 255) || last ≥ Nat.pow 256 (4 - firsts.length) then none
      else some (firsts.reverse.zipIdx.foldl (fun n (part, i) ↦ n + part * Nat.pow 256 (3 - i)) last)

/-- The address of version four that a name spells. -/
def v4? (cs : List Char) : Option Nat := do
  addressOf? (← (withoutEmptyLast (splitAt '.' cs)).mapM partNumber?)

/-- An address of version four in decimal. -/
def renderV4 (n : Nat) : String :=
  ".".intercalate ([16777216, 65536, 256, 1].map fun unit ↦ toString (n / unit % 256))

/-! ### Version six -/

/-- The number that a piece of at most four digits spells. -/
def piece? (cs : List Char) : Option Nat :=
  if cs.isEmpty || cs.length > 4 then none else numberIn? 16 cs

/-- A decimal number of at most 255 without leading zeros. -/
def octet? (cs : List Char) : Option Nat :=
  if cs.isEmpty || (cs.length > 1 && cs.head? == some '0') then none
  else (numberIn? 10 cs).filter (· ≤ 255)

/-- The two pieces of an address of version four with all its parts. -/
def embedded? (cs : List Char) : Option (List Nat) := do
  match ← (splitAt '.' cs).mapM octet? with
  | [a, b, c, d] => return [a * 256 + b, c * 256 + d]
  | _ => none

/-- The pieces of a text; the last may be an address of version four if `mayEmbed`. -/
def pieces? (mayEmbed : Bool) : List (List Char) → Option (List Nat)
  | [] => some []
  | [last] =>
    if mayEmbed && last.contains '.' then embedded? last else (piece? last).map ([·])
  | part :: parts => do return (← piece? part) :: (← pieces? mayEmbed parts)

/-- The pieces on one side of a gap. -/
def side? (mayEmbed : Bool) (cs : List Char) : Option (List Nat) :=
  if cs.isEmpty then some [] else pieces? mayEmbed (splitAt ':' cs)

/-- What stands before and after the first two colons in a row. -/
def gap? : List Char → Option (List Char × List Char)
  | ':' :: ':' :: rest => some ([], rest)
  | c :: rest => (gap? rest).map fun (before, after) ↦ (c :: before, after)
  | [] => none

/-- The pieces of an address of version six. A gap stands for at least one piece of zero. -/
def v6? (cs : List Char) : Option (List Nat) := do
  match gap? cs with
  | none =>
    let all ← side? true cs
    if all.length = 8 then some all else none
  | some (before, after) =>
    let before ← side? false before
    let after ← side? true after
    if before.length + after.length ≤ 7 then
      some (before ++ List.replicate (8 - before.length - after.length) 0 ++ after)
    else none

/-- The length of the run of zeros at the front. -/
def zerosAt (pieces : List Nat) : Nat := (pieces.takeWhile (· == 0)).length

/-- Where the first longest run of zeros starts and how long it is. -/
def longestZeros (pieces : List Nat) : Nat × Nat :=
  (List.range pieces.length).foldl (fun best i ↦
    let n := zerosAt (pieces.drop i)
    if n > best.2 then (i, n) else best) (0, 0)

/-- A piece in hexadecimal. -/
def renderPiece (n : Nat) : String := String.ofList (Nat.toDigits 16 n)

/-- An address of version six; the longest run of zeros is left out if it has two or more. -/
def renderV6 (pieces : List Nat) : String :=
  let (start, size) := longestZeros pieces
  let join (ps : List Nat) : String := ":".intercalate (ps.map renderPiece)
  if size < 2 then join pieces
  else join (pieces.take start) ++ "::" ++ join (pieces.drop (start + size))

/-! ### Hosts -/

/-- A host as it stands in a URL. -/
def Host.render : Host → String
  | .name text => text
  | .v4 address => renderV4 address
  | .v6 pieces => "[" ++ renderV6 pieces ++ "]"

/-- Characters that may stand in no host. -/
def isForbidden (c : Char) : Bool :=
  c.toNat == 0 || c == ' ' || c == '#' || c == '/' || c == ':' || c == '<' || c == '>' ||
    c == '?' || c == '@' || c == '[' || c == '\\' || c == ']' || c == '^' || c == '|'

/-- Characters that may stand in no name of a special URL. Names are ASCII. -/
def isForbiddenInName (c : Char) : Bool :=
  isForbidden c || controls c || c == '%'

/-- The address between brackets. -/
def bracketed? (cs : List Char) : Option Host :=
  match cs.reverse with
  | ']' :: inner => (v6? inner.reverse).map .v6
  | _ => none

/-- The host of a special URL: percent signs are decoded, and the name is brought to the form in which it
is sent. -/
def specialHost? (cs : List Char) : Option Host :=
  match cs with
  | '[' :: rest => bracketed? rest
  | _ => do
    let name ← Domain.sent? (← Utf8.decode? (decode (String.ofList cs))).toList
    if name.isEmpty || name.any isForbiddenInName then none
    else if endsInNumber name then (v4? name).map .v4
    else some (.name (String.ofList name))

/-- The host of any other URL: it is kept as it is. -/
def plainHost? (cs : List Char) : Option Host :=
  match cs with
  | '[' :: rest => bracketed? rest
  | _ =>
    if cs.any isForbidden then none
    else some (.name (String.ofList (encode controls cs)))

end VaultAccess.Url
