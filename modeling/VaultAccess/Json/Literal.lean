import VaultAccess.Decimal.Literal

/-!
# Number literals

A number literal keeps what was written: the sign, the digits before the point, the digits after it if
there is a point, and the exponent if there is a marker. `ofChars?` accepts the standard grammar: no
leading zero, at least one digit on either side of a point and after a marker.

A literal is read as a whole number when it is written as one and fits 64 bits, with or without a sign;
all others are read as floats. The float is the leading digits, as many as fit 64 unsigned bits, times
one power of ten, so it carries one rounding for the digits and one for each scaling step.
-/

namespace VaultAccess.Json

/-- A number as written. -/
structure Literal where
  negative : Bool
  whole : List Char
  fraction : Option (List Char)
  exponent : Option (Bool × List Char)
  deriving Repr, DecidableEq

/-- The fraction part of a literal and what follows it. -/
def fractionPart? : List Char → Option (Option (List Char) × List Char)
  | '.' :: rest =>
    let (digits, rest) := Decimal.spanDigits rest
    if digits.isEmpty then none else some (some digits, rest)
  | rest => some (none, rest)

/-- The literal that the characters spell. -/
def Literal.ofChars? (cs : List Char) : Option Literal := do
  let (negative, cs) :=
    match cs with
    | '-' :: rest => (true, rest)
    | cs => (false, cs)
  let (whole, rest) := Decimal.spanDigits cs
  if whole.isEmpty || (whole.head? == some '0' && whole.length > 1) then none
  let (fraction, rest) ← fractionPart? rest
  let exponent ← Decimal.exponentPart? rest
  return { negative, whole, fraction, exponent }

/-- A number: whole, of 64 bits with or without a sign, or a float. -/
inductive Number where
  | whole (n : Int)
  | real (x : Float)
  deriving Repr

/-- Whether the literal is written without point and exponent. -/
def Literal.isWhole (l : Literal) : Bool :=
  l.fraction.isNone && l.exponent.isNone

/-- The literal as an unsigned number of at most `limit`. A sign, a point or an exponent rule it
out, even where the value is such a number. -/
def Literal.unsigned? (limit : Nat) (l : Literal) : Option Nat :=
  let n := Decimal.digitsValue l.whole
  if l.isWhole && !l.negative && n ≤ limit then some n else none

/-- The greatest number of 64 unsigned bits. -/
def unsignedLimit : Nat := Nat.pow 2 64 - 1

/-- The leading digits that fit 64 unsigned bits, as a number, and how many were taken. The first
digit that does not fit ends the count, and so do all after it. -/
def leading (n taken : Nat) : List Char → Nat × Nat
  | [] => (n, taken)
  | c :: cs =>
    let m := n * 10 + (Numeral.digit? c).getD 0
    if m ≤ unsignedLimit then leading m (taken + 1) cs else (n, taken)

/-- A power of ten as a float, for exponents up to 308. -/
def tenPower (n : Nat) : Float :=
  Float.ofScientific 1 false n

/-- A float times a power of ten; steps of `10^308` bring an exponent far below zero into range. An
infinite result and an exponent far above zero are out of range. -/
def scale (x : Float) (e : Int) : Nat → Option Float
  | 0 => some x
  | fuel + 1 =>
    if e.natAbs ≤ 308 then
      if e < 0 then some (x / tenPower e.natAbs)
      else
        let y := x * tenPower e.natAbs
        if y.isInf then none else some y
    else if x == 0 then some x
    else if e < 0 then scale (x / tenPower 308) (e + 308) fuel
    else none

/-- The greatest exponent that is counted; one above it stands for all beyond. -/
def exponentLimit : Nat := Nat.pow 2 31 - 1

/-- The float of a literal. -/
def Literal.real? (l : Literal) : Option Float := do
  let fraction := l.fraction.getD []
  let (wholeValue, wholeTaken) := leading 0 0 l.whole
  let (significand, fractionTaken) := leading wholeValue 0 fraction
  let start := ((l.whole.length - wholeTaken : Nat) : Int) - (fractionTaken : Int)
  let magnitude ←
    match l.exponent with
    | none => scale significand.toUInt64.toFloat start 8
    | some (negative, digits) =>
      let e := Decimal.digitsValue digits
      if e > exponentLimit then
        if significand == 0 || negative then some 0 else none
      else scale significand.toUInt64.toFloat (if negative then start - e else start + e) 8
  return if l.negative then -magnitude else magnitude

/-- The number of a literal; none when it is out of range. -/
def Literal.number? (l : Literal) : Option Number :=
  let n := Decimal.digitsValue l.whole
  if l.isWhole && !l.negative && n ≤ unsignedLimit then some (.whole n)
  else if l.isWhole && l.negative && 0 < n && n ≤ Nat.pow 2 63 then some (.whole (-(n : Int)))
  else l.real?.map .real

end VaultAccess.Json
