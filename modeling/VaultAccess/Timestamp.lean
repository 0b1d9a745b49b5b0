import VaultAccess.Text.Blank
import VaultAccess.Text.Numeral

/-!
# Timestamps

Instants in the Gregorian calendar. `read?` takes a date, a time to the second with an optional
fraction, and an offset from universal time; `render` writes the instant in universal time with the
fewest of 0, 3, 6 or 9 fraction digits that hold it.

The reader is lenient about spacing and padding: blanks may stand before a number and around the
separators, the first separator of date and time may be a blank, numbers may be short, and the
universal offset may be spelled out. A leap second is kept as such: the sixtieth second of a minute
counts as its fifty-ninth with a thousand million nanoseconds or more.
-/

namespace VaultAccess

/-- An instant: seconds since the start of 1970 in universal time, without leap seconds, and
nanoseconds, which reach `2 · 10^9` within a leap second. -/
structure Timestamp where
  seconds : Int
  nanos : Nat
  deriving Repr, DecidableEq

namespace Timestamp

/-! ### Calendar -/

/-- Whether a year has a leap day. -/
def isLeapYear (y : Int) : Bool :=
  y % 4 == 0 && (y % 100 != 0 || y % 400 == 0)

/-- The number of days of a month. -/
def monthLength (y : Int) (m : Nat) : Nat :=
  if m == 2 then (if isLeapYear y then 29 else 28)
  else if m == 4 || m == 6 || m == 9 || m == 11 then 30
  else 31

/-- Days from the start of 1970 to a date. Years are counted from March, so that the leap day is the
last day of its year. -/
def dayOfDate (y : Int) (m d : Nat) : Int :=
  let y' := if m ≤ 2 then y - 1 else y
  let era := Int.fdiv y' 400
  let yoe := y' - era * 400
  let mp : Int := if m > 2 then m - 3 else m + 9
  let doy := (153 * mp + 2) / 5 + (d - 1)
  let doe := yoe * 365 + yoe / 4 - yoe / 100 + doy
  era * 146097 + doe - 719468

/-- The date of a day counted from the start of 1970. -/
def dateOfDay (day : Int) : Int × Nat × Nat :=
  let z := day + 719468
  let era := Int.fdiv z 146097
  let doe := z - era * 146097
  let yoe := (doe - doe / 1460 + doe / 36524 - doe / 146096) / 365
  let doy := doe - (365 * yoe + yoe / 4 - yoe / 100)
  let mp := (5 * doy + 2) / 153
  let d := doy - (153 * mp + 2) / 5 + 1
  let m := if mp < 10 then mp + 3 else mp - 9
  (yoe + era * 400 + (if m ≤ 2 then 1 else 0), m.toNat, d.toNat)

/-- The years that dates may have. -/
def isYear (y : Int) : Bool := -262143 ≤ y && y ≤ 262142

/-! ### Reading -/

/-- The number spelled by the digits at the front of a text, at least one and at most `width`, and the
rest. -/
def number? (width : Nat) (cs : List Char) : Option (Nat × List Char) :=
  let digits := (cs.take width).takeWhile fun c ↦ (Numeral.digit? c).isSome
  if digits.isEmpty then none
  else some (digits.foldl (fun n c ↦ n * 10 + (Numeral.digit? c).getD 0) 0,
    cs.drop digits.length)

/-- A number of at most two digits after blanks. -/
def field? (cs : List Char) : Option (Nat × List Char) :=
  number? 2 (Text.dropBlanks cs)

/-- A year after blanks: at most four digits, or any number of digits after a sign. -/
def year? (cs : List Char) : Option (Int × List Char) :=
  match Text.dropBlanks cs with
  | '-' :: rest => (number? rest.length rest).map fun (n, r) ↦ (-(n : Int), r)
  | '+' :: rest => (number? rest.length rest).map fun (n, r) ↦ ((n : Int), r)
  | rest => (number? 4 rest).map fun (n, r) ↦ ((n : Int), r)

/-- A separator after blanks. -/
def separator? (c : Char) (cs : List Char) : Option (List Char) :=
  match Text.dropBlanks cs with
  | d :: rest => if d == c then some rest else none
  | [] => none

/-- An optional fraction of a second, in nanoseconds; digits after the ninth are dropped. -/
def fraction? : List Char → Option (Nat × List Char)
  | '.' :: rest => do
    let (n, after) ← number? 9 rest
    let taken := rest.length - after.length
    return (n * Nat.pow 10 (9 - taken), after.dropWhile fun c ↦ (Numeral.digit? c).isSome)
  | rest => some (0, rest)

/-- Whether a text starts with the name of universal time, in any case. -/
def startsUniversal (cs : List Char) : Bool :=
  (cs.take 3).map Char.toLower == ['u', 't', 'c']

/-- The minutes of an offset after its sign: two digits each for hours and minutes, with colons and
blanks between them. -/
def offsetMinutes? (cs : List Char) : Option (Nat × List Char) :=
  match cs with
  | h₁ :: h₂ :: rest => do
    let hours := (← Numeral.digit? h₁) * 10 + (← Numeral.digit? h₂)
    match rest.dropWhile fun c ↦ c == ':' || Text.isBlank c with
    | m₁ :: m₂ :: rest =>
      let tens ← Numeral.digit? m₁
      let ones ← Numeral.digit? m₂
      if tens > 5 then none else some (hours * 60 + tens * 10 + ones, rest)
    | _ => none
  | _ => none

/-- An offset from universal time in minutes, less than a day. -/
def offset? (cs : List Char) : Option (Int × List Char) :=
  if startsUniversal cs then some (0, cs.drop 3)
  else
    match cs with
    | [] => none
    | c :: rest =>
      if c == 'Z' || c == 'z' then some (0, rest)
      else if c == '+' then (offsetMinutes? rest).map fun (n, r) ↦ ((n : Int), r)
      else if c == '-' || c.toNat == 0x2212 then
        (offsetMinutes? rest).map fun (n, r) ↦ (-(n : Int), r)
      else none

/-- The instant that a text spells. -/
def read? (s : String) : Option Timestamp := do
  let (year, cs) ← year? s.toList
  let (month, cs) ← field? (← separator? '-' cs)
  let (day, cs) ← field? (← separator? '-' cs)
  let cs ←
    match cs with
    | c :: rest => if c == 'T' || c == 't' || c == ' ' then some rest else none
    | [] => none
  let (hour, cs) ← field? cs
  let (minute, cs) ← field? (← separator? ':' cs)
  let (second, cs) ← field? (← separator? ':' cs)
  let (nanos, cs) ← fraction? cs
  let (offset, cs) ← offset? (Text.dropBlanks cs)
  if !(Text.dropBlanks cs).isEmpty then none
  if !isYear year || month < 1 || month > 12 || day < 1 || day > monthLength year month then none
  if hour > 23 || minute > 59 || second > 60 || offset.natAbs ≥ 1440 then none
  let minutes := dayOfDate year month day * 1440 + hour * 60 + minute - offset
  if !isYear (dateOfDay (Int.fdiv minutes 1440)).1 then none
  return {
    seconds := minutes * 60 + (if second == 60 then 59 else second : Nat)
    nanos := nanos + (if second == 60 then 1000000000 else 0) }

/-! ### Writing -/

/-- A number with leading zeros up to a width. -/
def padded (width n : Nat) : String :=
  let digits := Nat.toDigits 10 n
  String.ofList (List.replicate (width - digits.length) '0' ++ digits)

/-- A year: four digits, with a sign where four digits do not suffice. -/
def renderYear (y : Int) : String :=
  if 0 ≤ y && y ≤ 9999 then padded 4 y.toNat
  else (if y < 0 then "-" else "+") ++ padded 4 y.natAbs

/-- The fraction of a second. -/
def renderFraction (nanos : Nat) : String :=
  if nanos == 0 then ""
  else if nanos % 1000000 == 0 then "." ++ padded 3 (nanos / 1000000)
  else if nanos % 1000 == 0 then "." ++ padded 6 (nanos / 1000)
  else "." ++ padded 9 nanos

/-- An instant in universal time. -/
def render (t : Timestamp) : String :=
  let (year, month, day) := dateOfDay (Int.fdiv t.seconds 86400)
  let ofDay := (Int.fmod t.seconds 86400).toNat
  let second := ofDay % 60 + t.nanos / 1000000000
  renderYear year ++ "-" ++ padded 2 month ++ "-" ++ padded 2 day ++ "T" ++
    padded 2 (ofDay / 3600) ++ ":" ++ padded 2 (ofDay / 60 % 60) ++ ":" ++ padded 2 second ++
    renderFraction (t.nanos % 1000000000) ++ "+00:00"

end Timestamp

end VaultAccess
