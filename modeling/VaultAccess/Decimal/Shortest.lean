/-!
# The shortest decimal of a binary fraction

A finite float is `m · 2^q`. The reals that round to it form an interval around it, with its ends
included exactly when `m` is even. `shortest` finds the fewest digits that name a point of that
interval and, among those, the point nearest to the value. The search is exact: everything is a
comparison of natural numbers, and of the points of a decimal grid only the two neighbours of the
value are tried, since some point of the grid lies in the interval only if one of these two does.

`Style` says how digits become text: which exponents are written out in place and how an exponent is
marked otherwise.
-/

namespace VaultAccess.Decimal

/-- A finite float taken apart: its magnitude is `mantissa · 2^exponent`, and `boundary` says that the
float below is only half as far away as the one above. -/
structure Binary where
  negative : Bool
  mantissa : Nat
  exponent : Int
  boundary : Bool

/-- The parts of a finite float. -/
def Binary.ofFloat (x : Float) : Binary :=
  let bits := x.toBits.toNat
  let fraction : Nat := bits % Nat.pow 2 52
  let stored : Nat := bits / Nat.pow 2 52 % Nat.pow 2 11
  let negative := bits / Nat.pow 2 63 == 1
  if stored == 0 then
    { negative, mantissa := fraction, exponent := -1074, boundary := false }
  else
    { negative, mantissa := fraction + Nat.pow 2 52,
      exponent := (stored : Int) - 1075, boundary := fraction == 0 && stored > 1 }

/-- The digits of a positive decimal `0.d₁d₂…dₙ · 10^point`, without zeros at either end. -/
structure Digits where
  digits : List Char
  point : Int

/-- A quarter of the spacing at a float, as a fraction, together with the float itself and the ends of
its interval, all counted in that unit. -/
structure Interval where
  unitNum : Nat
  unitDen : Nat
  low : Nat
  value : Nat
  high : Nat
  closed : Bool

/-- The interval of the reals that round to a float. -/
def Binary.interval (b : Binary) : Interval :=
  let q := b.exponent - 2
  { unitNum := Nat.pow 2 q.toNat
    unitDen := Nat.pow 2 (-q).toNat
    low := 4 * b.mantissa - (if b.boundary then 1 else 2)
    value := 4 * b.mantissa
    high := 4 * b.mantissa + 2
    closed := b.mantissa % 2 == 0 }

/-- Whether `num / den` lies in the interval. -/
def Interval.contains (i : Interval) (num den : Nat) : Bool :=
  let x := num * i.unitDen
  let scale := i.unitNum * den
  if i.closed then i.low * scale ≤ x && x ≤ i.high * scale
  else i.low * scale < x && x < i.high * scale

/-- `10^e` as a fraction. -/
def tenPower (e : Int) : Nat × Nat :=
  (Nat.pow 10 e.toNat, Nat.pow 10 (-e).toNat)

/-- How often a fraction below one must be multiplied by ten until it reaches one. -/
def leadingZeros (num den : Nat) : Nat → Nat
  | 0 => 0
  | fuel + 1 => if den ≤ num then 0 else leadingZeros (num * 10) den fuel + 1

/-- The number `k` with `10^(k-1) ≤ num/den < 10^k`. -/
def magnitude (num den : Nat) : Int :=
  if den ≤ num then ((Nat.toDigits 10 (num / den)).length : Int)
  else 1 - (leadingZeros num den 400 : Int)

/-- The point of the grid with spacing `10^e` that lies in the interval and is nearest to the value,
if one does; of two equally near points, the even one. -/
def Interval.onGrid? (i : Interval) (e : Int) : Option Nat :=
  let (up, down) := tenPower e
  let num := i.value * i.unitNum * down
  let den := i.unitDen * up
  let g := num / den
  let twice := 2 * (num % den)
  let nearer := if twice < den then g else if den < twice then g + 1 else g + g % 2
  let farther := if nearer == g then g + 1 else g
  if i.contains (nearer * up) down then some nearer
  else if i.contains (farther * up) down then some farther
  else none

/-- The first of the grids with more and more digits that has a point in the interval. -/
def Interval.search (i : Interval) (k : Int) (n : Nat) : Nat → Nat × Int
  | 0 => (0, k)
  | fuel + 1 =>
    match i.onGrid? (k - n) with
    | some g => (g, k - n)
    | none => i.search k (n + 1) fuel

/-- The shortest digits of a positive float. Seventeen digits always suffice. -/
def Binary.shortest (b : Binary) : Digits :=
  let i := b.interval
  let (g, e) := i.search (magnitude (i.value * i.unitNum) i.unitDen) 1 18
  let all := Nat.toDigits 10 g
  { digits := (all.reverse.dropWhile (· == '0')).reverse, point := all.length + e }

/-- How a decimal is written. Magnitudes whose scientific exponent is within the bounds, where there
are any, are written in place; others with one digit before the point and a marked exponent. -/
structure Style where
  inPlace : Option (Int × Int)
  wholeFraction : String
  exponentPlus : String

/-- The text of digits in place. -/
def Digits.inPlace (d : Digits) (wholeFraction : String) : String :=
  if d.point ≤ 0 then
    "0." ++ String.ofList (List.replicate (-d.point).toNat '0' ++ d.digits)
  else
    let n := d.point.toNat
    if d.digits.length ≤ n then
      String.ofList (d.digits ++ List.replicate (n - d.digits.length) '0') ++ wholeFraction
    else String.ofList (d.digits.take n) ++ "." ++ String.ofList (d.digits.drop n)

/-- The text of digits with an exponent. -/
def Digits.scientific (d : Digits) (plus : String) : String :=
  let e := d.point - 1
  let fraction := d.digits.drop 1
  String.ofList (d.digits.take 1) ++
    (if fraction.isEmpty then "" else "." ++ String.ofList fraction) ++
    "e" ++ (if e < 0 then "-" else plus) ++ toString e.natAbs

/-- The text of a finite float. -/
def Style.render (s : Style) (x : Float) : String :=
  let b := Binary.ofFloat x
  let magnitude :=
    if b.mantissa == 0 then "0" ++ s.wholeFraction
    else
      let d := b.shortest
      match s.inPlace with
      | none => d.inPlace s.wholeFraction
      | some (least, greatest) =>
        if least ≤ d.point - 1 && d.point - 1 ≤ greatest then d.inPlace s.wholeFraction
        else d.scientific s.exponentPlus
  (if b.negative then "-" else "") ++ magnitude

/-- Floats in diagnostics are written in place, whatever their size, and whole ones without a
point. -/
def Style.plain : Style := ⟨none, "", ""⟩

end VaultAccess.Decimal
