import VaultAccess.Text.Numeral

/-!
# Real numbers in decimal

Reading a text as a float. A literal has an optional sign and then either digits with an optional
point and exponent, at least one digit around the point, or one of the words for infinity and for what
is no number, in any case. The float is the one nearest to the decimal that was written.
-/

namespace VaultAccess.Decimal

/-- The digits at the front of a text, and the rest. -/
def spanDigits (cs : List Char) : List Char × List Char :=
  cs.span fun c ↦ (Numeral.digit? c).isSome

/-- The number that a list of digits spells. -/
def digitsValue (cs : List Char) : Nat :=
  cs.foldl (fun n c ↦ n * 10 + (Numeral.digit? c).getD 0) 0

/-- The float nearest to `mantissa · 10^exponent`. Beyond the range of floats the answer is known from
the size alone, which keeps the exact arithmetic small. -/
def toFloat (mantissa : Nat) (exponent : Int) : Float :=
  if mantissa == 0 then 0
  else
    let size := ((Nat.toDigits 10 mantissa).length : Int) + exponent
    if size > 310 then 1 / 0
    else if size < -330 then 0
    else Float.ofScientific mantissa (exponent < 0) exponent.natAbs

/-- The exponent part, which reaches to the end: nothing at all, or a marker, an optional sign and at
least one digit. The answer says whether it is negative and holds its digits. -/
def exponentPart? : List Char → Option (Option (Bool × List Char))
  | [] => some none
  | c :: rest =>
    if c == 'e' || c == 'E' then
      let (negative, digits) :=
        match rest with
        | '-' :: ds => (true, ds)
        | '+' :: ds => (false, ds)
        | ds => (false, ds)
      if digits.isEmpty || !digits.all (fun d ↦ (Numeral.digit? d).isSome) then none
      else some (some (negative, digits))
    else none

/-- The value of an exponent part; an absent one counts as zero. -/
def exponentValue : Option (Bool × List Char) → Int
  | none => 0
  | some (negative, digits) =>
    if negative then -(digitsValue digits : Int) else digitsValue digits

/-- The magnitude that unsigned digits spell. -/
def unsigned? (cs : List Char) : Option Float :=
  let (whole, rest) := spanDigits cs
  let (fraction, rest) :=
    match rest with
    | '.' :: r => spanDigits r
    | r => ([], r)
  if whole.isEmpty && fraction.isEmpty then none
  else (exponentPart? rest).map fun e ↦
    toFloat (digitsValue (whole ++ fraction)) (exponentValue e - fraction.length)

/-- The magnitude that an unsigned literal spells, words included. -/
def magnitude? (cs : List Char) : Option Float :=
  let word := String.ofList (cs.map Char.toLower)
  if word == "inf" || word == "infinity" then some (1 / 0)
  else if word == "nan" then some (0 / 0)
  else unsigned? cs

/-- The float that a text spells. -/
def read? (s : String) : Option Float :=
  match s.toList with
  | '-' :: cs => (magnitude? cs).map fun x ↦ -x
  | '+' :: cs => magnitude? cs
  | cs => magnitude? cs

end VaultAccess.Decimal
