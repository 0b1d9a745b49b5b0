/-!
# Functions of floats

A finite float is `m · 2^e`. Functions of floats are said here by exact arithmetic on that value: the
least whole number that is not below it, what is left of it without its fraction, and its natural
logarithm.

The logarithm is computed in fixed point and rounded once. A positive float is a power of two times a
number from one up to two, and the logarithm of a quotient `q / p` is twice the area tangent of
`(q - p) / (q + p)`, whose series gains three bits with every term. The bits after the point leave more
than sixty to spare wherever a float ends, next to one as well.
-/

namespace VaultAccess.Binary64

open Float.Model Float.Model.UnpackedFloat

/-! ### Whole numbers -/

/-- The least whole number that is not below `m · 2^e`. -/
def wholeAbove (m : Nat) (e : Int) : Nat :=
  (m * Nat.pow 2 e.toNat + (Nat.pow 2 (-e).toNat - 1)) / Nat.pow 2 (-e).toNat

/-- The least whole number of 64 bits that is not below a float, or the greatest there is. What is no
number counts as zero. -/
def roundUp (x : Float) : UInt64 :=
  match x.toModel.unpack with
  | .finite .positive m e _ => .ofNatClamp (wholeAbove m e)
  | .infinity .positive => .ofNatClamp UInt64.size
  | _ => 0

/-- A float without its fraction, or the signed number of 64 bits that is nearest to it. What is no
number counts as zero. -/
def wholePart (x : Float) : Int := x.toModel.toInt64.toInt

/-! ### The natural logarithm -/

/-- The number of bits after the point. -/
def fractionBits : Nat := 192

/-- The point in fixed point. -/
def one : Nat := Nat.pow 2 fractionBits

/-- Terms of the series of the area tangent from the one with index `k` on, whose power is given. -/
def areaTangentTerms (square : Nat) : (power k terms : Nat) → Nat
  | _, _, 0 => 0
  | power, k, terms + 1 =>
    power / (2 * k + 1) + areaTangentTerms square (power * square / one) (k + 1) terms

/-- Twice the area tangent of a fraction of at most one third. -/
def twiceAreaTangent (num den : Nat) : Nat :=
  let t := num * one / den
  2 * areaTangentTerms (t * t / one) t 0 64

/-- The logarithm of `m · 2^e`. -/
def fixedLogarithm (m : Nat) (e : Int) : Int :=
  (m.log2 + e) * twiceAreaTangent 1 3 +
    twiceAreaTangent (m - Nat.pow 2 m.log2) (m + Nat.pow 2 m.log2)

/-- The natural logarithm. -/
def logarithm (x : Float) : Float :=
  match x.toModel.unpack with
  | .finite .positive m e _ =>
    .ofModel (.pack (normalize .binary64 (fixedLogarithm m e) (-(fractionBits : Int)) .positive))
  | .zero _ => -(1 / 0)
  | .infinity .positive => 1 / 0
  | _ => 0 / 0

end VaultAccess.Binary64
