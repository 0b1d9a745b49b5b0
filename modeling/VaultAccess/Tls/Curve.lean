/-!
# Elliptic curves

Points of curves `y² = x³ + ax + b` over the numbers modulo a prime. A private key is a number, and its
public key is that multiple of the base point.
-/

namespace VaultAccess.Tls

/-! ### Numbers modulo a prime -/

/-- A power modulo a number. -/
def powMod (m b : Nat) (e : Nat) : Nat :=
  if h : e = 0 then 1 % m
  else
    let half := powMod m (b * b % m) (e / 2)
    if e % 2 = 1 then half * b % m else half
termination_by e
decreasing_by omega

/-- A quotient modulo a prime. -/
def divMod (p a b : Nat) : Nat := a * powMod p b (p - 2) % p

/-- A difference modulo a number. -/
def subMod (p a b : Nat) : Nat := (a % p + (p - b % p)) % p

/-! ### Curves -/

/-- A curve with a base point. -/
structure Curve where
  prime : Nat
  a : Nat
  /-- The coordinates of the base point. -/
  base : Nat × Nat
  /-- The number of multiples of the base point. -/
  order : Nat
  /-- How many bytes a coordinate takes. -/
  width : Nat

namespace Curve

/-- A point, none for the point at infinity. -/
abbrev Point := Option (Nat × Nat)

/-- The third point on the line through a point in a direction, mirrored. -/
def along (c : Curve) (slope x₁ y₁ x₂ : Nat) : Nat × Nat :=
  let x := subMod c.prime (slope * slope) (x₁ + x₂)
  (x, subMod c.prime (slope * subMod c.prime x₁ x) y₁)

/-- The sum of two points. -/
def add (c : Curve) : Point → Point → Point
  | none, q => q
  | p, none => p
  | some (x₁, y₁), some (x₂, y₂) =>
    if x₁ = x₂ then
      if (y₁ + y₂) % c.prime = 0 then none
      else some (c.along (divMod c.prime (3 * x₁ * x₁ + c.a) (2 * y₁ % c.prime)) x₁ y₁ x₁)
    else
      some (c.along
        (divMod c.prime (subMod c.prime y₂ y₁) (subMod c.prime x₂ x₁)) x₁ y₁ x₂)

/-- A multiple of a point. -/
def multiple (c : Curve) (n : Nat) (p : Point) : Point :=
  if h : n = 0 then none
  else
    let half := multiple c (n / 2) (c.add p p)
    if n % 2 = 1 then c.add half p else half
termination_by n
decreasing_by omega

/-- The curve `P-256`. -/
def p256 : Curve where
  prime := 0xffffffff00000001000000000000000000000000ffffffffffffffffffffffff
  a := 0xffffffff00000001000000000000000000000000fffffffffffffffffffffffc
  base :=
    (0x6b17d1f2e12c4247f8bce6e563a440f277037d812deb33a0f4a13945d898c296,
      0x4fe342e2fe1a7f9b8ee7eb4a7c0f9e162bce33576b315ececbb6406837bf51f5)
  order := 0xffffffff00000000ffffffffffffffffbce6faada7179e84f3b9cac2fc632551
  width := 32

/-- The curve `P-384`. -/
def p384 : Curve where
  prime := 0xfffffffffffffffffffffffffffffffffffffffffffffffffffffffffffffffeffffffff0000000000000000ffffffff
  a := 0xfffffffffffffffffffffffffffffffffffffffffffffffffffffffffffffffeffffffff0000000000000000fffffffc
  base :=
    (0xaa87ca22be8b05378eb1c71ef320ad746e1d3b628ba79b9859f741e082542a385502f25dbf55296c3a545e3872760ab7,
      0x3617de4a96262c6f5d9e98bf9292dc29f8f41dbd289a147ce9da3113b5f0b8c00a60b1ce1d7e819d7a431d7c90ea0e5f)
  order := 0xffffffffffffffffffffffffffffffffffffffffffffffffc7634d81f4372ddf581a0db248b0a77aecec196accc52973
  width := 48

/-- The bytes of a number that takes some width, the most significant first. -/
def fixedBytes : (width : Nat) → Nat → List UInt8
  | 0, _ => []
  | width + 1, n => fixedBytes width (n / 256) ++ [(n % 256).toUInt8]

/-- A public key as it is written: both coordinates of its point in full. -/
def renderPoint (c : Curve) : Point → List UInt8
  | none => [0]
  | some (x, y) => 4 :: fixedBytes c.width x ++ fixedBytes c.width y

/-- The public key of a private key. -/
def publicKey (c : Curve) (secret : Nat) : List UInt8 :=
  c.renderPoint (c.multiple secret (some c.base))

end Curve

end VaultAccess.Tls
