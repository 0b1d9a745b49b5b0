import VaultAccess.Tls.Curve
import VaultAccess.Tls.Digest

/-!
# Keys on the twisted curve

The curve `-x² + y² = 1 + dx²y²` modulo `2²⁵⁵ - 19`, with the sums of points that always exist. A private
key is 32 bytes, whose digest gives the multiple of the base point that is the public key.
-/

namespace VaultAccess.Tls.TwistedCurve

/-- The prime. -/
def prime : Nat := Nat.pow 2 255 - 19

/-- The coefficient of the curve. -/
def d : Nat := 0x52036cee2b6ffe738cc740797779e89800700a4d4141d8ab75eb4dca135978a3

/-- The base point. -/
def base : Nat × Nat :=
  (0x216936d3cd6e53fec0a4e231fdd6dc5c692cc7609525a7b2c9562d608f25d51a,
    0x6666666666666666666666666666666666666666666666666666666666666658)

/-- The sum of two points. -/
def add (p q : Nat × Nat) : Nat × Nat :=
  let (x₁, y₁) := p
  let (x₂, y₂) := q
  let bend := d * x₁ % prime * x₂ % prime * y₁ % prime * y₂ % prime
  (divMod prime (x₁ * y₂ + x₂ * y₁) (1 + bend), divMod prime (y₁ * y₂ + x₁ * x₂) (subMod prime 1 bend))

/-- A multiple of a point. -/
def multiple (n : Nat) (p : Nat × Nat) : Nat × Nat :=
  if h : n = 0 then (0, 1)
  else
    let half := multiple (n / 2) (add p p)
    if n % 2 = 1 then add half p else half
termination_by n
decreasing_by omega

/-- The number that bytes spell, the least significant first. -/
def littleEndian (bytes : List UInt8) : Nat :=
  bytes.foldr (fun b n ↦ n * 256 + b.toNat) 0

/-- The multiple that a digest stands for: the lowest three bits and the highest are cleared, and the one
below the highest is set. -/
def clamp (bytes : List UInt8) : Nat :=
  let n := littleEndian bytes
  n / 8 * 8 % Nat.pow 2 254 + Nat.pow 2 254

/-- The public key of a private key: one coordinate, and whether the other is odd. -/
def publicKey (secret : List UInt8) : List UInt8 :=
  let (x, y) := multiple (clamp ((Digest.ofBytes secret).take 32)) base
  (Curve.fixedBytes 32 (y + x % 2 * Nat.pow 2 255)).reverse

end VaultAccess.Tls.TwistedCurve
