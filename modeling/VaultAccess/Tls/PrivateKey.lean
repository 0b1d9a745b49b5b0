import VaultAccess.Tls.Der
import VaultAccess.Tls.TwistedCurve

/-!
# Private keys

A private key is written in one of three formats: by itself, as a key of two primes or as a key on a
curve, or with the name of its algorithm. It is read to see that it is consistent, and to find the public
key that belongs to it, as a certificate has it.
-/

namespace VaultAccess.Tls.PrivateKey

open Der

/-- The format of a private key. -/
inductive Format where
  /-- A key of two primes. -/
  | primes
  /-- A key on a curve. -/
  | curve
  /-- A key behind the name of its algorithm. -/
  | named
  deriving Repr, DecidableEq

/-! ### Algorithms -/

/-- The name of keys of two primes. -/
def primesName : List UInt8 :=
  [0x06, 0x09, 0x2A, 0x86, 0x48, 0x86, 0xF7, 0x0D, 0x01, 0x01, 0x01, 0x05, 0x00]

/-- The name of the twisted curve. -/
def twistedName : List UInt8 := [0x06, 0x03, 0x2B, 0x65, 0x70]

/-- A curve with its name. -/
structure NamedCurve where
  curve : Curve
  name : List UInt8

/-- The curves that keys may be on. -/
def curves : List NamedCurve := [
  ⟨.p256, [0x06, 0x08, 0x2A, 0x86, 0x48, 0xCE, 0x3D, 0x03, 0x01, 0x07]⟩,
  ⟨.p384, [0x06, 0x05, 0x2B, 0x81, 0x04, 0x00, 0x22]⟩]

/-- The name of keys on a curve. -/
def NamedCurve.keyName (c : NamedCurve) : List UInt8 :=
  [0x06, 0x07, 0x2A, 0x86, 0x48, 0xCE, 0x3D, 0x02, 0x01] ++ c.name

/-- A public key with the name of its algorithm, as a certificate has it. -/
def keyInfo (name publicKey : List UInt8) : List UInt8 :=
  wrap sequence name ++ wrap bitString (0 :: publicKey)

/-- The key that stands behind the name of its algorithm, and the public key if it stands there too,
which only the second version allows and demands. -/
def unwrapped (name : List UInt8) (mayHavePublic : Bool) :
    Reader (List UInt8 × Option (List UInt8)) :=
  inside sequence do
    let version ← number
    require (version = 0 || (version = 1 && mayHavePublic))
    require ((← value sequence) == name)
    let key ← value octetString
    if ← isNext (context 0) then
      let _attributes ← value (context 0)
    if version = 0 then return (key, none)
    else if ← isNext (context 1) then return (key, some (← inside (context 1) (bits bitString)))
    else return (key, some (← bits 0x81))

/-! ### Keys of two primes -/

/-- How many bits a number takes. -/
def bitLength (n : Nat) : Nat := if n = 0 then 0 else n.log2 + 1

/-- A key of two primes: their product, the two exponents, the primes, the exponents modulo each less
one, and the inverse of the second prime modulo the first. -/
structure PrimesKey where
  n : Nat
  e : Nat
  d : Nat
  p : Nat
  q : Nat
  dP : Nat
  dQ : Nat
  qInv : Nat

/-- Whether a key is of a size that is allowed and its numbers fit each other. Whether the primes are
prime and the exponents belong together is not looked at. -/
def PrimesKey.isSound (k : PrimesKey) : Bool :=
  let size := bitLength k.n
  let half := (size + 1) / 2
  let isPrimeSized (p : Nat) : Bool := p % 2 = 1 && bitLength p = half && half % 512 = 0
  2048 ≤ size && size ≤ 4096 && k.n % 2 = 1 &&
    65537 ≤ k.e && k.e < Nat.pow 2 33 && k.e % 2 = 1 &&
    isPrimeSized k.p && isPrimeSized k.q && k.p * k.q = k.n &&
    half < bitLength k.d && k.d < k.n && k.d % 2 = 1 &&
    k.dP < k.p && k.dP % 2 = 1 && k.dQ < k.q && k.dQ % 2 = 1 &&
    k.qInv < k.p && k.qInv * k.q % k.p = 1

/-- A key of two primes. -/
def primesKey : Reader PrimesKey :=
  inside sequence do
    require ((← number) = 0)
    let n ← number
    let e ← number
    let d ← number
    let p ← number
    let q ← number
    let dP ← number
    let dQ ← number
    let qInv ← number
    return { n, e, d, p, q, dP, dQ, qInv }

/-- The public key of a key of two primes. -/
def primesInfo? (bytes : List UInt8) : Option (List UInt8) := do
  let k ← whole primesKey bytes
  if k.isSound then
    return keyInfo primesName (wrap sequence (renderNumber k.n ++ renderNumber k.e))
  else none

/-! ### Keys on curves -/

/-- The private and the public key of a key on a curve. The name of the curve may be left out. -/
def curveKey (c : NamedCurve) : Reader (List UInt8 × List UInt8) :=
  inside sequence do
    require ((← number) = 1)
    let secret ← value octetString
    if ← isNext (context 0) then require ((← value (context 0)) == c.name)
    return (secret, ← inside (context 1) (bits bitString))

/-- The public key of a key on a curve. It has to be the one that the key says. -/
def curveInfo? (c : NamedCurve) (bytes : List UInt8) : Option (List UInt8) := do
  let (secret, publicKey) ← whole (curveKey c) bytes
  let n := bigEndian secret
  if secret.length = c.curve.width && 0 < n && n < c.curve.order &&
      c.curve.publicKey n == publicKey then
    return keyInfo c.keyName publicKey
  else none

/-- The public key of a key on the twisted curve. If the key says one, it has to be that. -/
def twistedInfo? (bytes : List UInt8) (said : Option (List UInt8)) : Option (List UInt8) := do
  let secret ← whole (value octetString) bytes
  if secret.length ≠ 32 then none
  let publicKey := TwistedCurve.publicKey secret
  if said.all (· == publicKey) then return keyInfo twistedName publicKey else none

/-! ### Keys -/

/-- The public key of a key behind the name of its algorithm. -/
def namedInfo? (bytes : List UInt8) : Option (List UInt8) :=
  let key? (name : List UInt8) : Option (List UInt8) :=
    (whole (unwrapped name false) bytes).map (·.1)
  ((key? primesName).bind primesInfo?) <|>
    (curves.findSome? fun c ↦ (key? c.keyName).bind (curveInfo? c)) <|>
    ((whole (unwrapped twistedName true) bytes).bind fun (key, said) ↦ twistedInfo? key said)

/-- The public key that belongs to a private key, with the name of its algorithm; none if the private key
is not sound. -/
def info? (format : Format) (bytes : List UInt8) : Option (List UInt8) :=
  match format with
  | .primes => primesInfo? bytes
  | .curve => curves.findSome? (curveInfo? · bytes)
  | .named => namedInfo? bytes

end VaultAccess.Tls.PrivateKey
