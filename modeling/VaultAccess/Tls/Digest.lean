/-!
# A digest of 512 bits

The digest that keys on twisted curves are spread with. A text is padded to blocks of 128 bytes; each
block gives sixteen words, which are drawn out to eighty and stirred into a state of eight words. The
constants are the first 64 bits behind the point of roots of the first primes.
-/

namespace VaultAccess.Tls.Digest

/-! ### Constants -/

/-- The greatest number of at most `bits` bits whose power does not exceed a number. -/
def root (power : Nat) (n : Nat) : (bits : Nat) → Nat
  | 0 => 0
  | bits + 1 =>
    -- The bits are found from the highest down.
    go bits 0
where
  /-- Find the bits from one down, above those that are known. -/
  go : Nat → Nat → Nat
    | 0, known => if Nat.pow (known + 1) power ≤ n then known + 1 else known
    | bit + 1, known =>
      let next := known + Nat.pow 2 (bit + 1)
      go bit (if Nat.pow next power ≤ n then next else known)

/-- The first 80 primes. -/
def primes : List Nat :=
  ((List.range 410).filter fun n ↦
    2 ≤ n && (List.range n).all fun d ↦ d < 2 || n % d != 0).take 80

/-- The first 64 bits behind the point of a root. -/
def fraction (power n : Nat) : UInt64 :=
  (root power (n * Nat.pow 2 (64 * power)) 80 % Nat.pow 2 64).toUInt64

/-- The constants of the rounds: cube roots. -/
def roundConstants : Array UInt64 := (primes.map (fraction 3)).toArray

/-- The state before the first block: square roots. -/
def initial : List UInt64 := (primes.take 8).map (fraction 2)

/-! ### Blocks -/

/-- A word turned to the right. -/
def rotate (w : UInt64) (n : UInt64) : UInt64 := (w >>> n) ||| (w <<< (64 - n))

/-- The word that eight bytes spell. -/
def word (bytes : List UInt8) : UInt64 :=
  bytes.foldl (fun w b ↦ (w <<< 8) ||| b.toUInt64) 0

/-- Draw out the words of a block, the newest first, by some number of words. -/
def drawOut : Nat → List UInt64 → List UInt64
  | 0, ws => ws
  | n + 1, ws =>
    let w := fun i ↦ ws.getD i 0
    let near := rotate (w 1) 19 ^^^ rotate (w 1) 61 ^^^ (w 1 >>> 6)
    let far := rotate (w 14) 1 ^^^ rotate (w 14) 8 ^^^ (w 14 >>> 7)
    drawOut n ((w 15 + far + w 6 + near) :: ws)

/-- Stir one word into a state. -/
def stir (state : List UInt64) (w k : UInt64) : List UInt64 :=
  match state with
  | [a, b, c, d, e, f, g, h] =>
    let s₁ := rotate e 14 ^^^ rotate e 18 ^^^ rotate e 41
    let t₁ := h + s₁ + ((e &&& f) ^^^ (~~~e &&& g)) + k + w
    let s₀ := rotate a 28 ^^^ rotate a 34 ^^^ rotate a 39
    let t₂ := s₀ + ((a &&& b) ^^^ (a &&& c) ^^^ (b &&& c))
    [t₁ + t₂, a, b, c, d + t₁, e, f, g]
  | _ => state

/-- The state after a block of sixteen words. -/
def absorb (state : List UInt64) (block : List UInt64) : List UInt64 :=
  let words := (drawOut 64 block.reverse).reverse
  let stirred := (words.zip roundConstants.toList).foldl (fun s (w, k) ↦ stir s w k) state
  List.zipWith (· + ·) state stirred

/-- The parts of some size that a list falls into, but not more than `fuel`. -/
def chunks {α : Type} (size : Nat) : (fuel : Nat) → List α → List (List α)
  | 0, _ => []
  | fuel + 1, xs => if xs.isEmpty then [] else xs.take size :: chunks size fuel (xs.drop size)

/-- A text with a one, as many zeros as it takes and its length in bits behind it. -/
def padded (bytes : List UInt8) : List UInt8 :=
  let zeros := (256 - (bytes.length + 17) % 128) % 128
  let size := bytes.length * 8
  bytes ++ [0x80] ++ List.replicate zeros 0 ++
    (List.range 16).map fun i ↦ (size / Nat.pow 256 (15 - i) % 256).toUInt8

/-- The bytes of a word. -/
def wordBytes (w : UInt64) : List UInt8 :=
  (List.range 8).map fun i ↦ (w.toNat / Nat.pow 256 (7 - i) % 256).toUInt8

/-- The digest of a text. -/
def ofBytes (bytes : List UInt8) : List UInt8 :=
  let all := padded bytes
  let blocks := chunks 128 all.length all
  let final := blocks.foldl (fun s b ↦ absorb s ((chunks 8 16 b).map word)) initial
  final.flatMap wordBytes

end VaultAccess.Tls.Digest
