import VaultAccess.Binary64

/-!
# Backing off after failures

The delay doubles with every attempt until it would pass a maximum. `Backoff.ceiling` is the last
attempt whose delay is computed; `Backoff.delay` answers every later attempt with the maximum and pulls
the attempt back to the ceiling, so that a long run of failures goes on at a steady pace.

Delays are whole seconds of 64 bits and attempts are numbers of 32 bits. Powers and products of delays
stop at the greatest number of 64 bits.
-/

namespace VaultAccess

/-- How the delays after failures grow, in seconds. -/
structure Backoff where
  base : UInt64
  max : UInt64
  deriving Repr, DecidableEq

namespace Backoff

/-- Two seconds at first, a minute at most. -/
def standard : Backoff := ⟨2, 60⟩

/-- The last attempt whose delay is computed: the logarithm to base two of the ratio of the two bounds,
without its fraction. It is negative where the maximum lies below the base, so that no attempt's delay is
computed at all. -/
def ceiling (b : Backoff) : Int :=
  if b.base == 0 then 0
  else Binary64.wholePart
    (Binary64.logarithm (b.max.toFloat / b.base.toFloat) / Binary64.logarithm 2)

/-- A product, or the greatest number of 64 bits. -/
def cappedMul (p q : UInt64) : UInt64 := .ofNatClamp (p.toNat * q.toNat)

/-- A power, or the greatest number of 64 bits. -/
def cappedPow (p : UInt64) (n : UInt32) : UInt64 := .ofNatClamp (Nat.pow p.toNat n.toNat)

/-- The base doubled as often as the attempt tells, but at most the maximum. -/
def doubled (b : Backoff) (attempt : UInt32) : UInt64 :=
  min (cappedMul b.base (cappedPow 2 attempt)) b.max

/-- The attempt at which a count that has passed the ceiling is held. -/
def pinned (b : Backoff) : UInt32 :=
  (min b.ceiling.toNat (UInt32.size - 1)).toUInt32

/-- The delay for an attempt, and the attempt from which counting goes on. -/
def delay (b : Backoff) (attempt : UInt32) : UInt64 × UInt32 :=
  if b.ceiling < attempt.toNat then (b.max, b.pinned) else (b.doubled attempt, attempt)

end Backoff

end VaultAccess
