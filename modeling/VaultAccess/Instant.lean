/-!
# Instants

Points in time as a clock that never goes back shows them.
-/

namespace VaultAccess

/-- A point in time, in milliseconds from some origin. -/
structure Instant where
  millis : Int
  deriving Repr, DecidableEq

namespace Instant

/-- The milliseconds since an earlier point in time; zero if it is not earlier. -/
def since (now earlier : Instant) : Nat := (now.millis - earlier.millis).toNat

/-- The point in time some milliseconds later. -/
def after (t : Instant) (millis : Nat) : Instant := ⟨t.millis + millis⟩

/-- The milliseconds in some seconds. -/
def ofSeconds (seconds : UInt64) : Nat := seconds.toNat * 1000

end Instant

end VaultAccess
