import VaultAccess.Instant
import VaultAccess.Secret.Basic

/-!
# Tokens

A token is given up some seconds before its lease ends, so that a request that carries it arrives while
it still holds. Times are compared in whole seconds.
-/

namespace VaultAccess

/-- What a login yields: a token and how many milliseconds it holds, if it ends at all. -/
structure Grant where
  token : Secret
  lease : Option Nat
  deriving DecidableEq

/-- A token together with the moment it was issued. -/
structure SessionToken where
  value : Secret
  issuedAt : Instant
  lease : Option Nat
  deriving DecidableEq

namespace SessionToken

/-- The token of a login that ended at some instant. -/
def issue (now : Instant) (g : Grant) : SessionToken := ⟨g.token, now, g.lease⟩

/-- How many milliseconds before the end of its lease a token is given up. -/
def margin : Nat := 5000

/-- Whether a token has to be replaced at some instant. -/
def isExpiredAt (t : SessionToken) (now : Instant) : Bool :=
  match t.lease with
  | none => false
  | some lease => (lease - margin) / 1000 ≤ now.since t.issuedAt / 1000

end SessionToken

end VaultAccess
