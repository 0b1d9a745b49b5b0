import VaultAccess.Failure.Chain

/-!
# What fails in speaking to a server

A request may fail before any response arrives: it cannot be put together, its target is one that
cannot be spoken to, or the exchange breaks off. What the library for requests says of that is its
`Fault`; of anything else that it fails in, an `Error`.
-/

namespace VaultAccess.Http

/-- An error of the library for requests. -/
structure Error extends Chain where
  /-- Whether there was not enough time. -/
  timedOut : Bool := false
  /-- Whether there was no connection. -/
  unconnected : Bool := false
  deriving Repr, DecidableEq

/-- Why a request got no response. The address is the target as messages show it. -/
inductive Fault where
  /-- The target is no address, or a header value is not legal. -/
  | malformed
  /-- The target is an address that requests cannot be sent to. -/
  | unroutable (address : String)
  /-- No response came back. -/
  | unanswered (address : String)
  deriving Repr, DecidableEq

/-- The wording of a fault. -/
def Fault.message : Fault → String
  | .malformed => "builder error"
  | .unroutable address => "builder error for url (" ++ address ++ ")"
  | .unanswered address => "error sending request for url (" ++ address ++ ")"

end VaultAccess.Http
