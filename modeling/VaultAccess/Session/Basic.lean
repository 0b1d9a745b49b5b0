import VaultAccess.Failure
import VaultAccess.Session.Token

/-!
# Sessions

A session keeps the token that the last successful login yielded. Only one caller at a time may log in.
A caller that has waited for its turn first looks whether the login before it has settled the matter: a
token that is valid by now is used, and a failure of a login that ended after the caller had begun to
wait is shared, so that a crowd of callers causes one login and not one for each.

To tell whether a login ended after a caller had begun to wait, logins are counted as they end, and every
caller remembers the count that it saw. This module holds the decisions; `Session.Obtain` takes them one
after the other for callers that come alone or together, and `Session.System` lets callers take them in any
order.
-/

namespace VaultAccess

/-- What is known of earlier logins. -/
structure Session where
  token : Option SessionToken := none
  /-- How many logins have ended. -/
  attempts : Nat := 0
  /-- The number of the last login and why it failed, if it did. -/
  lastFailure : Option (Nat × AuthenticationFault) := none
  deriving DecidableEq

namespace Session

/-- The token, if it is valid at some instant. -/
def valid? (s : Session) (now : Instant) : Option SessionToken :=
  s.token.filter fun t ↦ !t.isExpiredAt now

/-- The failure of a login that ended after `observed` others. -/
def failureAfter? (s : Session) (observed : Nat) : Option AuthenticationFault :=
  match s.lastFailure with
  | some (attempt, fault) => if observed < attempt then some fault else none
  | none => none

/-- What a caller does whose turn it is. -/
inductive Decision where
  | use (token : SessionToken)
  | share (fault : AuthenticationFault)
  | logIn
  deriving DecidableEq

/-- What a caller does whose turn it is and who saw the count `observed` before it waited. -/
def decision (s : Session) (now : Instant) (observed : Nat) : Decision :=
  match s.valid? now with
  | some token => .use token
  | none =>
    match s.failureAfter? observed with
    | some fault => .share fault
    | none => .logIn

/-- Why a login failed, without naming twice that it was one. -/
def faultOf : Failure → AuthenticationFault
  | .authentication cause => cause
  | f => .described f.message

/-- Count a login that has ended. -/
def count (s : Session) : Session := { s with attempts := s.attempts + 1 }

/-- Note the token that a login yielded. -/
def accept (s : Session) (token : SessionToken) : Session :=
  { s with token := some token, lastFailure := none }

/-- Note that the last login failed. The token stays as it is. -/
def reject (s : Session) (fault : AuthenticationFault) : Session :=
  { s with lastFailure := some (s.attempts, fault) }

/-- Forget the token. -/
def invalidate (s : Session) : Session := { s with token := none }

/-- Note the outcome of the last login, which ended at some instant and has been counted. -/
def settle (s : Session) (now : Instant) : Except Failure Grant →
    Session × Except AuthenticationFault SessionToken
  | .ok grant => (s.accept (.issue now grant), .ok (.issue now grant))
  | .error f => (s.reject (faultOf f), .error (faultOf f))

end Session

end VaultAccess
