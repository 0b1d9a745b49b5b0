import VaultAccess.Http.Status

/-!
# Health of a server

A server tells how it is by the status of its response alone.
-/

namespace VaultAccess

/-- The state of a server. -/
inductive HealthStatus where
  | active
  | standby
  /-- The server stands in after a disaster. -/
  | recoverySecondary
  | performanceStandby
  | notInitialized
  | sealed
  | unknown (status : Http.Status)
  deriving Repr, DecidableEq

namespace HealthStatus

/-- The state that a status stands for. -/
def ofStatus (s : Http.Status) : HealthStatus :=
  if s == 200 then .active
  else if s == 429 then .standby
  else if s == 472 then .recoverySecondary
  else if s == 473 then .performanceStandby
  else if s == 501 then .notInitialized
  else if s == 503 then .sealed
  else .unknown s

/-- Whether a server in this state answers reads. -/
def isServing : HealthStatus → Bool
  | .active => true
  | .standby => true
  | .performanceStandby => true
  | _ => false

end HealthStatus

end VaultAccess
