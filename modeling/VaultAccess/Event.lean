import VaultAccess.Decimal.Shortest
import VaultAccess.Failure
import VaultAccess.Rotation.Settings

/-!
# Events

What is logged. An event carries only what is shown of it, so that nothing secret can get into the log:
no event has room for a token, a password or a key.
-/

namespace VaultAccess

/-- How much an event matters. -/
inductive Level where
  | info
  | warn
  | error
  deriving Repr, DecidableEq

/-- Something that is logged. Durations are in seconds. -/
inductive Event where
  /-- The server's address is known. -/
  | address (url : String)
  /-- The namespace on the server is known. -/
  | namespaceChosen (name : String)
  /-- The method of authentication is known. -/
  | methodResolved (name : String)
  /-- The server accepted a login. -/
  | authenticated (lease : UInt64) (renewable : Bool)
  /-- A new token is in use. -/
  | tokenRenewed (lease : Option Nat)
  | loginFailed (reason : String)
  | encrypted (engine key : String)
  | decrypted (engine key : String)
  | stored (version : UInt32)
  | serverInitialised (shares threshold : UInt32)
  | keySubmitted (sealed : Bool) (progress : UInt32)
  | engineMounted (path type : String)
  | rotationBegun
  | rotationSucceeded (next : UInt64)
  | rotationFailed (retryAfter : UInt64) (summary : String)
  | lifecycleStarting
  | lifecycleStarted (next : UInt64) (settings : Rotation.Settings)
  | lifecycleStopped
  | alreadyStarted
  | stoppedBeforeStart
  | poolCreated (username : String) (lease : UInt64)

namespace Event

/-- How much an event matters. -/
def level : Event → Level
  | .loginFailed _ => .warn
  | .alreadyStarted => .warn
  | .stoppedBeforeStart => .warn
  | .rotationFailed _ _ => .error
  | _ => .info

/-- The wording of an event. -/
def message : Event → String
  | .address _ => "URL for Hashicorp key vault"
  | .namespaceChosen _ => "Namespace for Hashicorp key vault"
  | .methodResolved _ => "Resolved Vault authentication method"
  | .authenticated _ _ => "Authenticated with Vault"
  | .tokenRenewed _ => "Successfully retrieved new vault token"
  | .loginFailed _ => "Vault login failed"
  | .encrypted _ _ => "Encrypted value with transit key"
  | .decrypted _ _ => "Decrypted value with transit key"
  | .stored _ => "Stored secret"
  | .serverInitialised _ _ => "Vault initialised"
  | .keySubmitted _ _ => "Unseal key submitted"
  | .engineMounted _ _ => "Secret engine mounted"
  | .rotationBegun => "Checking for new db credentials from vault"
  | .rotationSucceeded _ => "Checking for new db credentials from vault was successful"
  | .rotationFailed _ _ => "Unexpected error while fetching new db credentials"
  | .lifecycleStarting =>
    "Component for managing life-cycle of db credentials in vault is starting"
  | .lifecycleStarted _ _ =>
    "Component for managing life-cycle of db credentials in vault started"
  | .lifecycleStopped =>
    "Component for managing life-cycle of db credentials in vault stopped"
  | .alreadyStarted => "Db credentials life-cycle manager already started"
  | .stoppedBeforeStart => "Db credentials life-cycle manager was stopped before it started"
  | .poolCreated _ _ => "Connection pool created with database credentials from vault"

/-- A truth value as a field shows it. -/
def shownBool (b : Bool) : String := if b then "true" else "false"

/-- The fields of an event: names and texts. -/
def fields : Event → List (String × String)
  | .address url => [("url", url)]
  | .namespaceChosen name => [("namespace", name)]
  | .methodResolved name => [("method", name)]
  | .authenticated lease renewable =>
    [("lease_secs", toString lease.toNat), ("renewable", shownBool renewable)]
  | .tokenRenewed (some lease) => [("lease_secs", toString lease)]
  | .tokenRenewed none => []
  | .loginFailed reason => [("error", reason)]
  | .encrypted engine key => [("engine", engine), ("key", key)]
  | .decrypted engine key => [("engine", engine), ("key", key)]
  | .stored version => [("version", toString version.toNat)]
  | .serverInitialised shares threshold =>
    [("shares", toString shares.toNat), ("threshold", toString threshold.toNat)]
  | .keySubmitted sealed progress =>
    [("sealed", shownBool sealed), ("progress", toString progress.toNat)]
  | .engineMounted path type => [("path", path), ("engine_type", type)]
  | .rotationBegun => []
  | .rotationSucceeded next => [("next_run_secs", toString next.toNat)]
  | .rotationFailed retryAfter summary =>
    [("retry_after_secs", toString retryAfter.toNat), ("error", summary)]
  | .lifecycleStarting => []
  | .lifecycleStarted next settings => [
      ("next_run_secs", toString next.toNat),
      ("retry_delay_secs", toString settings.backoff.base.toNat),
      ("max_retry_delay_secs", toString settings.backoff.max.toNat),
      ("min_delay_before_next_run_secs", toString settings.minDelay.toNat),
      ("delay_before_next_run_factor", Decimal.Style.plain.render settings.factor),
      ("max_duration_before_ttl_expire_secs", toString settings.maxDuration.toNat)]
  | .lifecycleStopped => []
  | .alreadyStarted => []
  | .stoppedBeforeStart => []
  | .poolCreated username lease =>
    [("username", username), ("lease_duration_secs", toString lease.toNat)]

end Event

end VaultAccess
