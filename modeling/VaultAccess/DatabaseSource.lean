import VaultAccess.Backend
import VaultAccess.Config.Database
import VaultAccess.Credentials

/-!
# Database credentials

Reading the credentials of a database role.
-/

namespace VaultAccess.DatabaseSource

variable {σ : Type}

/-- The credentials in a reply. A static role tells in a field of its own how long its password still
holds. -/
def credentialsOf (reply : Option Reply.Database) : Except Failure Credentials :=
  match reply with
  | none => .error (.credentials .emptyResponse)
  | some r =>
    match r.data with
    | none => .error (.credentials .emptyResponse)
    | some user => .ok ⟨user.username, user.password, user.ttl.getD r.leaseDuration⟩

/-- Fresh credentials from a path. -/
def read (b : Backend σ) (path : String) : Action σ Credentials := do
  let reply ← Action.mapFailure (.credentialsAfter .unreadable) (b.readCredentials path)
  Action.ofExcept (credentialsOf reply)

end VaultAccess.DatabaseSource
