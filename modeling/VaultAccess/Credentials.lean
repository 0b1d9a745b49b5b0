import VaultAccess.Secret.Basic
import VaultAccess.Text.Quoted

/-!
# Credentials

A user name, a password and how long they hold.
-/

namespace VaultAccess

/-- Credentials for a database. -/
structure Credentials where
  username : String
  password : Secret
  /-- How many seconds they hold. -/
  lease : UInt64
  deriving DecidableEq

/-- Credentials as diagnostics show them. -/
def Credentials.shown (c : Credentials) : String :=
  "DbCredentials \x7b username: " ++ Text.quoted c.username ++ ", password: " ++
    c.password.shown ++ ", lease_duration_secs: " ++ toString c.lease.toNat ++ " \x7d"

end VaultAccess
