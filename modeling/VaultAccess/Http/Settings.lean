/-!
# Settings of a client

How long a client waits, how it presents itself and which files it takes its keys and certificates from.
-/

namespace VaultAccess.Http

/-- The files that encrypted connections need. -/
structure Tls where
  /-- The client's own key and certificate. -/
  identity : Option String := none
  /-- The certificates that the client trusts, in place of the usual ones. -/
  trustStore : Option String := none
  deriving Repr, DecidableEq

/-- Settings of a client; durations are in milliseconds. -/
structure Settings where
  timeout : UInt64 := 30000
  connectTimeout : UInt64 := 10000
  /-- How long an idle connection is kept. -/
  idleTimeout : UInt64 := 90000
  /-- How many idle connections are kept for each host. -/
  maxIdle : Nat := 10
  userAgent : String := "vault-credentials-rust/1.0"
  tls : Tls := {}
  deriving Repr, DecidableEq

end VaultAccess.Http
