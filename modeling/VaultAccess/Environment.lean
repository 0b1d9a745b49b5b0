import VaultAccess.NameMap

/-!
# Environment variables

The variables that the library looks at and where they come from. A value that is set to the empty text
counts as set.
-/

namespace VaultAccess

/-- The variables that are set. -/
abbrev Environment := NameMap String

namespace Variable

/-- The id of an application role. -/
def roleId : String := "HASHICORP_ROLE_ID"

/-- The secret that goes with the id of an application role. -/
def secretId : String := "HASHICORP_SECRET_ID"

/-- A token issued beforehand. -/
def token : String := "HASHICORP_TOKEN"

/-- The address of the server. -/
def url : String := "VAULT_URL"

/-- The namespace on the server. -/
def namespaceName : String := "VAULT_NAMESPACE"

/-- Where the application-role method is mounted. -/
def approlePath : String := "VAULT_APPROLE_PATH"

/-- The file with the client's key and certificate. -/
def keyStore : String := "VAULT_TLS_KEY_STORE_PATH"

/-- The file with the trusted certificates. -/
def trustStore : String := "VAULT_TLS_TRUST_STORE_PATH"

/-- The database secret engine. -/
def engine : String := "VAULT_DB_SECRET_ENGINE_NAME"

/-- The database role. -/
def role : String := "VAULT_DB_ROLE"

/-- Whether database credentials are dynamic or static. -/
def credentialType : String := "VAULT_DB_CREDENTIAL_TYPE"

/-- The first delay after a failed rotation. -/
def retryDelay : String := "VAULT_DB_RETRY_DELAY_IN_SECONDS"

/-- The longest delay after a failed rotation. -/
def maxRetryDelay : String := "VAULT_DB_MAX_RETRY_DELAY_IN_SECONDS"

/-- The shortest delay after a successful rotation. -/
def minDelay : String := "VAULT_DB_MIN_DELAY_BEFORE_NEXT_RUN_IN_SECONDS"

/-- The share of a lease that is left unused. -/
def factor : String := "VAULT_DB_DELAY_BEFORE_NEXT_RUN_FACTOR"

/-- The longest part of a lease that is left unused. -/
def maxDuration : String := "VAULT_DB_MAX_DURATION_BEFORE_TTL_EXPIRE_IN_SECONDS"

end Variable

end VaultAccess
