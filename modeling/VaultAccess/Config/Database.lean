import VaultAccess.Config.Server
import VaultAccess.Rotation.Tunables

/-!
# Configuration of a source of database credentials

The server, the engine and the role that credentials come from, and the tunables of their rotation. No
field has to be there when a configuration is read: `DatabaseConfig.check` reports all that is missing
at once, and `DatabaseConfig.server` gives the configuration of the server if nothing is.
-/

namespace VaultAccess

/-- The configuration of a source of database credentials. -/
structure DatabaseConfig where
  url : Option String := none
  namespaceName : Option String := none
  approlePath : Option String := none
  engine : Option String := none
  role : Option String := none
  credentialType : Option String := none
  keyStore : Option String := none
  trustStore : Option String := none
  tunables : Rotation.Tunables := {}
  deriving Repr, DecidableEq

namespace DatabaseConfig

/-- The engine. -/
def effectiveEngine (c : DatabaseConfig) : String := c.engine.getD defaultEngine

/-- Where the application-role method is mounted. -/
def effectiveApprolePath (c : DatabaseConfig) : String := c.approlePath.getD defaultApprolePath

/-- The role. -/
def effectiveRole (c : DatabaseConfig) : String := c.role.getD ""

/-- The type of credentials; an empty one stands for the default. -/
def effectiveCredentialType (c : DatabaseConfig) : String :=
  (c.credentialType.filter fun t ↦ !t.isEmpty).getD defaultCredentialType

/-- The part of the engine's paths that stands for the type of credentials. -/
def credentialSegment (c : DatabaseConfig) : String :=
  if c.effectiveCredentialType == "dynamic" then "creds" else "static-creds"

/-- The path that credentials are read from. -/
def credentialPath (c : DatabaseConfig) : String :=
  c.effectiveEngine ++ "/" ++ c.credentialSegment ++ "/" ++ c.effectiveRole

/-! ### What has to be there -/

/-- Whether a value is absent or empty. -/
def isMissing (value : Option String) : Bool := value.all String.isEmpty

/-- The properties that have to be there, in the order in which they are reported. -/
def requiredProperties (c : DatabaseConfig) : List (String × Option String) :=
  [("url", c.url), ("dbSecretEngineName", some c.effectiveEngine), ("vaultDbRole", c.role),
    ("approlePath", some c.effectiveApprolePath)]

/-- The names of the properties that are absent or empty but have to be there. -/
def missingProperties (c : DatabaseConfig) : List String :=
  (c.requiredProperties.filter fun p ↦ isMissing p.2).map (·.1)

/-- Check that all is there that has to be. -/
def check (c : DatabaseConfig) : Except Failure Unit :=
  match c.missingProperties with
  | [] => .ok ()
  | names => .error (.configuration (.propertiesMissing names))

/-- The configuration of the server. -/
def server (c : DatabaseConfig) : Except Failure ServerConfig := do
  c.check
  return {
    url := c.url.getD ""
    namespaceName := c.namespaceName
    approlePath := c.effectiveApprolePath
    keyStore := c.keyStore
    trustStore := c.trustStore }

/-! ### Documents -/

/-- The names of the fields, the tunables apart. -/
def fields : List String :=
  ["url", "namespace", "approlePath", "dbSecretEngineName", "vaultDbRole", "credentialType",
    "tlsKeyStorePath", "tlsTrustStorePath"]

/-- Whether every member that is no field holds a value. Members are not skipped here, since any of
them might have been a tunable. -/
def othersReadable (members : List (String × Json.Tree)) : Bool :=
  members.all fun m ↦ fields.contains m.1 || (m.2.value? (Json.nestingLimit - 1)).isSome

/-- The configuration that a document holds. It has to be an object. -/
def ofTree? : Json.Tree → Option DatabaseConfig
  | .object ms => do
    let members ← Json.Record.named? ms
    if !othersReadable members then none
    let r ← Json.Record.ofMembers? (fields ++ Rotation.Tunables.fields) members
    let text (field : String) := r.optional field Json.Tree.text?
    return {
      url := ← text "url"
      namespaceName := ← text "namespace"
      approlePath := ← text "approlePath"
      engine := ← text "dbSecretEngineName"
      role := ← text "vaultDbRole"
      credentialType := ← text "credentialType"
      keyStore := ← text "tlsKeyStorePath"
      trustStore := ← text "tlsTrustStorePath"
      tunables := ← Rotation.Tunables.ofRecord? r }
  | _ => none

/-- The configuration that the text of a document holds. -/
def read? (bytes : List UInt8) : Option DatabaseConfig := do
  ofTree? (← Json.Tree.read? bytes)

/-- The document of a configuration. -/
def toJson (c : DatabaseConfig) : Json :=
  .object ([("url", .ofText? c.url), ("namespace", .ofText? c.namespaceName),
    ("approlePath", .ofText? c.approlePath), ("dbSecretEngineName", .ofText? c.engine),
    ("vaultDbRole", .ofText? c.role), ("credentialType", .ofText? c.credentialType),
    ("tlsKeyStorePath", .ofText? c.keyStore), ("tlsTrustStorePath", .ofText? c.trustStore)] ++
    c.tunables.members)

/-! ### Environment -/

/-- The configuration that environment variables hold. -/
def ofEnvironment (env : Environment) : DatabaseConfig where
  url := env.get? Variable.url
  namespaceName := env.get? Variable.namespaceName
  approlePath := env.get? Variable.approlePath
  engine := env.get? Variable.engine
  role := env.get? Variable.role
  credentialType := env.get? Variable.credentialType
  keyStore := env.get? Variable.keyStore
  trustStore := env.get? Variable.trustStore
  tunables := {
    retryDelay := env.get? Variable.retryDelay
    maxRetryDelay := env.get? Variable.maxRetryDelay
    minDelay := env.get? Variable.minDelay
    factor := env.get? Variable.factor
    maxDuration := env.get? Variable.maxDuration }

end DatabaseConfig

end VaultAccess
