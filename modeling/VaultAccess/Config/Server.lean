import VaultAccess.Config.Defaults
import VaultAccess.Environment
import VaultAccess.Failure
import VaultAccess.Http.Settings
import VaultAccess.Json.Record

/-!
# Configuration of a server

Where a server is and how it is reached. A configuration is read from a document or from environment
variables, and printed as a document with its fields in a fixed order.
-/

namespace VaultAccess

/-- Where a server is and how it is reached. -/
structure ServerConfig where
  url : String
  /-- The namespace on the server. -/
  namespaceName : Option String := none
  /-- Where the application-role method is mounted. -/
  approlePath : String := defaultApprolePath
  /-- The file with the client's key and certificate. -/
  keyStore : Option String := none
  /-- The file with the trusted certificates. -/
  trustStore : Option String := none
  deriving Repr, DecidableEq

namespace ServerConfig

/-- The namespace, unless it is empty. -/
def effectiveNamespace (c : ServerConfig) : Option String :=
  c.namespaceName.filter fun n ↦ !n.isEmpty

/-- The files that encrypted connections need. A client's own certificate is used only together with a
file of trusted ones. -/
def tls (c : ServerConfig) : Http.Tls :=
  match c.trustStore with
  | some trustStore => ⟨c.keyStore, some trustStore⟩
  | none => {}

/-! ### Documents -/

/-- The names of the fields. -/
def fields : List String :=
  ["url", "namespace", "approlePath", "tlsKeyStorePath", "tlsTrustStorePath"]

/-- The configuration that a document holds. -/
def ofTree? (t : Json.Tree) : Option ServerConfig := do
  let r ← Json.Record.ofTree? fields t
  return {
    url := ← r.required "url" Json.Tree.text?
    namespaceName := ← r.optional "namespace" Json.Tree.text?
    approlePath := ← r.defaulted "approlePath" defaultApprolePath Json.Tree.text?
    keyStore := ← r.optional "tlsKeyStorePath" Json.Tree.text?
    trustStore := ← r.optional "tlsTrustStorePath" Json.Tree.text? }

/-- The configuration that the text of a document holds. -/
def read? (bytes : List UInt8) : Option ServerConfig := do
  ofTree? (← Json.Tree.read? bytes)

/-- The document of a configuration. -/
def toJson (c : ServerConfig) : Json :=
  .object [("url", .text c.url), ("namespace", .ofText? c.namespaceName),
    ("approlePath", .text c.approlePath), ("tlsKeyStorePath", .ofText? c.keyStore),
    ("tlsTrustStorePath", .ofText? c.trustStore)]

/-! ### Environment -/

/-- The configuration that environment variables hold. Only the address has to be set. -/
def ofEnvironment (env : Environment) : Except Failure ServerConfig :=
  match env.get? Variable.url with
  | none => .error (.configuration (.variableUnset Variable.url))
  | some url => .ok {
      url
      namespaceName := env.get? Variable.namespaceName
      approlePath := (env.get? Variable.approlePath).getD defaultApprolePath
      keyStore := env.get? Variable.keyStore
      trustStore := env.get? Variable.trustStore }

end ServerConfig

end VaultAccess
