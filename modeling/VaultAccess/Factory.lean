import VaultAccess.Client
import VaultAccess.Config.Database

/-!
# Building services

From a configuration and the environment to a client. Everything that can be checked without a server is
checked here, in a fixed order, and nothing is sent.
-/

namespace VaultAccess

/-- What services are built with: the settings of their clients and the machine that has their files.
The files for encrypted connections are those that the configuration of a server names. -/
structure Factory where
  http : Http.Settings := {}
  machine : Http.Machine

namespace Factory

variable {σ : Type}

/-- The URL of a server, which has to be one for requests over the web. -/
def parseUrl (text : String) : Except Failure Url :=
  match Url.read? text with
  | none => .error (.configuration .malformedAddress)
  | some u =>
    if (u.scheme == "http" || u.scheme == "https") && u.host.isSome then .ok u
    else .error (.configuration .malformedAddress)

/-- The client of an endpoint. -/
def httpClient (f : Factory) (c : ServerConfig) : Except Failure Http.Client :=
  (Http.Client.build f.machine { f.http with tls := c.tls }).mapError .platform

/-- Where the requests of a service go. -/
def endpoint (f : Factory) (c : ServerConfig) : Action σ Endpoint := do
  let url ← Action.ofExcept (parseUrl c.url)
  Action.emit (.address url.render)
  if let some name := c.effectiveNamespace then Action.emit (.namespaceChosen name)
  let client ← Action.ofExcept (f.httpClient c)
  return .ofAddress client url.render c.effectiveNamespace

/-- A client that proves who it is with what the environment provides. -/
def client (f : Factory) (c : ServerConfig) (env : Environment) : Action σ Client := do
  Action.ofExcept (Authentication.checkEnvironment env)
  let endpoint ← f.endpoint c
  let method ← Action.ofExcept (Authentication.ofEnvironment env c.approlePath)
  Action.emit (.methodResolved method.name)
  return ⟨endpoint, method⟩

/-- A client for secrets in documents. -/
def keyVault (f : Factory) (c : ServerConfig) (env : Environment) : Action σ Client :=
  f.client c env

/-- A client for database credentials, and the path to read them from. -/
def databaseSource (f : Factory) (c : DatabaseConfig) (env : Environment) :
    Action σ (Client × String) := do
  Action.ofExcept (Authentication.checkEnvironment env)
  let server ← Action.ofExcept c.server
  return (← f.client server env, c.credentialPath)

/-- An endpoint for administration, which needs nothing from the environment. -/
def admin (f : Factory) (c : ServerConfig) : Action σ Endpoint := f.endpoint c

end Factory

end VaultAccess
