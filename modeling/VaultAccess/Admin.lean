import VaultAccess.Exchange
import VaultAccess.Health
import VaultAccess.Reply

/-!
# Administration of a server

Setting a server up, unsealing it, asking for its health, mounting engines and giving out application
roles. These requests carry a token that the caller provides, since there may be no session yet.
-/

namespace VaultAccess.Admin

variable {ν : Type}

/-- Set a server up with some number of unseal keys. -/
def setUp (e : Endpoint) (net : Http.Network ν) (shares threshold : UInt32) :
    Action ν Reply.Keys := do
  let body := Json.object
    [("secret_shares", .ofNat shares.toNat), ("secret_threshold", .ofNat threshold.toNat)]
  let reply ← e.request net (net.reader .keys) .put "sys/init" none (some body)
  let keys ← Action.orFail (.unexpectedResponse (.noBody "sys/init")) reply
  Action.emit (.serverInitialised shares threshold)
  return keys

/-- Give one unseal key to a server. -/
def submitKey (e : Endpoint) (net : Http.Network ν) (key : Secret) : Action ν Reply.Seal := do
  let body := Json.object [("key", .text key.expose)]
  let reply ← e.request net (net.reader .unsealing) .put "sys/unseal" none (some body)
  let state ← Action.orFail (.unexpectedResponse (.noBody "sys/unseal")) reply
  Action.emit (.keySubmitted state.sealed state.progress)
  return state

/-- The state of a server and what it tells about itself, if that can be read. -/
structure HealthReport where
  status : HealthStatus
  details : Option Reply.Health
  deriving DecidableEq

/-- The report that a response makes. -/
def HealthReport.ofResponse (r : Http.Response) : HealthReport where
  status := .ofStatus r.status
  details :=
    match r.body with
    | .whole bytes => Reply.decode? Reply.Health.ofTree? bytes
    | .broken _ => none

/-- Ask a server for its health. -/
def health (e : Endpoint) (net : Http.Network ν) : Action ν HealthReport := do
  return .ofResponse (← e.send net .get "sys/health" none none)

/-- Make a request whose reply does not matter as long as it is a document. -/
def command (e : Endpoint) (net : Http.Network ν) (token : Secret) (path : String)
    (body : Option Json) : Action ν Unit := do
  let _ ← e.request net (net.reader .acknowledgement) .post path (some token) body

/-- Mount an engine at a path. -/
def mount (e : Endpoint) (net : Http.Network ν) (token : Secret) (path type : String)
    (options : Option Json) : Action ν Unit := do
  let members := (options.map fun o ↦ ("options", o)).toList ++ [("type", .text type)]
  command e net token ("sys/mounts/" ++ path) (some (.object members))
  Action.emit (.engineMounted path type)

/-- Enable a method of authentication at a path. -/
def enableAuth (e : Endpoint) (net : Http.Network ν) (token : Secret) (path method : String) :
    Action ν Unit :=
  command e net token ("sys/auth/" ++ path) (some (.object [("type", .text method)]))

/-- Create a key to encrypt with. -/
def createTransitKey (e : Endpoint) (net : Http.Network ν) (token : Secret)
    (engine key : String) : Action ν Unit :=
  command e net token (engine ++ "/keys/" ++ key) none

/-- The id of an application role. -/
def roleId (e : Endpoint) (net : Http.Network ν) (token : Secret) (path role : String) :
    Action ν Secret := do
  let location := "auth/" ++ path ++ "/role/" ++ role ++ "/role-id"
  let reply ← e.request net (net.reader .roleId) .get location (some token) none
  return ⟨(← Action.orFail (.notFound (.role location)) reply).roleId⟩

/-- A new secret for an application role. -/
def secretId (e : Endpoint) (net : Http.Network ν) (token : Secret) (path role : String) :
    Action ν Secret := do
  let location := "auth/" ++ path ++ "/role/" ++ role ++ "/secret-id"
  let reply ← e.request net (net.reader .secretId) .post location (some token) none
  return ⟨(← Action.orFail (.notFound (.role location)) reply).secretId⟩

end VaultAccess.Admin
