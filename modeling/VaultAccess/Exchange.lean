import VaultAccess.Action
import VaultAccess.Endpoint
import VaultAccess.Http.Request
import VaultAccess.Secret.Basic

/-!
# Exchanges with a server

What a response means. `classify` sorts every response that can arrive by its status and, where the
status is one of success, by its body; the operations that follow send a request and classify the
response.
-/

namespace VaultAccess

/-- Read a body that may be empty. -/
def decodeBody {α : Type} (reader : Reply.Reader α) : Http.Body → Except Failure (Option α)
  | .broken error => .error (.interrupted error)
  | .whole [] => .ok none
  | .whole bytes =>
    match reader.read? bytes with
    | some a => .ok (some a)
    | none => .error (.undecodable ⟨reader.explain bytes, []⟩)

/-- What a response to a request for some path means: nothing, a value, or a failure. -/
def classify {α : Type} (path : String) (reader : Reply.Reader α) (r : Http.Response) :
    Except Failure (Option α) :=
  if r.status == 404 || r.status == 204 then .ok none
  else if r.status == 403 then .error (.forbidden path)
  else if r.status == 429 then .error .rateLimited
  else if r.status.isServerError then .error (.unavailable (.status r.status r.text))
  else if !r.status.isSuccess then .error (.unexpectedResponse (.status r.status r.text))
  else decodeBody reader r.body

namespace Endpoint

/-- The header that carries a token. -/
def tokenHeader : String := "x-vault-token"

/-- The header that names a namespace. -/
def namespaceHeader : String := "x-vault-namespace"

/-- The headers of a request. -/
def headers (e : Endpoint) (token : Option Secret) : List (String × String) :=
  (token.map fun t ↦ (tokenHeader, t.expose)).toList ++
    (e.namespaceName.map fun n ↦ (namespaceHeader, n)).toList

variable {ν : Type}

/-- Send a request for a path. -/
def send (e : Endpoint) (net : Http.Network ν) (method : Http.Method) (path : String)
    (token : Option Secret) (body : Option Json) : Action ν Http.Response :=
  ExceptT.mk fun s ↦
    let (r, state) := e.client.send net method (e.url path) (e.headers token) body s.state
    (r.mapError fun fault ↦ .unavailable (.unsent fault), { s with state })

/-- Send a request for a path and read the response. -/
def request {α : Type} (e : Endpoint) (net : Http.Network ν) (reader : Reply.Reader α)
    (method : Http.Method) (path : String) (token : Option Secret) (body : Option Json) :
    Action ν (Option α) := do
  let response ← e.send net method path token body
  Action.ofExcept (classify path reader response)

end Endpoint

end VaultAccess
