import VaultAccess.Base64
import VaultAccess.Http.Client
import VaultAccess.Http.Fault
import VaultAccess.Http.Status
import VaultAccess.Instant
import VaultAccess.Json.Value
import VaultAccess.Reply
import VaultAccess.Url.Read

/-!
# Requests and responses

A request is put together in full or not at all: `Client.prepare` checks the target and the header
values, takes a login out of the target and adds the headers that every request has. A `Network` answers
requests.
-/

namespace VaultAccess.Http

/-- The method of a request. -/
inductive Method where
  | get
  | post
  | put
  deriving Repr, DecidableEq

/-- A request. -/
structure Request where
  method : Method
  target : Url
  /-- Names in lower case, and values. -/
  headers : List (String × String)
  body : Option String

/-- The value of a header. -/
def Request.header? (r : Request) (name : String) : Option String :=
  (r.headers.find? fun h ↦ h.1 == name).map (·.2)

/-- The body of a response: as much as was announced, or less. -/
inductive Body where
  | whole (bytes : List UInt8)
  | broken (error : Error)
  deriving Repr, DecidableEq

/-- A response. -/
structure Response where
  status : Status
  body : Body
  deriving Repr, DecidableEq

/-- The body of a response as a text; one that did not arrive in full counts as empty. -/
def Response.text (r : Response) : String :=
  match r.body with
  | .whole bytes => Utf8.decodeLossy bytes
  | .broken _ => ""

/-- What is at the other end: a state of some type that answers requests, or fails to, and a clock.
What comes back goes through a reader of documents, which has words of its own for what it cannot
read. -/
structure Network (ν : Type) where
  exchange : Request → ν → Option Response × ν
  now : ν → Instant
  /-- Why some bytes are no reply of a kind. -/
  explain : Reply.Kind → List UInt8 → String

/-- The reader of the replies of a kind. -/
def Network.reader {ν : Type} (net : Network ν) (kind : Reply.Kind) : Reply.Reader kind.Content :=
  ⟨Reply.decode? kind.ofTree?, net.explain kind⟩

/-! ### Putting a request together -/

/-- Whether a URL names a host. -/
def hasHost (u : Url) : Bool :=
  match u.host with
  | none => false
  | some (.name text) => !text.isEmpty
  | some _ => true

/-- Characters that a URL may have in its host and that requests may not. -/
def isUnsendable (c : Char) : Bool :=
  c == '"' || c == '\x7b' || c == '\x7d' || c.toNat == 0x60

/-- Whether a request can be sent to a URL. -/
def isRoutable (u : Url) : Bool :=
  (u.scheme == "http" || u.scheme == "https") &&
    !((u.host.map Url.Host.render).getD "").toList.any isUnsendable &&
    u.render.utf8ByteSize ≤ 65534

/-- The user name and the password of a URL and the URL without them. A user name that is no text stays
where it is. -/
def takeLogin (u : Url) : Option (String × String) × Url :=
  match Utf8.decode? (Url.decode u.username) with
  | none => (none, u)
  | some name =>
    let password := if u.password.isEmpty then none else Utf8.decode? (Url.decode u.password)
    if name.isEmpty && password.isNone then (none, u)
    else (some (name, password.getD ""), { u with username := "", password := "" })

/-- The header that carries a user name and a password. -/
def loginHeader (login : String × String) : String × String :=
  ("authorization", "Basic " ++ Base64.encodeText (Utf8.encode (login.1 ++ ":" ++ login.2)))

/-- The header that tells what a body is. -/
def bodyHeaders : Option Json → List (String × String)
  | none => []
  | some _ => [("content-type", "application/json")]

/-- The request of a client with a method, a target, headers and a body. -/
def Client.prepare (c : Client) (method : Method) (target : String)
    (headers : List (String × String)) (body : Option Json) : Except Fault Request := do
  let some u := Url.read? target | throw .malformed
  if !hasHost u then throw (.unroutable u.render)
  let (login, u) := takeLogin u
  if !headers.all fun h ↦ isHeaderValue h.2 then throw .malformed
  if !isRoutable u then throw (.unroutable u.render)
  return {
    method, target := u
    headers := ("user-agent", c.userAgent) :: (login.map loginHeader).toList ++ headers ++
      bodyHeaders body
    body := body.map Json.render }

/-- Send a request. -/
def Client.send {ν : Type} (c : Client) (net : Network ν) (method : Method) (target : String)
    (headers : List (String × String)) (body : Option Json) (s : ν) :
    Except Fault Response × ν :=
  match c.prepare method target headers body with
  | .error fault => (.error fault, s)
  | .ok request =>
    match net.exchange request s with
    | (some response, s) => (.ok response, s)
    | (none, s) => (.error (.unanswered request.target.render), s)

end VaultAccess.Http
