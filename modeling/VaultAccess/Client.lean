import VaultAccess.Backend
import VaultAccess.Session.Login

/-!
# Clients of a server

A client makes the calls of a backend as requests to a server. Each call first gets a token from the
session and then sends one request with it.
-/

namespace VaultAccess

/-- A client: where requests go and how it proves who it is. -/
structure Client where
  endpoint : Endpoint
  method : Authentication

namespace Client

variable {ν α : Type}

/-- Get a token. -/
def token (c : Client) (net : Http.Network ν) : Action (Link ν) SessionToken :=
  Link.obtain (c.method.authenticator c.endpoint net)

/-- Send a request with a token and read the response. -/
def request (c : Client) (net : Http.Network ν) (reader : Reply.Reader α)
    (method : Http.Method) (path : String) (body : Option Json) : Action (Link ν) (Option α) := do
  let t ← c.token net
  Link.outsideAction (c.endpoint.request net reader method path (some t.value) body)

/-- The path of a document in an engine. -/
def documentPath (engine name : String) : String := engine ++ "/data/" ++ name

/-- The path of a version of a document; version zero is the latest. -/
def versionPath (engine name : String) (version : Option UInt32) : String :=
  match version.filter (0 < ·) with
  | some v => documentPath engine name ++ "?version=" ++ toString v.toNat
  | none => documentPath engine name

/-- Read a document. -/
def read (c : Client) (net : Http.Network ν) (engine name : String) (version : Option UInt32) :
    Action (Link ν) (Option (NameMap Json)) := do
  let reply ← c.request net (net.reader .document) .get (versionPath engine name version) none
  return reply.bind (·.data) |>.bind (·.fields)

/-- Store a document. -/
def write (c : Client) (net : Http.Network ν) (engine name : String) (fields : NameMap String) :
    Action (Link ν) (Option UInt32) := do
  let reply ← c.request net (net.reader .written) .post (documentPath engine name)
    (some (.object [("data", .ofTexts fields.entries)]))
  return reply.bind (·.data) |>.bind (·.version)

/-- A text in base 64, as encryption wants it. -/
def encoded (plaintext : String) : String := Base64.encodeText (Utf8.encode plaintext)

/-- The text that decryption yields in base 64. -/
def decoded (text : String) : Except Failure String :=
  match Base64.decode (Utf8.encode text) with
  | .error fault => .error (.unexpectedResponse (.notBase64 fault))
  | .ok bytes =>
    match Utf8.decode bytes with
    | .error fault => .error (.unexpectedResponse (.notUtf8 fault))
    | .ok s => .ok s

/-- Encrypt a plaintext. -/
def encrypt (c : Client) (net : Http.Network ν) (engine key plaintext : String) :
    Action (Link ν) String := do
  let reply ← c.request net (net.reader .transit) .post (engine ++ "/encrypt/" ++ key)
    (some (.object [("plaintext", .text (encoded plaintext))]))
  Action.orFail (.unexpectedResponse .noCiphertext) (reply.bind (·.ciphertext))

/-- Decrypt a ciphertext. -/
def decrypt (c : Client) (net : Http.Network ν) (engine key ciphertext : String) :
    Action (Link ν) String := do
  let reply ← c.request net (net.reader .transit) .post (engine ++ "/decrypt/" ++ key)
    (some (.object [("ciphertext", .text ciphertext)]))
  let text ← Action.orFail (.unexpectedResponse .noPlaintext) (reply.bind (·.plaintext))
  Action.ofExcept (decoded text)

/-- Read database credentials. -/
def readCredentials (c : Client) (net : Http.Network ν) (path : String) :
    Action (Link ν) (Option Reply.Database) :=
  c.request net (net.reader .database) .get path none

/-- The client as a backend. -/
def backend (c : Client) (net : Http.Network ν) : Backend (Link ν) where
  read := c.read net
  write := c.write net
  encrypt := c.encrypt net
  decrypt := c.decrypt net
  readCredentials := c.readCredentials net

end Client

end VaultAccess
