import VaultAccess.Json.Record
import VaultAccess.Secret.Basic
import VaultAccess.Timestamp

/-!
# Replies

The bodies of the server's responses, one type for each kind. A reply is a record: members that are no
fields are skipped, and every field but the few that a reply is useless without may be missing.
-/

namespace VaultAccess.Reply

open Json

/-- A reader of replies: what it reads, and its words where it reads nothing. -/
structure Reader (α : Type) where
  read? : List UInt8 → Option α
  explain : List UInt8 → String

/-- Read the text of a reply. -/
def decode? {α : Type} (ofTree? : Tree → Option α) (bytes : List UInt8) : Option α :=
  (Tree.read? bytes).bind ofTree?

/-! ### Logins -/

/-- A token that an authentication method issued. -/
structure Login where
  clientToken : Secret
  /-- How many seconds the token holds. -/
  leaseDuration : UInt64
  renewable : Bool
  policies : List String
  deriving DecidableEq

/-- Read the block of an issued token. -/
def Login.ofBlock? (t : Tree) : Option Login := do
  let r ← Record.ofTree? ["client_token", "lease_duration", "renewable", "policies"] t
  return {
    clientToken := ⟨← r.required "client_token" Tree.text?⟩
    leaseDuration := ← r.defaulted "lease_duration" 0 Tree.unsigned64?
    renewable := ← r.defaulted "renewable" false Tree.bool?
    policies := ← r.defaulted "policies" [] (Tree.list? Tree.text?) }

/-- Read the reply to a login. -/
def Login.ofTree? (t : Tree) : Option Login := do
  (← Record.ofTree? ["auth"] t).required "auth" ofBlock?

/-! ### Documents -/

/-- What a versioned engine keeps about a version of a document. -/
structure Metadata where
  createdTime : Option Timestamp
  /-- Empty unless the version was deleted. -/
  deletionTime : String
  destroyed : Bool
  version : Option UInt32

/-- Read the metadata of a version. -/
def Metadata.ofTree? (t : Tree) : Option Metadata := do
  let r ← Record.ofTree? ["created_time", "deletion_time", "destroyed", "version"] t
  return {
    createdTime := ← r.optional "created_time" fun t ↦ t.text?.bind Timestamp.read?
    deletionTime := ← r.defaulted "deletion_time" "" Tree.text?
    destroyed := ← r.defaulted "destroyed" false Tree.bool?
    version := ← r.optional "version" Tree.unsigned32? }

/-- A version of a document. -/
structure Version where
  /-- The fields; none for a deleted version. -/
  fields : Option (NameMap Json)
  metadata : Option Metadata

/-- How many containers the value of a field may nest: it stands inside three. -/
def fieldRoom : Nat := nestingLimit - 3

/-- Read a version of a document. -/
def Version.ofTree? (t : Tree) : Option Version := do
  let r ← Record.ofTree? ["data", "metadata"] t
  return {
    fields := ← r.optional "data" (Tree.map? (Tree.value? fieldRoom))
    metadata := ← r.optional "metadata" Metadata.ofTree? }

/-- The reply to reading a document. -/
structure Document where
  data : Option Version

/-- Read the reply to reading a document. -/
def Document.ofTree? (t : Tree) : Option Document := do
  let r ← Record.ofTree? ["data"] t
  return ⟨← r.optional "data" Version.ofTree?⟩

/-- The reply to writing a document. -/
structure Written where
  data : Option Metadata

/-- Read the reply to writing a document. -/
def Written.ofTree? (t : Tree) : Option Written := do
  let r ← Record.ofTree? ["data"] t
  return ⟨← r.optional "data" Metadata.ofTree?⟩

/-! ### Encryption -/

/-- The result of encrypting or decrypting. -/
structure Transit where
  ciphertext : Option String
  /-- The plaintext in base 64. -/
  plaintext : Option String
  deriving DecidableEq

/-- Read the block of a result. -/
def Transit.ofBlock? (t : Tree) : Option Transit := do
  let r ← Record.ofTree? ["ciphertext", "plaintext"] t
  return {
    ciphertext := ← r.optional "ciphertext" Tree.text?
    plaintext := ← r.optional "plaintext" Tree.text? }

/-- Read the reply to encrypting or decrypting. -/
def Transit.ofTree? (t : Tree) : Option Transit := do
  (← Record.ofTree? ["data"] t).required "data" ofBlock?

/-! ### Database credentials -/

/-- A database user. -/
structure User where
  username : String
  password : Secret
  /-- How many more seconds the password of a static role holds. -/
  ttl : Option UInt64
  deriving DecidableEq

/-- Read a database user. -/
def User.ofTree? (t : Tree) : Option User := do
  let r ← Record.ofTree? ["username", "password", "ttl"] t
  return {
    username := ← r.required "username" Tree.text?
    password := ⟨← r.required "password" Tree.text?⟩
    ttl := ← r.optional "ttl" Tree.unsigned64? }

/-- The reply to reading database credentials. -/
structure Database where
  data : Option User
  leaseId : String
  /-- How many seconds the credentials of a dynamic role hold. -/
  leaseDuration : UInt64
  renewable : Bool
  deriving DecidableEq

/-- Read the reply to reading database credentials. -/
def Database.ofTree? (t : Tree) : Option Database := do
  let r ← Record.ofTree? ["data", "lease_id", "lease_duration", "renewable"] t
  return {
    data := ← r.optional "data" User.ofTree?
    leaseId := ← r.defaulted "lease_id" "" Tree.text?
    leaseDuration := ← r.defaulted "lease_duration" 0 Tree.unsigned64?
    renewable := ← r.defaulted "renewable" false Tree.bool? }

/-! ### Administration -/

/-- The keys of a new server. -/
structure Keys where
  rootToken : String
  /-- The keys that unseal it, in base 64. -/
  unsealKeys : List String
  deriving DecidableEq

/-- Read the reply to setting up a server. -/
def Keys.ofTree? (t : Tree) : Option Keys := do
  let r ← Record.ofTree? ["root_token", "keys_base64"] t
  return {
    rootToken := ← r.required "root_token" Tree.text?
    unsealKeys := ← r.defaulted "keys_base64" [] (Tree.list? Tree.text?) }

/-- How far unsealing has come. -/
structure Seal where
  sealed : Bool
  /-- How many keys are needed. -/
  threshold : UInt32
  /-- How many keys have been given. -/
  progress : UInt32
  deriving DecidableEq

/-- Read the reply to a key that unseals. -/
def Seal.ofTree? (t : Tree) : Option Seal := do
  let r ← Record.ofTree? ["sealed", "t", "progress"] t
  return {
    sealed := ← r.required "sealed" Tree.bool?
    threshold := ← r.defaulted "t" 0 Tree.unsigned32?
    progress := ← r.defaulted "progress" 0 Tree.unsigned32? }

/-- What a server tells about its health. -/
structure Health where
  initialized : Bool
  sealed : Bool
  standby : Bool
  version : String
  deriving DecidableEq

/-- Read a health report. -/
def Health.ofTree? (t : Tree) : Option Health := do
  let r ← Record.ofTree? ["initialized", "sealed", "standby", "version"] t
  return {
    initialized := ← r.defaulted "initialized" false Tree.bool?
    sealed := ← r.defaulted "sealed" false Tree.bool?
    standby := ← r.defaulted "standby" false Tree.bool?
    version := ← r.defaulted "version" "" Tree.text? }

/-- The id of an application role. -/
structure RoleId where
  roleId : String
  deriving DecidableEq

/-- Read the block of a role id. -/
def RoleId.ofBlock? (t : Tree) : Option RoleId := do
  return ⟨← (← Record.ofTree? ["role_id"] t).required "role_id" Tree.text?⟩

/-- Read the reply to asking for a role id. -/
def RoleId.ofTree? (t : Tree) : Option RoleId := do
  (← Record.ofTree? ["data"] t).required "data" ofBlock?

/-- A secret that goes with the id of an application role. -/
structure SecretId where
  secretId : String
  /-- A handle by which the secret can be looked up or revoked. -/
  accessor : String
  deriving DecidableEq

/-- Read the block of a secret id. -/
def SecretId.ofBlock? (t : Tree) : Option SecretId := do
  let r ← Record.ofTree? ["secret_id", "secret_id_accessor"] t
  return {
    secretId := ← r.required "secret_id" Tree.text?
    accessor := ← r.defaulted "secret_id_accessor" "" Tree.text? }

/-- Read the reply to asking for a secret id. -/
def SecretId.ofTree? (t : Tree) : Option SecretId := do
  (← Record.ofTree? ["data"] t).required "data" ofBlock?

/-! ### Kinds of replies -/

/-- A kind of reply. -/
inductive Kind where
  | login
  | document
  | written
  | transit
  | database
  | keys
  | unsealing
  | health
  | roleId
  | secretId
  /-- A reply that does not matter as long as it is a document. -/
  | acknowledgement
  deriving Repr, DecidableEq

namespace Kind

/-- What a reply of a kind holds. -/
abbrev Content : Kind → Type
  | login => Login
  | document => Document
  | written => Written
  | transit => Transit
  | database => Database
  | keys => Keys
  | unsealing => Seal
  | health => Health
  | roleId => RoleId
  | secretId => SecretId
  | acknowledgement => Json

/-- How a reply of a kind is read. -/
def ofTree? : (kind : Kind) → Tree → Option kind.Content
  | login => Login.ofTree?
  | document => Document.ofTree?
  | written => Written.ofTree?
  | transit => Transit.ofTree?
  | database => Database.ofTree?
  | keys => Keys.ofTree?
  | unsealing => Seal.ofTree?
  | health => Health.ofTree?
  | roleId => RoleId.ofTree?
  | secretId => SecretId.ofTree?
  | acknowledgement => Tree.value? nestingLimit

end Kind

end VaultAccess.Reply
