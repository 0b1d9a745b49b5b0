import Mathlib.Logic.Relation
import VaultAccess.Proofs.Json.Grammar
import VaultAccess.Proofs.Json.Schemas
import VaultAccess.Reply

/-!
# What replies do not depend on

Every kind of reply has a schema, which says of its records, at every depth, which fields they have
and what the absence of a field stands for. Replies respect their schemas (`Reply.Kind.respects`): so
it makes no difference in which order a server writes the members of a reply, what else it puts in
among them, and whether it writes a field that holds its default. The fields of a document are no
record but a map with names of its own, so none of this is said of what is in them.
-/

namespace VaultAccess.Reply

open Json Json.Schema

/-! ### Schemas -/

/-- The tree of zero. -/
def zero : Tree := .number ⟨false, ['0'], none, none⟩

def Login.blockSchema : Schema := .record
  [("client_token", none, .plain), ("lease_duration", some zero, .plain),
    ("renewable", some (.bool false), .plain), ("policies", some (.array []), .plain)]

def Login.schema : Schema := .record [("auth", none, blockSchema)]

def Metadata.schema : Schema := .record
  [("created_time", some .null, .plain), ("deletion_time", some (.string []), .plain),
    ("destroyed", some (.bool false), .plain), ("version", some .null, .plain)]

def Version.schema : Schema := .record
  [("data", some .null, .plain), ("metadata", some .null, Metadata.schema)]

def Document.schema : Schema := .record [("data", some .null, Version.schema)]

def Written.schema : Schema := .record [("data", some .null, Metadata.schema)]

def Transit.blockSchema : Schema := .record
  [("ciphertext", some .null, .plain), ("plaintext", some .null, .plain)]

def Transit.schema : Schema := .record [("data", none, blockSchema)]

def User.schema : Schema := .record
  [("username", none, .plain), ("password", none, .plain), ("ttl", some .null, .plain)]

def Database.schema : Schema := .record
  [("data", some .null, User.schema), ("lease_id", some (.string []), .plain),
    ("lease_duration", some zero, .plain), ("renewable", some (.bool false), .plain)]

def Keys.schema : Schema := .record
  [("root_token", none, .plain), ("keys_base64", some (.array []), .plain)]

def Seal.schema : Schema := .record
  [("sealed", none, .plain), ("t", some zero, .plain), ("progress", some zero, .plain)]

def Health.schema : Schema := .record
  [("initialized", some (.bool false), .plain), ("sealed", some (.bool false), .plain),
    ("standby", some (.bool false), .plain), ("version", some (.string []), .plain)]

def RoleId.blockSchema : Schema := .record [("role_id", none, .plain)]

def RoleId.schema : Schema := .record [("data", none, blockSchema)]

def SecretId.blockSchema : Schema := .record
  [("secret_id", none, .plain), ("secret_id_accessor", some (.string []), .plain)]

def SecretId.schema : Schema := .record [("data", none, blockSchema)]

/-! ### Replies and their schemas -/

/-- What a login grants is a record of four fields, of which the token is required. -/
theorem Login.respects_block : blockSchema.Respects ofBlock? :=
  respects_record (by decide) <|
    .bind (.required 0 rfl respects_plain) fun _ ↦
    .bind (.defaulted 1 rfl respects_plain rfl) fun _ ↦
    .bind (.defaulted 2 rfl respects_plain rfl) fun _ ↦
    .bind (.defaulted 3 rfl respects_plain rfl) fun _ ↦ .pure

theorem Login.respects : schema.Respects ofTree? :=
  respects_record (by decide) <| .required 0 rfl respects_block

/-- Every field of the metadata may be missing. -/
theorem Metadata.respects : schema.Respects ofTree? :=
  respects_record (by decide) <|
    .bind (.optional 0 rfl respects_plain) fun _ ↦
    .bind (.defaulted 1 rfl respects_plain rfl) fun _ ↦
    .bind (.defaulted 2 rfl respects_plain rfl) fun _ ↦
    .bind (.optional 3 rfl respects_plain) fun _ ↦ .pure

/-- A version of a document may be without fields and without metadata. -/
theorem Version.respects : schema.Respects ofTree? :=
  respects_record (by decide) <|
    .bind (.optional 0 rfl respects_plain) fun _ ↦
    .bind (.optional 1 rfl Metadata.respects) fun _ ↦ .pure

theorem Document.respects : schema.Respects ofTree? :=
  respects_record (by decide) <| .bind (.optional 0 rfl Version.respects) fun _ ↦ .pure

theorem Written.respects : schema.Respects ofTree? :=
  respects_record (by decide) <| .bind (.optional 0 rfl Metadata.respects) fun _ ↦ .pure

/-- The two texts of a transit reply may both be missing. -/
theorem Transit.respects_block : blockSchema.Respects ofBlock? :=
  respects_record (by decide) <|
    .bind (.optional 0 rfl respects_plain) fun _ ↦
    .bind (.optional 1 rfl respects_plain) fun _ ↦ .pure

theorem Transit.respects : schema.Respects ofTree? :=
  respects_record (by decide) <| .required 0 rfl respects_block

/-- Credentials are required in both parts, and may be without a lease of their own. -/
theorem User.respects : schema.Respects ofTree? :=
  respects_record (by decide) <|
    .bind (.required 0 rfl respects_plain) fun _ ↦
    .bind (.required 1 rfl respects_plain) fun _ ↦
    .bind (.optional 2 rfl respects_plain) fun _ ↦ .pure

/-- A reply with credentials may be without them. -/
theorem Database.respects : schema.Respects ofTree? :=
  respects_record (by decide) <|
    .bind (.optional 0 rfl User.respects) fun _ ↦
    .bind (.defaulted 1 rfl respects_plain rfl) fun _ ↦
    .bind (.defaulted 2 rfl respects_plain rfl) fun _ ↦
    .bind (.defaulted 3 rfl respects_plain rfl) fun _ ↦ .pure

theorem Keys.respects : schema.Respects ofTree? :=
  respects_record (by decide) <|
    .bind (.required 0 rfl respects_plain) fun _ ↦
    .bind (.defaulted 1 rfl respects_plain rfl) fun _ ↦ .pure

/-- A reply about the seal says at least whether there is one. -/
theorem Seal.respects : schema.Respects ofTree? :=
  respects_record (by decide) <|
    .bind (.required 0 rfl respects_plain) fun _ ↦
    .bind (.defaulted 1 rfl respects_plain rfl) fun _ ↦
    .bind (.defaulted 2 rfl respects_plain rfl) fun _ ↦ .pure

/-- Every field of a reply about the health has a default. -/
theorem Health.respects : schema.Respects ofTree? :=
  respects_record (by decide) <|
    .bind (.defaulted 0 rfl respects_plain rfl) fun _ ↦
    .bind (.defaulted 1 rfl respects_plain rfl) fun _ ↦
    .bind (.defaulted 2 rfl respects_plain rfl) fun _ ↦
    .bind (.defaulted 3 rfl respects_plain rfl) fun _ ↦ .pure

theorem RoleId.respects_block : blockSchema.Respects ofBlock? :=
  respects_record (by decide) <| .bind (.required 0 rfl respects_plain) fun _ ↦ .pure

theorem RoleId.respects : schema.Respects ofTree? :=
  respects_record (by decide) <| .required 0 rfl respects_block

/-- The accessor of a secret id may be missing. -/
theorem SecretId.respects_block : blockSchema.Respects ofBlock? :=
  respects_record (by decide) <|
    .bind (.required 0 rfl respects_plain) fun _ ↦
    .bind (.defaulted 1 rfl respects_plain rfl) fun _ ↦ .pure

theorem SecretId.respects : schema.Respects ofTree? :=
  respects_record (by decide) <| .required 0 rfl respects_block

/-! ### Kinds of replies -/

namespace Kind

/-- What replies of a kind look like. -/
def schema : Kind → Schema
  | login => Login.schema
  | document => Document.schema
  | written => Written.schema
  | transit => Transit.schema
  | database => Database.schema
  | keys => Keys.schema
  | unsealing => Seal.schema
  | health => Health.schema
  | roleId => RoleId.schema
  | secretId => SecretId.schema
  | acknowledgement => .plain

/-- Replies of every kind respect the schema of their kind. -/
theorem respects : ∀ kind : Kind, kind.schema.Respects kind.ofTree?
  | login => Login.respects
  | document => Document.respects
  | written => Written.respects
  | transit => Transit.respects
  | database => Database.respects
  | keys => Keys.respects
  | unsealing => Seal.respects
  | health => Health.respects
  | roleId => RoleId.respects
  | secretId => SecretId.respects
  | acknowledgement => respects_plain

variable {kind : Kind} {t t' : Tree} {bytes bytes' : List UInt8}

/-- No number of changes makes a difference. -/
theorem ofTree?_eq (h : Relation.EqvGen kind.schema.Changes t t') :
    kind.ofTree? t = kind.ofTree? t' := by
  induction h with
  | rel t t' h => exact kind.respects t t' h
  | refl => rfl
  | symm _ _ _ ih => exact ih.symm
  | trans _ _ _ _ _ ih ih' => exact ih.trans ih'

/-- Texts whose trees differ in nothing but the order of members, in members that are no fields and
in fields that hold their defaults, at any depth, are read as the same reply, or neither is read. -/
theorem decode?_eq_of_changes (kind : Kind) (h : t.Writes bytes) (h' : t'.Writes bytes')
    (hchanges : Relation.EqvGen kind.schema.Changes t t') :
    decode? kind.ofTree? bytes = decode? kind.ofTree? bytes' := by
  rw [decode?, decode?, h.read?_eq, h'.read?_eq, Option.bind_some, Option.bind_some,
    ofTree?_eq hchanges]

/-! ### A reply with more in it -/

/-- The credentials of a user in two members. -/
def credentials (username password : String) : List (List UInt8 × Tree) :=
  [(Utf8.encode "username", .string (Utf8.encode username)),
    (Utf8.encode "password", .string (Utf8.encode password))]

/-- The member that holds the credentials. -/
def data (t : Tree) : List UInt8 × Tree := (Utf8.encode "data", t)

/-- A number that no type can hold. -/
def huge : Literal := ⟨false, ['1'], none, some (false, ['9', '9', '9'])⟩

/-- The text of a reply with two members in the block of credentials. -/
theorem writes_credentials : (Tree.object [data (.object (credentials "u" "p"))]).Writes
    (Utf8.encode "\x7b\"data\": \x7b\"username\":\"u\",\"password\":\"p\"\x7d\x7d") := by
  obtain ⟨bytes, hwrites, hbytes⟩ : ∃ bytes,
      (Tree.object [data (.object (credentials "u" "p"))]).Writes bytes ∧
      Utf8.encode "\x7b\"data\": \x7b\"username\":\"u\",\"password\":\"p\"\x7d\x7d" = bytes :=
    ⟨_, .mark .openObject <|
      .string (.of_plain rfl) <| .mark .colon <| .blank List.mem_cons_self <|
        .mark .openObject <|
        .string (.of_plain rfl) <| .mark .colon <| .string (.of_plain rfl) <|
        .mark .comma <|
        .string (.of_plain rfl) <| .mark .colon <| .string (.of_plain rfl) <|
        .mark .closeObject <|
      .mark .closeObject .nil, by decide⟩
  exact hbytes ▸ hwrites

/-- The text of the same reply with more around the block, and with its members the other way round.
-/
theorem writes_extended_credentials :
    (Tree.object [(Utf8.encode "x", .array [.number huge]),
      data (.object (credentials "u" "p").reverse), (Utf8.encode "lease_duration", zero)]).Writes
    (Utf8.encode ("\x7b\"x\":[1e999],\"data\":\x7b\"password\":\"p\",\"username\":\"u\"\x7d," ++
      "\"lease_duration\":0\x7d")) := by
  have hhuge : Token.IsRun (.number huge) (Utf8.encode "1e999") :=
    .number (.mk ⟨⟨by decide, by simp⟩, by decide⟩ .absent (.plain (.inl rfl) ⟨by decide, by simp⟩))
  have hzero : Token.IsRun (.number ⟨false, ['0'], none, none⟩) (Utf8.encode "0") :=
    .number (.mk ⟨⟨by decide, by simp⟩, by decide⟩ .absent .absent)
  obtain ⟨bytes, hwrites, hbytes⟩ : ∃ bytes,
      (Tree.object [(Utf8.encode "x", .array [.number huge]),
        data (.object (credentials "u" "p").reverse),
        (Utf8.encode "lease_duration", zero)]).Writes bytes ∧
      Utf8.encode ("\x7b\"x\":[1e999],\"data\":\x7b\"password\":\"p\",\"username\":\"u\"\x7d," ++
        "\"lease_duration\":0\x7d") = bytes :=
    ⟨_, .mark .openObject <|
      .string (.of_plain rfl) <| .mark .colon <|
        .mark .openArray <| .run hhuge <| .mark .closeArray <|
      .mark .comma <|
      .string (.of_plain rfl) <| .mark .colon <|
        .mark .openObject <|
        .string (.of_plain rfl) <| .mark .colon <| .string (.of_plain rfl) <|
        .mark .comma <|
        .string (.of_plain rfl) <| .mark .colon <| .string (.of_plain rfl) <|
        .mark .closeObject <|
      .mark .comma <|
      .string (.of_plain rfl) <| .mark .colon <| .run hzero <|
      .mark .closeObject .nil, by decide⟩
  exact hbytes ▸ hwrites

/-- The two replies differ by one reordering, one unknown member and one written default. -/
theorem changes_credentials : Relation.EqvGen database.schema.Changes
    (.object [data (.object (credentials "u" "p"))])
    (.object [(Utf8.encode "x", .array [.number huge]),
      data (.object (credentials "u" "p").reverse), (Utf8.encode "lease_duration", zero)]) := by
  have hextra : unescape? (Utf8.encode "x") = some "x" := by decide
  have hdata : unescape? (Utf8.encode "data") = some "data" := by decide
  have hlease : unescape? (Utf8.encode "lease_duration") = some "lease_duration" := by
    decide +kernel
  have hreordered : database.schema.Changes
      (.object ([] ++ data (.object (credentials "u" "p")) :: []))
      (.object ([] ++ data (.object (credentials "u" "p").reverse) :: [])) :=
    .member hdata List.mem_cons_self (.reorder (.swap ..))
  have hinserted : ∀ ms, database.schema.Changes (.object ([] ++ ms))
      (.object ([] ++ (Utf8.encode "x", .array [.number huge]) :: ms)) :=
    fun _ ↦ .insert hextra (by decide)
  have hfilled : ∀ t u, database.schema.Changes
      (.object ([(Utf8.encode "x", t), data u] ++ []))
      (.object ([(Utf8.encode "x", t), data u] ++ [(Utf8.encode "lease_duration", zero)])) :=
    fun _ _ ↦ .fill hlease (List.mem_of_getElem? (i := 2) rfl) (by simp [data, hextra, hdata])
  exact .trans _ _ _ (.rel _ _ hreordered) <|
    .trans _ _ _ (.rel _ _ (hinserted _)) (.rel _ _ (hfilled _ _))

/-- A number that no type can hold under another name, a default that is written and the password
before the user name make no difference to database credentials. -/
theorem decode?_eq_of_extended_credentials :
    decode? database.ofTree?
      (Utf8.encode "\x7b\"data\": \x7b\"username\":\"u\",\"password\":\"p\"\x7d\x7d") =
    decode? database.ofTree?
      (Utf8.encode ("\x7b\"x\":[1e999],\"data\":\x7b\"password\":\"p\",\"username\":\"u\"\x7d," ++
        "\"lease_duration\":0\x7d")) ∧
    decode? database.ofTree?
      (Utf8.encode "\x7b\"data\": \x7b\"username\":\"u\",\"password\":\"p\"\x7d\x7d") =
        some ⟨some ⟨"u", ⟨"p"⟩, none⟩, "", 0, false⟩ :=
  ⟨decode?_eq_of_changes database writes_credentials writes_extended_credentials changes_credentials,
    by decide +kernel⟩

end Kind

end VaultAccess.Reply
