import VaultAccess.Pem
import VaultAccess.Tls.Certificate

/-!
# Identities

What a client proves who it is with on an encrypted connection: a private key and a chain of certificates,
of which the first is for that key. The others are for the server, which is handed them unread.
-/

namespace VaultAccess.Tls

/-- A private key and a chain of certificates, as bytes. -/
structure Identity where
  format : PrivateKey.Format
  key : List UInt8
  /-- The certificate for the key. -/
  certificate : List UInt8
  /-- The rest of the chain. -/
  issuers : List (List UInt8)

namespace Identity

/-- The contents of the certificates among blocks. -/
def certificates (blocks : List Pem.Block) : List (List UInt8) :=
  (blocks.filter fun b ↦ b.kind = .certificate).map (·.content)

/-- The private keys among blocks. -/
def keys (blocks : List Pem.Block) : List (PrivateKey.Format × List UInt8) :=
  blocks.filterMap fun b ↦
    match b.kind with
    | .privateKey format => some (format, b.content)
    | _ => none

/-- The identity that blocks make up. They are nothing but certificates and private keys, at least one of
each, and the last key counts. -/
def ofBlocks? (blocks : List Pem.Block) : Option Identity :=
  if blocks.any (·.kind = .other) then none
  else
    match (keys blocks).getLast?, certificates blocks with
    | some (format, key), certificate :: issuers => some { format, key, certificate, issuers }
    | _, _ => none

/-- Whether the key is sound and the first certificate is for it. -/
def isConsistent (i : Identity) : Bool :=
  match PrivateKey.info? i.format i.key with
  | some info => (Certificate.read? i.certificate).any (·.subjectKey == info)
  | none => false

end Identity

end VaultAccess.Tls
