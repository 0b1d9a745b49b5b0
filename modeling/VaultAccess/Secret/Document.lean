import VaultAccess.Json.Record
import VaultAccess.Secret.Reference

/-!
# Documents of secrets

A document is a finite map from field names to values. What is stored of it is its payload: all fields
but those that address a secret.
-/

namespace VaultAccess

/-- The fields of a document. -/
abbrev SecretDocument := NameMap String

namespace SecretDocument

/-- The fields that are stored. -/
def payload (d : SecretDocument) : NameMap String :=
  d.filterNames fun name ↦ !Property.routing.contains name

/-- The document that a text spells. -/
def read? (bytes : List UInt8) : Option SecretDocument := do
  (← Json.Tree.read? bytes).map? Json.Tree.text?

/-- The text of a document. -/
def render (d : SecretDocument) : String :=
  (Json.ofTexts d.entries).render

end SecretDocument

/-- A document was stored. -/
structure Stored where
  /-- The version that the document became. -/
  version : UInt32
  deriving Repr, DecidableEq

/-- The same as flat properties. -/
def Stored.properties (s : Stored) : NameMap String :=
  NameMap.empty.insert "version" (toString s.version.toNat)

end VaultAccess
