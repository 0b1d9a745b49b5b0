import VaultAccess.Failure
import VaultAccess.NameMap

/-!
# Addresses of secrets

A secret is a field of a document in a versioned engine. An address names all three and may pin a
version of the document; it may also name the key that values are encrypted with. Addresses are read
from flat properties.
-/

namespace VaultAccess

namespace Property

/-- The version of the document. -/
def version : String := "secretVersion"

/-- The field of the document. -/
def id : String := "secretId"

/-- The document. -/
def name : String := "secretName"

/-- The engine that holds the document. -/
def engine : String := "secretEngineName"

/-- The engine that encrypts. -/
def transitEngine : String := "transitSecretEngineName"

/-- The key to encrypt with. -/
def transitKey : String := "transitKeyName"

/-- The properties that address a secret and are never stored with it. -/
def routing : List String := [name, id, engine, transitEngine, transitKey]

end Property

/-- The address of a secret. -/
structure SecretReference where
  engine : String
  name : String
  id : String
  /-- The version to read; none and zero stand for the latest. -/
  version : Option UInt32 := none
  transitEngine : Option String := none
  transitKey : Option String := none
  deriving Repr, DecidableEq

namespace SecretReference

/-- A text, unless it is empty. -/
def nonEmpty (value : Option String) : Option String :=
  value.filter fun v ↦ !v.isEmpty

/-- The engine and the key to encrypt with, if both are named. -/
def transit (r : SecretReference) : Option (String × String) :=
  match nonEmpty r.transitEngine, nonEmpty r.transitKey with
  | some engine, some key => some (engine, key)
  | _, _ => none

/-- The names of the properties that encryption lacks, the engine first. -/
def missingTransit (r : SecretReference) : List String :=
  (if (nonEmpty r.transitEngine).isNone then [Property.transitEngine] else []) ++
    (if (nonEmpty r.transitKey).isNone then [Property.transitKey] else [])

/-- The document as messages show it. -/
def location (r : SecretReference) : String := r.engine ++ "/" ++ r.name

/-- The value of a property that has to be there. -/
def property (properties : NameMap String) (name : String) : Except Failure String :=
  match properties.get? name with
  | some value => .ok value
  | none => .error (.configuration (.propertyUnset name))

/-- The version among properties. -/
def versionOf (properties : NameMap String) : Except Failure (Option UInt32) :=
  match properties.get? Property.version with
  | none => .ok none
  | some text =>
    match Numeral.unsigned32 text with
    | .ok v => .ok (some v)
    | .error fault => .error (.configuration (.malformedVersion text fault))

/-- The address that properties spell. -/
def ofProperties (properties : NameMap String) : Except Failure SecretReference := do
  let version ← versionOf properties
  let engine ← property properties Property.engine
  let name ← property properties Property.name
  return {
    engine, name, version
    id := (properties.get? Property.id).getD ""
    transitEngine := properties.get? Property.transitEngine
    transitKey := properties.get? Property.transitKey }

end SecretReference

end VaultAccess
