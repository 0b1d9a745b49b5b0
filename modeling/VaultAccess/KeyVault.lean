import VaultAccess.Backend
import VaultAccess.Secret.Document

/-!
# Secrets in documents

Reading and storing secrets. A stored value that is a ciphertext is decrypted when it is read; if the
address of a secret names a key, every value that is not empty is encrypted before it is stored.
-/

namespace VaultAccess.KeyVault

variable {σ : Type}

/-- The text of a field: a text as it is, any other value as it is printed. -/
def fieldText : Json → String
  | .text s => s
  | v => v.render

/-- What is to be done with the text of a field: nothing, or decryption with some key. -/
inductive Reading where
  | plain (value : String)
  | encrypted (engine key ciphertext : String)
  deriving Repr, DecidableEq

/-- Find a secret in a document that was read. -/
def find (r : SecretReference) (document : Option (NameMap Json)) : Except Failure Reading := do
  let some fields := document | throw (.notFound (.document r.location))
  let some field := fields.get? r.id | throw (.notFound (.field r.id r.location))
  let value := fieldText field
  if !Ciphertext.isCiphertext value then return .plain value
  match r.transit with
  | some (engine, key) => return .encrypted engine key value
  | none => throw (.decryptionUnconfigured r.missingTransit)

/-- The value of a secret. -/
def get (b : Backend σ) (r : SecretReference) : Action σ String := do
  match ← Action.ofExcept (find r (← b.read r.engine r.name r.version)) with
  | .plain value => return value
  | .encrypted engine key value => b.decryptLogged engine key value

/-- A value as it is stored. -/
def storedValue (b : Backend σ) (r : SecretReference) (value : String) : Action σ String :=
  match r.transit with
  | some (engine, key) => if value.isEmpty then return value else b.encryptLogged engine key value
  | none => return value

/-- Fields as they are stored, one after the other. -/
def storedFields (b : Backend σ) (r : SecretReference) :
    List (String × String) → Action σ (List (String × String))
  | [] => return []
  | (name, value) :: rest => do
    let value ← storedValue b r value
    return (name, value) :: (← storedFields b r rest)

/-- Store a document. -/
def set (b : Backend σ) (r : SecretReference) (d : SecretDocument) : Action σ Stored := do
  let fields ← storedFields b r (SecretDocument.payload d).entries
  let version ← Action.orFail (.unsaved .noVersion)
    (← b.write r.engine r.name (NameMap.ofList fields))
  Action.emit (.stored version)
  return ⟨version⟩

end VaultAccess.KeyVault
