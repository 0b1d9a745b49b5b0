import VaultAccess.Action
import VaultAccess.Ciphertext
import VaultAccess.Reply

/-!
# Backends

The five calls that the services are made of. A backend acts on a state of its own, so that a service
can be studied over a server on a network as well as over any other implementation.
-/

namespace VaultAccess

/-- An implementation of the calls that services make. -/
structure Backend (σ : Type) where
  /-- The fields of a version of a document; none if nothing is stored. -/
  read : (engine name : String) → (version : Option UInt32) → Action σ (Option (NameMap Json))
  /-- Store a document; the version that it became, if there is one. -/
  write : (engine name : String) → (fields : NameMap String) → Action σ (Option UInt32)
  /-- Encrypt a plaintext. -/
  encrypt : (engine key plaintext : String) → Action σ String
  /-- Decrypt a ciphertext. -/
  decrypt : (engine key ciphertext : String) → Action σ String
  /-- The database credentials at a path; none if nothing came back. -/
  readCredentials : (path : String) → Action σ (Option Reply.Database)

namespace Backend

variable {σ : Type}

/-- Encrypt a plaintext and log it. -/
def encryptLogged (b : Backend σ) (engine key plaintext : String) : Action σ String := do
  let ciphertext ← b.encrypt engine key plaintext
  Action.emit (.encrypted engine key)
  return ciphertext

/-- Decrypt a ciphertext and log it. -/
def decryptLogged (b : Backend σ) (engine key ciphertext : String) : Action σ String := do
  let plaintext ← b.decrypt engine key ciphertext
  Action.emit (.decrypted engine key)
  return plaintext

end Backend

end VaultAccess
