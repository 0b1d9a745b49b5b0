import VaultAccess.Failure.Cause

/-!
# Failures

A failure is one of a few kinds, each with its cause. `Failure.message` is what is shown for it,
`Failure.causes` are the messages of the failures below it, outermost first, and `Failure.isRetryable`
tells whether the same request may succeed later.

Errors of the libraries below, for files, for requests and for documents, are kept as they are: what
they say is shown behind what failed, and once more below it.
-/

namespace VaultAccess

/-- Failures of the ground that a client stands on: its files, its settings and its log. -/
inductive PlatformFailure where
  /-- A client cannot be built or cannot make a request. -/
  | client (error : Http.Error)
  /-- A file with keys or certificates cannot be read. -/
  | material (path : String) (error : Chain)
  | unavailable (text : String)
  /-- The log cannot be set up. -/
  | logging (reason : String)
  deriving Repr, DecidableEq

namespace PlatformFailure

/-- The wording of a platform failure. -/
def message : PlatformFailure → String
  | .client error => "HTTP request failed: " ++ error.message
  | .material path error => "Unable to read TLS material from " ++ path ++ ": " ++ error.message
  | .unavailable text => "Service unavailable: " ++ text
  | .logging reason => "Tracing initialisation failed: " ++ reason

/-- The messages below a platform failure. -/
def causes : PlatformFailure → List String
  | .client error => error.messages
  | .material _ error => error.messages
  | _ => []

/-- Whether the same may succeed later. -/
def isRetryable : PlatformFailure → Bool
  | .client error => error.timedOut || error.unconnected
  | .unavailable _ => true
  | _ => false

end PlatformFailure

/-- Failures of operations on a vault. -/
inductive Failure where
  | configuration (cause : Misconfiguration)
  | authentication (cause : AuthenticationFault)
  | notFound (cause : Absence)
  /-- A value is a ciphertext and the names needed to decrypt it are missing. -/
  | decryptionUnconfigured (missing : List String)
  | unsaved (cause : PersistenceFault)
  | credentials (cause : CredentialsFault)
  /-- Database credentials were not read because of another failure. -/
  | credentialsAfter (cause : CredentialsFault) (source : Failure)
  | unavailable (cause : Outage)
  | forbidden (path : String)
  | rateLimited
  | unexpectedResponse (cause : Surprise)
  /-- A body is not the document that it should be. -/
  | undecodable (error : Chain)
  /-- A body did not arrive in full. -/
  | interrupted (error : Http.Error)
  | platform (failure : PlatformFailure)
  deriving Repr, DecidableEq

namespace Failure

/-- The wording of a failure. -/
def message : Failure → String
  | .configuration cause => "Invalid configuration: " ++ cause.message
  | .authentication cause => "Authentication failed: " ++ cause.message
  | .notFound cause => cause.message
  | .decryptionUnconfigured missing =>
    "Vault key value needs to be decrypted, but the following configuration was/were not " ++
      "provided: [ " ++ ", ".intercalate missing ++ " ]"
  | .unsaved cause => cause.message
  | .credentials cause => cause.message
  | .credentialsAfter cause _ => cause.message
  | .unavailable cause => "Vault unavailable: " ++ cause.message
  | .forbidden path => "Permission denied: " ++ path
  | .rateLimited => "Rate limited"
  | .unexpectedResponse cause => "Unexpected response from Vault: " ++ cause.message
  | .undecodable error => "Serialization error: " ++ error.message
  | .interrupted error => "HTTP error: " ++ error.message
  | .platform failure => failure.message

/-- The messages below a failure, outermost first. -/
def causes : Failure → List String
  | .credentialsAfter _ source => source.message :: source.causes
  | .undecodable error => error.messages
  | .interrupted error => error.messages
  | .platform failure => failure.causes
  | _ => []

/-- Whether the same request may succeed later. -/
def isRetryable : Failure → Bool
  | .unavailable _ => true
  | .rateLimited => true
  | .interrupted _ => true
  | .platform failure => failure.isRetryable
  | .credentialsAfter _ source => source.isRetryable
  | _ => false

/-- The messages of a failure. -/
def chain (f : Failure) : Chain := ⟨f.message, f.causes⟩

end Failure

end VaultAccess
