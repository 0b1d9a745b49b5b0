import VaultAccess.Base64
import VaultAccess.Environment
import VaultAccess.Http.Fault
import VaultAccess.Http.Status
import VaultAccess.Rotation.Tunables
import VaultAccess.Text.Numeral
import VaultAccess.Text.Utf8

/-!
# Causes of failure

One type for each group of things that can go wrong, and the wording of each. A cause that some other
part of an application reports in its own words is `described`.
-/

namespace VaultAccess

/-- What can be wrong with a configuration. -/
inductive Misconfiguration where
  /-- A variable that has to be set is not. -/
  | variableUnset (name : String)
  /-- Properties that have to be there are absent or empty. -/
  | propertiesMissing (names : List String)
  /-- Some tunables have no usable value. -/
  | tunables (faults : List Rotation.TunableFault)
  /-- The address of the server cannot be used. -/
  | malformedAddress
  /-- A property of a secret's address is missing. -/
  | propertyUnset (name : String)
  /-- The version of a secret is no version number. -/
  | malformedVersion (text : String) (fault : Numeral.Fault)
  | described (text : String)
  deriving Repr, DecidableEq

/-- The wording of a wrong configuration. -/
def Misconfiguration.message : Misconfiguration → String
  | .variableUnset name => name ++ " must be set"
  | .propertiesMissing names =>
    "[" ++ ", ".intercalate names ++ "] missing in the configuration. This/these properties " ++
      "should be defined in configuration section: jdbc.hashicorpVaultDbCredentialsConfig"
  | .tunables faults => " ".intercalate (faults.map Rotation.TunableFault.message)
  | .malformedAddress => "Provided Hashicorp Vault url is incorrectly formatted"
  | .propertyUnset name => name ++ " must be provided"
  | .malformedVersion text fault =>
    "Invalid secretVersion \"" ++ text ++ "\": " ++ fault.message
  | .described text => text

/-- Why a client cannot prove who it is. -/
inductive AuthenticationFault where
  /-- No variable of any method is set. -/
  | noMethod
  /-- One of the two variables of the role method is set, the other is not. -/
  | halfPair
  /-- The role method cannot be used because a variable is missing. -/
  | incompletePair
  /-- Neither the role method nor the token method can be used. -/
  | noPairAndNoToken
  /-- The role method is not mounted where it should be. -/
  | mountMissing (path : String)
  | described (text : String)
  deriving Repr, DecidableEq

/-- The wording of an authentication fault. -/
def AuthenticationFault.message : AuthenticationFault → String
  | .noMethod =>
    "Environment variables must be set to authenticate with Hashicorp Vault.  Set the " ++
      Variable.roleId ++ " and " ++ Variable.secretId ++ " environment variables if using the " ++
      "AppRole authentication method.  Set the " ++ Variable.token ++
      " environment variable if using another authentication method."
  | .halfPair =>
    "Only one of the " ++ Variable.roleId ++ " and " ++ Variable.secretId ++ " environment " ++
      "variables to authenticate with Hashicorp Vault using the AppRole method has been set"
  | .incompletePair => pairNeeded
  | .noPairAndNoToken =>
    pairNeeded ++ ".  Alternatively set " ++ Variable.token ++
      " to authenticate using the Token method"
  | .mountMissing path => "AppRole mount " ++ path ++ " not found"
  | .described text => text
where
  /-- What the role method needs. -/
  pairNeeded : String :=
    "Both " ++ Variable.roleId ++ " and " ++ Variable.secretId ++
      " environment variables must be set to use the AppRole authentication method"

/-- What was asked for and is not there. -/
inductive Absence where
  | document (location : String)
  | field (id location : String)
  | role (location : String)
  | described (text : String)
  deriving Repr, DecidableEq

/-- The wording of an absence. -/
def Absence.message : Absence → String
  | .document location => "No data found at " ++ location
  | .field id location => "No value with id " ++ id ++ " found at " ++ location
  | .role location => "No role found at " ++ location
  | .described text => text

/-- Why a server cannot be used at the moment. -/
inductive Outage where
  /-- A request got no response. -/
  | unsent (fault : Http.Fault)
  /-- The server reports an error of its own. -/
  | status (code : Http.Status) (text : String)
  | described (text : String)
  deriving Repr, DecidableEq

/-- A response whose status tells of a failure, as messages show it. -/
def shownStatus (code : Http.Status) (text : String) : String :=
  "Status " ++ code.shown ++ ": " ++ text

/-- The wording of an outage. -/
def Outage.message : Outage → String
  | .unsent fault => fault.message
  | .status code text => shownStatus code text
  | .described text => text

/-- What is unexpected about a response. -/
inductive Surprise where
  /-- A status that stands for neither success nor a known failure. -/
  | status (code : Http.Status) (text : String)
  /-- A response that should have a body has none. -/
  | noBody (path : String)
  | noCiphertext
  | noPlaintext
  /-- A plaintext that is not written in base 64. -/
  | notBase64 (fault : Base64.Fault)
  /-- A plaintext whose bytes are no text. -/
  | notUtf8 (fault : Utf8.Fault)
  | described (text : String)
  deriving Repr, DecidableEq

/-- The wording of a surprise. -/
def Surprise.message : Surprise → String
  | .status code text => shownStatus code text
  | .noBody path => path ++ " returned no body"
  | .noCiphertext => "transit encrypt returned no ciphertext"
  | .noPlaintext => "transit decrypt returned no plaintext"
  | .notBase64 fault => "transit plaintext is not base64: " ++ fault.message
  | .notUtf8 fault => "transit plaintext is not UTF-8: " ++ fault.message
  | .described text => text

/-- Why a document was not stored. -/
inductive PersistenceFault where
  /-- The server accepted a document but names no version of it. -/
  | noVersion
  | described (text : String)
  deriving Repr, DecidableEq

/-- The wording of a persistence fault. -/
def PersistenceFault.message : PersistenceFault → String
  | .noVersion =>
    "Unable to save generated secret to vault.  Ensure that the secret engine being used is a " ++
      "v2 kv secret engine"
  | .described text => text

/-- Why database credentials were not read. -/
inductive CredentialsFault where
  /-- Reading failed for another reason. -/
  | unreadable
  /-- The response holds no credentials. -/
  | emptyResponse
  | described (text : String)
  deriving Repr, DecidableEq

/-- The wording of a credentials fault. -/
def CredentialsFault.message : CredentialsFault → String
  | .unreadable => "Unexpected error reading db credentials from hashicorp vault"
  | .emptyResponse =>
    "Empty response from Hashicorp vault while trying to retrieve database credentials."
  | .described text => text

end VaultAccess
