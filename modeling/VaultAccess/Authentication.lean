import VaultAccess.Failure
import VaultAccess.Secret.Basic
import VaultAccess.Text.Quoted

/-!
# Methods of authentication

A client proves who it is with a token issued beforehand or with the id and the secret of an application
role. Which of the two it uses is read from environment variables. `Authentication.checkEnvironment` and
`Authentication.ofEnvironment` are two checks of the same variables, with messages of their own.
-/

namespace VaultAccess

/-- How a client proves who it is. -/
inductive Authentication where
  | token (value : Secret)
  | approle (path : String) (roleId secretId : Secret)
  deriving DecidableEq

namespace Authentication

/-- Check that some method can be used and that the role method is set in full or not at all. -/
def checkEnvironment (env : Environment) : Except Failure Unit :=
  match env.get? Variable.roleId, env.get? Variable.secretId, env.get? Variable.token with
  | none, none, none => .error (.authentication .noMethod)
  | some _, none, _ => .error (.authentication .halfPair)
  | none, some _, _ => .error (.authentication .halfPair)
  | _, _, _ => .ok ()

/-- The method that the variables select, the role method first. -/
def ofEnvironment (env : Environment) (approlePath : String) : Except Failure Authentication :=
  match env.get? Variable.roleId, env.get? Variable.secretId, env.get? Variable.token with
  | some roleId, some secretId, _ => .ok (.approle approlePath ⟨roleId⟩ ⟨secretId⟩)
  | none, none, some value => .ok (.token ⟨value⟩)
  | none, none, none => .error (.authentication .noPairAndNoToken)
  | _, _, _ => .error (.authentication .incompletePair)

/-- The name of a method. -/
def name : Authentication → String
  | .token _ => "token"
  | .approle _ _ _ => "approle"

/-- A method as diagnostics show it. -/
def shown : Authentication → String
  | .token value => "Token(" ++ value.shown ++ ")"
  | .approle path roleId secretId =>
    "AppRole \x7b path: " ++ Text.quoted path ++ ", role_id: " ++ roleId.shown ++
      ", secret_id: " ++ secretId.shown ++ " \x7d"

end Authentication

end VaultAccess
