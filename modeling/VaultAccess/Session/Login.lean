import VaultAccess.Authentication
import VaultAccess.Exchange
import VaultAccess.Reply
import VaultAccess.Session.Obtain

/-!
# Logging in

A token issued beforehand needs no login. The role method sends the id and the secret of a role to
where the method is mounted and gets a token.
-/

namespace VaultAccess.Authentication

variable {ν : Type}

/-- Failures that say that the server did not accept a login. -/
def asRefusal : Failure → Failure
  | .forbidden path => .authentication (.described (Failure.forbidden path).message)
  | .unexpectedResponse cause =>
    .authentication (.described (Failure.unexpectedResponse cause).message)
  | f => f

/-- The body of a login with the role method. -/
def loginBody (roleId secretId : Secret) : Json :=
  .object [("role_id", .text roleId.expose), ("secret_id", .text secretId.expose)]

/-- Get a token with some method. -/
def login (endpoint : Endpoint) (net : Http.Network ν) : Authentication → Action ν Grant
  | .token value => return ⟨value, none⟩
  | .approle path roleId secretId => do
    let reply ← Action.mapFailure asRefusal
      (endpoint.request net (net.reader .login) .post ("auth/" ++ path ++ "/login") none
        (some (loginBody roleId secretId)))
    let issued ← Action.orFail (.authentication (.mountMissing path)) reply
    Action.emit (.authenticated issued.leaseDuration issued.renewable)
    return ⟨issued.clientToken, some (Instant.ofSeconds issued.leaseDuration)⟩

/-- Whoever logs in with some method at some endpoint. -/
def authenticator (method : Authentication) (endpoint : Endpoint) (net : Http.Network ν) :
    Authenticator ν :=
  ⟨method.login endpoint net, net.now⟩

end VaultAccess.Authentication
