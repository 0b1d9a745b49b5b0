import VaultAccess.Action
import VaultAccess.Session.Basic

/-!
# Obtaining a token

How callers get a token when they come one after the other, and when several come together. Callers that
come together all look at the session before any of them logs in; then each takes its turn.
-/

namespace VaultAccess

/-- Who logs in, and the clock. -/
structure Authenticator (ν : Type) where
  login : Action ν Grant
  now : ν → Instant

/-- A session and the state that its logins act on. -/
structure Link (ν : Type) where
  session : Session
  outside : ν

namespace Link

variable {ν α : Type}

/-- Do something to the state outside a session. -/
def outsideAction (a : Action ν α) : Action (Link ν) α :=
  a.within Link.outside fun n l ↦ { l with outside := n }

/-- Change the session. -/
def changeSession (f : Session → Session) : Action (Link ν) Unit :=
  Action.modifyState fun l ↦ { l with session := f l.session }

/-- What is logged about a login that has ended. -/
def loginEvent : Except AuthenticationFault SessionToken → Event
  | .ok token => .tokenRenewed (token.lease.map (· / 1000))
  | .error fault => .loginFailed fault.message

/-- Log in, and note the outcome. -/
def logIn (auth : Authenticator ν) : Action (Link ν) SessionToken := do
  let outcome ← (outsideAction auth.login).attempt
  changeSession Session.count
  let l ← Action.state
  let (session, result) := l.session.settle (auth.now l.outside) outcome
  changeSession fun _ ↦ session
  Action.emit (loginEvent result)
  Action.ofExcept (result.mapError .authentication)

/-- Take a turn after having seen the count `observed`. -/
def takeTurn (auth : Authenticator ν) (observed : Nat) : Action (Link ν) SessionToken := do
  let l ← Action.state
  match l.session.decision (auth.now l.outside) observed with
  | .use token => return token
  | .share fault => throw (.authentication fault)
  | .logIn => logIn auth

/-- Get a token. -/
def obtain (auth : Authenticator ν) : Action (Link ν) SessionToken := do
  let l ← Action.state
  match l.session.valid? (auth.now l.outside) with
  | some token => return token
  | none => takeTurn auth l.session.attempts

/-- Get a token for each of several callers that come together. -/
def obtainTogether (auth : Authenticator ν) (callers : Nat) :
    Action (Link ν) (List (Except Failure SessionToken)) := do
  let l ← Action.state
  match l.session.valid? (auth.now l.outside) with
  | some token => return List.replicate callers (.ok token)
  | none => (List.range callers).mapM fun _ ↦ (takeTurn auth l.session.attempts).attempt

end Link

end VaultAccess
