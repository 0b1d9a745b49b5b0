import VaultAccess.Proofs.Secrecy.Administration
import VaultAccess.Proofs.Secrecy.Rotations

/-!
# Programs and what can be seen of them

A program builds services, reads and stores secrets with them, fetches database credentials,
administers servers and lets credentials rotate. What it has in hand it keeps under numbers, like
values of variables, and every operation comes with the answers of the server to its requests. Of
each operation can be seen what it ends in, what it logs and which requests it sends
(`Desk.observe`). Failures show the words of the reader of what servers send, which are a parameter.
-/

namespace VaultAccess

open VaultAccess.Action Http Rotation

/-! ### Programs -/

/-- A service: the client that it is made of, its session, and where it reads database credentials.
A service for secrets reads none. -/
structure Service where
  client : Client
  path : String := ""
  session : Session := {}

/-- What a program has in hand, and the server that it talks to. -/
structure Desk (π : Type) where
  services : Nat → Option Service := fun _ ↦ none
  admins : Nat → Option Endpoint := fun _ ↦ none
  systems : Nat → Option (System π) := fun _ ↦ none
  server : Recorded Server := ⟨{}, []⟩

/-- Something that a program does. -/
inductive Operation (π : Type) where
  /-- Build a service for secrets. -/
  | keyVault (service : Nat) (f : Factory) (c : ServerConfig) (env : Environment)
  /-- Build a source of database credentials. -/
  | databaseSource (service : Nat) (f : Factory) (c : DatabaseConfig) (env : Environment)
  /-- Build an endpoint for administration. -/
  | admin (endpoint : Nat) (f : Factory) (c : ServerConfig)
  | get (service : Nat) (r : SecretReference)
  | set (service : Nat) (r : SecretReference) (d : SecretDocument)
  /-- Fetch database credentials. -/
  | fetch (service : Nat)
  | administer (endpoint : Nat) (task : Admin.Task)
  /-- Build a pool with fetched credentials, and a manager that is started. -/
  | createPool (system service : Nat) (settings : Rotation.Settings)
      (build : Credentials → Except Chain π)
  /-- Make a manager for a pool that there is. -/
  | manage (system : Nat) (settings : Rotation.Settings) (pool : π)
  /-- Something happens to a manager. -/
  | move (system : Nat) (m : Move)
  /-- The rotation of a loop ends, or one called by hand, with what a service fetches. -/
  | rotate (system : Nat) (loop : Option Nat) (service : Nat)
  /-- Time passes. -/
  | pass (millis : Nat)

/-- What can be seen of what an operation ends in. Of a method and of credentials it is what
diagnostics show, and what else there is of them that is not secret. -/
inductive Outcome where
  | built (method path : String)
  | ready (e : Endpoint)
  | value (text : String)
  | stored (s : Stored)
  | credentials (username : String) (lease : UInt64) (diagnostics : String)
  | reported (report : Admin.Report)
  | managed (m : Manager)
  | refused (c : Chain)
  /-- What the operation needs is not there, or it cannot happen. -/
  | nothing

/-- Log what was logged elsewhere, the newest event first. -/
def Action.appendLog {σ : Type} (log : List Event) : Action σ Unit :=
  modifyThe (Scene σ) fun s ↦ { s with log := log ++ s.log }

namespace Desk

variable {π : Type} (words : Reply.Kind → List UInt8 → String)

/-- Keep a service. -/
def keepService (i : Nat) (s : Service) : Action (Desk π) Outcome := do
  Action.modifyState fun d ↦ { d with services := Function.update d.services i (some s) }
  return .built s.client.method.shown s.path

/-- Use a service, if it is there. -/
def withService {α : Type} (i : Nat) (use : Service → Action (Link (Recorded Server)) α) :
    Action (Desk π) (Option α) := do
  let d ← Action.state
  match d.services i with
  | none => return none
  | some s =>
    let x ← (use s).within (fun d ↦ ⟨s.session, d.server⟩) fun l d ↦
      { d with
        services := Function.update d.services i (some { s with session := l.session })
        server := l.outside }
    return some x

/-- What comes of fetching database credentials. -/
def fetched (i : Nat) : Action (Desk π) (Option (Except Failure Credentials)) :=
  withService i fun s ↦
    (DatabaseSource.read (s.client.backend (Server.network words).recorded) s.path).attempt

/-- Do something as an administrator, if there is an endpoint. -/
def administer (i : Nat) (task : Admin.Task) : Action (Desk π) Outcome := do
  let d ← Action.state
  match d.admins i with
  | none => return .nothing
  | some e =>
    return .reported (← (task.run e (Server.network words).recorded).within Desk.server fun s d ↦
      { d with server := s })

/-- Keep a manager and its pool, and log what it has logged. -/
def keepSystem (i : Nat) (s : System π) : Action (Desk π) Outcome := do
  Action.appendLog s.log
  Action.modifyState fun d ↦
    { d with systems := Function.update d.systems i (some { s with log := [] }) }
  return .managed s.manager

/-- Create a pool with what was fetched. -/
def createPool (i : Nat) (settings : Rotation.Settings) (build : Credentials → Except Chain π)
    (fetched : Except Failure Credentials) : Action (Desk π) Outcome := do
  let d ← Action.state
  match System.create settings d.server.outside.now fetched build with
  | .error c => return .refused c
  | .ok s => keepSystem i s

/-- Let something happen to a manager, if it can. -/
def move (pool : Pool π) (i : Nat) (m : Move) : Action (Desk π) Outcome := do
  let d ← Action.state
  match (d.systems i).bind (·.step pool m) with
  | none => return .nothing
  | some s => keepSystem i s

/-- Do what an operation says. -/
def perform (pool : Pool π) : Operation π → Action (Desk π) Outcome
  | .keyVault i f c env => do keepService i ⟨← f.keyVault c env, "", {}⟩
  | .databaseSource i f c env => do
    let (client, path) ← f.databaseSource c env
    keepService i ⟨client, path, {}⟩
  | .admin i f c => do
    let e ← f.admin c
    Action.modifyState fun d ↦ { d with admins := Function.update d.admins i (some e) }
    return .ready e
  | .get i r => do
    let text ← withService i fun s ↦ KeyVault.get (s.client.backend (Server.network words).recorded) r
    return (text.map Outcome.value).getD .nothing
  | .set i r d => do
    let s ← withService i fun s ↦ KeyVault.set (s.client.backend (Server.network words).recorded) r d
    return (s.map Outcome.stored).getD .nothing
  | .fetch i => do
    match ← fetched words i with
    | none => return .nothing
    | some r =>
      let c ← Action.ofExcept r
      return .credentials c.username c.lease c.shown
  | .administer i task => administer words i task
  | .createPool i service settings build => do
    match ← fetched words service with
    | none => return .nothing
    | some r => createPool i settings build r
  | .manage i settings p => do
    let d ← Action.state
    keepSystem i { manager := { settings }, pool := p, now := d.server.outside.now }
  | .move i m => move pool i m
  | .rotate i loop service => do
    match ← fetched words service, loop with
    | none, _ => return .nothing
    | some r, none => move pool i (.finishCall r)
    | some r, some loop => move pool i (.finish loop r)
  | .pass millis => do
    Action.modifyState fun d ↦ { d with
      server := { d.server with outside := { d.server.outside with
        now := d.server.outside.now.after millis } } }
    return .nothing

end Desk

/-! ### What can be seen -/

/-- An operation and the answers to its requests, those to logins and those to others. -/
structure Step (π : Type) where
  operation : Operation π
  logins : List Answer := []
  others : List Answer := []

/-- What can be seen of a step. -/
structure Observation where
  outcome : Except Failure Outcome
  events : List Event
  requests : List Request

namespace Desk

variable {π : Type} (words : Reply.Kind → List UInt8 → String)

/-- Let the server have answers ready. -/
def load (d : Desk π) (logins others : List Answer) : Desk π :=
  { d with server := ⟨⟨logins, others, d.server.outside.now⟩, []⟩ }

/-- The outcome of a step and the surroundings after it. -/
def take (pool : Pool π) (d : Desk π) (x : Step π) : Except Failure Outcome × Scene (Desk π) :=
  (perform words pool x.operation).perform ⟨d.load x.logins x.others, []⟩

/-- What can be seen of several steps, one after the other. -/
def observe (pool : Pool π) (d : Desk π) : List (Step π) → List Observation
  | [] => []
  | x :: xs =>
    let (outcome, scene) := d.take words pool x
    ⟨outcome, scene.log.reverse, scene.state.server.exchanges.map (·.request)⟩ ::
      observe pool scene.state xs

end Desk

end VaultAccess
