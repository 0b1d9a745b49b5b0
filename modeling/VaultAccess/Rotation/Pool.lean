import VaultAccess.Credentials
import VaultAccess.Failure

/-!
# Pools

A pool of connections whose credentials can be replaced while it is in use. Each of its three hooks may
fail, and there is no way back to the credentials before: an update that fails half-way leaves the pool
with what it has accepted so far.
-/

namespace VaultAccess.Rotation

/-- Something done to a pool. What was done before an error stays done. -/
abbrev PoolAction (π α : Type) := ExceptT Chain (StateM π) α

/-- A pool with a state of some type. -/
structure Pool (π : Type) where
  /-- Set the user name of new connections. -/
  setUsername : String → PoolAction π Unit
  /-- Set the password of new connections. -/
  setPassword : Secret → PoolAction π Unit
  /-- Retire idle connections, so that they come back with the new credentials. -/
  evict : PoolAction π Unit

/-- Hand credentials to a pool. -/
def Pool.update {π : Type} (p : Pool π) (c : Credentials) : PoolAction π Unit := do
  p.setUsername c.username
  p.setPassword c.password
  p.evict

/-! ### A pool that keeps a record -/

/-- One of the hooks of a pool. -/
inductive Hook where
  | setUsername
  | setPassword
  | evict
  deriving Repr, DecidableEq

/-- A call of a hook, the text that it was given, and whether the pool accepted it. -/
structure HookCall where
  hook : Hook
  text : Option String
  accepted : Bool
  deriving Repr, DecidableEq

/-- A pool that keeps a record of its calls, the newest first, and refuses some of them. -/
structure RecordedPool where
  calls : List HookCall := []
  refusal : Hook → Option Chain := fun _ ↦ none

namespace RecordedPool

/-- Record a call, which is refused or not. -/
def call (hook : Hook) (text : Option String) : PoolAction RecordedPool Unit :=
  ExceptT.mk fun p ↦
    match p.refusal hook with
    | none => (.ok (), { p with calls := ⟨hook, text, true⟩ :: p.calls })
    | some e => (.error e, { p with calls := ⟨hook, text, false⟩ :: p.calls })

/-- The hooks of a pool that keeps a record. -/
def hooks : Pool RecordedPool where
  setUsername name := call .setUsername (some name)
  setPassword password := call .setPassword (some password.expose)
  evict := call .evict none

end RecordedPool

end VaultAccess.Rotation
