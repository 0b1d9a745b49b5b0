import VaultAccess.Rotation.Manager

/-!
# A manager, its pool and the clock

Everything that may happen to a manager, in any order: calls by its owner, the loops' own steps, fetches
that end in one way or another, and the passing of time. What a rotation does after its fetch is one step.
That a loop looks at the flag and that it begins to rotate are two, so that a stop may come between them;
and so are that a loop is started and that it hears of a stop.

Time does not pass while a loop has something to do: it cannot pass the end of a loop's sleep, nor a
rotation that is due, nor a stop that a sleeping loop has yet to notice. So loops are never late, although
at one and the same instant everything that is due may happen in any order.
-/

namespace VaultAccess.Rotation

/-- A manager, its pool, the clock, and how many rotations called by hand are under way. -/
structure System (π : Type) where
  manager : Manager
  pool : π
  now : Instant := ⟨0⟩
  calls : Nat := 0
  /-- The log, the newest event first. -/
  log : List Event := []

/-- Something that happens. -/
inductive Move where
  | start (lease : UInt64)
  | stop
  /-- The owner gives the manager up, which stops it. -/
  | drop
  /-- Somebody begins to wait for the loop. -/
  | wait
  /-- A rotation is called by hand. -/
  | call
  /-- The fetch of a rotation called by hand ends. -/
  | finishCall (fetched : Except Failure Credentials)
  /-- A loop that was started hears of a stop from now on. -/
  | listen (loop : Nat)
  /-- A loop's sleep is over, and it looks at the flag. -/
  | wake (loop : Nat)
  /-- A loop that has looked at the flag begins to rotate. -/
  | begin (loop : Nat)
  /-- A sleeping loop notices that the manager was stopped. -/
  | notice (loop : Nat)
  /-- The fetch of a loop's rotation ends. -/
  | finish (loop : Nat) (fetched : Except Failure Credentials)
  /-- Time passes. -/
  | tick (millis : Nat)

namespace System

variable {π : Type}

/-- Log an event. -/
def emit (s : System π) (e : Event) : System π := { s with log := e :: s.log }

/-- Log several events in their order. -/
def emitAll (s : System π) (es : List Event) : System π := { s with log := es.reverse ++ s.log }

/-- The system after a manager has taken a step of its own. -/
def withManager (s : System π) (r : Option (Manager × List Event)) : Option (System π) :=
  r.map fun (manager, events) ↦ { s with manager }.emitAll events

/-- The owner starts the manager. -/
def start (s : System π) (lease : UInt64) : System π :=
  let (manager, events) := s.manager.start lease s.now
  { s with manager }.emitAll events

/-- What a rotation does after its fetch, and the delay until the next one. -/
def conclude (pool : Pool π) (s : System π) (fetched : Except Failure Credentials) :
    System π × UInt64 :=
  let (outcome, p) := Manager.deliver pool fetched s.pool
  let (manager, delay, e) := s.manager.settle outcome
  ({ s with manager, pool := p }.emit e, delay)

/-- A rotation called by hand begins. -/
def call (s : System π) : System π :=
  { s with calls := s.calls + 1 }.emit .rotationBegun

/-- The system after a rotation called by hand, and the delay that it returns. -/
def finishCall? (pool : Pool π) (s : System π) (fetched : Except Failure Credentials) :
    Option (System π × UInt64) :=
  match s.calls with
  | 0 => none
  | n + 1 => some (conclude pool { s with calls := n } fetched)

/-- The system after a loop's rotation. -/
def finish? (pool : Pool π) (s : System π) (loop : Nat)
    (fetched : Except Failure Credentials) : Option (System π) :=
  match s.manager.loops[loop]? with
  | some .rotating =>
    let (s, delay) := conclude pool s fetched
    some { s with manager := s.manager.sleep loop delay s.now }
  | _ => none

/-- The system after time has passed. -/
def tick? (s : System π) (millis : Nat) : Option (System π) :=
  let now := s.now.after millis
  if 0 < millis && s.manager.loops.any (Manager.Phase.isLate s.manager.stopped now) then none
  else some { s with now }

/-- The system after something has happened, if it can happen. -/
def step (pool : Pool π) (s : System π) : Move → Option (System π)
  | .start lease => some (s.start lease)
  | .stop => some { s with manager := s.manager.stop }
  | .drop => some { s with manager := s.manager.stop }
  | .wait => some { s with manager := s.manager.takeHandle.2 }
  | .call => some s.call
  | .finishCall fetched => (finishCall? pool s fetched).map (·.1)
  | .listen loop => s.withManager (s.manager.listen? loop)
  | .wake loop => s.withManager (s.manager.wake? loop s.now)
  | .begin loop => s.withManager (s.manager.begin? loop)
  | .notice loop => s.withManager (s.manager.notice? loop)
  | .finish loop fetched => finish? pool s loop fetched
  | .tick millis => s.tick? millis

/-- The system after several things have happened, if they can all happen. -/
def run (pool : Pool π) (s : System π) : List Move → Option (System π)
  | [] => some s
  | m :: ms => (s.step pool m).bind (run pool · ms)

/-! ### Creating a pool -/

/-- What the first fetch and building a pool lead to: a manager that has been started, or why there is
none. Nothing is started unless both succeed. -/
def create (settings : Settings) (now : Instant) (fetched : Except Failure Credentials)
    (build : Credentials → Except Chain π) : Except Chain (System π) :=
  match fetched with
  | .error f => .error (f.chain.withContext "Unable to read initial database credentials")
  | .ok c =>
    match build c with
    | .error e => .error (e.withContext "Unable to build connection pool")
    | .ok pool =>
      let s : System π := { manager := { settings }, pool, now }
      .ok ((s.start c.lease).emit (.poolCreated c.username c.lease))

end System

end VaultAccess.Rotation
