import VaultAccess.Event
import VaultAccess.Instant
import VaultAccess.Rotation.Pool

/-!
# The manager of a rotation

A manager counts the failures in a row and keeps the delay that was scheduled last. It starts a loop,
which sleeps until shortly before a lease ends, rotates, and sleeps again. Stopping is final: the flag is
never taken back, and a loop that sees it ends.

A loop looks at the flag when its sleep is over, and only then begins a rotation. These are two steps, and
so are starting a loop and having it listen for a stop: whatever else happens to a manager may happen
between them.

Whether a manager has been started is told by a handle to its loop, which waiting for the loop takes away.
All loops that were ever started are kept, so that their number can be spoken of.
-/

namespace VaultAccess.Rotation

/-- What a loop does. -/
inductive Phase where
  /-- It sleeps and does not hear of a stop yet, because starting it is still under way. -/
  | starting (wake : Instant)
  | sleeping (wake : Instant)
  /-- Its sleep is over and it has not seen a stop: a rotation is about to begin. -/
  | due (wake : Instant)
  | rotating
  | ended
  deriving Repr, DecidableEq

/-- The state of a manager. -/
structure Manager where
  settings : Settings
  /-- How many rotations in a row have failed, as far as the backoff counts. -/
  retries : UInt32 := 0
  /-- The delay that was scheduled last. -/
  lastDelay : UInt64 := 0
  stopped : Bool := false
  /-- The loops that were started, in order. -/
  loops : List Phase := []
  /-- The loop that nobody waits for yet. -/
  handle : Option Nat := none

namespace Manager

/-! ### Rotations -/

/-- Note the outcome of a rotation, a lease or an error; the delay until the next one, and what is
logged. -/
def settle (m : Manager) : Except Chain UInt64 → Manager × UInt64 × Event
  | .ok lease =>
    let delay := m.settings.nextDelay lease
    ({ m with retries := 0, lastDelay := delay }, delay, .rotationSucceeded delay)
  | .error e =>
    let (delay, attempt) := m.settings.backoff.delay m.retries
    ({ m with retries := attempt + 1, lastDelay := delay }, delay,
      .rotationFailed delay e.summary)

/-- Hand what was fetched to a pool: the lease, or why there is none. -/
def deliver {π : Type} (pool : Pool π) (fetched : Except Failure Credentials) (p : π) :
    Except Chain UInt64 × π :=
  match fetched with
  | .error f => (.error f.chain, p)
  | .ok c =>
    let (r, p) := (pool.update c).run p
    (r.map fun _ ↦ c.lease, p)

/-! ### Starting and stopping -/

/-- The longest time that a loop sleeps, in seconds: thirty years. -/
def longestSleep : UInt64 := 946080000

/-- When a sleep that begins now is over. -/
def wakeAfter (delay : UInt64) (now : Instant) : Instant :=
  now.after (Instant.ofSeconds (min delay longestSleep))

/-- A sleep of at most the longest time is as long as the delay says. -/
theorem wakeAfter_of_le {delay : UInt64} (h : delay ≤ longestSleep) (now : Instant) :
    wakeAfter delay now = now.after (Instant.ofSeconds delay) := by
  have hmin : min delay longestSleep = delay := if_pos h
  rw [wakeAfter, hmin]

/-- Start a loop that rotates before a lease ends, unless there is one or the manager was stopped. -/
def start (m : Manager) (lease : UInt64) (now : Instant) : Manager × List Event :=
  if m.handle.isSome then (m, [.alreadyStarted])
  else if m.stopped then (m, [.stoppedBeforeStart])
  else
    let delay := m.settings.nextDelay lease
    ({ m with
        lastDelay := delay
        loops := m.loops ++ [.starting (wakeAfter delay now)]
        handle := some m.loops.length },
      [.lifecycleStarting, .lifecycleStarted delay m.settings])

/-- Keep further rotations from starting. -/
def stop (m : Manager) : Manager := { m with stopped := true }

/-- Take the handle, to wait for the loop. -/
def takeHandle (m : Manager) : Option Nat × Manager := (m.handle, { m with handle := none })

/-! ### Loops -/

/-- Set what a loop does. -/
def setPhase (m : Manager) (loop : Nat) (p : Phase) : Manager :=
  { m with loops := m.loops.set loop p }

/-- Whether a loop would be late if the time were `now`: a sleep would have been over before, a rotation
that is due or a stop would have been put off. A loop that was started while the manager was being stopped
need not hear of it before its sleep is over. -/
def Phase.isLate (stopped : Bool) (now : Instant) : Phase → Bool
  | .starting wake => !stopped || wake.millis < now.millis
  | .sleeping wake => stopped || wake.millis < now.millis
  | .due _ => true
  | _ => false

/-- A loop that was started listens for a stop from now on. -/
def listen? (m : Manager) (loop : Nat) : Option (Manager × List Event) :=
  match m.loops[loop]? with
  | some (.starting wake) => some (m.setPhase loop (.sleeping wake), [])
  | _ => none

/-- What a loop does once its sleep is over, and what is logged. It looks at the flag: if the manager was
stopped in the meantime it ends. -/
def wake? (m : Manager) (loop : Nat) (now : Instant) : Option (Manager × List Event) :=
  match m.loops[loop]? with
  | some (.sleeping wake) =>
    if now.millis < wake.millis then none
    else if m.stopped then some (m.setPhase loop .ended, [.lifecycleStopped])
    else some (m.setPhase loop (.due wake), [])
  | _ => none

/-- A loop that has looked at the flag begins to rotate. It does not look once more. -/
def begin? (m : Manager) (loop : Nat) : Option (Manager × List Event) :=
  match m.loops[loop]? with
  | some (.due _) => some (m.setPhase loop .rotating, [.rotationBegun])
  | _ => none

/-- What a sleeping loop does when the manager has been stopped. -/
def notice? (m : Manager) (loop : Nat) : Option (Manager × List Event) :=
  match m.loops[loop]? with
  | some (.sleeping _) =>
    if m.stopped then some (m.setPhase loop .ended, [.lifecycleStopped]) else none
  | _ => none

/-- Let a loop sleep after a rotation. -/
def sleep (m : Manager) (loop : Nat) (delay : UInt64) (now : Instant) : Manager :=
  m.setPhase loop (.sleeping (wakeAfter delay now))

end Manager

end VaultAccess.Rotation
