import VaultAccess.Rotation.System

/-!
# Timelines

A system whose fetches follow a script: how each of them ends and how many seconds it takes. Time then
passes in one way only: whatever is due happens at its instant, the earliest first.
-/

namespace VaultAccess.Rotation

/-- A fetch as it is scripted. -/
structure Fetch where
  result : Except Failure Credentials
  /-- How many seconds it takes. -/
  takes : Nat := 0

/-- A rotation under way: the loop that it belongs to, if it was not called by hand, and its fetch. -/
structure Flight where
  loop : Option Nat
  ends : Instant
  result : Except Failure Credentials

/-- A system on a timeline. -/
structure Timeline (π : Type) where
  system : System π
  script : List Fetch
  /-- How many fetches have begun. -/
  begun : Nat := 0
  /-- The rotations under way, in the order in which they began. -/
  flights : List Flight := []
  /-- The delay that the last rotation called by hand returned. -/
  returned : Option UInt64 := none

namespace Timeline

variable {π : Type}

/-- What a fetch is once the script is used up. -/
def exhausted : Fetch := ⟨.error (.unavailable (.described "script exhausted")), 0⟩

/-- Take a fetch from the script. -/
def nextFetch (t : Timeline π) : Fetch × Timeline π :=
  (t.script.head?.getD exhausted, { t with script := t.script.drop 1, begun := t.begun + 1 })

/-- Begin the fetch of a rotation. -/
def launch (t : Timeline π) (loop : Option Nat) : Timeline π :=
  let (fetch, t) := t.nextFetch
  { t with flights :=
      t.flights ++ [⟨loop, t.system.now.after (fetch.takes * 1000), fetch.result⟩] }

/-- Something that is due. -/
inductive Due where
  /-- A loop was started and has to listen for a stop. -/
  | listen (loop : Nat)
  /-- A sleeping loop has a stop to notice. -/
  | notice (loop : Nat)
  /-- A loop's sleep is over. -/
  | wake (loop : Nat)
  /-- A loop has looked at the flag and is to rotate. -/
  | begin (loop : Nat)
  /-- The fetch of the rotation at some place in the list ends. -/
  | land (index : Nat) (flight : Flight)

/-- When a loop has something to do, and what. -/
def dueOfLoop (t : Timeline π) (loop : Nat) : Phase → Option (Instant × Due)
  | .starting _ => some (t.system.now, .listen loop)
  | .sleeping wake =>
    if t.system.manager.stopped then some (t.system.now, .notice loop) else some (wake, .wake loop)
  | .due _ => some (t.system.now, .begin loop)
  | _ => none

/-- Everything that will be due unless something else comes first. -/
def dues (t : Timeline π) : List (Instant × Due) :=
  (t.flights.zipIdx.map fun (f, i) ↦ (f.ends, .land i f)) ++
    t.system.manager.loops.zipIdx.filterMap fun (p, i) ↦ t.dueOfLoop i p

/-- The earlier of two due things, the first if they are due together. -/
def earlier (a b : Instant × Due) : Instant × Due :=
  if b.1.millis < a.1.millis then b else a

/-- The first thing that is due. -/
def first? (t : Timeline π) : Option (Instant × Due) :=
  match t.dues with
  | [] => none
  | d :: ds => some (ds.foldl earlier d)

/-- Let a rotation end. -/
def land (pool : Pool π) (t : Timeline π) (index : Nat) (f : Flight) : Timeline π :=
  let t := { t with flights := t.flights.eraseIdx index }
  match f.loop with
  | some loop => { t with system := (t.system.finish? pool loop f.result).getD t.system }
  | none =>
    match t.system.finishCall? pool f.result with
    | some (system, delay) => { t with system, returned := some delay }
    | none => t

/-- Let the manager take a step of its own, if it can. -/
def withManager (t : Timeline π) (r : Option (Manager × List Event)) : Timeline π :=
  { t with system := (t.system.withManager r).getD t.system }

/-- Let something happen that is due. -/
def happen (pool : Pool π) (t : Timeline π) : Due → Timeline π
  | .listen loop => t.withManager (t.system.manager.listen? loop)
  | .notice loop => t.withManager (t.system.manager.notice? loop)
  | .wake loop => t.withManager (t.system.manager.wake? loop t.system.now)
  | .begin loop => (t.withManager (t.system.manager.begin? loop)).launch (some loop)
  | .land index f => t.land pool index f

/-- Set the clock. -/
def setClock (t : Timeline π) (now : Instant) : Timeline π :=
  { t with system := { t.system with now } }

/-- Let everything happen that is due up to an instant, but not more than `fuel` things. -/
def runUntil (pool : Pool π) (target : Instant) : (fuel : Nat) → Timeline π → Timeline π
  | 0, t => t.setClock target
  | fuel + 1, t =>
    match t.first? with
    | none => t.setClock target
    | some (time, due) =>
      if target.millis < time.millis then t.setClock target
      else runUntil pool target fuel ((t.setClock time).happen pool due)

/-- Let time pass up to an instant. Since every delay is at least a second, a loop has no more than four
things to do in a second: to listen or to land, to wake, to begin, and to notice a stop. -/
def passTo (pool : Pool π) (target : Instant) (t : Timeline π) : Timeline π :=
  let seconds := target.since t.system.now / 1000 + 1
  runUntil pool target (seconds * 4 * (t.system.manager.loops.length + 1) + t.flights.length) t

/-- Let time pass. While no time passes nothing happens. -/
def pass (pool : Pool π) (millis : Nat) (t : Timeline π) : Timeline π :=
  if millis = 0 then t else t.passTo pool (t.system.now.after millis)

/-- A stop that nobody has noticed stays unnoticed while no time passes. -/
theorem pass_zero (pool : Pool π) (t : Timeline π) : t.pass pool 0 = t := rfl

/-- The owner starts the manager. -/
def start (lease : UInt64) (t : Timeline π) : Timeline π :=
  { t with system := t.system.start lease }

/-- The owner stops the manager. -/
def stop (t : Timeline π) : Timeline π :=
  { t with system := { t.system with manager := t.system.manager.stop } }

/-- The end of the rotation of a loop, if it is under way. -/
def endOf? (t : Timeline π) (loop : Nat) : Option Instant :=
  (t.flights.find? fun f ↦ f.loop == some loop).map (·.ends)

/-- Wait for the loop to end; time passes until a rotation under way has ended. -/
def wait (pool : Pool π) (t : Timeline π) : Timeline π :=
  let (handle, manager) := t.system.manager.takeHandle
  let t := { t with system := { t.system with manager } }
  match handle with
  | none => t
  | some loop => t.passTo pool ((t.endOf? loop).getD t.system.now)

/-- Call a rotation by hand and wait for it. A fetch that takes no time lets nothing else happen. -/
def rotate (pool : Pool π) (t : Timeline π) : Timeline π :=
  let t := { t with system := t.system.call }
  let takes := (t.script.head?.getD exhausted).takes
  let flying := t.launch none
  if takes == 0 then
    match flying.flights.getLast? with
    | some f => flying.land pool (flying.flights.length - 1) f
    | none => flying
  else flying.pass pool (takes * 1000)

/-- Create a pool and a manager for it at the beginning of a timeline. The first fetch is taken from the
script like every other. -/
def create (settings : Settings) (build : Credentials → Except Chain π) (now : Instant)
    (script : List Fetch) : Except Chain (Timeline π) :=
  let fetch := script.head?.getD exhausted
  (System.create settings (now.after (fetch.takes * 1000)) fetch.result build).map fun system ↦
    { system, script := script.drop 1, begun := 1 }

end Timeline

end VaultAccess.Rotation
