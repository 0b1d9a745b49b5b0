import VaultAccess.Session.Basic

/-!
# Callers of one session

Any number of callers ask one session for a token, each in steps that may be interleaved with those of
the others, with the passing of time and with the token being forgotten. A lock lets one caller at a time
through the part that may log in. Whoever waits for the lock may get it next.

The decisions are those of `Session`; this module only says when each is taken. Besides the session the
system keeps the outcomes of all logins that have ended, so that what a caller does can be compared with
what happened before.
-/

namespace VaultAccess.Session

/-- How far a caller has come. -/
inductive Phase where
  /-- It has not begun. -/
  | idle
  /-- It has found no valid token. -/
  | missed
  /-- It has seen a count of logins and waits for the lock. -/
  | waiting (observed : Nat)
  /-- It holds the lock and has yet to decide. -/
  | deciding (observed : Nat)
  /-- It holds the lock and logs in. -/
  | loggingIn (observed : Nat)
  /-- It holds the lock; its login has ended and is counted. -/
  | counted (outcome : Except Failure Grant)
  /-- It holds the lock, and its result is settled. -/
  | leaving (result : Except AuthenticationFault SessionToken)
  | done (result : Except AuthenticationFault SessionToken)
  /-- It has been given up. -/
  | cancelled

/-- Whether a caller holds the lock. -/
def Phase.holdsLock : Phase → Bool
  | .deciding _ => true
  | .loggingIn _ => true
  | .counted _ => true
  | .leaving _ => true
  | _ => false

/-- A session, its clock and its callers. -/
structure System where
  session : Session := {}
  now : Instant := ⟨0⟩
  /-- Who holds the lock. -/
  holder : Option Nat := none
  callers : Nat → Phase := fun _ ↦ .idle
  /-- The outcomes of the logins that have ended, the newest first. -/
  outcomes : List (Except Failure Grant) := []

/-- A step of a caller or of its surroundings. -/
inductive Move where
  /-- Look at the token. -/
  | look (caller : Nat)
  /-- Look at the count of logins and queue for the lock. -/
  | queue (caller : Nat)
  /-- Get the lock. -/
  | enter (caller : Nat)
  /-- Decide what to do with the lock held. -/
  | choose (caller : Nat)
  /-- The login ends. -/
  | answer (caller : Nat) (outcome : Except Failure Grant)
  /-- Note the outcome of the login. -/
  | settle (caller : Nat)
  /-- Give the lock back. -/
  | leave (caller : Nat)
  /-- A caller that waits is given up. -/
  | cancel (caller : Nat)
  /-- The token is forgotten. -/
  | invalidate
  /-- Time passes. -/
  | tick (millis : Nat)

namespace System

/-- The system with one caller moved on. -/
def put (s : System) (caller : Nat) (p : Phase) : System :=
  { s with callers := fun i ↦ if i = caller then p else s.callers i }

/-- The phase of a caller after it has decided. -/
def Phase.afterDecision (observed : Nat) : Decision → Phase
  | .use token => .leaving (.ok token)
  | .share fault => .leaving (.error fault)
  | .logIn => .loggingIn observed

/-- The system after a step, if the step can be taken. -/
def step (s : System) : Move → Option System
  | .look i =>
    match s.callers i with
    | .idle =>
      match s.session.valid? s.now with
      | some token => some (s.put i (.done (.ok token)))
      | none => some (s.put i .missed)
    | _ => none
  | .queue i =>
    match s.callers i with
    | .missed => some (s.put i (.waiting s.session.attempts))
    | _ => none
  | .enter i =>
    match s.callers i, s.holder with
    | .waiting observed, none => some { s.put i (.deciding observed) with holder := some i }
    | _, _ => none
  | .choose i =>
    match s.callers i with
    | .deciding observed =>
      some (s.put i (Phase.afterDecision observed (s.session.decision s.now observed)))
    | _ => none
  | .answer i outcome =>
    match s.callers i with
    | .loggingIn _ =>
      some { s.put i (.counted outcome) with
        session := s.session.count
        outcomes := outcome :: s.outcomes }
    | _ => none
  | .settle i =>
    match s.callers i with
    | .counted outcome =>
      let (session, result) := s.session.settle s.now outcome
      some { s.put i (.leaving result) with session }
    | _ => none
  | .leave i =>
    match s.callers i with
    | .leaving result => some { s.put i (.done result) with holder := none }
    | _ => none
  | .cancel i =>
    match s.callers i with
    | .waiting _ => some (s.put i .cancelled)
    | .deciding _ => some { s.put i .cancelled with holder := none }
    | .loggingIn _ => some { s.put i .cancelled with holder := none }
    | _ => none
  | .invalidate => some { s with session := s.session.invalidate }
  | .tick millis => some { s with now := s.now.after millis }

/-- The system after several steps, if they can all be taken. -/
def run (s : System) : List Move → Option System
  | [] => some s
  | m :: ms => (s.step m).bind (run · ms)

end System

end VaultAccess.Session
