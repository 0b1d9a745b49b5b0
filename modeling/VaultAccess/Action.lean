import VaultAccess.Event

/-!
# Actions

What an operation does to its surroundings: it changes a state of some type, it logs events, and it ends
in a value or a failure. What it has done before a failure stays done.
-/

namespace VaultAccess

/-- The surroundings of an action: a state and the log, the newest event first. -/
structure Scene (σ : Type) where
  state : σ
  log : List Event := []

/-- An operation on a state that may log and may fail. -/
abbrev Action (σ α : Type) := ExceptT Failure (StateM (Scene σ)) α

namespace Action

variable {σ τ α : Type}

/-- Log an event. -/
def emit (e : Event) : Action σ Unit :=
  modifyThe (Scene σ) fun s ↦ { s with log := e :: s.log }

/-- The outcome of a computation without effects. -/
def ofExcept (r : Except Failure α) : Action σ α := ExceptT.mk (pure r)

/-- The outcome of an action, failure included, as a value. -/
def attempt (a : Action σ α) : Action σ (Except Failure α) :=
  ExceptT.lift a.run

/-- Change the wording of a failure. -/
def mapFailure (f : Failure → Failure) (a : Action σ α) : Action σ α :=
  ExceptT.mk ((fun r ↦ r.mapError f) <$> a.run)

/-- A value that has to be there. -/
def orFail (f : Failure) : Option α → Action σ α
  | some a => pure a
  | none => throw f

/-- The state. -/
def state : Action σ σ := do return (← getThe (Scene σ)).state

/-- Change the state. -/
def modifyState (f : σ → σ) : Action σ Unit :=
  modifyThe (Scene σ) fun s ↦ { s with state := f s.state }

/-- Do to a part of a state what an action does to a state of its own. -/
def within (get : τ → σ) (set : σ → τ → τ) (a : Action σ α) : Action τ α :=
  ExceptT.mk fun s ↦
    let (r, t) := a.run ⟨get s.state, s.log⟩
    (r, ⟨set t.state s.state, t.log⟩)

/-- The outcome of an action in some surroundings and the surroundings after it. -/
def perform (a : Action σ α) (s : Scene σ) : Except Failure α × Scene σ := a.run s

end Action

end VaultAccess
