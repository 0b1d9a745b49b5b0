import VaultAccess.Json.Record

/-!
# Tunables of the rotation

The five settings of the rotation as a configuration holds them: texts that nobody has checked yet, each
of which may be missing. `TunableFault` names what can be wrong with one of them.
-/

namespace VaultAccess.Rotation

/-- One of the settings of the rotation. -/
inductive Tunable where
  | retryDelay
  | maxRetryDelay
  | minDelay
  | factor
  | maxDuration
  deriving Repr, DecidableEq

namespace Tunable

/-- All settings, in the order in which they are checked and reported. -/
def all : List Tunable := [.retryDelay, .maxRetryDelay, .minDelay, .factor, .maxDuration]

/-- The name of a setting in a configuration. -/
def property : Tunable → String
  | .retryDelay => "retryDelayInSeconds"
  | .maxRetryDelay => "maxRetryDelayInSeconds"
  | .minDelay => "minDelayBeforeNextRunInSeconds"
  | .factor => "delayBeforeNextRunFactor"
  | .maxDuration => "maxDurationBeforeTtlExpireInSeconds"

/-- The type of the values of a setting, as messages name it. -/
def typeName : Tunable → String
  | .factor => "f64"
  | _ => "i64"

end Tunable

/-- The settings as a configuration holds them. -/
structure Tunables where
  retryDelay : Option String := none
  maxRetryDelay : Option String := none
  minDelay : Option String := none
  factor : Option String := none
  maxDuration : Option String := none
  deriving Repr, DecidableEq

namespace Tunables

/-- The text of one setting. -/
def get? (t : Tunables) : Tunable → Option String
  | .retryDelay => t.retryDelay
  | .maxRetryDelay => t.maxRetryDelay
  | .minDelay => t.minDelay
  | .factor => t.factor
  | .maxDuration => t.maxDuration

/-- The names of the settings, as fields of a record. -/
def fields : List String := Tunable.all.map Tunable.property

/-- The tunables that a record holds. -/
def ofRecord? (r : Json.Record) : Option Tunables := do
  let text (t : Tunable) := r.optional t.property Json.Tree.text?
  return {
    retryDelay := ← text .retryDelay
    maxRetryDelay := ← text .maxRetryDelay
    minDelay := ← text .minDelay
    factor := ← text .factor
    maxDuration := ← text .maxDuration }

/-- The tunables of a document. -/
def read? (bytes : List UInt8) : Option Tunables := do
  ofRecord? (← Json.Record.ofTree? fields (← Json.Tree.read? bytes))

/-- The members that hold the tunables in a printed configuration. -/
def members (t : Tunables) : List (String × Json) :=
  Tunable.all.map fun s ↦ (s.property, .ofText? (t.get? s))

end Tunables

/-- What can be wrong with the text of one setting. -/
inductive TunableFault where
  /-- The text spells no value of the setting's type. -/
  | unreadable (tunable : Tunable) (text : String)
  /-- The value is zero or less. -/
  | notPositive (tunable : Tunable)
  deriving Repr, DecidableEq

/-- The wording of a fault. -/
def TunableFault.message : TunableFault → String
  | .unreadable t text =>
    "The value \"" ++ text ++ "\" of property [" ++ t.property ++ "] is not a valid [" ++
      t.typeName ++ "] type."
  | .notPositive t =>
    "Configuration property \"" ++ t.property ++ "\" should have a value greater than zero (0)."

end VaultAccess.Rotation
