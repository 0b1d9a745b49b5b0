import VaultAccess.Failure

/-!
# Setting up the log

An application has one log. It is set up once, with the settings given then; setting it up again is
refused.
-/

namespace VaultAccess.Logging

/-- Settings of the log. -/
structure Settings where
  /-- What is logged unless the environment tells otherwise. -/
  level : String := "info"
  /-- Whether each event is written as an object on a line of its own. -/
  json : Bool := false
  /-- Whether each event names the part of the application that it comes from. -/
  showTarget : Bool := true
  deriving Repr, DecidableEq

/-- The log of an application: the settings it was set up with, if it was. -/
abbrev Log := Option Settings

/-- Set up the log. -/
def install (log : Log) (s : Settings) : Except PlatformFailure Log :=
  match log with
  | none => .ok (some s)
  | some _ => .error (.logging "a global default trace dispatcher has already been set")

end VaultAccess.Logging
