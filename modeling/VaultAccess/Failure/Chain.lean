/-!
# Chains of messages

An error as it is handed on between parts of an application: messages, outermost first. A part that
hands an error on may put a message of its own in front.
-/

namespace VaultAccess

/-- The messages of an error, outermost first. -/
structure Chain where
  message : String
  causes : List String := []
  deriving Repr, DecidableEq

namespace Chain

/-- All messages. -/
def messages (c : Chain) : List String := c.message :: c.causes

/-- The error with a message in front. -/
def withContext (c : Chain) (text : String) : Chain := ⟨text, c.messages⟩

/-- How many messages a summary shows. -/
def summaryLimit : Nat := 5

/-- The first messages on one line, with dots after them if there are more. -/
def summary (c : Chain) : String :=
  ". ".intercalate (c.messages.take summaryLimit) ++
    (if c.messages.length > summaryLimit then "..." else "")

end Chain

end VaultAccess
