import VaultAccess.Decimal.Shortest
import VaultAccess.Json.Tree
import VaultAccess.NameMap

/-!
# Values

A value is a document that has been read in full: its numbers are in range, its strings are texts and
its nesting is bounded. `Tree.value?` reads one. Objects made that way have their names in ascending
order, the last of several members with one name counting; a printed object has its members in the
order of the list, so that a record can be printed in the order of its fields.
-/

namespace VaultAccess

/-- A value. -/
inductive Json where
  | null
  | bool (b : Bool)
  | number (n : Json.Number)
  | text (s : String)
  | array (items : List Json)
  | object (members : List (String × Json))

namespace Json

/-! ### Reading -/

/-- The number of containers that may be nested. -/
def nestingLimit : Nat := 127

mutual

/-- The value of a tree that may nest `room` more containers. -/
def Tree.value? (room : Nat) : Tree → Option Json
  | .null => some .null
  | .bool b => some (.bool b)
  | .number l => l.number?.map .number
  | .string body => (unescape? body).map .text
  | .array items => if room = 0 then none else (Tree.values? (room - 1) items).map .array
  | .object members =>
    if room = 0 then none
    else (Tree.members? (room - 1) members).map fun ms ↦ .object (NameMap.ofList ms).entries

/-- The values of a list of trees. -/
def Tree.values? (room : Nat) : List Tree → Option (List Json)
  | [] => some []
  | t :: ts => do return (← t.value? room) :: (← Tree.values? room ts)

/-- The named values of a list of members. -/
def Tree.members? (room : Nat) : List (List UInt8 × Tree) → Option (List (String × Json))
  | [] => some []
  | (key, t) :: ms => do
    return (← unescape? key, ← t.value? room) :: (← Tree.members? room ms)

end

/-- The value of a document. -/
def read? (bytes : List UInt8) : Option Json := do
  (← Tree.read? bytes).value? nestingLimit

/-! ### Printing -/

/-- Floats are written in place from `10^-5` up to below `10^16`, always with a fraction. -/
def numberStyle : Decimal.Style := ⟨some (-5, 15), ".0", "+"⟩

/-- The text of a number. -/
def Number.render : Number → String
  | .whole n => toString n
  | .real x => numberStyle.render x

mutual

/-- The text of a value without blanks. -/
def render : Json → String
  | .null => "null"
  | .bool b => if b then "true" else "false"
  | .number n => n.render
  | .text s => quote s
  | .array items => "[" ++ renderItems items ++ "]"
  | .object members => "\x7b" ++ renderMembers members ++ "\x7d"

/-- The texts of values, with commas between. -/
def renderItems : List Json → String
  | [] => ""
  | [v] => v.render
  | v :: w :: rest => v.render ++ "," ++ renderItems (w :: rest)

/-- The texts of members, with commas between. -/
def renderMembers : List (String × Json) → String
  | [] => ""
  | [(name, v)] => quote name ++ ":" ++ v.render
  | (name, v) :: m :: rest => quote name ++ ":" ++ v.render ++ "," ++ renderMembers (m :: rest)

end

/-- A text, or null where there is none. -/
def ofText? : Option String → Json
  | none => .null
  | some s => .text s

/-- A whole number. -/
def ofNat (n : Nat) : Json := .number (.whole n)

/-- An object of texts. -/
def ofTexts (m : List (String × String)) : Json :=
  .object (m.map fun e ↦ (e.1, .text e.2))

end Json

end VaultAccess
