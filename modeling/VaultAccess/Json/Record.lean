import VaultAccess.Json.Value

/-!
# Records

Reading a tree as a record with named fields. A record is written as an object, whose members may come
in any order and among others that are no fields, or as an array of the fields in their order, which may
stop early. A field that is not written has a default or makes the reading fail.

Trees are read as parts of a record by the functions at the end, one for each type of field. Only
`nestingLimit` bounds the nesting of a value, and records nest less deeply than that, so these functions
need not count.
-/

namespace VaultAccess.Json

/-- A record as read: what is written for each field, if anything is. -/
structure Record where
  slots : List (String × Option Tree)

namespace Record

/-- The members of an object with their names as texts. -/
def named? : List (List UInt8 × Tree) → Option (List (String × Tree))
  | [] => some []
  | (key, t) :: ms => do return (← unescape? key, t) :: (← named? ms)

/-- What the members of an object hold for a field. A field that is repeated makes the object no
record. -/
def slotOf? (members : List (String × Tree)) (field : String) : Option (Option Tree) :=
  match members.filter fun m ↦ m.1 == field with
  | [] => some none
  | [m] => some (some m.2)
  | _ => none

/-- The slots of the fields of an object. -/
def ofMembers? (fields : List String) (members : List (String × Tree)) : Option Record :=
  (fields.mapM fun f ↦ (slotOf? members f).map fun s ↦ (f, s)).map Record.mk

/-- The slots of the fields of an array; it may be too short but not too long. -/
def ofItems? : List String → List Tree → Option (List (String × Option Tree))
  | fields, [] => some (fields.map fun f ↦ (f, none))
  | [], _ :: _ => none
  | f :: fields, t :: ts => (ofItems? fields ts).map ((f, some t) :: ·)

/-- Read a tree as a record with the given fields. -/
def ofTree? (fields : List String) : Tree → Option Record
  | .object members => (named? members).bind (ofMembers? fields)
  | .array items => (ofItems? fields items).map Record.mk
  | _ => none

/-- What is written for a field. -/
def get? (r : Record) (field : String) : Option Tree :=
  (r.slots.find? fun s ↦ s.1 == field).bind (·.2)

variable {α : Type}

/-- A field that must be there. -/
def required (r : Record) (field : String) (read : Tree → Option α) : Option α :=
  (r.get? field).bind read

/-- A field with a default. -/
def defaulted (r : Record) (field : String) (default : α) (read : Tree → Option α) : Option α :=
  match r.get? field with
  | some t => read t
  | none => some default

/-- Read null as nothing and anything else as something. -/
def nullable (read : Tree → Option α) : Tree → Option (Option α)
  | .null => some none
  | t => (read t).map some

/-- A field that may be null or not written. -/
def optional (r : Record) (field : String) (read : Tree → Option α) : Option (Option α) :=
  r.defaulted field none (nullable read)

end Record

namespace Tree

/-- A tree as a text. -/
def text? : Tree → Option String
  | .string body => unescape? body
  | _ => none

/-- A tree as a truth value. -/
def bool? : Tree → Option Bool
  | .bool b => some b
  | _ => none

/-- A tree as an unsigned number of at most `limit`. -/
def unsigned? (limit : Nat) : Tree → Option Nat
  | .number l => l.unsigned? limit
  | _ => none

/-- A tree as a number of 32 unsigned bits. -/
def unsigned32? (t : Tree) : Option UInt32 :=
  (t.unsigned? (UInt32.size - 1)).map Nat.toUInt32

/-- A tree as a number of 64 unsigned bits. -/
def unsigned64? (t : Tree) : Option UInt64 :=
  (t.unsigned? (UInt64.size - 1)).map Nat.toUInt64

/-- A tree as a list. -/
def list? {α : Type} (read : Tree → Option α) : Tree → Option (List α)
  | .array items => items.mapM read
  | _ => none

/-- A tree as a finite map; of several members with one name the last counts. -/
def map? {α : Type} (read : Tree → Option α) : Tree → Option (NameMap α)
  | .object members => do
    let ms ← (← Record.named? members).mapM fun m ↦ (read m.2).map (m.1, ·)
    return NameMap.ofList ms
  | _ => none

end Tree

end VaultAccess.Json
