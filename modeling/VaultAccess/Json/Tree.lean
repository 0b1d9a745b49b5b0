import VaultAccess.Json.Token

/-!
# Documents as written

A tree keeps a document as it was written: numbers as literals, strings as bodies, members in order and
with repetitions. A part of a tree that nobody reads therefore needs only correct grammar: neither the
range of its numbers, nor the depth of its nesting, nor its surrogates are looked at.

The builder takes one token at a time. Its state is a mode, which says what may come next, and the
containers that are still open, innermost first.
-/

namespace VaultAccess.Json

/-- A document as written. -/
inductive Tree where
  | null
  | bool (b : Bool)
  | number (l : Literal)
  | string (body : List UInt8)
  | array (items : List Tree)
  | object (members : List (List UInt8 × Tree))
  deriving Repr

namespace Builder

/-- An open container: the items before the one under way, or the members before it and its key, all in
reverse. -/
inductive Frame where
  | array (items : List Tree)
  | member (members : List (List UInt8 × Tree)) (key : List UInt8)

/-- What may come next: a value, a value or the end of an empty array, a key or the end of an empty
object, a key after a comma, a colon after a key, or whatever follows a finished value. -/
inductive Mode where
  | value
  | firstItem
  | firstKey
  | key (members : List (List UInt8 × Tree))
  | colon (members : List (List UInt8 × Tree)) (key : List UInt8)
  | after (value : Tree)

/-- A mode and the open containers, innermost first. -/
structure State where
  mode : Mode
  stack : List Frame

/-- The state after a token where a value is due. -/
def beginValue? (stack : List Frame) : Token → Option State
  | .null => some ⟨.after .null, stack⟩
  | .bool b => some ⟨.after (.bool b), stack⟩
  | .number l => some ⟨.after (.number l), stack⟩
  | .string body => some ⟨.after (.string body), stack⟩
  | .openArray => some ⟨.firstItem, stack⟩
  | .openObject => some ⟨.firstKey, stack⟩
  | _ => none

/-- The state after a token that follows a finished value inside the innermost container. -/
def afterValue? (value : Tree) : List Frame → Token → Option State
  | .array items :: stack, .comma => some ⟨.value, .array (value :: items) :: stack⟩
  | .array items :: stack, .closeArray =>
    some ⟨.after (.array (value :: items).reverse), stack⟩
  | .member members key :: stack, .comma => some ⟨.key ((key, value) :: members), stack⟩
  | .member members key :: stack, .closeObject =>
    some ⟨.after (.object ((key, value) :: members).reverse), stack⟩
  | _, _ => none

/-- The state after one token. -/
def step? (s : State) (t : Token) : Option State :=
  match s.mode with
  | .value => beginValue? s.stack t
  | .firstItem =>
    if t = .closeArray then some ⟨.after (.array []), s.stack⟩
    else beginValue? (.array [] :: s.stack) t
  | .firstKey =>
    match t with
    | .closeObject => some ⟨.after (.object []), s.stack⟩
    | .string key => some ⟨.colon [] key, s.stack⟩
    | _ => none
  | .key members =>
    match t with
    | .string key => some ⟨.colon members key, s.stack⟩
    | _ => none
  | .colon members key =>
    if t = .colon then some ⟨.value, .member members key :: s.stack⟩ else none
  | .after value => afterValue? value s.stack t

/-- The tree of a finished document: one value and no open container. -/
def finish? (s : State) : Option Tree :=
  match s.mode, s.stack with
  | .after value, [] => some value
  | _, _ => none

end Builder

/-- The tree of a document. -/
def Tree.read? (bytes : List UInt8) : Option Tree := do
  let ts ← tokens? bytes
  let s ← ts.foldlM Builder.step? ⟨.value, []⟩
  Builder.finish? s

end VaultAccess.Json
