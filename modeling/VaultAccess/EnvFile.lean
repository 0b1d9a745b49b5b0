import VaultAccess.Environment
import VaultAccess.Text.Alphanumeric
import VaultAccess.Text.Blank

/-!
# Files of environment variables

A file with one variable on each line. Values may be quoted, and a quoted value may span lines; strong
quotes keep everything as it is, weak quotes allow escapes and references to other variables. A variable
that is already set keeps its value, and the first line that cannot be read ends the file.

A file is first cut into logical lines, each with all the physical lines that its quotes span. Then each
logical line is read by itself.
-/

namespace VaultAccess.EnvFile

/-! ### Logical lines -/

/-- Where a scan for the end of a logical line stands. -/
inductive Quoting where
  | plain
  | blank
  | escape
  | weak
  | weakEscape
  | strong
  | strongEscape
  deriving Repr, DecidableEq

/-- The state after one character outside quotes. -/
def Quoting.outside (c : Char) : Quoting :=
  if c == '\\' then .escape
  else if c == '"' then .weak
  else if c == '\'' then .strong
  else .plain

/-- The state after one character that begins no comment. -/
def Quoting.next (q : Quoting) (c : Char) : Quoting :=
  match q with
  | .blank => .outside c
  | .plain => if Text.isBlank c && c != '\n' && c != '\r' then .blank else .outside c
  | .escape => .plain
  | .weak => if c == '\\' then .weakEscape else if c == '"' then .plain else .weak
  | .weakEscape => .weak
  | .strong => if c == '\\' then .strongEscape else if c == '\'' then .plain else .strong
  | .strongEscape => .strong

/-- Scan a physical line: the state at its end, or the part before a comment. -/
def scan (q : Quoting) : List Char → Quoting ⊕ List Char
  | [] => .inl q
  | c :: cs =>
    if q = .blank ∧ c = '#' then .inr []
    else
      match scan (q.next c) cs with
      | .inl q => .inl q
      | .inr before => .inr (c :: before)

/-- The physical lines of a text, each with its line end. -/
def physicalLines : List Char → List (List Char)
  | [] => []
  | c :: cs =>
    if c == '\n' then [c] :: physicalLines cs
    else
      match physicalLines cs with
      | [] => [[c]]
      | l :: ls => (c :: l) :: ls

/-- A line without the end of its last physical line. -/
def withoutEnd (line : List Char) : List Char :=
  match line.reverse with
  | '\n' :: '\r' :: cs => cs.reverse
  | '\n' :: cs => cs.reverse
  | _ => line

/-- The logical lines of a list of physical ones; the last is none if its quotes are never closed.
`pending` are the physical lines of the one under way. -/
def logicalLines (pending : List Char) (q : Quoting) : List (List Char) → List (Option (List Char))
  | [] => if q = .plain then [] else [none]
  | l :: rest =>
    let line := pending ++ l
    if (Text.dropBlanks line).head? == some '#' then some [] :: logicalLines [] .plain rest
    else
      match scan q l with
      | .inr before => some (pending ++ before) :: logicalLines [] .plain rest
      | .inl .plain => some (withoutEnd line) :: logicalLines [] .plain rest
      | .inl q => logicalLines line q rest

/-! ### Values -/

/-- What the values of variables are looked up in: the variables that are set, and those that earlier
lines gave. -/
structure Scope where
  env : Environment
  earlier : NameMap String

/-- The value that stands for a reference; a variable that nobody sets is empty. -/
def Scope.lookup (s : Scope) (name : List Char) : List Char :=
  let name := String.ofList name
  ((s.env.get? name <|> s.earlier.get? name).getD "").toList

/-- Where reading a value stands. The two kinds of reference carry the name so far in reverse; they and
an escape know whether they are inside weak quotes. -/
inductive Mode where
  | plain
  | strong
  | weak
  | escaped (weak : Bool)
  | reference (weak : Bool) (name : List Char)
  | braced (weak : Bool) (name : List Char)
  /-- Only blanks and a comment may follow. -/
  | ended

/-- The mode in which reading goes on inside or outside weak quotes. -/
def Mode.resume (weak : Bool) : Mode := if weak then .weak else .plain

/-- Whether a character may belong to the name of a reference without braces. -/
def isNameChar (c : Char) : Bool := Text.isAlphanumeric c

/-- The character that an escape stands for. -/
def unescape? (c : Char) : Option Char :=
  if c == 'n' then some '\n'
  else if ['\\', '\'', '"', '$', ' '].contains c then some c
  else none

/-- Read the rest of a value. -/
def value? (s : Scope) (m : Mode) : List Char → Option (List Char)
  | [] =>
    match m with
    | .strong => none
    | .weak => none
    | .escaped true => none
    | .reference true _ => none
    | .braced _ _ => none
    | .reference false name => some (s.lookup name.reverse)
    | _ => some []
  | c :: cs =>
    match m with
    | .ended =>
      if c == ' ' || c == '\t' then value? s .ended cs
      else if c == '#' then some []
      else none
    | .escaped weak => do
      let d ← unescape? c
      return d :: (← value? s (.resume weak) cs)
    | .strong =>
      if c == '\'' then value? s .plain cs else (value? s .strong cs).map (c :: ·)
    | .reference weak name =>
      if isNameChar c then value? s (.reference weak (c :: name)) cs
      else if c == '\x7b' && name.isEmpty then value? s (.braced weak []) cs
      else if c == '$' then (value? s (.reference weak []) cs).map (s.lookup name.reverse ++ ·)
      else (value? s (.resume weak) cs).map (s.lookup name.reverse ++ c :: ·)
    | .braced weak name =>
      if c == '\x7d' then (value? s (.resume weak) cs).map (s.lookup name.reverse ++ ·)
      else value? s (.braced weak (c :: name)) cs
    | .weak =>
      if c == '$' then value? s (.reference true []) cs
      else if c == '"' then value? s .plain cs
      else if c == '\\' then value? s (.escaped true) cs
      else (value? s .weak cs).map (c :: ·)
    | .plain =>
      if c == '$' then value? s (.reference false []) cs
      else if c == '\'' then value? s .strong cs
      else if c == '"' then value? s .weak cs
      else if c == '\\' then value? s (.escaped false) cs
      else if c == ' ' || c == '\t' then value? s .ended cs
      else (value? s .plain cs).map (c :: ·)

/-! ### Lines -/

/-- The name at the front of a line, and what follows it and the blanks after it. -/
def name? (cs : List Char) : Option (List Char × List Char) :=
  match cs with
  | c :: _ =>
    if c.isAlpha || c == '_' then
      let isInner (c : Char) : Bool := c.isAlphanum || c == '_' || c == '.'
      some (cs.takeWhile isInner, Text.dropBlanks (cs.dropWhile isInner))
    else none
  | [] => none

/-- What follows an equals sign. -/
def afterEquals? : List Char → Option (List Char)
  | '=' :: cs => some cs
  | _ => none

/-- Whether nothing follows but a comment. -/
def isVoid (cs : List Char) : Bool := cs.isEmpty || cs.head? == some '#'

/-- The name on a line and the text of its value. The word `export` may stand before a name. -/
def assignment? (cs : List Char) : Option (List Char × List Char) := do
  let (name, rest) ← name? cs
  match afterEquals? rest with
  | some value => return (name, value)
  | none =>
    if name == "export".toList then
      let (name, rest) ← name? rest
      return (name, ← afterEquals? rest)
    else none

/-- The variable that a line sets, if it sets any; none if it cannot be read. -/
def binding? (s : Scope) (line : List Char) : Option (Option (String × String)) :=
  let cs := Text.trimBlanks line
  if isVoid cs then some none
  else do
    let (name, text) ← assignment? cs
    let text := Text.dropBlanks text
    let value ← if isVoid text then some [] else value? s .plain text
    return some (String.ofList name, String.ofList value)

/-- Set a variable unless it is set. -/
def setUnlessSet (env : Environment) (name value : String) : Environment :=
  if (env.get? name).isSome then env else env.insert name value

/-- The variables that are set after the lines of a file. -/
def load (s : Scope) : List (Option (List Char)) → Environment
  | [] => s.env
  | none :: _ => s.env
  | some line :: rest =>
    match binding? s line with
    | none => s.env
    | some none => load s rest
    | some (some (name, value)) =>
      load ⟨setUnlessSet s.env name value, s.earlier.insert name value⟩ rest

/-- The text of a file without a byte-order mark. -/
def withoutMark (cs : List Char) : List Char :=
  if cs.head? == some (Char.ofNat 0xFEFF) then cs.drop 1 else cs

end EnvFile

/-- The variables that are set once a file of variables has been read. -/
def Environment.withFile (env : Environment) (text : String) : Environment :=
  EnvFile.load ⟨env, NameMap.empty⟩
    (EnvFile.logicalLines [] .plain (EnvFile.physicalLines (EnvFile.withoutMark text.toList)))

end VaultAccess
