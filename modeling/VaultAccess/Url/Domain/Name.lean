import VaultAccess.Url.Domain.Direction
import VaultAccess.Url.Domain.Folding
import VaultAccess.Url.Domain.Joining
import VaultAccess.Url.Domain.Punycode

/-!
# Names of hosts

A name is a list of labels with dots between them. It may be written in any script; a label with
characters outside ASCII is sent as `xn--` and a text in ASCII that stands for them, and may be written
so. Either way its characters are settled: they stand for themselves and are composed.
-/

namespace VaultAccess.Url.Domain

/-- A label of a name: as it is sent, and the characters it stands for. -/
structure Label where
  sent : List Char
  shown : List Char

/-- The longest label that is encoded. -/
def longestEncoded : Nat := 1000

/-- Whether characters outside ASCII make up a label. -/
def isSound (shown : List Char) : Bool :=
  !shown.head?.any isMark && joinersFit [] shown && shown.length ≤ longestEncoded

/-- The label that a text without its `xn--` stands for. It has to stand for something that needs to be
encoded. -/
def encodedLabel? (digits : List Char) : Option Label := do
  let points ← Punycode.decode? digits
  let shown := points.map Char.ofNat
  if points.all (· < 0x80) || !shown.all isSettled || shown.map Char.toNat != points ||
      composed points != points || !isSound shown then none
  else some ⟨"xn--".toList ++ digits, shown⟩

/-- The label that a folded and composed text spells. -/
def label? (cs : List Char) : Option Label :=
  match cs with
  | 'x' :: 'n' :: '-' :: '-' :: digits => encodedLabel? digits
  | _ =>
    if cs.all (·.toNat < 0x80) then some ⟨cs, cs⟩
    else if isSound cs then
      some ⟨"xn--".toList ++ Punycode.encode (cs.map Char.toNat), cs⟩
    else none

/-- The labels of a name. -/
def labels? (cs : List Char) : Option (List Label) := do
  let settled := (composed ((← fold? cs).map Char.toNat)).map Char.ofNat
  let labels ← (splitAt '.' settled).mapM label?
  if labels.any (·.shown.any isFromRight) && !labels.all (readsOneWay ·.shown) then none
  else some labels

/-- A name as it is sent, which is ASCII. -/
def sent? (cs : List Char) : Option (List Char) :=
  (labels? cs).map fun labels ↦ ['.'].intercalate (labels.map (·.sent))

end VaultAccess.Url.Domain
