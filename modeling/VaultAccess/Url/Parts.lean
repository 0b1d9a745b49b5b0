/-!
# Parts of a text

Paths, names and addresses are lists of parts with a character between them.
-/

namespace VaultAccess.Url

/-- The parts of a text between the places where a character stands. -/
def splitAt (separator : Char) : List Char → List (List Char)
  | [] => [[]]
  | c :: cs =>
    match splitAt separator cs with
    | part :: parts => if c == separator then [] :: part :: parts else (c :: part) :: parts
    | [] => [[c]]

/-- A text has at least one part. -/
theorem splitAt_ne_nil (separator : Char) (cs : List Char) : splitAt separator cs ≠ [] := by
  cases cs with
  | nil => simp [splitAt]
  | cons c cs =>
    unfold splitAt
    split
    · split <;> simp
    · simp

end VaultAccess.Url
