/-!
# Whole numbers in decimal

Reading a signed or unsigned whole number within bounds. The characters are read from the left and the
first one that fails decides the fault: a character that is no digit before one that leaves the bounds.
-/

namespace VaultAccess.Numeral

/-- Why a text is no whole number within the bounds. -/
inductive Fault where
  | empty
  | invalidDigit
  | tooLarge
  | tooSmall
  deriving Repr, DecidableEq

/-- The wording of a fault. -/
def Fault.message : Fault → String
  | .empty => "cannot parse integer from empty string"
  | .invalidDigit => "invalid digit found in string"
  | .tooLarge => "number too large to fit in target type"
  | .tooSmall => "number too small to fit in target type"

/-- The value of a decimal digit. -/
def digit? (c : Char) : Option Nat :=
  if '0' ≤ c ∧ c ≤ '9' then some (c.toNat - '0'.toNat) else none

/-- One more digit to the right of a number that may not exceed `limit`. -/
def push (limit : Nat) (n : Nat) (c : Char) : Except Fault Nat :=
  match digit? c with
  | none => .error .invalidDigit
  | some d => if n * 10 + d ≤ limit then .ok (n * 10 + d) else .error .tooLarge

/-- The number that the digits spell, at least one digit and at most `limit`. -/
def digits (limit : Nat) (cs : List Char) : Except Fault Nat :=
  if cs.isEmpty then .error .invalidDigit else cs.foldlM (push limit) 0

/-- An unsigned number of at most `limit`, with an optional plus sign. -/
def unsigned (limit : Nat) (s : String) : Except Fault Nat :=
  match s.toList with
  | [] => .error .empty
  | '+' :: cs => digits limit cs
  | cs => digits limit cs

/-- A signed number from `-limit - 1` to `limit`, with an optional sign. -/
def signed (limit : Nat) (s : String) : Except Fault Int :=
  match s.toList with
  | [] => .error .empty
  | '+' :: cs => (digits limit cs).map Int.ofNat
  | '-' :: cs =>
    match digits (limit + 1) cs with
    | .ok n => .ok (-(n : Int))
    | .error .tooLarge => .error .tooSmall
    | .error e => .error e
  | cs => (digits limit cs).map Int.ofNat

/-- A number of 32 bits without a sign. -/
def unsigned32 (s : String) : Except Fault UInt32 :=
  (unsigned (UInt32.size - 1) s).map Nat.toUInt32

/-- A number of 64 bits with a sign. -/
def signed64 (s : String) : Except Fault Int :=
  signed (Nat.pow 2 63 - 1) s

end VaultAccess.Numeral
