/-!
# Labels outside ASCII

A label of a host name that stands for characters outside ASCII begins with `xn--`. What follows is the
ASCII characters of the label, a hyphen if there are any, and a run of digits to base 36 that tells which
other characters are inserted and where. The digits make up numbers of varying length: each number is how
far to go from one insertion to the next, counted over all places of all code points in their order.
-/

namespace VaultAccess.Url.Domain.Punycode

/-! ### Numbers of varying length -/

/-- The value of a digit to base 36; labels are in lower case. -/
def digit? (c : Char) : Option Nat :=
  if 'a' ≤ c ∧ c ≤ 'z' then some (c.toNat - 'a'.toNat)
  else if '0' ≤ c ∧ c ≤ '9' then some (c.toNat - '0'.toNat + 26)
  else none

/-- The digit to base 36 with a value. -/
def digitOf (n : Nat) : Char :=
  if n < 26 then Char.ofNat ('a'.toNat + n) else Char.ofNat ('0'.toNat + (n - 26))

/-- A digit that is written reads as its value. -/
theorem digit?_digitOf {n : Nat} (h : n < 36) : digit? (digitOf n) = some n := by
  have hall : ∀ m ∈ List.range 36, digit? (digitOf m) = some m := by decide
  exact hall n (List.mem_range.mpr h)

/-- The least digit that does not end a number. -/
def threshold (bias position : Nat) : Nat := max 1 (min 26 (position - bias))

/-- A threshold is positive and leaves room for digits above it. -/
theorem threshold_bounds (bias position : Nat) :
    1 ≤ threshold bias position ∧ threshold bias position ≤ 26 := by
  unfold threshold
  omega

/-- Bring a distance below a bound: the number of steps that this takes, and what is left. -/
def reduce (distance : Nat) : Nat × Nat :=
  if 455 < distance then
    let (steps, rest) := reduce (distance / 35)
    (steps + 1, rest)
  else (0, distance)
termination_by distance
decreasing_by omega

/-- How far the digits of the next number are expected to reach, after a distance that led to a label of
some length. -/
def adapt (distance length : Nat) (isFirst : Bool) : Nat :=
  let distance := if isFirst then distance / 700 else distance / 2
  let (steps, rest) := reduce (distance + distance / length)
  36 * steps + 36 * rest / (rest + 38)

/-! ### Reading -/

/-- Where reading insertions stands. -/
structure State where
  /-- The code points so far. -/
  label : List Nat
  /-- The code point at which the next step starts. -/
  point : Nat := 128
  /-- The place at which the next step starts. -/
  place : Nat := 0
  /-- How far the digits are expected to reach. -/
  bias : Nat := 72
  /-- The number under way. -/
  distance : Nat := 0
  /-- What the next digit counts; none between two numbers. -/
  weight : Option Nat := none
  /-- The position of the next digit, times the base. -/
  position : Nat := 36

/-- Insert the character that a distance leads to; none beyond the last code point. -/
def insert? (s : State) (distance : Nat) : Option State :=
  let length := s.label.length + 1
  let reached := s.place + distance
  let point := s.point + reached / length
  let place := reached % length
  if 0x10FFFF < point then none
  else some {
    label := s.label.take place ++ point :: s.label.drop place
    point
    place := place + 1
    bias := adapt distance length (s.place == 0) }

/-- Read one digit. What a digit counts has to fit 32 bits. -/
def step? (s : State) (c : Char) : Option State := do
  let digit ← digit? c
  let weight := s.weight.getD 1
  let distance := s.distance + digit * weight
  let least := threshold s.bias s.position
  if digit < least then insert? s distance
  else if Nat.pow 2 32 ≤ weight * (36 - least) then none
  else return { s with distance, weight := some (weight * (36 - least)), position := s.position + 36 }

/-- The ASCII characters at the front of a label and the digits after them. -/
def cut (cs : List Char) : List Char × List Char :=
  let digits := (cs.reverse.takeWhile (· != '-')).reverse
  (cs.take (cs.length - digits.length - 1), digits)

/-- The longest text that is decoded. -/
def longestDigits : Nat := 2000

/-- The code points that a label without its `xn--` stands for. -/
def decode? (cs : List Char) : Option (List Nat) := do
  if longestDigits < cs.length then none
  let (ascii, digits) := cut cs
  if !ascii.all (·.toNat < 0x80) then none
  let s ← digits.foldlM step? { label := ascii.map Char.toNat }
  if s.weight.isSome then none else some s.label

/-! ### Writing -/

/-- The digits of a number of varying length. -/
def digitsOf (bias position n : Nat) : List Char :=
  let least := threshold bias position
  if n < least then [digitOf n]
  else
    digitOf (least + (n - least) % (36 - least)) ::
      digitsOf bias (position + 36) ((n - least) / (36 - least))
termination_by n
decreasing_by
  have h := threshold_bounds bias position
  refine Nat.lt_of_le_of_lt (Nat.div_le_self _ _) ?_
  omega

/-- Where writing insertions stands. -/
structure Writing where
  /-- The digits so far. -/
  digits : List Char := []
  /-- The code point at which the next step starts. -/
  point : Nat := 128
  /-- How far it is from the last insertion. -/
  distance : Nat := 0
  bias : Nat := 72
  /-- How many characters have been inserted or were there. -/
  length : Nat
  /-- Whether nothing has been inserted. -/
  isFirst : Bool := true

/-- Go past one character of a label on the round for a code point, and insert it if it is the one. -/
def Writing.pass (point : Nat) (w : Writing) (n : Nat) : Writing :=
  if n < point then { w with distance := w.distance + 1 }
  else if n = point then
    { w with
      digits := w.digits ++ digitsOf w.bias 36 w.distance
      distance := 0
      bias := adapt w.distance (w.length + 1) w.isFirst
      length := w.length + 1
      isFirst := false }
  else w

/-- Go round a label once to insert a code point wherever it stands. -/
def Writing.round (label : List Nat) (w : Writing) (point : Nat) : Writing :=
  let start := { w with distance := w.distance + (point - w.point) * (w.length + 1) }
  let done := label.foldl (Writing.pass point) start
  { done with point := point + 1, distance := done.distance + 1 }

/-- A label without its `xn--` that stands for code points. -/
def encode (label : List Nat) : List Char :=
  let ascii := label.filter (· < 0x80)
  let points := ((label.filter (0x80 ≤ ·)).mergeSort).eraseDups
  let w := points.foldl (Writing.round label) { length := ascii.length }
  ascii.map Char.ofNat ++ (if ascii.isEmpty then [] else ['-']) ++ w.digits

end VaultAccess.Url.Domain.Punycode
