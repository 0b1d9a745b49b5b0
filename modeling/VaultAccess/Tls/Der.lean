/-!
# Tagged values

Certificates and keys are trees of tagged values: a tag, a length and as many bytes. A `Reader` takes
values off the front of some bytes. Every length is written in the shortest way, and no value is longer
than `longest`.
-/

namespace VaultAccess.Tls.Der

/-! ### Tags -/

/-- The tag of a truth value. -/
def boolean : UInt8 := 0x01

/-- The tag of a number. -/
def integer : UInt8 := 0x02

/-- The tag of a string of bits. -/
def bitString : UInt8 := 0x03

/-- The tag of a string of bytes. -/
def octetString : UInt8 := 0x04

/-- The tag of a registered name. -/
def identifier : UInt8 := 0x06

/-- The tag of a list of values. -/
def sequence : UInt8 := 0x30

/-- The tag of a list of values that its place tells apart. -/
def context (n : Nat) : UInt8 := (0xA0 + n).toUInt8

/-! ### Values -/

/-- The longest content of a value. -/
def longest : Nat := 65534

/-- The length at the front of some bytes, and the bytes after it. -/
def length? : List UInt8 → Option (Nat × List UInt8)
  | [] => none
  | n :: rest =>
    if n < 0x80 then some (n.toNat, rest)
    else
      match n == 0x81, n == 0x82, rest with
      | true, _, a :: rest => if a < 0x80 then none else some (a.toNat, rest)
      | _, true, a :: b :: rest =>
        let size := a.toNat * 256 + b.toNat
        if size < 256 || longest < size then none else some (size, rest)
      | _, _, _ => none

/-- The first value of some bytes, a tag and its content, and the bytes after it. -/
def first? : List UInt8 → Option (UInt8 × List UInt8 × List UInt8)
  | [] => none
  | tag :: rest =>
    match length? rest with
    | none => none
    | some (size, rest) =>
      if tag &&& 0x1F == 0x1F || rest.length < size then none
      else some (tag, rest.take size, rest.drop size)

/-- A length as it is written. -/
def renderLength (n : Nat) : List UInt8 :=
  if n < 0x80 then [n.toUInt8]
  else if n < 256 then [0x81, n.toUInt8]
  else [0x82, (n / 256).toUInt8, (n % 256).toUInt8]

/-- A value with some content. -/
def wrap (tag : UInt8) (content : List UInt8) : List UInt8 :=
  tag :: renderLength content.length ++ content

/-- A length that is written is read back. -/
theorem length?_renderLength {n : Nat} (h : n ≤ longest) (rest : List UInt8) :
    length? (renderLength n ++ rest) = some (n, rest) := by
  unfold longest at h
  unfold renderLength
  split
  · next hn =>
    have hnat : n.toUInt8.toNat = n := by simp; omega
    have hlt : n.toUInt8 < 0x80 := by rw [UInt8.lt_iff_toNat_lt, hnat]; exact hn
    simp [length?, hlt, hnat]
  · split
    · next hlow hn =>
      have hnat : n.toUInt8.toNat = n := by simp; omega
      have hlt : ¬ n.toUInt8 < 0x80 := by
        rw [UInt8.lt_iff_toNat_lt, hnat]
        exact hlow
      simp [length?, hlt, hnat]
    · next hlow hn =>
      simp only [length?, List.cons_append, List.nil_append]
      simp [longest]
      omega

/-- A value that is written is read back, whatever comes after it. -/
theorem first?_wrap {tag : UInt8} (htag : (tag &&& 0x1F == 0x1F) = false) {content : List UInt8}
    (h : content.length ≤ longest) (rest : List UInt8) :
    first? (wrap tag content ++ rest) = some (tag, content, rest) := by
  have hlength := length?_renderLength h (content ++ rest)
  have hfits : ¬ (content ++ rest).length < content.length := by simp
  simp only [wrap, List.cons_append, List.append_assoc, first?, hlength, htag, hfits]
  simp

/-! ### Reading -/

/-- A reader of values. -/
abbrev Reader := StateT (List UInt8) Option

/-- What a reader makes of bytes that it has to use up. -/
def whole {α : Type} (r : Reader α) (bytes : List UInt8) : Option α :=
  match r.run bytes with
  | some (a, []) => some a
  | _ => none

/-- Fail unless something holds. -/
def require (holds : Bool) : Reader Unit := fun bytes ↦ if holds then some ((), bytes) else none

/-- The content of the next value, which has to have a tag. -/
def value (tag : UInt8) : Reader (List UInt8) := fun bytes ↦
  match first? bytes with
  | some (t, content, rest) => if t == tag then some (content, rest) else none
  | none => none

/-- Read the content of the next value in full. -/
def inside {α : Type} (tag : UInt8) (r : Reader α) : Reader α := fun bytes ↦
  match value tag bytes with
  | some (content, rest) => (whole r content).map (·, rest)
  | none => none

/-- Whether a value with a tag comes next. -/
def isNext (tag : UInt8) : Reader Bool := fun bytes ↦ some (bytes.head? == some tag, bytes)

/-- Whether nothing is left. -/
def atEnd : Reader Bool := fun bytes ↦ some (bytes.isEmpty, bytes)

/-- The bytes that are left. -/
def remaining : Reader (List UInt8) := fun bytes ↦ some (bytes, [])

/-- The number that bytes spell, the most significant first. -/
def bigEndian (bytes : List UInt8) : Nat :=
  bytes.foldl (fun n b ↦ n * 256 + b.toNat) 0

/-- A number that is not negative. Only a zero that keeps it from being taken for negative may stand in
front. -/
def number : Reader Nat := do
  let content ← value integer
  match content with
  | [] => require false
  | [a] => require (a < 0x80)
  | a :: b :: _ => require (a < 0x80 && (a != 0 || 0x80 ≤ b))
  return bigEndian content

/-- A string of bits that are whole bytes, behind a tag. -/
def bits (tag : UInt8) : Reader (List UInt8) :=
  inside tag do
    match ← remaining with
    | 0 :: bytes => return bytes
    | _ => do
      require false
      return []

/-- The contents of values of one tag that make up some bytes, but not more than `fuel` values. -/
def contents? (tag : UInt8) : (fuel : Nat) → List UInt8 → Option (List (List UInt8))
  | _, [] => some []
  | 0, _ => none
  | fuel + 1, bytes =>
    match value tag bytes with
    | some (content, rest) => (contents? tag fuel rest).map (content :: ·)
    | none => none

/-! ### Writing numbers -/

/-- The bytes of a number, the most significant first, none for zero. -/
def bytesOf (n : Nat) : List UInt8 :=
  if n = 0 then [] else bytesOf (n / 256) ++ [(n % 256).toUInt8]
termination_by n
decreasing_by omega

/-- A number that is not negative as a value. -/
def renderNumber (n : Nat) : List UInt8 :=
  let bytes := bytesOf n
  wrap integer (if bytes.head?.all (0x80 ≤ ·) then 0 :: bytes else bytes)

end VaultAccess.Tls.Der
