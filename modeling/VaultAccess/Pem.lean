import VaultAccess.Base64
import VaultAccess.Tls.PrivateKey

/-!
# Labelled blocks of base 64

A file of keys and certificates: blocks between a line that begins a label and a line that ends it, in
base 64, with any other text around them. `Pem.blocks?` reads the blocks whose labels are known; a block
that is not closed or not readable spoils the file.
-/

namespace VaultAccess.Pem

/-- What a block holds. -/
inductive Kind where
  | certificate
  | privateKey (format : Tls.PrivateKey.Format)
  | other
  deriving Repr, DecidableEq

/-- The bytes of an ASCII text. -/
def ascii (s : String) : List UInt8 := s.toList.map fun c ↦ c.toNat.toUInt8

/-- The kind of a block with a known label. -/
def kind? (label : List UInt8) : Option Kind :=
  if label == ascii "CERTIFICATE" then some .certificate
  else if label == ascii "PRIVATE KEY" then some (.privateKey .named)
  else if label == ascii "RSA PRIVATE KEY" then some (.privateKey .primes)
  else if label == ascii "EC PRIVATE KEY" then some (.privateKey .curve)
  else if ["PUBLIC KEY", "X509 CRL", "CERTIFICATE REQUEST", "ECHCONFIG"].any (label == ascii ·) then
    some .other
  else none

/-- A block. -/
structure Block where
  kind : Kind
  content : List UInt8

/-- Whether a byte ends a line. -/
def isLineEnd (b : UInt8) : Bool := b == 0x0A || b == 0x0D

/-- The lines of a file. -/
def lines : List UInt8 → List (List UInt8)
  | [] => [[]]
  | b :: bs =>
    match lines bs with
    | l :: ls => if isLineEnd b then [] :: l :: ls else (b :: l) :: ls
    | [] => [[b]]

/-- What a line is among blocks. -/
inductive Line where
  /-- The line begins a block, with a label if it is written correctly. -/
  | begins (label : Option (List UInt8))
  /-- The line ends a block with a label. -/
  | ends (rest : List UInt8)
  | text (content : List UInt8)

/-- What stands before some dashes, in reverse. Blanks may stand among and behind the dashes, and no
further dash may stand before them. -/
def beforeDashes? : (dashes : Nat) → List UInt8 → Option (List UInt8)
  | 0, rest => if (rest.dropWhile (· == 0x20)).head? == some 0x2D then none else some rest
  | _ + 1, [] => none
  | n + 1, b :: rest =>
    if b == 0x2D then beforeDashes? n rest
    else if b == 0x20 then beforeDashes? (n + 1) rest
    else none

/-- The label before the five dashes that end a line. -/
def label? (rest : List UInt8) : Option (List UInt8) :=
  (beforeDashes? 5 rest.reverse).map List.reverse

/-- Tell what a line is. -/
def Line.ofBytes (line : List UInt8) : Line :=
  let begins := ascii "-----BEGIN "
  let ends := ascii "-----END "
  if begins.isPrefixOf line then .begins (label? (line.drop begins.length))
  else if ends.isPrefixOf line then .ends (line.drop ends.length)
  else .text line

/-! ### Content -/

/-- Whether a byte is skipped inside base 64. -/
def isSkipped (b : UInt8) : Bool := (0x09 ≤ b && b ≤ 0x0D) || b == 0x20

/-- The bytes that numbers below 64 spell. Four of them spell three bytes, fewer at the end one byte less
than there are; what is left of the last one does not count. -/
def bytesOf? : List Nat → Option (List UInt8)
  | [] => some []
  | [_] => none
  | [a, b] => some [(a * 4 + b / 16).toUInt8]
  | [a, b, c] => some [(a * 4 + b / 16).toUInt8, (b % 16 * 16 + c / 4).toUInt8]
  | a :: b :: c :: d :: rest =>
    (bytesOf? rest).map fun bytes ↦
      (a * 4 + b / 16).toUInt8 :: (b % 16 * 16 + c / 4).toUInt8 :: (c % 4 * 64 + d).toUInt8 :: bytes

/-- The bytes of the content of a block. Padding at its end may be left out, but if it is there, it has to
fill the last four symbols. -/
def content? (text : List UInt8) : Option (List UInt8) :=
  let symbols := text.filter (!isSkipped ·)
  let padding := (symbols.reverse.takeWhile (· == Base64.padding)).length
  if padding = 0 || (padding ≤ 2 && symbols.length % 4 = 0) then
    ((symbols.take (symbols.length - padding)).mapM Base64.value?).bind bytesOf?
  else none

/-! ### Blocks -/

/-- The blocks among lines; `opened` is the label and the content so far of the block that is open. -/
def blocksOf? (opened : Option (List UInt8 × List UInt8)) : List Line → Option (List Block)
  | [] => if opened.isSome then none else some []
  | .begins none :: _ => none
  | .begins (some label) :: rest => blocksOf? (some (label, (opened.map (·.2)).getD [])) rest
  | .ends tail :: rest =>
    match opened with
    | none => blocksOf? none rest
    | some (label, content) =>
      if (label ++ ascii "-----").isPrefixOf tail then
        match kind? label with
        | none => blocksOf? none rest
        | some kind =>
          match content? content with
          | none => none
          | some bytes => (blocksOf? none rest).map (⟨kind, bytes⟩ :: ·)
      else blocksOf? (some (label, content ++ ascii "-----END " ++ tail)) rest
  | .text line :: rest => blocksOf? (opened.map fun (l, c) ↦ (l, c ++ line)) rest

/-- The blocks of a file. -/
def blocks? (file : List UInt8) : Option (List Block) :=
  blocksOf? none ((lines file).map Line.ofBytes)

end VaultAccess.Pem
