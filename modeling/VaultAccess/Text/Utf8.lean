/-!
# UTF-8

Bytes and characters. `encode` writes a text as bytes and `pieces` cuts any byte list into characters
and maximal malformed parts; the three readers are views of `pieces`: `decode` accepts only a list of
characters and otherwise names the first malformed part, `decodeLossy` puts the replacement character
in the place of each malformed part.
-/

namespace VaultAccess.Utf8

/-- The bytes of a text. -/
def encode (s : String) : List UInt8 :=
  s.toList.flatMap String.utf8EncodeChar

/-- What a byte list is made of: characters, malformed parts that some byte rules out, and a last part
that the end of the list cuts short. Both kinds of part carry the number of their bytes. -/
inductive Piece where
  | char (c : Char)
  | malformed (size : Nat)
  | truncated (size : Nat)
  deriving Repr, DecidableEq

/-- How many bytes a piece takes. -/
def Piece.size : Piece → Nat
  | .char c => c.utf8Size
  | .malformed n => n
  | .truncated n => n

/-- Whether a byte continues a character. -/
def isTail (b : UInt8) : Bool := 0x80 ≤ b && b ≤ 0xBF

/-- The number of bytes that a first byte announces; none for a byte that starts no character. -/
def width? (a : UInt8) : Option Nat :=
  if a ≤ 0x7F then some 1
  else if 0xC2 ≤ a && a ≤ 0xDF then some 2
  else if 0xE0 ≤ a && a ≤ 0xEF then some 3
  else if 0xF0 ≤ a && a ≤ 0xF4 then some 4
  else none

/-- Whether a byte may be the second of a character that starts with `a`: besides continuing it must
keep out overlong forms, surrogates and values above the last code point. -/
def isSecond (a b : UInt8) : Bool :=
  if a == 0xE0 then 0xA0 ≤ b && b ≤ 0xBF
  else if a == 0xED then 0x80 ≤ b && b ≤ 0x9F
  else if a == 0xF0 then 0x90 ≤ b && b ≤ 0xBF
  else if a == 0xF4 then 0x80 ≤ b && b ≤ 0x8F
  else isTail b

/-- The character of a first byte's low bits followed by six bits of each other byte. -/
def assemble (lead : Nat) (tails : List UInt8) : Char :=
  Char.ofNat (tails.foldl (fun n b ↦ n * 64 + b.toNat % 64) lead)

/-- The pieces of a byte list, in order. -/
def pieces : List UInt8 → List Piece
  | [] => []
  | a :: rest =>
    match width? a with
    | none => .malformed 1 :: pieces rest
    | some 1 => .char (Char.ofNat a.toNat) :: pieces rest
    | some 2 =>
      match rest with
      | [] => [.truncated 1]
      | b :: rest =>
        if isSecond a b then .char (assemble (a.toNat % 32) [b]) :: pieces rest
        else .malformed 1 :: pieces (b :: rest)
    | some 3 =>
      match rest with
      | [] => [.truncated 1]
      | b :: rest =>
        if isSecond a b then
          match rest with
          | [] => [.truncated 2]
          | c :: rest =>
            if isTail c then .char (assemble (a.toNat % 16) [b, c]) :: pieces rest
            else .malformed 2 :: pieces (c :: rest)
        else .malformed 1 :: pieces (b :: rest)
    | some _ =>
      match rest with
      | [] => [.truncated 1]
      | b :: rest =>
        if isSecond a b then
          match rest with
          | [] => [.truncated 2]
          | c :: rest =>
            if isTail c then
              match rest with
              | [] => [.truncated 3]
              | d :: rest =>
                if isTail d then .char (assemble (a.toNat % 8) [b, c, d]) :: pieces rest
                else .malformed 3 :: pieces (d :: rest)
            else .malformed 2 :: pieces (c :: rest)
        else .malformed 1 :: pieces (b :: rest)

/-- Why a byte list is no text. The index is that of the first malformed part. -/
inductive Fault where
  | malformed (size index : Nat)
  | truncated (index : Nat)
  deriving Repr, DecidableEq

/-- The wording of a fault. -/
def Fault.message : Fault → String
  | .malformed n i =>
    "invalid utf-8 sequence of " ++ toString n ++ " bytes from index " ++ toString i
  | .truncated i => "incomplete utf-8 byte sequence from index " ++ toString i

/-- The characters of a list of pieces, or the first fault; `index` counts the bytes before it. -/
def characters (index : Nat) : List Piece → Except Fault (List Char)
  | [] => .ok []
  | .char c :: rest => (characters (index + c.utf8Size) rest).map (c :: ·)
  | .malformed n :: _ => .error (.malformed n index)
  | .truncated _ :: _ => .error (.truncated index)

/-- The text of a byte list, or its first fault. -/
def decode (bytes : List UInt8) : Except Fault String :=
  (characters 0 (pieces bytes)).map String.ofList

/-- The text of a byte list, if it is one. -/
def decode? (bytes : List UInt8) : Option String :=
  (decode bytes).toOption

/-- The character that a piece is shown as. -/
def Piece.shown : Piece → Char
  | .char c => c
  | _ => Char.ofNat 0xFFFD

/-- The text of a byte list in which each malformed part is one replacement character. -/
def decodeLossy (bytes : List UInt8) : String :=
  String.ofList ((pieces bytes).map Piece.shown)

end VaultAccess.Utf8
