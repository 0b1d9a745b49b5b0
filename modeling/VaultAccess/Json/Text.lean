import VaultAccess.Text.Utf8

/-!
# Quoted strings

The body of a string is the bytes that stand between its quotes. Whether a body is a text, without
lone surrogates and malformed bytes, is decided only where the string is used, by `unescape?`. `escape`
writes the body of a text: only the quote, the backslash and controls are escaped, so `unescape?` gives
every text back.
-/

namespace VaultAccess.Json

/-- The byte of an ASCII character. -/
def asciiByte (c : Char) : UInt8 := c.toNat.toUInt8

/-- The value of a hexadecimal digit. -/
def hexValue? (b : UInt8) : Option Nat :=
  let n := b.toNat
  if 0x30 ≤ n ∧ n ≤ 0x39 then some (n - 0x30)
  else if 0x41 ≤ n ∧ n ≤ 0x46 then some (n - 0x41 + 10)
  else if 0x61 ≤ n ∧ n ≤ 0x66 then some (n - 0x61 + 10)
  else none

/-- The number that four hexadecimal digits spell. -/
def hexUnit? (a b c d : UInt8) : Option Nat := do
  return (((← hexValue? a) * 16 + (← hexValue? b)) * 16 + (← hexValue? c)) * 16 + (← hexValue? d)

/-- What a one-letter escape stands for. -/
def shortEscape? (b : UInt8) : Option UInt8 :=
  match b.toNat with
  | 0x22 => some 0x22
  | 0x5C => some 0x5C
  | 0x2F => some 0x2F
  | 0x62 => some 0x08
  | 0x66 => some 0x0C
  | 0x6E => some 0x0A
  | 0x72 => some 0x0D
  | 0x74 => some 0x09
  | _ => none

/-- Whether a code unit is the first of a surrogate pair. -/
def isLeading (n : Nat) : Bool := 0xD800 ≤ n && n ≤ 0xDBFF

/-- Whether a code unit is the second of a surrogate pair. -/
def isTrailing (n : Nat) : Bool := 0xDC00 ≤ n && n ≤ 0xDFFF

/-- The bytes of a code point. -/
def codePointBytes (n : Nat) : List UInt8 :=
  String.utf8EncodeChar (Char.ofNat n)

/-- The bytes that a string body stands for; none if an escape is incomplete or a surrogate is
alone. -/
def unescapedBytes? : List UInt8 → Option (List UInt8)
  | [] => some []
  | b :: rest =>
    if b != 0x5C then (unescapedBytes? rest).map (b :: ·)
    else
      match rest with
      | [] => none
      | e :: rest =>
        if e == 0x75 then
          match rest with
          | h₁ :: h₂ :: h₃ :: h₄ :: rest =>
            match hexUnit? h₁ h₂ h₃ h₄ with
            | none => none
            | some u =>
              if isTrailing u then none
              else if isLeading u then
                match rest with
                | 0x5C :: 0x75 :: l₁ :: l₂ :: l₃ :: l₄ :: rest =>
                  match hexUnit? l₁ l₂ l₃ l₄ with
                  | none => none
                  | some v =>
                    if isTrailing v then
                      (unescapedBytes? rest).map
                        (codePointBytes (0x10000 + (u - 0xD800) * 0x400 + (v - 0xDC00)) ++ ·)
                    else none
                | _ => none
              else (unescapedBytes? rest).map (codePointBytes u ++ ·)
          | _ => none
        else
          match shortEscape? e with
          | none => none
          | some c => (unescapedBytes? rest).map (c :: ·)

/-- The text of a string body. -/
def unescape? (body : List UInt8) : Option String :=
  (unescapedBytes? body).bind Utf8.decode?

/-- A lower-case hexadecimal digit. -/
def hexDigit (n : Nat) : Char :=
  if n < 10 then Char.ofNat (0x30 + n) else Char.ofNat (0x61 + n - 10)

/-- How one character stands in a string body. -/
def escapeChar (c : Char) : List Char :=
  if c == '"' then ['\\', '"']
  else if c == '\\' then ['\\', '\\']
  else if c.toNat == 0x08 then ['\\', 'b']
  else if c.toNat == 0x0C then ['\\', 'f']
  else if c == '\n' then ['\\', 'n']
  else if c == '\r' then ['\\', 'r']
  else if c == '\t' then ['\\', 't']
  else if c.toNat < 0x20 then
    ['\\', 'u', '0', '0', hexDigit (c.toNat / 16), hexDigit (c.toNat % 16)]
  else [c]

/-- The body of a string. -/
def escape (s : String) : List Char :=
  s.toList.flatMap escapeChar

/-- A string with its quotes. -/
def quote (s : String) : String :=
  String.ofList ('"' :: escape s ++ ['"'])

end VaultAccess.Json
