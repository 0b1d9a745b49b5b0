import VaultAccess.Text.Unprintable

/-!
# Quoted texts

A text between double quotes, for diagnostics: the quote and the backslash are escaped, four controls
have a letter each, and what cannot be shown is spelled by its code point in hexadecimal.
-/

namespace VaultAccess.Text

/-- How one character stands in a quoted text. -/
def quotedChar (c : Char) : String :=
  if c == '"' then "\\\""
  else if c == '\\' then "\\\\"
  else if c == '\n' then "\\n"
  else if c == '\r' then "\\r"
  else if c == '\t' then "\\t"
  else if c.toNat == 0 then "\\0"
  else if isUnprintable c then
    "\\u\x7b" ++ String.ofList (Nat.toDigits 16 c.toNat) ++ "\x7d"
  else c.toString

/-- A text in double quotes. -/
def quoted (s : String) : String :=
  "\"" ++ String.join (s.toList.map quotedChar) ++ "\""

end VaultAccess.Text
