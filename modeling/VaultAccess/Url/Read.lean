import VaultAccess.Url.Path

/-!
# Reading URLs

A text is cleaned of blanks around it and of line ends within it, and then cut at the marks of its
parts: the scheme ends at the first colon, the fragment begins at the first number sign and the query at
the first question mark before that. What lies between is an authority and a path. There is no other URL
that a text could be relative to, so it has to name a scheme.
-/

namespace VaultAccess.Url

/-! ### Parts of a text -/

/-- Whether a character is dropped at both ends of a text. -/
def isOuterBlank (c : Char) : Bool := c.toNat ≤ 0x20

/-- A text without the blanks around it. -/
def trimOuter (cs : List Char) : List Char :=
  ((cs.dropWhile isOuterBlank).reverse.dropWhile isOuterBlank).reverse

/-- Whether a character may stand in a scheme after its first letter. -/
def isSchemeChar (c : Char) : Bool := c.isAlphanum || c == '+' || c == '-' || c == '.'

/-- The scheme in lower case and what follows its colon. -/
def scheme? (cs : List Char) : Option (String × List Char) :=
  match cs with
  | [] => none
  | c :: _ =>
    if c.isAlpha then
      match cs.dropWhile isSchemeChar with
      | ':' :: rest => some (String.ofList ((cs.takeWhile isSchemeChar).map Char.toLower), rest)
      | _ => none
    else none

/-- A text up to a mark, and what follows the mark if it is there. -/
def cutAt (mark : Char) (cs : List Char) : List Char × Option (List Char) :=
  match cs.dropWhile (· != mark) with
  | [] => (cs, none)
  | _ :: rest => (cs.takeWhile (· != mark), some rest)

/-- Cut a text at the first separator. -/
def cutPath (special : Bool) (cs : List Char) : List Char × List Char :=
  (cs.takeWhile (!isSeparator special ·), cs.dropWhile (!isSeparator special ·))

/-! ### Authorities -/

/-- The user name, the password and the rest of an authority. Only the last at sign ends the user
information. Nothing before that sign is no user information, but then something has to follow: another
part of the authority, or nothing at all. -/
def userinfo? (isAll : Bool) (cs : List Char) : Option (String × String × List Char) :=
  if cs.contains '@' then
    let host := (cs.reverse.takeWhile (· != '@')).reverse
    let info := cs.take (cs.length - host.length - 1)
    if info.isEmpty && host.isEmpty && !isAll then none
    else
      let (name, password) := cutAt ':' info
      let encoded (t : List Char) : String := String.ofList (encode userinfoSet t)
      some (encoded name, encoded (password.getD []), host)
  else some ("", "", cs)

/-- The host and what follows the colon after it; colons between brackets belong to the host. -/
def hostAndPort (inBrackets : Bool) : List Char → List Char × Option (List Char)
  | [] => ([], none)
  | c :: cs =>
    if c == ':' && !inBrackets then ([], some cs)
    else
      let inBrackets := if c == '[' then true else if c == ']' then false else inBrackets
      let (host, port) := hostAndPort inBrackets cs
      (c :: host, port)

/-- The port that digits spell, none if it is the usual one or there are no digits, and what follows
them. A backslash ends a port, even where it separates no segments. -/
def port? (scheme : String) (cs : List Char) : Option (Option Nat × List Char) := do
  let digits := cs.takeWhile Char.isDigit
  let rest := cs.dropWhile Char.isDigit
  if !rest.isEmpty && rest.head? != some '\\' then none
  let n ← numberIn? 10 digits
  if n > 65535 then none
  else some (if digits.isEmpty || usualPort? scheme == some n then none else some n, rest)

/-- A URL with an authority, and whether that is all there is. -/
def withAuthority? (scheme : String) (isAll : Bool) (authority path : List Char) : Option Url := do
  let (username, password, rest) ← userinfo? isAll authority
  let (hostText, portText) := hostAndPort false rest
  if hostText.isEmpty &&
      (isSpecial scheme || portText.isSome || !username.isEmpty || !password.isEmpty) then none
  let host ← if isSpecial scheme then specialHost? hostText else plainHost? hostText
  let (port, atPath) ← (portText.map (port? scheme)).getD (some (none, []))
  return {
    scheme, username, password, host := some host, port
    path := pathOf (isSpecial scheme) (atPath ++ path) }

/-! ### Schemes -/

/-- A URL of a special scheme other than `file`. Slashes before the authority do not count. -/
def special? (scheme : String) (isAll : Bool) (cs : List Char) : Option Url :=
  let (authority, path) := cutPath true (cs.dropWhile (isSeparator true))
  withAuthority? scheme (isAll && path.isEmpty) authority path

/-- A URL of the scheme `file`. A host that is a drive is the start of the path. -/
def file? (cs : List Char) : Option Url :=
  match (afterSeparator? true cs).bind (afterSeparator? true) with
  | none => some { scheme := "file", path := filePath cs }
  | some rest =>
    let (hostText, path) := cutPath true rest
    let hostText := withoutIgnored hostText
    if isDrive hostText then some { scheme := "file", path := filePath rest }
    else do
      let host ←
        if hostText.isEmpty then some none
        else (specialHost? hostText).map fun host ↦
          if host == .name "localhost" || namesDrive path then none else some host
      return { scheme := "file", host, path := filePath path }

/-- A URL of any other scheme. -/
def plain? (scheme : String) (isAll : Bool) (cs : List Char) : Option Url :=
  match cs with
  | '/' :: '/' :: rest =>
    let (authority, path) := cutPath false rest
    withAuthority? scheme (isAll && path.isEmpty) authority path
  | '/' :: rest => some { scheme, path := pathOf false ('/' :: rest) }
  | _ => some { scheme, path := .verbatim (String.ofList (encode controls cs)) }

/-- The URL that a text spells. Only the path of a file needs the characters that are dropped. -/
def read? (s : String) : Option Url := do
  let text := trimOuter s.toList
  let (scheme, rest) ← scheme? (withoutIgnored text)
  let (beforeFragment, fragment) := cutAt '#' rest
  let (hierarchy, query) := cutAt '?' beforeFragment
  let isAll := query.isNone && fragment.isNone
  let url ←
    if scheme == "file" then
      let (_, raw) := cutAt ':' text
      file? ((raw.getD []).takeWhile fun c ↦ c != '#' && c != '?')
    else if isSpecial scheme then special? scheme isAll hierarchy
    else plain? scheme isAll hierarchy
  let queryChars := if isSpecial scheme then specialQuerySet else querySet
  return { url with
    query := query.map fun cs ↦ String.ofList (encode queryChars cs)
    fragment := fragment.map fun cs ↦ String.ofList (encode fragmentSet cs) }

end VaultAccess.Url
