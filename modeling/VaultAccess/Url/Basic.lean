import VaultAccess.Url.Host

/-!
# URLs

A URL in parts, and its one printed form. A path is a list of segments or, in a URL that has no
hierarchy, a text that is kept as it is.
-/

namespace VaultAccess

/-- The path of a URL. -/
inductive Url.Path where
  | segments (list : List String)
  | verbatim (text : String)
  deriving Repr, DecidableEq

/-- A URL. All texts are percent-encoded. -/
structure Url where
  scheme : String
  /-- The user name; empty if there is none. -/
  username : String := ""
  /-- The password; empty if there is none. -/
  password : String := ""
  host : Option Url.Host := none
  /-- The port, unless it is the usual one. -/
  port : Option Nat := none
  path : Url.Path
  query : Option String := none
  fragment : Option String := none
  deriving Repr, DecidableEq

namespace Url

/-- The usual port of a scheme. -/
def usualPort? (scheme : String) : Option Nat :=
  if scheme == "http" || scheme == "ws" then some 80
  else if scheme == "https" || scheme == "wss" then some 443
  else if scheme == "ftp" then some 21
  else none

/-- Whether a scheme is special: its URLs have a host and a path that starts with a slash. -/
def isSpecial (scheme : String) : Bool := scheme == "file" || (usualPort? scheme).isSome

/-- A path as it stands in a URL. -/
def Path.render : Path → String
  | .segments list => String.join (list.map ("/" ++ ·))
  | .verbatim text => text

/-- The user name and the password as they stand before a host. -/
def renderUserinfo (u : Url) : String :=
  if u.username.isEmpty && u.password.isEmpty then ""
  else u.username ++ (if u.password.isEmpty then "" else ":" ++ u.password) ++ "@"

/-- What stands between the scheme and the path. Without a host a path may not begin with two slashes,
since what follows them would be taken for one. -/
def renderAuthority (u : Url) : String :=
  match u.host, u.path with
  | some host, _ =>
    "//" ++ u.renderUserinfo ++ host.render ++
      (match u.port with
      | some p => ":" ++ toString p
      | none => "")
  | none, .segments ("" :: _ :: _) => if u.scheme == "file" then "//" else "/."
  | none, _ => if u.scheme == "file" then "//" else ""

/-- A text behind a mark, or nothing. -/
def renderAfter (mark : String) : Option String → String
  | none => ""
  | some s => mark ++ s

/-- A URL without its fragment. -/
def renderTarget (u : Url) : String :=
  u.scheme ++ ":" ++ u.renderAuthority ++ u.path.render ++ renderAfter "?" u.query

/-- A URL. -/
def render (u : Url) : String :=
  u.renderTarget ++ renderAfter "#" u.fragment

end Url

end VaultAccess
