import VaultAccess.Http.Client

/-!
# Endpoints

Where requests go: the address of a server, its namespace and the client that sends them. An address is
kept without slashes at its end, and a path is joined to it without slashes at its front, so that no
number of slashes on either side changes the target.
-/

namespace VaultAccess

/-- Where requests go. -/
structure Endpoint where
  client : Http.Client
  address : String
  namespaceName : Option String
  deriving Repr, DecidableEq

namespace Endpoint

/-- Whether a character is a slash. -/
def isSlash (c : Char) : Bool := c == '/'

/-- A text without the slashes at its front. -/
def trimStart (s : String) : String := String.ofList (s.toList.dropWhile isSlash)

/-- A text without the slashes at its end. -/
def trimEnd (s : String) : String :=
  String.ofList (s.toList.reverse.dropWhile isSlash).reverse

/-- The endpoint at an address. An empty namespace is none. -/
def ofAddress (client : Http.Client) (address : String) (namespaceName : Option String) : Endpoint :=
  ⟨client, trimEnd address, namespaceName.filter fun n ↦ !n.isEmpty⟩

/-- The target of a path. -/
def url (e : Endpoint) (path : String) : String :=
  e.address ++ "/v1/" ++ trimStart path

end Endpoint

end VaultAccess
