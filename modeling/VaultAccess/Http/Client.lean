import VaultAccess.Failure
import VaultAccess.Http.Settings
import VaultAccess.Tls.Identity

/-!
# Clients

What is left of the settings once a client has been built. The files for encrypted connections are read
when the client is built, first the trusted certificates and then the client's own; only then the user
agent is looked at. Reading a file is up to the machine (`Machine`).
-/

namespace VaultAccess.Http

/-- Whether a byte may stand in the value of a header. -/
def isHeaderByte (b : UInt8) : Bool := (0x20 ≤ b && b != 0x7F) || b == 0x09

/-- Whether a text may be the value of a header. -/
def isHeaderValue (s : String) : Bool := (Utf8.encode s).all isHeaderByte

/-- What clients are built on. -/
structure Machine where
  /-- The bytes of the file at a path, or why there are none. -/
  read : String → Except Chain (List UInt8)
  /-- What lies below the error for settings that cannot be used, outermost first. -/
  complaints : Settings → List String

/-- A machine without files. -/
def Machine.bare : Machine where
  read _ := .error ⟨"No such file or directory (os error 2)", []⟩
  complaints _ := []

/-- The failure for settings that cannot be used. -/
def Machine.refusal (m : Machine) (s : Settings) : PlatformFailure :=
  .client { message := "builder error", causes := m.complaints s }

/-- A client that can send requests. -/
structure Client where
  userAgent : String
  deriving Repr, DecidableEq

namespace Client

/-- The bytes of a file that a client needs. -/
def material (m : Machine) (path : String) : Except PlatformFailure (List UInt8) :=
  (m.read path).mapError (.material path)

/-- The contents of the certificates in a file of trusted ones. -/
def trusted (m : Machine) (s : Settings) (path : String) :
    Except PlatformFailure (List (List UInt8)) := do
  match Pem.blocks? (← material m path) with
  | none => throw (m.refusal s)
  | some blocks => return Tls.Identity.certificates blocks

/-- The identity in a file. -/
def identity (m : Machine) (s : Settings) (path : String) :
    Except PlatformFailure Tls.Identity := do
  match (Pem.blocks? (← material m path)).bind Tls.Identity.ofBlocks? with
  | none => throw (m.refusal s)
  | some i => return i

/-- Read a file if one is named. -/
def whenNamed {α : Type} (path : Option String) (read : String → Except PlatformFailure α) :
    Except PlatformFailure (Option α) :=
  match path with
  | none => .ok none
  | some p => (read p).map some

/-- The client with some settings. -/
def build (m : Machine) (s : Settings) : Except PlatformFailure Client := do
  let roots ← whenNamed s.tls.trustStore (trusted m s)
  let own ← whenNamed s.tls.identity (identity m s)
  if roots.all (·.all Tls.Certificate.isAnchor) && own.all Tls.Identity.isConsistent &&
      isHeaderValue s.userAgent then
    return ⟨s.userAgent⟩
  else throw (m.refusal s)

end Client

end VaultAccess.Http
