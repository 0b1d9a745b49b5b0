/-!
# Secret texts

A text that diagnostics must not show. They show the same for every secret text.
-/

namespace VaultAccess

/-- A text that is kept out of diagnostics. -/
structure Secret where
  expose : String
  deriving DecidableEq

/-- A secret text as diagnostics show it. -/
def Secret.shown (_ : Secret) : String := "SecretBox<str>([REDACTED])"

end VaultAccess
