/-!
# Ciphertexts

What marks a value as encrypted.
-/

namespace VaultAccess.Ciphertext

/-- What every ciphertext starts with. -/
def marker : String := "vault:v"

/-- Whether a value is a ciphertext. -/
def isCiphertext (value : String) : Bool :=
  marker.toList.isPrefixOf value.toList

end VaultAccess.Ciphertext
