import VaultAccess.Tls.Der

/-!
# Certificates

A certificate names the holder of a key; its content is signed. Nothing is made of the signature and the
names here: a certificate is read to see that it is one and which key it is for.
-/

namespace VaultAccess.Tls

open Der

/-- A certificate. -/
structure Certificate where
  /-- The algorithm and the public key of the holder, as they are written. -/
  subjectKey : List UInt8
  deriving Repr, DecidableEq

namespace Certificate

/-! ### Extensions -/

/-- An extension of a certificate. -/
structure Extension where
  id : List UInt8
  /-- Whether a reader that does not know the extension has to refuse the certificate. -/
  isCritical : Bool
  value : List UInt8
  deriving Repr, DecidableEq

/-- A truth value that may be left out if it is false. -/
def truth : Reader Bool := do
  if ← isNext boolean then
    let content ← value boolean
    require (content == [0x00] || content == [0xFF])
    return content == [0xFF]
  else return false

/-- An extension. -/
def extension : Reader Extension := do
  let id ← value identifier
  let isCritical ← truth
  let value ← value octetString
  return { id, isCritical, value }

/-- What a key may be used for. -/
def keyUsage : List UInt8 := [0x55, 0x1D, 15]

/-- The extensions that are known: what a key may be used for, other names of the holder, whether the
holder may sign certificates, which names those may have, where revocations are published, and the
purposes of the key. -/
def knownExtensions : List (List UInt8) :=
  [keyUsage, [0x55, 0x1D, 17], [0x55, 0x1D, 19], [0x55, 0x1D, 30], [0x55, 0x1D, 31], [0x55, 0x1D, 37]]

/-- Whether an extension is sound by itself. The known ones other than `keyUsage` hold a list of
values. -/
def Extension.isSound (e : Extension) : Bool :=
  if e.id == keyUsage then true
  else if knownExtensions.contains e.id then (whole (Der.value sequence) e.value).isSome
  else !e.isCritical

/-- Whether the extensions of a certificate are sound: none of the known ones stands twice. -/
def areSound (es : List Extension) : Bool :=
  es.all Extension.isSound &&
    knownExtensions.all fun id ↦ (es.filter (·.id == id)).length ≤ 1

/-- The extensions of a certificate. -/
def extensions : Reader Unit := do
  let bytes ← remaining
  let contents ← liftM (contents? sequence bytes.length bytes)
  let es ← liftM (contents.mapM (whole extension))
  require (areSound es)

/-! ### Certificates -/

/-- The signed content of a certificate of the third version, which repeats the algorithm of the
signature. -/
def signedContent (algorithm : List UInt8) : Reader Certificate := do
  inside (context 0) do require ((← number) = 2)
  let _serial ← value integer
  require ((← value sequence) == algorithm)
  let _issuer ← value sequence
  let _validity ← value sequence
  let _subject ← value sequence
  let subjectKey ← value sequence
  if !(← atEnd) then inside (context 3) (inside sequence extensions)
  return { subjectKey }

/-- A certificate of the third version: the content, the algorithm of the signature and the signature. -/
def current : Reader Certificate :=
  inside sequence do
    let content ← value sequence
    let algorithm ← value sequence
    let _signature ← bits bitString
    liftM (whole (signedContent algorithm) content)

/-- A certificate of the first version, which has neither a number for its version nor extensions. -/
def early : Reader Certificate :=
  inside sequence do
    let certificate ← inside sequence do
      let _serial ← value integer
      let _algorithm ← value sequence
      let _issuer ← value sequence
      let _validity ← value sequence
      let _subject ← value sequence
      return { subjectKey := ← value sequence }
    let _algorithm ← value sequence
    let _signature ← value bitString
    return certificate

/-- The certificate that bytes are. -/
def read? (bytes : List UInt8) : Option Certificate := whole current bytes

/-- Whether bytes are a certificate that can be trusted in. Old ones can, since they are known
beforehand. -/
def isAnchor (bytes : List UInt8) : Bool :=
  (read? bytes).isSome || (whole early bytes).isSome

end Certificate

end VaultAccess.Tls
