import Sockets.Engine.AltName
import Sockets.Tls.Library

/-!
# Certificates

A certificate binds a public key to a subject and to names. Its issuer signed it, and it may say
in extensions what it is for. The library reads certificates of the third version; to be trusted
without more, a certificate may also be of the first.

## Main definitions

* `Sockets.Engine.Certificate` — a certificate.
* `Sockets.Engine.Certificate.ofDer` — the certificate that octets are.
* `Sockets.Engine.Anchor.ofDer` — what is trusted of the certificate that octets are.
-/

set_option autoImplicit false

namespace Sockets

open Tls

namespace Engine

/-! ## Extensions -/

/-- An extension of a certificate. -/
structure CertificateExtension where
  identifier : Bytes
  critical : Bool
  value : Bytes
  deriving DecidableEq, Repr, Inhabited

namespace CertificateExtension

/-- Read an extension, the sequence around it not included. -/
def read : Der.Reading CertificateFault CertificateExtension := do
  let identifier ← Der.content .badEncoding Der.identifierTag
  let critical ← Der.truth .notWhole .badEncoding
  let value ← Der.content .badEncoding Der.octetStringTag
  pure ⟨identifier, critical, value⟩

/-- What an extension is about, if it is one that is known: the last octet of its identifier. -/
def subject? (x : CertificateExtension) : Option UInt8 :=
  match x.identifier with
  | [0x55, 0x1d, n] => if [15, 17, 19, 30, 31, 37].contains n then some n else none
  | _ => none

/-- The content of a known extension: its value as it is if it is about uses of the key, else the
content of the sequence that it has to be. -/
def content (x : CertificateExtension) (subject : UInt8) : Except CertificateFault Bytes :=
  if subject = 15 then .ok x.value
  else Der.whole .badEncoding x.value (Der.content .badEncoding Der.sequenceTag)

end CertificateExtension

/-! ## Certificates -/

/-- A certificate. -/
structure Certificate where
  /-- The octets that are signed. -/
  signed : Bytes
  /-- How they are signed. -/
  algorithm : Bytes
  signature : Bytes
  issuer : Bytes
  validity : Bytes
  subject : Bytes
  /-- The public key, with what it is for. -/
  keyInfo : Bytes
  /-- The contents of the known extensions, by what they are about. -/
  extensions : List (UInt8 × Bytes)
  deriving DecidableEq, Repr, Inhabited

namespace Certificate

/-- Read the version, which has to be the third. -/
def readVersion : Der.Reading CertificateFault Unit :=
  Der.nested (.flaw .unsupportedVersion) (Der.partTag 0) do
    let version ← Der.octet .badEncoding
    if version ≠ 2 then Der.give (.flaw .unsupportedVersion)

/-- The known extensions with one more. None of them may occur twice, and one that is not known
may not be critical, unless `lenient`. -/
def remember (lenient : Bool) (known : List (UInt8 × Bytes)) (x : CertificateExtension) :
    Except CertificateFault (List (UInt8 × Bytes)) :=
  match x.subject? with
  | some subject =>
    if (known.lookup subject).isSome then .error (.flaw .invalidExtension)
    else (x.content subject).map fun content => known ++ [(subject, content)]
  | none =>
    if x.critical && !lenient then .error (.flaw .unsupportedCriticalExtension) else .ok known

/-- Read extensions up to the end, of which there are at least one and at most `fuel`, behind known
ones. -/
def readExtensionsWithin (lenient : Bool) : Nat → List (UInt8 × Bytes) →
    Der.Reading CertificateFault (List (UInt8 × Bytes))
  | 0, _ => Der.give .notWhole
  | fuel + 1, known => do
    let known ← Der.nested .notWhole Der.sequenceTag do
      let x ← CertificateExtension.read
      match remember lenient known x with
      | .ok known => pure known
      | .error f => Der.give f
    if ← Der.atEnd then pure known else readExtensionsWithin lenient fuel known

/-- Read the extensions, if there are any. -/
def readExtensions (lenient : Bool) : Der.Reading CertificateFault (List (UInt8 × Bytes)) := do
  if ← Der.atEnd then pure []
  else Der.nested .notWhole (Der.partTag 3) (Der.nested .notWhole Der.sequenceTag
    (fun bs => (readExtensionsWithin lenient bs.length []).run bs))

/-- Read what is signed, given how and by which signature. -/
def readBody (lenient : Bool) (signed algorithm signature : Bytes) :
    Der.Reading CertificateFault Certificate := do
  readVersion
  let _ ← Der.content .badEncoding Der.integerTag
  let inner ← Der.content .badEncoding Der.sequenceTag
  if inner ≠ algorithm then Der.give (.flaw .algorithmMismatch)
  else
    let issuer ← Der.content .badEncoding Der.sequenceTag
    let validity ← Der.content .badEncoding Der.sequenceTag
    let subject ← Der.content .badEncoding Der.sequenceTag
    let keyInfo ← Der.content .badEncoding Der.sequenceTag
    let extensions ← readExtensions lenient
    pure ⟨signed, algorithm, signature, issuer, validity, subject, keyInfo, extensions⟩

/-- The certificate that octets are; `lenient` about extensions that are not known. -/
def parse (lenient : Bool) (bs : Bytes) : Except CertificateFault Certificate := do
  let (body, algorithm, signature) ← Der.whole CertificateFault.notWhole bs
    (Der.nested .notWhole Der.sequenceTag do
      let body ← Der.content .badEncoding Der.sequenceTag
      let algorithm ← Der.content .badEncoding Der.sequenceTag
      let signature ← Der.wholeOctets .notWhole .badEncoding Der.bitStringTag
      pure (body, algorithm, signature))
  Der.whole .notWhole body
    (readBody lenient (Der.write Der.sequenceTag body) algorithm signature)

/-- The certificate that octets are. -/
def ofDer (bs : Bytes) : Except CertificateFault Certificate := parse false bs

/-- The content of the extension with the names. -/
def alternatives? (c : Certificate) : Option Bytes := c.extensions.lookup 17

/-- The content of the extension that says whether it is an authority. -/
def authority? (c : Certificate) : Option Bytes := c.extensions.lookup 19

/-- The content of the extension that limits the names below an authority. -/
def nameConstraints? (c : Certificate) : Option Bytes := c.extensions.lookup 30

/-- The content of the extension that says what the key is for. -/
def purposes? (c : Certificate) : Option Bytes := c.extensions.lookup 37

/-- The names that a certificate is made out to, up to the first that is none, and whether all are
names. -/
def names (c : Certificate) : List AltName × Bool := AltName.all (c.alternatives?.getD [])

/-- The names of a certificate as messages list them. -/
def nameTexts (c : Certificate) : List String := c.names.1.map AltName.text

end Certificate

/-! ## Trusted certificates -/

namespace Anchor

/-- What is trusted of a certificate. -/
def ofCertificate (c : Certificate) : Anchor := ⟨c.subject, c.keyInfo, c.nameConstraints?⟩

/-- Read a certificate of the first version, of which only subject and key are looked at. -/
def readFirstVersion : Der.Reading CertificateFault Anchor := do
  let anchor ← Der.nested .badEncoding Der.sequenceTag do
    let _ ← Der.content .badEncoding Der.integerTag
    let _ ← Der.content .badEncoding Der.sequenceTag
    let _ ← Der.content .badEncoding Der.sequenceTag
    let _ ← Der.content .badEncoding Der.sequenceTag
    let subject ← Der.content .badEncoding Der.sequenceTag
    let keyInfo ← Der.content .badEncoding Der.sequenceTag
    pure ⟨subject, keyInfo, none⟩
  let _ ← Der.content .badEncoding Der.sequenceTag
  let _ ← Der.content .badEncoding Der.bitStringTag
  pure anchor

/-- What is trusted of the certificate that octets are. -/
def ofDer (bs : Bytes) : Except CertificateFault Anchor :=
  match Certificate.parse true bs with
  | .ok c => .ok (ofCertificate c)
  | .error (.flaw .unsupportedVersion) =>
    Der.whole .badEncoding bs (Der.nested .badEncoding Der.sequenceTag readFirstVersion)
  | .error f => .error f

end Anchor

end Engine

end Sockets
