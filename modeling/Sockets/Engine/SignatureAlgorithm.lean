import Sockets.Engine.Crypto.Ecdsa
import Sockets.Engine.Crypto.Edwards
import Sockets.Engine.Crypto.Rsa
import Sockets.Engine.Certificate
import Sockets.Engine.Scheme

/-!
# Signatures in certificates

A certificate says how it is signed, and a public key says what it is for. An algorithm that is
known here has one or two ways of being written down, and needs a public key of one kind.

## Main definitions

* `Sockets.Engine.SignatureAlgorithm` — the algorithms that are known.
* `Sockets.Engine.KeyInfo` — a public key with what it is for.
* `Sockets.Engine.SignatureAlgorithm.check` — what is wrong with a signature by a public key.
* `Sockets.Engine.SignatureAlgorithm.ofScheme` — the algorithms of a scheme of a handshake.
-/

set_option autoImplicit false

namespace Sockets

open Crypto

namespace Engine

/-! ## Public keys -/

/-- A public key with what it is for. -/
structure KeyInfo where
  kind : Bytes
  key : Bytes
  deriving DecidableEq, Repr, Inhabited

namespace KeyInfo

/-- The curves of public keys. -/
inductive Field where
  | p256
  | p384
  deriving DecidableEq, Repr, Inhabited

namespace Field

/-- The curve itself. -/
def curve : Field → Curve
  | p256 => .p256
  | p384 => .p384

/-- The identifier of a curve. -/
def identifier : Field → Bytes
  | p256 => [0x2a, 0x86, 0x48, 0xce, 0x3d, 0x03, 0x01, 0x07]
  | p384 => [0x2b, 0x81, 0x04, 0x00, 0x22]

end Field

/-- What a public key on a curve is for. -/
def curveKind (f : Field) : Bytes :=
  Der.write Der.identifierTag [0x2a, 0x86, 0x48, 0xce, 0x3d, 0x02, 0x01] ++
    Der.write Der.identifierTag f.identifier

/-- What a public key on the twisted curve is for. -/
def twistedKind : Bytes := Der.write Der.identifierTag [0x2b, 0x65, 0x70]

/-- Nothing, where a parameter may stand. -/
def noParameters : Bytes := [0x05, 0x00]

/-- The identifier of something about signatures by powers. -/
def powerIdentifier (n : UInt8) : Bytes :=
  Der.write Der.identifierTag [0x2a, 0x86, 0x48, 0x86, 0xf7, 0x0d, 0x01, 0x01, n]

/-- What a public key for powers is for. -/
def powerKind : Bytes := powerIdentifier 1 ++ noParameters

/-- The public key that octets are, the sequence around it not included. -/
def ofContent (bs : Bytes) : Except CertificateFault KeyInfo :=
  Der.whole .notWhole bs do
    let kind ← Der.content .badEncoding Der.sequenceTag
    let key ← Der.wholeOctets .notWhole .badEncoding Der.bitStringTag
    pure ⟨kind, key⟩

/-- The octets of a public key, the sequence around it not included. -/
def write (k : KeyInfo) : Bytes :=
  Der.write Der.sequenceTag k.kind ++ Der.write Der.bitStringTag (0 :: k.key)

end KeyInfo

/-! ## Algorithms -/

/-- The algorithms that are known. -/
inductive SignatureAlgorithm where
  | curve (field : KeyInfo.Field) (digest : Digest)
  | twisted
  /-- Powers; whether nothing is written where a parameter may stand, instead of leaving it out. -/
  | power (encoding : Rsa.Encoding) (digest : Digest) (written : Bool)
  deriving DecidableEq, Repr, Inhabited

namespace SignatureAlgorithm

/-- The last octet of what names a digest in a signature over a curve. -/
def curveMark : Digest → UInt8
  | .sha256 => 2
  | .sha384 => 3
  | .sha512 => 4

/-- The last octet of what names a digest in a signature by powers. -/
def powerMark : Digest → UInt8
  | .sha256 => 11
  | .sha384 => 12
  | .sha512 => 13

/-- The identifier of a digest, with its parameter. -/
def digestIdentifier (d : Digest) : Bytes :=
  Der.write Der.sequenceTag
    (Der.write Der.identifierTag
      [0x60, 0x86, 0x48, 0x01, 0x65, 0x03, 0x04, 0x02, curveMark d - 1] ++ KeyInfo.noParameters)

/-- The parameters of a salted encoding: the digest, the mask, and the length of the salt. -/
def saltParameters (d : Digest) : Bytes :=
  Der.write Der.sequenceTag
    (Der.write (Der.partTag 0) (digestIdentifier d) ++
      (Der.write (Der.partTag 1)
        (Der.write Der.sequenceTag (KeyInfo.powerIdentifier 8 ++ digestIdentifier d)) ++
        Der.write (Der.partTag 2) (Der.writeNatural 1 d.length)))

/-- How a certificate says that it is signed with an algorithm. -/
def identifier : SignatureAlgorithm → Bytes
  | curve _ d =>
    Der.write Der.identifierTag [0x2a, 0x86, 0x48, 0xce, 0x3d, 0x04, 0x03, curveMark d]
  | twisted => KeyInfo.twistedKind
  | power .salted d _ => KeyInfo.powerIdentifier 10 ++ saltParameters d
  | power .fixed d written =>
    KeyInfo.powerIdentifier (powerMark d) ++ (if written then KeyInfo.noParameters else [])

/-- What a public key has to be for. -/
def keyKind : SignatureAlgorithm → Bytes
  | curve f _ => KeyInfo.curveKind f
  | twisted => KeyInfo.twistedKind
  | power .. => KeyInfo.powerKind

/-- The digests, shortest first. -/
def digests : List Digest := [.sha256, .sha384, .sha512]

/-- The algorithms that are known, in order. -/
def known : List SignatureAlgorithm :=
  [curve .p256 .sha256, curve .p256 .sha384, curve .p384 .sha256, curve .p384 .sha384, twisted] ++
    (digests.map fun d => power .salted d true) ++
    (digests.map fun d => power .fixed d true) ++ (digests.map fun d => power .fixed d false)

/-- The algorithms that a signature of a handshake may be of, in the order in which they are
tried. -/
def ofScheme : Scheme → List SignatureAlgorithm
  | 0x0503 => [curve .p384 .sha384, curve .p256 .sha384]
  | 0x0403 => [curve .p256 .sha256, curve .p384 .sha256]
  | 0x0807 => [twisted]
  | 0x0806 => [power .salted .sha512 true]
  | 0x0805 => [power .salted .sha384 true]
  | 0x0804 => [power .salted .sha256 true]
  | 0x0601 => [power .fixed .sha512 true]
  | 0x0501 => [power .fixed .sha384 true]
  | 0x0401 => [power .fixed .sha256 true]
  | _ => []

/-! ## Verification -/

/-- Two numbers, as a sequence of whole numbers. -/
def pairOf (bs : Bytes) : Except Unit (Nat × Nat) :=
  Der.whole () bs (Der.nested () Der.sequenceTag do
    let a ← Der.natural ()
    let b ← Der.natural ()
    pure (a, b))

/-- Whether octets are a signature of a message, made with the secret of a public key. -/
def verifies (a : SignatureAlgorithm) (key message signature : Bytes) : Bool :=
  match a with
  | curve f d =>
    match pairOf signature with
    | .ok (r, s) => f.curve.verifies d key message r s
    | .error _ => false
  | twisted => Edwards.verifies key message signature
  | power encoding d _ =>
    match pairOf key with
    | .ok (modulus, exponent) => Rsa.verifies ⟨modulus, exponent⟩ encoding d message signature
    | .error _ => false

/-- What is wrong with a signature of a message by a public key, the sequence around which is not
included. -/
def check (a : SignatureAlgorithm) (keyInfo message signature : Bytes) :
    Except CertificateFault Unit := do
  let info ← KeyInfo.ofContent keyInfo
  if info.kind ≠ a.keyKind then throw (.unsupportedKey a.identifier info.kind)
  else if a.verifies info.key message signature then pure ()
  else throw .badSignature

/-- What is wrong with a signature of a message by a public key, by the algorithms that were to be
tried; the first that is for such a key decides. -/
def checkFirst (keyInfo message signature : Bytes) (fault : CertificateFault) :
    List SignatureAlgorithm → Except CertificateFault Unit
  | [] => .error fault
  | a :: others =>
    match a.check keyInfo message signature with
    | .error (.unsupportedKey algorithm key) =>
      checkFirst keyInfo message signature (.unsupportedKey algorithm key) others
    | result => result

/-- What is wrong with a signature that cannot be valid, by the algorithms that were to be tried:
the public key may be for none of them. -/
def faultOfInvalid (keyInfo : Bytes) (fault : CertificateFault) :
    List SignatureAlgorithm → CertificateFault
  | [] => fault
  | a :: others =>
    match KeyInfo.ofContent keyInfo with
    | .error f => f
    | .ok info =>
      if info.kind = a.keyKind then .badSignature
      else faultOfInvalid keyInfo (.unsupportedKey a.identifier info.kind) others

end SignatureAlgorithm

namespace Certificate

/-- What is wrong with the signature of a certificate by a public key, the sequence around which is
not included. -/
def checkSignature (c : Certificate) (keyInfo : Bytes) : Except CertificateFault Unit :=
  let known := SignatureAlgorithm.known
  SignatureAlgorithm.checkFirst keyInfo c.signed c.signature
    (.unsupportedAlgorithm c.algorithm (known.map SignatureAlgorithm.identifier))
    (known.filter fun a => a.identifier == c.algorithm)

end Certificate

end Engine

end Sockets
