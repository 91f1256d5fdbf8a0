import Sockets.Engine.Fault
import Sockets.Engine.SignatureAlgorithm

/-!
# Private keys

A private key is written in one of three layouts: one for powers, one for points, and one that
wraps a key of any kind together with what it is for. A key to sign with is checked as far as it
can be: a public key that stands in it has to be the one that belongs to the secret.

## Main definitions

* `Sockets.Engine.SigningKey` — what can be done with a private key.
* `Sockets.Engine.Key.signing?` — what can be done with the private key that octets are.
* `Sockets.Engine.Identity` — what a server shows.
-/

set_option autoImplicit false

namespace Sockets

open Crypto Tls

namespace Engine

/-- What can be done with a private key: the kind of signatures, the schemes of these, best first,
and the public key that belongs to it. -/
structure SigningKey where
  algorithm : SigningAlgorithm
  schemes : List Scheme
  info : KeyInfo
  deriving DecidableEq, Repr, Inhabited

namespace Key

/-! ## Secrets -/

/-- Read the content of a wrapped key for something: the secret, and the public key if it stands
there too, which it only may where `withPublic` allows it. -/
def readWrapped (kind : Bytes) (withPublic : Bool) : Der.Reading Unit (Bytes × Option Bytes) := do
  let version ← Der.natural ()
  let found ← Der.content () Der.sequenceTag
  let secret ← Der.content () Der.octetStringTag
  if found ≠ kind then Der.give ()
  else
    if ← Der.isNext (Der.partTag 0) then
      let _ ← Der.content () (Der.partTag 0)
    if version = 0 then pure (secret, none)
    else if version = 1 ∧ withPublic then
      let key ←
        if ← Der.isNext (Der.partTag 1) then
          Der.nested () (Der.partTag 1) (Der.wholeOctets () () Der.bitStringTag)
        else Der.wholeOctets () () 0x81
      pure (secret, some key)
    else Der.give ()

/-- The secret in a wrapped key for something, and the public key if it stands there too. -/
def unwrap? (kind : Bytes) (withPublic : Bool) (der : Bytes) : Option (Bytes × Option Bytes) :=
  (Der.whole () der (Der.nested () Der.sequenceTag (readWrapped kind withPublic))).toOption

/-! ## Powers -/

/-- The parts of a secret for powers. -/
structure PowerSecret where
  modulus : Nat
  exponent : Nat
  secret : Nat
  firstPrime : Nat
  secondPrime : Nat
  firstSecret : Nat
  secondSecret : Nat
  inverse : Nat
  deriving DecidableEq, Repr, Inhabited

namespace PowerSecret

/-- Read a secret for powers. -/
def read : Der.Reading Unit PowerSecret := do
  let version ← Der.natural ()
  if version ≠ 0 then Der.give ()
  else
    let modulus ← Der.natural ()
    let exponent ← Der.natural ()
    let secret ← Der.natural ()
    let firstPrime ← Der.natural ()
    let secondPrime ← Der.natural ()
    let firstSecret ← Der.natural ()
    let secondSecret ← Der.natural ()
    let inverse ← Der.natural ()
    pure ⟨modulus, exponent, secret, firstPrime, secondPrime, firstSecret, secondSecret, inverse⟩

/-- Half of the bits of the modulus. -/
def halfBits (k : PowerSecret) : Nat := (Rsa.bitLength k.modulus + 1) / 2

/-- Whether modulus and exponent are of a usual size. -/
def isUsual (k : PowerSecret) : Bool :=
  let bits := Rsa.bitLength k.modulus
  2048 ≤ bits && bits ≤ 4096 && k.modulus % 2 == 1 &&
    65537 ≤ k.exponent && k.exponent % 2 == 1 && Rsa.bitLength k.exponent ≤ 33

/-- Whether a prime has half of the bits of the modulus, and its part of the secret fits. -/
def isHalf (k : PowerSecret) (prime part : Nat) : Bool :=
  Rsa.bitLength prime == k.halfBits && k.halfBits % 512 == 0 && part < prime && part % 2 == 1

/-- Whether the parts of a secret fit together. -/
def isConsistent (k : PowerSecret) : Bool :=
  k.isUsual && k.isHalf k.firstPrime k.firstSecret && k.isHalf k.secondPrime k.secondSecret &&
    k.firstPrime * k.secondPrime == k.modulus &&
    k.halfBits < Rsa.bitLength k.secret && k.secret < k.modulus && k.secret % 2 == 1 &&
    k.inverse < k.firstPrime && k.inverse * k.secondPrime % k.firstPrime == 1

/-- The public key that belongs to a secret. -/
def publicKey (k : PowerSecret) : Bytes :=
  Der.write Der.sequenceTag (Der.writeNatural 512 k.modulus ++ Der.writeNatural 8 k.exponent)

end PowerSecret

/-- What can be done with a secret for powers. -/
def powerKey? (der : Bytes) : Option SigningKey := do
  let k ← (Der.whole () der (Der.nested () Der.sequenceTag PowerSecret.read)).toOption
  if k.isConsistent then
    some ⟨.rsa, SigningAlgorithm.schemes .rsa, ⟨KeyInfo.powerKind, k.publicKey⟩⟩
  else none

/-! ## Points -/

/-- Read a secret for points of a curve: a number, and the public key that belongs to it. -/
def readPoint (f : KeyInfo.Field) : Der.Reading Unit (Bytes × Bytes) := do
  let version ← Der.natural ()
  if version ≠ 1 then Der.give ()
  else
    let secret ← Der.content () Der.octetStringTag
    if ← Der.isNext (Der.partTag 0) then
      let curve ← Der.content () (Der.partTag 0)
      if curve ≠ Der.write Der.identifierTag f.identifier then Der.give ()
    let key ← Der.nested () (Der.partTag 1) (Der.wholeOctets () () Der.bitStringTag)
    pure (secret, key)

/-- The scheme of the curve of a key. -/
def fieldScheme : KeyInfo.Field → Scheme
  | .p256 => Scheme.p256
  | .p384 => Scheme.p384

/-- What can be done with a secret for points of a curve. -/
def pointKey? (f : KeyInfo.Field) (der : Bytes) : Option SigningKey := do
  let (secret, key) ← (Der.whole () der (Der.nested () Der.sequenceTag (readPoint f))).toOption
  let n := Bytes.bigValue secret
  if secret.length = f.curve.size ∧ 0 < n ∧ n < f.curve.order ∧ f.curve.publicKey? n = some key then
    some ⟨.ecdsa, [fieldScheme f], ⟨KeyInfo.curveKind f, key⟩⟩
  else none

/-- What can be done with a wrapped secret for points of a curve. -/
def wrappedPointKey? (f : KeyInfo.Field) (der : Bytes) : Option SigningKey := do
  let (secret, _) ← unwrap? (KeyInfo.curveKind f) false der
  pointKey? f secret

/-- What can be done with a wrapped secret for points of the twisted curve. -/
def twistedKey? (der : Bytes) : Option SigningKey := do
  let (wrapped, stated) ← unwrap? KeyInfo.twistedKind true der
  let secret ← (Der.whole () wrapped (Der.content () Der.octetStringTag)).toOption
  let key := Edwards.publicKey secret
  if secret.length = 32 ∧ stated.getD key = key then
    some ⟨.ed25519, [Scheme.ed25519], ⟨KeyInfo.twistedKind, key⟩⟩
  else none

/-! ## Keys to sign with -/

/-- What can be done with the private key that octets are, if they are one. -/
def signing? (k : Key) : Option SigningKey :=
  match k.form with
  | .pkcs1 => powerKey? k.der
  | .sec1 => (pointKey? .p256 k.der).or (pointKey? .p384 k.der)
  | .pkcs8 =>
    ((unwrap? KeyInfo.powerKind false k.der).bind fun wrapped => powerKey? wrapped.1).or
      ((wrappedPointKey? .p256 k.der).or
        ((wrappedPointKey? .p384 k.der).or (twistedKey? k.der)))

end Key

/-! ## Servers -/

/-- What a server shows: its certificates, its own first, and what can be done with its key. -/
structure Identity where
  chain : List Bytes
  key : SigningKey
  deriving DecidableEq, Repr, Inhabited

/-- What a server shows that has a credential, if that can serve: its key has to be one, its
certificate has to be one, and they have to belong together. -/
def Identity.ofCredential (c : Credential) : Except Objection Identity :=
  match Key.signing? c.key with
  | none => .error (.unexpected "failed to parse private key as RSA, ECDSA, or EdDSA")
  | some key => do
    let leaf ← (Certificate.ofDer (c.chain.headD [])).mapError .certificate
    if key.info.write = leaf.keyInfo then pure ⟨c.chain, key⟩ else throw .inconsistentKeys

end Engine

end Sockets
