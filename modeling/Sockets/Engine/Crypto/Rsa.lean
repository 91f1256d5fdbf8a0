import Sockets.Engine.Crypto.Modular
import Sockets.Engine.Crypto.Sha2

/-!
# Signatures by powers

A signature is a number whose power modulo the public key is an encoding of the digest. There are
two encodings: a fixed one, in which the digest stands behind a mark of its kind, and one with a
salt, in which the digest of digest and salt is covered by a mask.

## Main definitions

* `Sockets.Crypto.Rsa.PublicKey` — a modulus and an exponent.
* `Sockets.Crypto.Rsa.Encoding` — how a digest is encoded.
* `Sockets.Crypto.Rsa.verifies` — whether octets are a signature of a message.
-/

set_option autoImplicit false

namespace Sockets

namespace Crypto

namespace Rsa

/-- A public key. -/
structure PublicKey where
  modulus : Nat
  exponent : Nat
  deriving DecidableEq, Repr, Inhabited

/-- How a digest is encoded before it is signed. -/
inductive Encoding where
  | fixed
  | salted
  deriving DecidableEq, Repr, Inhabited

/-- The bits of a number. -/
def bitLength (n : Nat) : Nat := if n = 0 then 0 else Nat.log2 n + 1

namespace PublicKey

/-- The bits of the modulus. -/
def bits (k : PublicKey) : Nat := bitLength k.modulus

/-- The octets of the modulus. -/
def size (k : PublicKey) : Nat := (k.bits + 7) / 8

/-- Whether a key is one to verify with: its modulus is odd and of a usual size, and its exponent
is odd, not one, and of at most 33 bits. -/
def isSound (k : PublicKey) : Bool :=
  2048 ≤ k.bits && k.bits ≤ 8192 && k.modulus % 2 == 1 &&
    3 ≤ k.exponent && k.exponent % 2 == 1 && bitLength k.exponent ≤ 33

end PublicKey

/-! ## Encodings -/

/-- The octets that mark a digest of a kind. -/
def mark : Digest → Bytes
  | .sha256 => [0x30, 0x31, 0x30, 0x0d, 0x06, 0x09, 0x60, 0x86, 0x48, 0x01, 0x65, 0x03, 0x04, 0x02,
      0x01, 0x05, 0x00, 0x04, 0x20]
  | .sha384 => [0x30, 0x41, 0x30, 0x0d, 0x06, 0x09, 0x60, 0x86, 0x48, 0x01, 0x65, 0x03, 0x04, 0x02,
      0x02, 0x05, 0x00, 0x04, 0x30]
  | .sha512 => [0x30, 0x51, 0x30, 0x0d, 0x06, 0x09, 0x60, 0x86, 0x48, 0x01, 0x65, 0x03, 0x04, 0x02,
      0x03, 0x05, 0x00, 0x04, 0x40]

/-- The fixed encoding of a message in `size` octets. -/
def fixedEncoding (d : Digest) (size : Nat) (message : Bytes) : Bytes :=
  let content := mark d ++ d.hash message
  0 :: 1 :: (List.replicate (size - content.length - 3) 0xff ++ 0 :: content)

/-- The mask that is made from a seed, of at least `blocks` digests. -/
def maskBlocks (d : Digest) (seed : Bytes) (index : Nat) : Nat → Bytes
  | 0 => []
  | blocks + 1 =>
    d.hash (seed ++ (Bytes.littleEndian 4 index).reverse) ++ maskBlocks d seed (index + 1) blocks

/-- The mask of `size` octets that is made from a seed. -/
def mask (d : Digest) (seed : Bytes) (size : Nat) : Bytes :=
  (maskBlocks d seed 0 ((size + d.length - 1) / d.length)).take size

/-- Whether `encoded`, of `bits` bits, is a salted encoding of a message; the salt has the length
of a digest. -/
def isSaltedEncoding (d : Digest) (bits : Nat) (encoded message : Bytes) : Bool :=
  let covered := encoded.length - d.length - 1
  let digest := (encoded.drop covered).take d.length
  let bare := ((encoded.take covered).zip (mask d digest covered)).map fun (x, y) => x ^^^ y
  let lead := Bytes.bigValue bare % (1 <<< (bits - 8 * (encoded.length - covered)))
  let salt := bare.drop (covered - d.length)
  encoded.length = (bits + 7) / 8 && 2 * d.length + 2 ≤ encoded.length &&
    Bytes.bigValue encoded < 1 <<< bits && encoded.getLast? == some 0xbc &&
    lead >>> (8 * d.length) == 1 &&
    d.hash (List.replicate 8 0 ++ (d.hash message ++ salt)) == digest

/-! ## Verification -/

/-- Whether octets are a signature of a message. -/
def verifies (k : PublicKey) (encoding : Encoding) (d : Digest) (message signature : Bytes) :
    Bool :=
  let value := Bytes.bigValue signature
  if k.isSound = false ∨ signature.length ≠ k.size ∨ k.modulus ≤ value then false
  else
    let opened := Modular.power k.modulus value k.exponent
    match encoding with
    | .fixed => (Bytes.littleEndian k.size opened).reverse == fixedEncoding d k.size message
    | .salted =>
      let bits := k.bits - 1
      opened < 1 <<< bits &&
        isSaltedEncoding d bits (Bytes.littleEndian ((bits + 7) / 8) opened).reverse message

end Rsa

end Crypto

end Sockets
