import Sockets.Bytes

/-!
# Ways of signing

During a handshake a side proves that it holds a key by a signature. A scheme, given by a number,
is an algorithm together with a digest and perhaps a curve.

## Main definitions

* `Sockets.Engine.SigningAlgorithm` — the kinds of keys to sign with.
* `Sockets.Engine.Scheme` — schemes by their numbers.
* `Sockets.Engine.Scheme.algorithm?` — the kind of key that a scheme needs.
-/

set_option autoImplicit false

namespace Sockets

namespace Engine

/-- The kinds of keys to sign with. -/
inductive SigningAlgorithm where
  | rsa
  | ecdsa
  | ed25519
  deriving DecidableEq, Repr, Inhabited

/-- A scheme, by its number. -/
abbrev Scheme := Nat

namespace Scheme

/-- Points of the smaller curve, with the shortest digest. -/
def p256 : Scheme := 0x0403

/-- Points of the larger curve, with the middle digest. -/
def p384 : Scheme := 0x0503

/-- Points of the largest curve, which is not known here otherwise. -/
def p521 : Scheme := 0x0603

/-- Points of the twisted curve. -/
def ed25519 : Scheme := 0x0807

/-- Points of the larger twisted curve, which is not known here otherwise. -/
def ed448 : Scheme := 0x0808

/-- Powers with a salted encoding, the longest digest first. -/
def salted : List Scheme := [0x0806, 0x0805, 0x0804]

/-- Powers with a fixed encoding, the longest digest first. -/
def fixed : List Scheme := [0x0601, 0x0501, 0x0401]

/-- The kind of key that a scheme needs, if it is one that is known. -/
def algorithm? (s : Scheme) : Option SigningAlgorithm :=
  if (salted ++ fixed).contains s || s == 0x0201 then some .rsa
  else if [p256, p384, p521].contains s || s == 0x0203 then some .ecdsa
  else if s == ed25519 then some .ed25519
  else none

/-- Whether a scheme is one of the newer version, which has no fixed encoding. -/
def isModern (s : Scheme) : Bool := ([p256, p384, p521, ed25519, ed448] ++ salted).contains s

/-- The schemes that signatures of servers are accepted with, in the order in which a client
offers them. -/
def verified : List Scheme := [p384, p256, ed25519] ++ salted ++ fixed

end Scheme

namespace SigningAlgorithm

/-- The schemes that a kind of key is for, best first. -/
def schemes : SigningAlgorithm → List Scheme
  | rsa => Scheme.salted ++ Scheme.fixed
  | ecdsa => [Scheme.p521, Scheme.p384, Scheme.p256]
  | ed25519 => [Scheme.ed25519]

end SigningAlgorithm

end Engine

end Sockets
