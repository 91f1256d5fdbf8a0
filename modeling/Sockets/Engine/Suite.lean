import Sockets.Engine.Crypto.Sha2
import Sockets.Engine.Scheme

/-!
# Ways of encrypting

A suite, given by a number, says how the two sides encrypt and which digest they use, and belongs
to one of the two versions. In the older version it also says with which kinds of keys a server
signs.

## Main definitions

* `Sockets.Engine.Version` — the versions that are spoken.
* `Sockets.Engine.Suite` — a suite.
* `Sockets.Engine.Suite.ofNumber?` — the suite of a number.
* `Sockets.Engine.Suite.allows` — whether a server may sign with a kind of key.
-/

set_option autoImplicit false

namespace Sockets

open Crypto

namespace Engine

/-- The versions that are spoken. -/
inductive Version where
  | v12
  | v13
  deriving DecidableEq, Repr, Inhabited

namespace Version

/-- The number of a version. -/
def number : Version → Nat
  | v12 => 0x0303
  | v13 => 0x0304

end Version

/-- A suite. -/
structure Suite where
  number : Nat
  version : Version
  digest : Digest
  /-- The schemes that a server may sign with in the older version. -/
  schemes : List Scheme
  deriving DecidableEq, Repr, Inhabited

namespace Suite

/-- The schemes of suites for keys of curves. -/
def curveSchemes : List Scheme := Scheme.ed25519 :: SigningAlgorithm.schemes .ecdsa

/-- The schemes of suites for keys of powers. -/
def powerSchemes : List Scheme := SigningAlgorithm.schemes .rsa

/-- The suites that are known, best first. -/
def known : List Suite := [
  ⟨0x1302, .v13, .sha384, []⟩,
  ⟨0x1301, .v13, .sha256, []⟩,
  ⟨0x1303, .v13, .sha256, []⟩,
  ⟨0xC02C, .v12, .sha384, curveSchemes⟩,
  ⟨0xC02B, .v12, .sha256, curveSchemes⟩,
  ⟨0xCCA9, .v12, .sha256, curveSchemes⟩,
  ⟨0xC030, .v12, .sha384, powerSchemes⟩,
  ⟨0xC02F, .v12, .sha256, powerSchemes⟩,
  ⟨0xCCA8, .v12, .sha256, powerSchemes⟩]

/-- The suite of a number. -/
def ofNumber? (n : Nat) : Option Suite := known.find? fun s => s.number == n

/-- Whether a server may sign with a kind of key. -/
def allows (s : Suite) (a : Option SigningAlgorithm) : Bool :=
  match s.version with
  | .v13 => true
  | .v12 => s.schemes.any fun scheme => Scheme.algorithm? scheme == a

end Suite

end Engine

end Sockets
