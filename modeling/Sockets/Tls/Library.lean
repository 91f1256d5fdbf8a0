import Sockets.Tls.ServerName
import Sockets.Tls.Session

/-!
# The encryption library

Certificates, private keys, names of servers and handshakes are the business of another library.
What it makes of the content of a file, of a text or of certificates is a function of these. What it
does on a descriptor is a talk: it sends and receives, it may ask whoever has to verify the
certificates of its peer, and at the end there is a session or a fault.

Nothing is assumed of such a library here. What a statement needs of it is a hypothesis there.

## Main definitions

* `Sockets.Tls.Key`, `Sockets.Tls.Credential` — what a server has to show.
* `Sockets.Tls.Anchor` — what is trusted of a certificate.
* `Sockets.Tls.Talk` — what a connection does until its handshake is over.
* `Sockets.Tls.Library` — an encryption library.
-/

set_option autoImplicit false

namespace Sockets

namespace Tls

/-! ## Credentials and trust -/

/-- The layout of a private key. -/
inductive KeyForm where
  | pkcs1
  | pkcs8
  | sec1
  deriving DecidableEq, Repr, Inhabited

namespace KeyForm

/-- The name of a layout. -/
def text : KeyForm → String
  | pkcs1 => "pkcs1"
  | pkcs8 => "pkcs8"
  | sec1 => "sec1"

end KeyForm

/-- A private key as its file holds it. -/
structure Key where
  form : KeyForm
  der : Bytes
  deriving DecidableEq, Repr, Inhabited

/-- The certificates of a server, its own first, and the key of its own. -/
structure Credential where
  chain : List Bytes
  key : Key
  deriving DecidableEq, Repr, Inhabited

/-- What is trusted of a certificate: a subject and its key, within limits on names. -/
structure Anchor where
  subject : Bytes
  keyInfo : Bytes
  nameConstraints : Option Bytes
  deriving DecidableEq, Repr, Inhabited

/-! ## Talks -/

/-- What a connection does on its descriptor until its handshake is over, depending on the answers
to what it did before. -/
inductive Talk where
  /-- The handshake is over. -/
  | ended (result : Except Fault Session)
  /-- Octets are sent, and the talk goes on from their count or an error number. -/
  | send (octets : Bytes) (next : Except Int Nat → Talk)
  /-- Octets are received, at most so many. -/
  | receive (length : Nat) (next : Except Int Received → Talk)
  /-- Someone has to verify the certificates of the peer, its own first. -/
  | verify (chain : List Bytes) (next : Except TlsFault Unit → Talk)

/-- A talk that comes to nothing. -/
instance : Inhabited Talk := ⟨.ended (.error (.plain .unsupported))⟩

/-! ## Libraries -/

/-- What there is to be known of an encryption library. One of which nothing is said knows no name
and takes no file for a certificate. -/
structure Library where
  /-- Whether the versions of the protocol that are to be spoken are there. -/
  versions : Except TlsFault Unit := .ok ()
  /-- What strict clients trust in any case. -/
  publicAnchors : List Anchor := []
  /-- What is trusted of a certificate. -/
  anchor : Bytes → Except TlsFault Anchor := fun _ => .error { message := "unsupported" }
  /-- The certificates in the content of a file, or what is wrong with them. -/
  certificates : Bytes → Except String (List Bytes) := fun _ => .ok []
  /-- The first private key in the content of a file, or what is wrong with it. -/
  key : Bytes → Except String (Option Key) := fun _ => .ok none
  /-- The certificates of the machine, from what came of reading each of its files, and what is
  wrong with these. -/
  native : List (String × Except Fault Bytes) → List Bytes × List String := fun _ => ([], [])
  /-- Whether a server can work with a credential. -/
  certify : Credential → Except TlsFault Unit := fun _ => .error { message := "unsupported" }
  /-- The name of a server that a text is. -/
  name? : String → Option ServerName := fun _ => none
  /-- Whether certificates, its own first, are those of a server, for someone who trusts some
  others, at a time in seconds. -/
  verify : List Anchor → ServerName → List Bytes → Nat → Except TlsFault Unit :=
    fun _ _ _ _ => .error { message := "unsupported" }
  /-- The talk of a client with a server. Connections are numbered, and no two talk alike. -/
  client : Nat → ServerName → Except TlsFault Talk := fun _ _ => .ok default
  /-- The talk of a server with a credential. -/
  server : Nat → Credential → Except TlsFault Talk := fun _ _ => .ok default

end Tls

end Sockets
