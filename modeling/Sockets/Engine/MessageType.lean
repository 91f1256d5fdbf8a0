import Sockets.Bytes

/-!
# Kinds of messages

Two sides of an encrypted connection exchange contents of a few kinds. One of them is the
handshake, whose messages have kinds of their own, given by an octet.

## Main definitions

* `Sockets.Engine.ContentType` — the kinds of contents.
* `Sockets.Engine.HandshakeType` — the kinds of handshake messages.
-/

set_option autoImplicit false

namespace Sockets

namespace Engine

/-- The kinds of contents. -/
inductive ContentType where
  | changeCipherSpec
  | alert
  | handshake
  | applicationData
  | heartbeat
  deriving DecidableEq, Repr, Inhabited

namespace ContentType

/-- The octet of a kind. -/
def octet : ContentType → UInt8
  | changeCipherSpec => 20
  | alert => 21
  | handshake => 22
  | applicationData => 23
  | heartbeat => 24

/-- The kind of an octet. -/
def ofOctet? (b : UInt8) : Option ContentType :=
  [changeCipherSpec, alert, handshake, applicationData, heartbeat].find? fun t => t.octet == b

/-- The name of a kind. -/
def name : ContentType → String
  | changeCipherSpec => "ChangeCipherSpec"
  | alert => "Alert"
  | handshake => "Handshake"
  | applicationData => "ApplicationData"
  | heartbeat => "Heartbeat"

end ContentType

/-- The kind of a handshake message, by its octet. -/
abbrev HandshakeType := UInt8

namespace HandshakeType

/-- The names of the kinds that have one. -/
def names : List (UInt8 × String) := [
  (0, "HelloRequest"), (1, "ClientHello"), (2, "ServerHello"), (3, "HelloVerifyRequest"),
  (4, "NewSessionTicket"), (5, "EndOfEarlyData"), (6, "HelloRetryRequest"),
  (8, "EncryptedExtensions"), (11, "Certificate"), (12, "ServerKeyExchange"),
  (13, "CertificateRequest"), (14, "ServerHelloDone"), (15, "CertificateVerify"),
  (16, "ClientKeyExchange"), (20, "Finished"), (21, "CertificateURL"), (22, "CertificateStatus"),
  (24, "KeyUpdate"), (25, "CompressedCertificate"), (254, "MessageHash")]

/-- The text of an octet of an enumeration that has no name for it. -/
def unnamed (enumeration : String) (b : UInt8) : String :=
  enumeration ++ "(0x" ++ String.ofList (Nat.toDigits 16 b.toNat) ++ ")"

/-- The name of a kind; a kind without one is shown by its octet. -/
def name (t : HandshakeType) : String := (names.lookup t).getD (unnamed "HandshakeType" t)

/-- The first message of a client. -/
def clientHello : HandshakeType := 1

/-- The first message of a server. -/
def serverHello : HandshakeType := 2

/-- A server asks for another first message. -/
def retryRequest : HandshakeType := 6

/-- The extensions of a server that are encrypted. -/
def encryptedExtensions : HandshakeType := 8

/-- The certificates of a side. -/
def certificate : HandshakeType := 11

/-- What a server contributes to the keys. -/
def serverKeyExchange : HandshakeType := 12

/-- A server asks for the certificates of the client. -/
def certificateRequest : HandshakeType := 13

/-- The last message of a server before the client goes on. -/
def serverHelloDone : HandshakeType := 14

/-- A signature of what was said so far. -/
def certificateVerify : HandshakeType := 15

/-- What a client contributes to the keys. -/
def clientKeyExchange : HandshakeType := 16

/-- The end of the handshake of a side. -/
def finished : HandshakeType := 20

/-- The state of revocation of a certificate. -/
def certificateStatus : HandshakeType := 22

end HandshakeType

end Engine

end Sockets
