import Sockets.Engine.ClientHello

/-!
# The first messages of a server

A server answers the first message of a client with what it chose, or asks for another first
message. The two have one form; a fixed value in the place of the random one tells them apart.

## Main definitions

* `Sockets.Engine.ServerExtension` — an extension of a server.
* `Sockets.Engine.ServerHello` — what a server chose, with its reader.
* `Sockets.Engine.RetryRequest` — how another first message should differ, with its reader.
-/

set_option autoImplicit false

namespace Sockets

namespace Engine

/-- An extension of a server, as far as a client looks at it. -/
inductive ServerExtension where
  | pointFormats (formats : List Nat)
  | keyShare (group : Nat) (element : Bytes)
  | version (version : Nat)
  | other
  deriving DecidableEq, Repr, Inhabited

namespace ServerExtension

/-- The one protocol in a list. -/
def readProtocol : Reader Unit := do
  let bs ← Reader.counted do
    let count ← Reader.two
    if count = 0 then Reader.fail (.emptyList "ProtocolNames") else pure count
  Reader.inside bs do
    let _ ← Reader.countedSome Reader.one
    Reader.finish "SingleProtocolName"

/-- The settings for encrypted first messages. -/
def readEncryptedHelloSettings : Reader Unit := do
  let _ ← Reader.list Reader.two do
    let _ ← Reader.number 2 "EchVersion"
    Reader.counted Reader.two

/-- A content that only has to be read. -/
def unused {α : Type} (item : Reader α) : Reader ServerExtension := do
  let _ ← item
  pure .other

/-- The content of an extension whose number is known. -/
def content : Nat → Option (Reader ServerExtension)
  | ExtensionType.serverName | ExtensionType.sessionTicket | ExtensionType.extendedSecret
  | ExtensionType.statusRequest | ExtensionType.earlyData => some (unused (Reader.finish "Empty"))
  | ExtensionType.pointFormats =>
    some (pointFormats <$> ClientExtension.readFew "ECPointFormats" "ECPointFormat" 1)
  | ExtensionType.renegotiation => some (unused (Reader.counted Reader.one))
  | ExtensionType.protocols => some (unused readProtocol)
  | ExtensionType.keyShare => some ((fun (g, e) => keyShare g e) <$> ClientExtension.readKeyShare)
  | ExtensionType.sharedKey => some (unused Reader.two)
  | ExtensionType.clientCertificateType | ExtensionType.serverCertificateType =>
    some (unused (Reader.number 1 "CertificateType"))
  | ExtensionType.versions => some (version <$> Reader.number 2 "ProtocolVersion")
  | ExtensionType.transportParameters => some (unused Reader.rest)
  | ExtensionType.encryptedHello => some (unused readEncryptedHelloSettings)
  | _ => none

/-- What the extensions of a server are. -/
def grammar : Extensions.Grammar ServerExtension where
  name := "ServerExtensions"
  content := content
  unknown := .ok .other

end ServerExtension

/-! ## A choice -/

/-- What a server chose. -/
structure ServerHello where
  version : Nat
  random : Bytes
  suite : Nat
  compression : Nat
  extensions : Extensions ServerExtension
  deriving DecidableEq, Repr, Inhabited

namespace ServerHello

/-- Read the part behind version and random value. -/
def readBehind (version : Nat) (random : Bytes) : Reader ServerHello := do
  let _ ← readSession
  let suite ← Reader.number 2 "CipherSuite"
  let compression ← Reader.number 1 "Compression"
  let extensions ← Extensions.readOptional ServerExtension.grammar
  Reader.finish "ServerHelloPayload"
  pure ⟨version, random, suite, compression, extensions⟩

variable (h : ServerHello)

/-- The version that the server chose in an extension. -/
def selectedVersion? : Option Nat := h.extensions.find? fun
  | .version version => some version
  | _ => none

/-- The ways of writing points. -/
def pointFormats? : Option (List Nat) := h.extensions.find? fun
  | .pointFormats formats => some formats
  | _ => none

/-- What the server contributes to the keys: a group, and an element of it. -/
def keyShare? : Option (Nat × Bytes) := h.extensions.find? fun
  | .keyShare group element => some (group, element)
  | _ => none

end ServerHello

/-! ## A retry -/

/-- How another first message should differ. -/
structure RetryRequest where
  group : Option Nat := none
  hasCookie : Bool := false
  deriving DecidableEq, Repr, Inhabited

namespace RetryRequest

/-- The value in the place of the random one that makes an answer a request. -/
def mark : Bytes := [
  0xcf, 0x21, 0xad, 0x74, 0xe5, 0x9a, 0x61, 0x11, 0xbe, 0x1d, 0x8c, 0x02, 0x1e, 0x65, 0xb8, 0x91,
  0xc2, 0xa2, 0x11, 0x16, 0x7a, 0xbb, 0x8c, 0x5e, 0x07, 0x9e, 0x09, 0xe2, 0xc8, 0xa8, 0x33, 0x9c]

/-- The content of an extension whose number is known: the group asked for, if it is that. -/
def content : Nat → Option (Reader (Option Nat))
  | ExtensionType.keyShare => some (some <$> Reader.number 2 "NamedGroup")
  | ExtensionType.cookie => some do
    let _ ← Reader.countedSome Reader.two
    pure none
  | ExtensionType.versions => some do
    let _ ← Reader.number 2 "ProtocolVersion"
    pure none
  | ExtensionType.encryptedHello => some do
    let _ ← Reader.rest
    pure none
  | _ => none

/-- What the extensions of a request are; there are no others. -/
def grammar : Extensions.Grammar (Option Nat) where
  name := "HelloRetryRequestExtensions"
  content := content
  unknown := .error .unknownRetryExtension

/-- Read the part behind version and random value. -/
def readBehind : Reader RetryRequest := do
  let _ ← readSession
  let _ ← Reader.number 2 "CipherSuite"
  let compression ← Reader.number 1 "Compression"
  if compression ≠ 0 then Reader.fail .unsupportedCompression
  else
    let extensions ← Extensions.read grammar
    pure ⟨extensions.find? id, extensions.has ExtensionType.cookie⟩

end RetryRequest

end Engine

end Sockets
