import Sockets.Text.Utf8
import Sockets.Engine.Extension
import Sockets.Engine.Group
import Sockets.Tls.ServerName
import Sockets.Engine.Suite
import Sockets.Engine.Writer

/-!
# The offer of the library's client

The library's client opens with a message that says what it can do and, if the server has a host
name, which host it means. A server may only come back to what was offered.

## Main definitions

* `Sockets.Engine.Offer.octets` — the message in a record.
* `Sockets.Engine.Offer.extensionTypes` — the extensions of the message.
-/

set_option autoImplicit false

namespace Sockets

open Text Tls

namespace Engine

namespace Offer

/-- A host name without the point that may stand behind its last label. -/
def withoutPoint (name : List Char) : List Char :=
  if name.getLast? = some '.' then name.dropLast else name

/-- The extension that names the host. An address is not named. -/
def nameExtension : ServerName → List (Nat × Bytes)
  | .dns name =>
    let host := String.ofList (withoutPoint name.toList)
    [(ExtensionType.serverName, Writer.counted 2 (0 :: Writer.counted 2 (Utf8.encode host)))]
  | .ip _ => []

/-- The number with which a client says that it can go on from another connection. -/
def renegotiationSuite : Nat := 0x00FF

/-- The ways of encrypting that the client offers. -/
def suites : List Nat := Suite.known.map Suite.number ++ [renegotiationSuite]

/-- The group of which the client sends an element along. -/
def group : Group := .x25519

/-- The extensions behind the name of the host. -/
def furtherExtensions : List (Nat × Bytes) := [
  (ExtensionType.versions,
    Writer.counted 1 ([Version.v13, Version.v12].flatMap fun v => Writer.number 2 v.number)),
  (ExtensionType.pointFormats, Writer.counted 1 [0]),
  (ExtensionType.groups, Writer.pairs (Group.known.map Group.number)),
  (ExtensionType.schemes, Writer.pairs Scheme.verified),
  (ExtensionType.extendedSecret, []),
  (ExtensionType.statusRequest, [1, 0, 0, 0, 0]),
  (ExtensionType.keyShare,
    Writer.counted 2 (Writer.number 2 group.number ++ Writer.counted 2 (Writer.random 32))),
  (ExtensionType.sharedKeyModes, Writer.counted 1 [1]),
  (ExtensionType.sessionTicket, [])]

/-- The extensions of the message. -/
def extensions (name : ServerName) : List (Nat × Bytes) := nameExtension name ++ furtherExtensions

/-- The numbers of the extensions of the message. -/
def extensionTypes (name : ServerName) : List Nat := (extensions name).map Prod.fst

/-- The content of the message. -/
def content (name : ServerName) : Bytes :=
  Writer.number 2 Version.v12.number ++ (Writer.random 32 ++
    (Writer.counted 1 (Writer.random 32) ++ (Writer.pairs suites ++ (Writer.counted 1 [0] ++
      Writer.counted 2 ((extensions name).flatMap fun x => Writer.extension x.1 x.2)))))

/-- The version that the record of the message says it is of. -/
def recordVersion : Nat := 0x0301

/-- The message in a record. -/
def octets (name : ServerName) : Bytes :=
  Record.octets
    ⟨.handshake, recordVersion, Writer.message HandshakeType.clientHello (content name)⟩

end Offer

end Engine

end Sockets
