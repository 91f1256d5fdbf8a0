import Sockets.Engine.Extension
import Sockets.Engine.HostName

/-!
# The first message of a client

A client opens with what it can do: the versions it speaks, the ways of encrypting and of
compressing, and extensions with everything else.

## Main definitions

* `Sockets.Engine.OfferedName` — the name of the server that a client means.
* `Sockets.Engine.ClientExtension` — an extension of a client.
* `Sockets.Engine.ClientHello` — the message, with its reader.
-/

set_option autoImplicit false

namespace Sockets

open Text Tls

namespace Engine

/-- The name of the server that a client means. -/
inductive OfferedName where
  | host (name : String)
  /-- An address, which does not count. -/
  | address
  /-- No name at all, or one that is neither. -/
  | invalid
  deriving DecidableEq, Repr, Inhabited

/-- An extension of a client, as far as a server looks at it. -/
inductive ClientExtension where
  | serverName (name : OfferedName)
  | groups (groups : List Nat)
  | pointFormats (formats : List Nat)
  | schemes (schemes : List Nat)
  | clientCertificateTypes (types : List Nat)
  | serverCertificateTypes (types : List Nat)
  | certificateCompressions (algorithms : List Nat)
  /-- Keys from before: how many there are, and how many proofs of knowing them. -/
  | sharedKeys (identities binders : Nat)
  | earlyData
  | versions (versions : List Nat)
  | sharedKeyModes (modes : List Nat)
  | keyShares (shares : List (Nat × Bytes))
  | other
  deriving DecidableEq, Repr, Inhabited

namespace ClientExtension

/-! ## Contents -/

/-- The name that octets are; letters count in lower case. -/
def offeredName (bs : Bytes) : OfferedName :=
  match (Utf8.decode? bs).bind HostName.name? with
  | some (.dns name) => .host (String.ofList (name.toList.map Char.toLower))
  | some (.ip _) => .address
  | none => .invalid

/-- The one host name in a list of names, of which there are at most `fuel`. What stands behind a
name of another kind is not looked at. -/
def serverNameWithin : Nat → Option OfferedName → Reader OfferedName
  | 0, found => pure (found.getD .invalid)
  | fuel + 1, found => do
    if ← Reader.isMore then
      let kind ← Reader.number 1 "ServerNameType"
      if kind ≠ 0 then
        let _ ← Reader.rest
        pure (found.getD .invalid)
      else
        let bs ← Reader.countedSome Reader.two
        if found.isSome then Reader.fail .invalidServerName
        else serverNameWithin fuel (some (offeredName bs))
    else pure (found.getD .invalid)

/-- The one host name in a list of names. -/
def readServerName : Reader OfferedName := do
  let bs ← Reader.counted Reader.two
  Reader.inside bs (serverNameWithin bs.length none)

/-- A list of numbers of two octets each, behind the count of its octets. -/
def readPairs (what item : String) : Reader (List Nat) :=
  Reader.listSome Reader.two (.emptyList what) (Reader.number 2 item)

/-- A list of numbers of `count` octets each, behind the count of its octets in one. -/
def readFew (what item : String) (count : Nat) : Reader (List Nat) :=
  Reader.listSome Reader.one (.emptyList what) (Reader.number count item)

/-- The ways of signing. -/
def readSchemes : Reader (List Nat) :=
  Reader.listSome Reader.two .noSchemes (Reader.number 2 "SignatureScheme")

/-- The names of issuers. -/
def readAuthorities : Reader (List Bytes) :=
  Reader.list Reader.two (Reader.countedSome Reader.two)

/-- What a side contributes to the keys: a group, and an element of it. -/
def readKeyShare : Reader (Nat × Bytes) := do
  let group ← Reader.number 2 "NamedGroup"
  let element ← Reader.countedSome Reader.two
  pure (group, element)

/-- A wish for a proof that a certificate is not revoked. -/
def readStatusRequest : Reader Unit := do
  let kind ← Reader.number 1 "CertificateStatusType"
  if kind = 1 then
    let _ ← Reader.list Reader.two (Reader.counted Reader.two)
    let _ ← Reader.counted Reader.two
  else
    let _ ← Reader.rest

/-- The keys from before: identities with their age, and as many proofs. -/
def readSharedKeys : Reader (Nat × Nat) := do
  let identities ← Reader.listSome Reader.two (.emptyList "PskIdentities") do
    let _ ← Reader.countedSome Reader.two
    Reader.four
  let binders ← Reader.listSome Reader.two (.emptyList "PskBinders")
    (Reader.countedSome Reader.one)
  pure (identities.length, binders.length)

/-- An encrypted first message. -/
def readEncryptedHello : Reader Unit := do
  let kind ← Reader.number 1 "EchClientHelloType"
  if kind = 0 then
    let _ ← Reader.number 2 "HpkeKdf"
    let _ ← Reader.number 2 "HpkeAead"
    let _ ← Reader.one
    let _ ← Reader.counted Reader.two
    let _ ← Reader.countedSome Reader.two
  else if kind = 1 then pure ()
  else Reader.fail .invalidContentType

/-- A content that only has to be read. -/
def unused {α : Type} (item : Reader α) : Reader ClientExtension := do
  let _ ← item
  pure .other

/-- The content of an extension whose number is known. -/
def content : Nat → Option (Reader ClientExtension)
  | ExtensionType.serverName => some (serverName <$> readServerName)
  | ExtensionType.statusRequest => some (unused readStatusRequest)
  | ExtensionType.groups => some (groups <$> readPairs "NamedGroups" "NamedGroup")
  | ExtensionType.pointFormats =>
    some (pointFormats <$> readFew "ECPointFormats" "ECPointFormat" 1)
  | ExtensionType.schemes => some (schemes <$> readSchemes)
  | ExtensionType.protocols => some (unused (Reader.listSome Reader.two
      (.emptyList "ProtocolNames") (Reader.countedSome Reader.one)))
  | ExtensionType.clientCertificateType =>
    some (clientCertificateTypes <$> readFew "CertificateTypes" "CertificateType" 1)
  | ExtensionType.serverCertificateType =>
    some (serverCertificateTypes <$> readFew "CertificateTypes" "CertificateType" 1)
  | ExtensionType.extendedSecret => some (unused (Reader.finish "Empty"))
  | ExtensionType.certificateCompression => some (certificateCompressions <$>
      readFew "CertificateCompressionAlgorithms" "CertificateCompressionAlgorithm" 2)
  | ExtensionType.sessionTicket => some (unused Reader.rest)
  | ExtensionType.sharedKey => some ((fun (n, m) => sharedKeys n m) <$> readSharedKeys)
  | ExtensionType.earlyData => some ((fun _ => earlyData) <$> Reader.finish "Empty")
  | ExtensionType.versions => some (versions <$> readFew "ProtocolVersions" "ProtocolVersion" 2)
  | ExtensionType.cookie => some (unused (Reader.countedSome Reader.two))
  | ExtensionType.sharedKeyModes =>
    some (sharedKeyModes <$> readFew "PskKeyExchangeModes" "PSKKeyExchangeMode" 1)
  | ExtensionType.authorities => some (unused readAuthorities)
  | ExtensionType.keyShare => some (keyShares <$> Reader.list Reader.two readKeyShare)
  | ExtensionType.transportParameters => some (unused Reader.rest)
  | ExtensionType.renegotiation => some (unused (Reader.counted Reader.one))
  | ExtensionType.encryptedHello => some (unused readEncryptedHello)
  | ExtensionType.outerExtensions => some (unused (readFew "ExtensionTypes" "ExtensionType" 2))
  | _ => none

/-- What the extensions of a client are; the keys from before come last. -/
def grammar : Extensions.Grammar ClientExtension where
  name := "ClientExtensions"
  content := content
  unknown := .ok .other
  last := some ExtensionType.sharedKey

end ClientExtension

/-! ## The message -/

/-- The octets of a random value. -/
def readRandom : Reader Bytes := Reader.take 32 (.missing "Random")

/-- The octets that name a session, up to 32. -/
def readSession : Reader Bytes := do
  let count ← Reader.one
  if 32 < count then Reader.fail (.trailing "SessionID")
  else Reader.take count (.missing "SessionID")

/-- The first message of a client. -/
structure ClientHello where
  version : Nat
  /-- The octets that name a session, which an answer repeats. -/
  session : Bytes
  suites : List Nat
  compressions : List Nat
  extensions : Extensions ClientExtension
  deriving DecidableEq, Repr, Inhabited

namespace ClientHello

/-- Read the message; nothing may be left behind it. -/
def read : Reader ClientHello := do
  let version ← Reader.number 2 "ProtocolVersion"
  let _ ← readRandom
  let session ← readSession
  let suites ← ClientExtension.readPairs "CipherSuites" "CipherSuite"
  let compressions ← ClientExtension.readFew "Compressions" "Compression" 1
  let extensions ← Extensions.readOptional ClientExtension.grammar
  Reader.finish "ClientHelloPayload"
  pure ⟨version, session, suites, compressions, extensions⟩

variable (h : ClientHello)

/-- The name of the server that the client means. -/
def serverName? : Option OfferedName := h.extensions.find? fun
  | .serverName name => some name
  | _ => none

/-- The groups for agreeing on keys, in the client's order. -/
def groups : List Nat := (h.extensions.find? fun
  | .groups groups => some groups
  | _ => none).getD []

/-- The ways of writing points. -/
def pointFormats? : Option (List Nat) := h.extensions.find? fun
  | .pointFormats formats => some formats
  | _ => none

/-- The ways of signing. -/
def schemes? : Option (List Nat) := h.extensions.find? fun
  | .schemes schemes => some schemes
  | _ => none

/-- The kinds of certificates that the client shows or wants to see. -/
def certificateTypes : List Nat := h.extensions.flatMap fun
  | (_, .clientCertificateTypes types) => types
  | (_, .serverCertificateTypes types) => types
  | _ => []

/-- The ways of compressing certificates. -/
def certificateCompressions : List Nat := (h.extensions.find? fun
  | .certificateCompressions algorithms => some algorithms
  | _ => none).getD []

/-- The counts of keys from before and of proofs of knowing them. -/
def sharedKeys? : Option (Nat × Nat) := h.extensions.find? fun
  | .sharedKeys identities binders => some (identities, binders)
  | _ => none

/-- Whether data comes before the end of the handshake. -/
def hasEarlyData : Bool := h.extensions.has ExtensionType.earlyData

/-- The versions that the client speaks, if it lists them. -/
def versions? : Option (List Nat) := h.extensions.find? fun
  | .versions versions => some versions
  | _ => none

/-- Whether the client says how keys from before may be used. -/
def hasSharedKeyModes : Bool := h.extensions.has ExtensionType.sharedKeyModes

/-- What the client contributes to the keys, for some groups. -/
def keyShares? : Option (List (Nat × Bytes)) := h.extensions.find? fun
  | .keyShares shares => some shares
  | _ => none

end ClientHello

end Engine

end Sockets
