import Sockets.Engine.Dialogue
import Sockets.Engine.Group
import Sockets.Engine.PrivateKey
import Sockets.Engine.Suite
import Sockets.Engine.Writer

/-!
# The library's server

A server waits for the first message of a client and chooses from what that offers: a version, a
suite, a group. In the newest version it may ask once for another first message, if the client has
sent no element of the group along. Everything behind its own messages is encrypted with keys that
nobody knows here, except for the client's part of the keys in the older version.

## Main definitions

* `Sockets.Engine.Server.Phase` — what a server waits for.
* `Sockets.Engine.Server.answer` — what a server does about something.
* `Sockets.Engine.Server.chooseVersion` — the version that a server chooses.
* `Sockets.Engine.Server.chooseSuite?`, `Sockets.Engine.Server.chooseGroup?` — the suite and the
  group.
-/

set_option autoImplicit false

namespace Sockets

open Crypto Tls

namespace Engine

namespace Server

/-- What a server has settled when it asks for another first message. -/
structure Retry where
  digest : Digest
  /-- The host that the client has named. -/
  host : Option String
  /-- The octets of data that may still be skipped, if any may. -/
  skippable : Option Nat
  deriving DecidableEq, Repr, Inhabited

/-- What a server waits for. -/
inductive Phase where
  /-- The first message of the client, perhaps another one. -/
  | hello (retry : Option Retry)
  /-- The client's part of the keys. -/
  | keyExchange (group : Group)
  /-- The change to the keys. -/
  | change
  /-- The end of the handshake. -/
  | finished
  deriving DecidableEq, Repr, Inhabited

/-- What a server does about something. -/
abbrev Turn := Engine.Turn Phase

/-! ## Choices -/

/-- The version that a server chooses. -/
def chooseVersion (h : ClientHello) : Except Objection Version :=
  match h.versions? with
  | some versions =>
    if versions.contains Version.v13.number then .ok .v13
    else if versions.contains Version.v12.number then .ok .v12
    else .error (.incompatible .noVersion)
  | none =>
    if h.version < Version.v12.number then .error (.incompatible .oldClient) else .ok .v12

/-- The suites that both sides know. -/
def commonSuites (h : ClientHello) : List Suite :=
  Suite.known.filter fun s => h.suites.contains s.number

/-- The schemes of a client that make sense with a suite that both sides know. -/
def usableSchemes (h : ClientHello) (schemes : List Scheme) : List Scheme :=
  schemes.filter fun s => (commonSuites h).any fun suite => suite.allows (Scheme.algorithm? s)

/-- The group that a server chooses: the first of the client's that is known. -/
def chooseGroup? (h : ClientHello) : Option Group := h.groups.findSome? Group.ofNumber?

/-- The suite that a server chooses: the first of the client's that is for the version and for the
key of the server. -/
def chooseSuite? (h : ClientHello) (version : Version) (a : SigningAlgorithm) : Option Suite :=
  h.suites.findSome? fun n => (Suite.ofNumber? n).filter fun s =>
    s.version == version && s.allows (some a)

/-! ## Messages -/

/-- The octets of an answer to the first message. -/
def hello (random : Bytes) (h : ClientHello) (s : Suite) (extensions : Bytes) : Bytes :=
  Writer.record HandshakeType.serverHello
    (Writer.number 2 Version.v12.number ++ (random ++ (Writer.counted 1 h.session ++
      (Writer.number 2 s.number ++ (0 :: Writer.counted 2 extensions)))))

/-- The extension with the version. -/
def versionExtension : Bytes :=
  Writer.extension ExtensionType.versions (Writer.number 2 Version.v13.number)

/-- The octets of a request for another first message. -/
def retryRequest (h : ClientHello) (s : Suite) (g : Group) : Bytes :=
  hello RetryRequest.mark h s
    (Writer.extension ExtensionType.keyShare (Writer.number 2 g.number) ++ versionExtension)

/-- The octets of the messages that are not encrypted in the newest version. -/
def modernFlight (h : ClientHello) (s : Suite) (g : Group) : Bytes :=
  hello (Writer.random 32) h s
    (Writer.extension ExtensionType.keyShare
      (Writer.number 2 g.number ++ Writer.counted 2 (Writer.random 32)) ++ versionExtension)

/-- The octets of the messages of the older version. -/
def flight (own : Identity) (h : ClientHello) (s : Suite) (g : Group) (scheme : Scheme) : Bytes :=
  hello (Writer.random 32) h s [] ++
    (Writer.record HandshakeType.certificate
      (Writer.counted 3 (own.chain.flatMap (Writer.counted 3))) ++
    (Writer.record HandshakeType.serverKeyExchange
      (3 :: (Writer.number 2 g.number ++ (Writer.counted 1 (Writer.random 32) ++
        (Writer.number 2 scheme ++ Writer.counted 2 (Writer.random 64))))) ++
    Writer.record HandshakeType.serverHelloDone []))

/-! ## First messages -/

/-- The octets of data that a server skips of a client that was too fast. -/
def skipLimit : Nat := 16384

/-- The octets of data of a client that may be skipped. -/
def skippable (h : ClientHello) : Option Nat := if h.hasEarlyData then some skipLimit else none

/-- The host that a client has named. -/
def hostOf (h : ClientHello) : Turn (Option String) :=
  match h.serverName? with
  | some .invalid => Turn.fail (.misconduct .serverNameMissing)
  | some (.host name) => pure (some name)
  | _ => pure none

/-- Give up if a client that was asked for another first message has named another host. -/
def requireSameHost (retry : Option Retry) (host : Option String) : Turn Unit :=
  match retry with
  | some r => Turn.require (r.host == host) (.misconduct .serverNameDiffered)
  | none => pure ()

/-- Give up if a client wants certificates of a kind that nobody has. -/
def requireCertificateTypes (h : ClientHello) : Turn Unit :=
  Turn.require (!h.certificateTypes.contains 2) (.incompatible .certificateType)

/-- Whether a list has a member twice. -/
def hasRepeated (ns : List Nat) : Bool := ns.eraseDups.length != ns.length

/-- Give up if the keys from before do not make sense. -/
def requireSharedKeys (h : ClientHello) : Turn Unit :=
  match h.sharedKeys? with
  | none => pure ()
  | some (identities, binders) => do
    Turn.require h.hasSharedKeyModes (.misconduct .missingSharedKeyModes)
    Turn.require (identities == binders) (.misconduct .mismatchedSharedKeys)

/-- The first scheme of a server's key among those given. -/
def schemeAmong? (own : Identity) (schemes : List Scheme) : Option Scheme :=
  own.key.schemes.find? schemes.contains

/-- Answer a first message in the newest version with an element of the group. -/
def agree (own : Identity) (retry : Option Retry) (h : ClientHello) (s : Suite) (g : Group)
    (schemes : List Scheme) (element : Bytes) : Turn Unit := do
  requireSharedKeys h
  Turn.require (g.accepts element) (.misconduct .invalidKeyShare)
  Turn.send (modernFlight h s g)
  if retry.isNone then Turn.send Writer.change
  requireCertificateTypes h
  Turn.require (schemeAmong? own schemes).isSome (.incompatible .noSchemes)
  Turn.requireAligned
  Turn.encrypted (skippable h)
  Turn.become .finished

/-- Answer a first message in the newest version. -/
def answerModern (own : Identity) (retry : Option Retry) (host : Option String) (h : ClientHello)
    (s : Suite) (g : Group) (schemes : List Scheme) : Turn Unit := do
  Turn.require (h.compressions.length == 1) (.misconduct .incorrectCompressions)
  match h.keyShares? with
  | none => Turn.fail (.incompatible .keyShareRequired)
  | some shares =>
    Turn.require (!hasRepeated (shares.map Prod.fst)) (.misconduct .repeatedKeyShares)
    Turn.require (!hasRepeated h.certificateCompressions) (.misconduct .repeatedCompressions)
    Turn.require (retry.isNone || !h.hasEarlyData) (.misconduct .earlyDataAfterRetry)
    match shares.lookup g.number, retry with
    | some element, _ => agree own retry h s g (schemes.filter Scheme.isModern) element
    | none, some _ => Turn.fail (.misconduct .refusedRetry)
    | none, none =>
      Turn.send (retryRequest h s g)
      Turn.send Writer.change
      Turn.become (.hello (some ⟨s.digest, host, skippable h⟩))

/-- Answer a first message in the older version. -/
def answerOlder (own : Identity) (h : ClientHello) (s : Suite) (g : Group)
    (schemes : List Scheme) : Turn Unit := do
  let plain := (h.pointFormats?.map fun formats => formats.contains 0).getD true
  Turn.require plain (.incompatible .uncompressedRequired)
  let common := s.schemes.filter schemes.contains
  Turn.require (common ≠ []) (.incompatible .noSchemes)
  requireCertificateTypes h
  match schemeAmong? own common with
  | none => Turn.fail (.unexpected "incompatible signing key")
  | some scheme =>
    Turn.send (flight own h s g scheme)
    Turn.become (.keyExchange g)

/-- Answer a first message. -/
def answerHello (own : Identity) (retry : Option Retry) (h : ClientHello) : Turn Unit := do
  Turn.require (h.compressions.contains 0) (.incompatible .plainRequired)
  Turn.requireAligned
  let host ← hostOf h
  requireSameHost retry host
  match h.schemes? with
  | none => Turn.fail (.incompatible .schemesRequired)
  | some offered =>
    let version ← Turn.ofExcept (chooseVersion h)
    Turn.speak (version == .v13)
    let schemes := usableSchemes h offered
    match chooseGroup? h, chooseSuite? h version own.key.algorithm with
    | none, _ => Turn.fail (.incompatible .noGroups)
    | some _, none => Turn.fail (.incompatible .noSuites)
    | some g, some s =>
      match retry with
      | some r => Turn.require (r.digest == s.digest) (.misconduct .digestVariedAfterRetry)
      | none => pure ()
      match version with
      | .v13 => answerModern own retry host h s g schemes
      | .v12 => answerOlder own h s g schemes

/-! ## Later messages -/

/-- The element of a group that a client sends in the older version. -/
def readElement : Reader Bytes := Reader.countedSome Reader.one

/-- Take the client's part of the keys. -/
def takeKeyExchange (g : Group) (content : Bytes) : Turn Unit :=
  match readElement.run content with
  | .error m => Turn.failSilently (.corrupt m)
  | .ok (element, rest) =>
    if rest ≠ [] then Turn.fail (.corrupt .invalidAgreement)
    else if g.accepts element = false then Turn.failSilently (.misconduct .invalidKeyShare)
    else Turn.become .change

/-- The end of the handshake of a client that cannot know the keys. -/
def takeFinished (m : HandshakeMessage) : Turn Unit :=
  if m.kind = HandshakeType.finished then Turn.failWith .undecryptable .decryptError
  else Turn.fail (.wrongMessage m.kind [.finished])

/-- What a server does about something. -/
def answer (own : Identity) (c : Content) : Turn Unit := do
  match (← get).phase, c with
  | .hello retry, .message (.clientHello h) => answerHello own retry h
  | .hello (some r), .data length =>
    match Gate.skip? length r.skippable with
    | some left => Turn.become (.hello (some { r with skippable := some left }))
    | none => Turn.fail (c.fault [.clientHello])
  | .hello _, c => Turn.fail (c.fault [.clientHello])
  | .keyExchange g, .message (.clientKeyExchange content) => takeKeyExchange g content
  | .keyExchange _, c => Turn.fail (c.fault [.clientKeyExchange])
  | .change, .changeCipherSpec =>
    Turn.requireAligned
    Turn.encrypted none
    Turn.become .finished
  | .change, c => Turn.fail (.wrongContent c.kind .changeCipherSpec)
  | .finished, .message m => takeFinished m
  | .finished, c => Turn.fail (c.fault [.finished])

end Server

end Engine

end Sockets
