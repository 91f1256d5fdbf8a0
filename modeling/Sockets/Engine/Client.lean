import Sockets.Engine.Dialogue
import Sockets.Engine.Offer
import Sockets.Engine.SignatureAlgorithm

/-!
# Clients

A client that has sent its offer waits for the server's choice. In the older version the server
goes on with its certificates, its part of the keys and a signature of that. The signature covers
octets that the client has drawn at random, so one that was written down beforehand is never valid;
but the client finds out about it last. In the newest version every record behind the choice is
encrypted with keys that nobody knows here; but the record with the choice may hold more messages,
and there the certificates and a signature may stand as well.

## Main definitions

* `Sockets.Engine.Client.Phase` — what a client waits for.
* `Sockets.Engine.Client.answer` — what a client does about something.
* `Sockets.Engine.Client.versionOf` — the version that a server chose.
-/

set_option autoImplicit false

namespace Sockets

open Tls

namespace Engine

namespace Client

/-- What a server has sent so far in the older version. -/
structure Flight where
  suite : Suite
  /-- Whether the state of revocation of the certificate may come too. -/
  withStatus : Bool
  chain : List Bytes := []
  /-- The scheme of the signature of the server's part of the keys. -/
  scheme : Scheme := 0
  deriving DecidableEq, Repr, Inhabited

/-- What a client waits for. -/
inductive Phase where
  /-- The choice of the server. -/
  | hello
  /-- The certificates of the server. -/
  | certificates (flight : Flight)
  /-- The server's part of the keys, and before that perhaps a state of revocation. -/
  | keyExchange (flight : Flight)
  /-- The end of what the server sends, and before that perhaps a wish for certificates. -/
  | done (flight : Flight) (mayRequest : Bool)
  /-- The extensions that the server does not want others to see. -/
  | extensions
  /-- The certificates of the server in the newest version, and before them perhaps a wish for
  certificates. -/
  | modernCertificates (mayRequest : Bool)
  /-- The signature that belongs to certificates in the newest version. -/
  | verification (chain : List Bytes)
  deriving DecidableEq, Repr, Inhabited

/-- What a client does about something. -/
abbrev Turn := Engine.Turn Phase

/-! ## The choice of the server -/

/-- The version that a server chose. -/
def versionOf (h : ServerHello) : Except Objection Version :=
  let number :=
    if h.version = Version.v12.number then h.selectedVersion?.getD h.version else h.version
  if number = Version.v13.number then .ok .v13
  else if number = Version.v12.number then
    if h.selectedVersion?.isSome then .error (.misconduct .oldVersionInNewPlace) else .ok .v12
  else .error (.incompatible .serverVersion)

/-- The extensions that a server may send in the open in the newest version. -/
def openTypes : List Nat :=
  [ExtensionType.keyShare, ExtensionType.sharedKey, ExtensionType.versions]

/-- The extensions that have no place in the newest version. -/
def outdatedTypes : List Nat :=
  [ExtensionType.pointFormats, ExtensionType.sessionTicket, ExtensionType.renegotiation,
    ExtensionType.extendedSecret]

/-- The octets with which a server that speaks the newest version ends its random value in an older
one. -/
def downgradeMark : Bytes := [0x44, 0x4f, 0x57, 0x4e, 0x47, 0x52, 0x44, 0x01]

/-- Go on in the newest version. -/
def chooseModern (h : ServerHello) : Turn Unit := do
  Turn.require (h.extensions.all fun x => openTypes.contains x.1) (.misconduct .unexpectedCleartext)
  match h.keyShare? with
  | none => Turn.fail (.misconduct .missingKeyShare)
  | some (group, element) =>
    Turn.require (group == Offer.group.number) (.misconduct .wrongGroup)
    Turn.require (Offer.group.accepts element) (.misconduct .invalidKeyShare)
    Turn.requireAligned
    Turn.encrypted none
    Turn.send Writer.change
    Turn.become .extensions

/-- Go on in the older version. -/
def chooseOlder (h : ServerHello) (s : Suite) : Turn Unit := do
  Turn.require (h.random.drop 24 != downgradeMark) (.misconduct .downgrade)
  Turn.become (.certificates
    { suite := s, withStatus := h.extensions.has ExtensionType.statusRequest })

/-- Take the choice of the server. -/
def takeHello (name : ServerName) (h : ServerHello) : Turn Unit := do
  let version ← Turn.ofExcept (versionOf h)
  Turn.require (h.compression == 0) (.misconduct .unofferedCompression)
  let known := ExtensionType.renegotiation :: Offer.extensionTypes name
  Turn.require (h.extensions.all fun x => known.contains x.1) (.misconduct .unsolicitedExtension)
  Turn.speak (version == .v13)
  let plain := (h.pointFormats?.map fun formats => formats.contains 0).getD true
  Turn.require plain (.misconduct .noUncompressedPoints)
  match Suite.ofNumber? h.suite with
  | none => Turn.fail (.misconduct .unofferedSuite)
  | some s =>
    Turn.require (s.version == version) (.misconduct .unusableSuite)
    match version with
    | .v13 => chooseModern h
    | .v12 => chooseOlder h s

/-- Refuse to send another offer. The request would have to repeat octets that the client has drawn
at random. -/
def refuseRetry (r : RetryRequest) : Turn Unit := do
  Turn.requireAligned
  if r.hasCookie then Turn.fail (.misconduct .retryWithWrongSession)
  else match r.group with
    | none => Turn.fail (.misconduct .retryWithNoChanges)
    | some group =>
      if group = Offer.group.number then Turn.fail (.misconduct .retryWithOfferedGroup)
      else Turn.fail (.misconduct .retryWithWrongSession)

/-- Take the extensions that the server does not want others to see. -/
def takeExtensions (name : ServerName) (numbers : List Nat) : Turn Unit := do
  Turn.require (numbers.all (Offer.extensionTypes name).contains)
    (.misconduct .unsolicitedEncryptedExtension)
  Turn.require (!numbers.any (openTypes ++ outdatedTypes).contains)
    (.misconduct .disallowedExtension)
  Turn.become (.modernCertificates true)

/-! ## The flight of the server -/

/-- Read a server's part of the keys: the scheme of its signature. -/
def readKeyExchange : Reader Scheme := do
  let kind ← Reader.one
  if kind ≠ 3 then Reader.fail .missingKeyExchange
  else
    let _ ← Reader.two
    let _ ← Reader.countedSome Reader.one
    let scheme ← Reader.two
    let _ ← Reader.counted Reader.two
    Reader.finish "ServerKeyExchange"
    pure scheme

/-- Take the server's part of the keys. -/
def takeKeyExchange (f : Flight) (content : Bytes) : Turn Unit :=
  match readKeyExchange.run content with
  | .error _ => Turn.fail (.corrupt .missingKeyExchange)
  | .ok (scheme, _) => Turn.become (.done { f with scheme := scheme } true)

/-- What is wrong with a signature of a scheme with the key of a certificate, by algorithms that are
to be tried. -/
def faultOfScheme (scheme : Scheme) (own : Bytes) (algorithms : List SignatureAlgorithm) :
    Objection :=
  if Scheme.verified.contains scheme then
    match Certificate.ofDer own with
    | .ok leaf =>
      .certificate (SignatureAlgorithm.faultOfInvalid leaf.keyInfo .badSignature algorithms)
    | .error f => .certificate f
  else .misconduct .unadvertisedScheme

/-- What is wrong with the signature of the server's part of the keys. -/
def faultOfSignature (f : Flight) (own : Bytes) : Objection :=
  if f.suite.allows (Scheme.algorithm? f.scheme) then
    faultOfScheme f.scheme own (SignatureAlgorithm.ofScheme f.scheme)
  else .misconduct .wrongAlgorithm

/-- Take the end of what the server sends. -/
def takeDone (f : Flight) : Turn Unit := do
  Turn.requireAligned
  match f.chain with
  | [] => Turn.fail .noCertificates
  | own :: _ => Turn.verify f.chain (faultOfSignature f own)

/-! ## Certificates in the newest version -/

/-- Take a wish for certificates, of which the client has none. -/
def takeRequest (context : Bytes) (schemes : List Scheme) : Turn Unit := do
  Turn.require (context == []) (.corrupt .invalidRequest)
  Turn.require (schemes.any Scheme.isModern) (.incompatible .noRequestedSchemes)
  Turn.become (.modernCertificates false)

/-- Take the certificates of the server. -/
def takeCertificates (context : Bytes) (chain : List Bytes) : Turn Unit := do
  Turn.require (context == []) (.corrupt .invalidRequest)
  Turn.become (.verification chain)

/-- What is wrong with the signature that belongs to certificates. In the newest version a scheme
stands for one algorithm alone. -/
def faultOfVerification (own : Bytes) (scheme : Scheme) : Objection :=
  if Scheme.isModern scheme then
    faultOfScheme scheme own ((SignatureAlgorithm.ofScheme scheme).take 1)
  else .misconduct .unadvertisedScheme

/-- Take the signature that belongs to certificates. -/
def takeVerification (chain : List Bytes) (scheme : Scheme) : Turn Unit :=
  match chain with
  | [] => Turn.fail .noCertificates
  | own :: _ => Turn.verify chain (faultOfVerification own scheme)

/-- What a client that means to reach a server does about something. -/
def answer (name : ServerName) (content : Content) : Turn Unit := do
  match (← get).phase, content with
  | .hello, .message (.serverHello h) => takeHello name h
  | .hello, .message (.retryRequest r) => refuseRetry r
  | .hello, other => Turn.fail (other.fault [.serverHello, .retryRequest])
  | .certificates f, .message (.certificates chain) =>
    Turn.become (.keyExchange { f with chain := chain })
  | .certificates _, other => Turn.fail (other.fault [.certificate])
  | .keyExchange f, .message (.serverKeyExchange content) => takeKeyExchange f content
  | .keyExchange f, .message .certificateStatus =>
    if f.withStatus then Turn.become (.keyExchange { f with withStatus := false })
    else Turn.fail (content.fault [.serverKeyExchange])
  | .keyExchange f, other =>
    Turn.fail (other.fault
      (if f.withStatus then [.serverKeyExchange, .certificateStatus] else [.serverKeyExchange]))
  | .done f _, .message .serverHelloDone => takeDone f
  | .done f true, .message .certificateRequest => Turn.become (.done f false)
  | .done .., other => Turn.fail (other.fault [.serverHelloDone])
  | .extensions, .message (.encryptedExtensions numbers) => takeExtensions name numbers
  | .extensions, other => Turn.fail (other.fault [.encryptedExtensions])
  | .modernCertificates true, .message (.extendedRequest context schemes) =>
    takeRequest context schemes
  | .modernCertificates _, .message (.extendedCertificates context chain) =>
    takeCertificates context chain
  | .modernCertificates mayRequest, other =>
    Turn.fail (other.fault
      (if mayRequest then [.certificate, .certificateRequest] else [.certificate]))
  | .verification chain, .message (.verification scheme) => takeVerification chain scheme
  | .verification _, other => Turn.fail (other.fault [.certificateVerify])

end Client

end Engine

end Sockets
