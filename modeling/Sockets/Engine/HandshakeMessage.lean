import Sockets.Engine.ServerHello

/-!
# Handshake messages

A handshake message is an octet for its kind, the count of its octets, and a content that depends
on the kind. Some contents also depend on the version that the record says it is of.

## Main definitions

* `Sockets.Engine.HandshakeMessage` — a handshake message.
* `Sockets.Engine.HandshakeMessage.ofOctets` — the message that octets are.
-/

set_option autoImplicit false

namespace Sockets

namespace Engine

/-- A handshake message, as far as it is looked at before keys are agreed on. -/
inductive HandshakeMessage where
  | clientHello (hello : ClientHello)
  | serverHello (hello : ServerHello)
  | retryRequest (request : RetryRequest)
  /-- The extensions of a server that are encrypted, by their numbers. -/
  | encryptedExtensions (numbers : List Nat)
  | certificates (chain : List Bytes)
  | certificateStatus
  | serverKeyExchange (content : Bytes)
  | certificateRequest
  | serverHelloDone
  | clientKeyExchange (content : Bytes)
  /-- Certificates in the newer form: what they answer, and the certificates. -/
  | extendedCertificates (context : Bytes) (chain : List Bytes)
  /-- A request for certificates in the newer form: its name, and the ways of signing. -/
  | extendedRequest (context : Bytes) (schemes : List Nat)
  /-- A signature of what was said so far. -/
  | verification (scheme : Nat)
  /-- A message of another kind. -/
  | plain (kind : HandshakeType)
  deriving Repr, Inhabited

namespace HandshakeMessage

/-- The kind of a message. -/
def kind : HandshakeMessage → HandshakeType
  | clientHello _ => .clientHello
  | serverHello _ => .serverHello
  | retryRequest _ => .retryRequest
  | encryptedExtensions _ => .encryptedExtensions
  | certificates _ => .certificate
  | certificateStatus => .certificateStatus
  | serverKeyExchange _ => .serverKeyExchange
  | certificateRequest => .certificateRequest
  | serverHelloDone => .serverHelloDone
  | clientKeyExchange _ => .clientKeyExchange
  | extendedCertificates .. => .certificate
  | extendedRequest .. => .certificateRequest
  | verification _ => .certificateVerify
  | plain kind => kind

/-! ## Contents -/

/-- The count of octets of a list of certificates, which is limited. -/
def certificatesSize : Reader Nat := do
  let count ← Reader.three
  if 0x10000 < count then Reader.fail .certificatesTooLarge else pure count

/-- The state of revocation of a certificate. -/
def readStatus : Reader Unit := do
  let kind ← Reader.number 1 "CertificateStatusType"
  if kind = 1 then
    let _ ← Reader.counted Reader.three
  else Reader.fail .invalidStatusType

/-- A content that only has to be read. -/
def skip {α : Type} (kind : HandshakeType) (item : Reader α) : Reader HandshakeMessage := do
  let _ ← item
  pure (plain kind)

/-- The extensions of a certificate in a list. -/
def certificateGrammar : Extensions.Grammar Unit where
  name := "CertificateExtensions"
  content
    | ExtensionType.statusRequest => some readStatus
    | _ => none
  unknown := .error .unknownCertificateExtension

/-- The certificates of a side, each with extensions. -/
def readExtendedCertificates : Reader HandshakeMessage := do
  let context ← Reader.counted Reader.one
  let chain ← Reader.list certificatesSize do
    let certificate ← Reader.counted Reader.three
    let _ ← Extensions.read certificateGrammar
    pure certificate
  pure (extendedCertificates context chain)

/-- The extensions of a request for certificates; of each, the ways of signing that it names. -/
def requestGrammar : Extensions.Grammar (List Nat) where
  name := "CertificateRequestExtensions"
  content
    | ExtensionType.schemes => some ClientExtension.readSchemes
    | ExtensionType.authorities => some do
      let _ ← ClientExtension.readAuthorities
      pure []
    | ExtensionType.certificateCompression => some do
      let _ ← ClientExtension.readFew "CertificateCompressionAlgorithms"
        "CertificateCompressionAlgorithm" 2
      pure []
    | _ => none
  unknown := .ok []

/-- A request for certificates, with extensions. -/
def readExtendedRequest : Reader HandshakeMessage := do
  let context ← Reader.counted Reader.one
  let extensions ← Extensions.read requestGrammar
  pure (extendedRequest context (extensions.flatMap Prod.snd))

/-- A request for certificates: their kinds, the ways of signing, and the names of issuers. -/
def readRequest : Reader Unit := do
  let _ ← Reader.listSome Reader.one (.emptyList "ClientCertificateTypes")
    (Reader.number 1 "ClientCertificateType")
  let _ ← ClientExtension.readSchemes
  let _ ← ClientExtension.readAuthorities

/-- The extensions of a ticket. -/
def ticketGrammar : Extensions.Grammar Unit where
  name := "NewSessionTicketExtensions"
  content
    | ExtensionType.earlyData => some do
      let _ ← Reader.four
    | _ => none
  unknown := .ok ()

/-- A ticket for a later session, with extensions. -/
def readExtendedTicket : Reader Unit := do
  let _ ← Reader.four
  let _ ← Reader.four
  let _ ← Reader.counted Reader.one
  let ticket ← Reader.counted Reader.two
  if ticket = [] then Reader.fail .emptyTicket
  else
    let _ ← Extensions.read ticketGrammar

/-- A ticket for a later session. -/
def readTicket : Reader Unit := do
  let _ ← Reader.four
  let _ ← Reader.counted Reader.two

/-- Certificates that are compressed. -/
def readCompressed : Reader Unit := do
  let _ ← Reader.number 2 "CertificateCompressionAlgorithm"
  let _ ← Reader.three
  let _ ← Reader.counted Reader.three

/-- A signature, behind the way in which it was made. -/
def readVerification : Reader HandshakeMessage := do
  let scheme ← Reader.number 2 "SignatureScheme"
  let _ ← Reader.counted Reader.two
  pure (verification scheme)

/-- The answer of a server: what it chose, or a request for another first message. -/
def readAnswer : Reader HandshakeMessage := do
  let version ← Reader.number 2 "ProtocolVersion"
  let random ← readRandom
  if random = RetryRequest.mark then retryRequest <$> RetryRequest.readBehind
  else serverHello <$> ServerHello.readBehind version random

/-- The version whose messages have extensions in more places. -/
def extendedVersion : Nat := 0x0304

/-- Read the content of a message of a kind, in a record of a version. -/
def readContent (version : Nat) (kind : HandshakeType) : Reader HandshakeMessage :=
  let extended := version = extendedVersion
  match kind with
  | 1 => clientHello <$> ClientHello.read
  | 2 => readAnswer
  | 4 => if extended then skip 4 readExtendedTicket else skip 4 readTicket
  | 5 => skip 5 (Reader.finish "EndOfEarlyData")
  | 6 => Reader.fail (.impossibleMessage "HelloRetryRequest")
  | 8 => (fun xs => encryptedExtensions (xs.map Prod.fst)) <$>
    Extensions.read ServerExtension.grammar
  | 11 =>
    if extended then readExtendedCertificates
    else certificates <$> Reader.list certificatesSize (Reader.counted Reader.three)
  | 12 => serverKeyExchange <$> Reader.rest
  | 13 =>
    if extended then readExtendedRequest
    else (fun _ => certificateRequest) <$> readRequest
  | 14 => (fun _ => serverHelloDone) <$> Reader.finish "ServerHelloDone"
  | 15 => readVerification
  | 16 => clientKeyExchange <$> Reader.rest
  | 22 => (fun _ => certificateStatus) <$> readStatus
  | 24 => skip 24 (Reader.number 1 "KeyUpdateRequest")
  | 25 => skip 25 readCompressed
  | 254 => Reader.fail (.impossibleMessage "MessageHash")
  | kind => skip kind Reader.rest

/-- The message that octets are, in a record of a version. -/
def ofOctets (version : Nat) (bs : Bytes) : Except Malformation HandshakeMessage := do
  let reading : Reader HandshakeMessage := do
    let kind ← Reader.number 1 "HandshakeType"
    let body ← Reader.counted Reader.three
    Reader.inside body do
      let message ← readContent version (UInt8.ofNat kind)
      Reader.finish "HandshakeMessagePayload"
      pure message
  let (message, _) ← reading.run bs
  pure message

end HandshakeMessage

end Engine

end Sockets
