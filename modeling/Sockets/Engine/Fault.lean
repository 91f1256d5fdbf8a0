import Sockets.Error
import Sockets.Engine.CertificateFault
import Sockets.Engine.Malformation

/-!
# Faults of encrypted connections

What one side of an encrypted connection holds against the other, or against its own
configuration, and the alert with which it tells the other side.

## Main definitions

* `Sockets.Engine.Misconduct` — what the other side may never do.
* `Sockets.Engine.Incompatibility` — why the two sides have nothing in common.
* `Sockets.Engine.Objection` — a fault, with its `message`.
* `Sockets.Engine.Objection.reply?` — the alert with which it is answered.
-/

set_option autoImplicit false

namespace Sockets

namespace Engine

/-- What the other side may never do. -/
inductive Misconduct where
  | downgrade
  | emptyRecords
  | earlyDataAfterRetry
  | digestVariedAfterRetry
  | disallowedExtension
  | retryWithOfferedGroup
  | retryWithNoChanges
  | retryWithWrongSession
  | illegalChangeCipherSpec
  | invalidKeyShare
  | pendingFragment
  | interleaved
  | missingKeyShare
  | missingSharedKeyModes
  | repeatedKeyShares
  | repeatedCompressions
  | incorrectCompressions
  | mismatchedSharedKeys
  | refusedRetry
  | oldVersionInNewPlace
  | unofferedSuite
  | unofferedCompression
  | unusableSuite
  | noUncompressedPoints
  | serverNameDiffered
  | serverNameMissing
  | unadvertisedScheme
  | wrongAlgorithm
  | tooManyWarnings
  | unexpectedCleartext
  | unsolicitedEncryptedExtension
  | unsolicitedExtension
  | wrongGroup
  deriving DecidableEq, Repr, Inhabited

namespace Misconduct

/-- The name of a misconduct. -/
def name : Misconduct → String
  | downgrade => "AttemptedDowngradeToTls12WhenTls13IsSupported"
  | emptyRecords => "TooManyEmptyFragments"
  | earlyDataAfterRetry => "EarlyDataAttemptedInSecondClientHello"
  | digestVariedAfterRetry => "HandshakeHashVariedAfterRetry"
  | disallowedExtension => "DisallowedEncryptedExtension"
  | retryWithOfferedGroup => "IllegalHelloRetryRequestWithOfferedGroup"
  | retryWithNoChanges => "IllegalHelloRetryRequestWithNoChanges"
  | retryWithWrongSession => "IllegalHelloRetryRequestWithWrongSessionId"
  | illegalChangeCipherSpec => "IllegalMiddleboxChangeCipherSpec"
  | invalidKeyShare => "InvalidKeyShare"
  | pendingFragment => "KeyEpochWithPendingFragment"
  | interleaved => "MessageInterleavedWithHandshakeMessage"
  | missingKeyShare => "MissingKeyShare"
  | missingSharedKeyModes => "MissingPskModesExtension"
  | repeatedKeyShares => "OfferedDuplicateKeyShares"
  | repeatedCompressions => "OfferedDuplicateCertificateCompressions"
  | incorrectCompressions => "OfferedIncorrectCompressions"
  | mismatchedSharedKeys => "PskExtensionWithMismatchedIdsAndBinders"
  | refusedRetry => "RefusedToFollowHelloRetryRequest"
  | oldVersionInNewPlace => "SelectedTls12UsingTls13VersionExtension"
  | unofferedSuite => "SelectedUnofferedCipherSuite"
  | unofferedCompression => "SelectedUnofferedCompression"
  | unusableSuite => "SelectedUnusableCipherSuiteForVersion"
  | noUncompressedPoints => "ServerHelloMustOfferUncompressedEcPoints"
  | serverNameDiffered => "ServerNameDifferedOnRetry"
  | serverNameMissing => "ServerNameMustContainOneHostName"
  | unadvertisedScheme => "SignedHandshakeWithUnadvertisedSigScheme"
  | wrongAlgorithm => "SignedKxWithWrongAlgorithm"
  | tooManyWarnings => "TooManyWarningAlertsReceived"
  | unexpectedCleartext => "UnexpectedCleartextExtension"
  | unsolicitedEncryptedExtension => "UnsolicitedEncryptedExtension"
  | unsolicitedExtension => "UnsolicitedServerHelloExtension"
  | wrongGroup => "WrongGroupForKeyShare"

/-- The reason of the alert that answers a misconduct, if one does. -/
def reply? : Misconduct → Option AlertReason
  | emptyRecords | interleaved | serverNameDiffered | tooManyWarnings | wrongAlgorithm => none
  | illegalChangeCipherSpec | pendingFragment => some .unexpectedMessage
  | missingSharedKeyModes | missingKeyShare => some .missingExtension
  | unofferedSuite | noUncompressedPoints => some .handshakeFailure
  | unexpectedCleartext | unsolicitedExtension | unsolicitedEncryptedExtension
  | disallowedExtension => some .unsupportedExtension
  | _ => some .illegalParameter

end Misconduct

/-- Why the two sides have nothing in common. -/
inductive Incompatibility where
  | keyShareRequired
  | noSuites
  | noGroups
  | noRequestedSchemes
  | noSchemes
  | plainRequired
  | serverVersion
  | schemesRequired
  | oldClient
  | noVersion
  | uncompressedRequired
  | certificateType
  deriving DecidableEq, Repr, Inhabited

namespace Incompatibility

/-- The name of an incompatibility. -/
def name : Incompatibility → String
  | keyShareRequired => "KeyShareExtensionRequired"
  | noSuites => "NoCipherSuitesInCommon"
  | noGroups => "NoKxGroupsInCommon"
  | noRequestedSchemes => "NoCertificateRequestSignatureSchemesInCommon"
  | noSchemes => "NoSignatureSchemesInCommon"
  | plainRequired => "NullCompressionRequired"
  | serverVersion => "ServerDoesNotSupportTls12Or13"
  | schemesRequired => "SignatureAlgorithmsExtensionRequired"
  | oldClient => "Tls12NotOffered"
  | noVersion => "Tls12NotOfferedOrEnabled"
  | uncompressedRequired => "UncompressedEcPointsRequired"
  | certificateType => "UnsolicitedCertificateTypeExtension"

/-- The reason of the alert that answers an incompatibility. -/
def reply : Incompatibility → AlertReason
  | plainRequired | uncompressedRequired => .illegalParameter
  | serverVersion | oldClient | noVersion => .protocolVersion
  | _ => .handshakeFailure

end Incompatibility

/-- What one side of an encrypted connection holds against the other, or against its own
configuration. -/
inductive Objection where
  /-- Something that has no class of its own. -/
  | unexpected (text : String)
  | certificate (fault : CertificateFault)
  /-- The verdict on the certificates of the other side. -/
  | verdict (fault : TlsFault)
  /-- The other side gave up. -/
  | alert (reason : AlertReason)
  /-- The octets that came are no message. -/
  | corrupt (cause : Malformation)
  /-- A content of another kind was due. -/
  | wrongContent (got expected : ContentType)
  /-- A handshake message of another kind was due. -/
  | wrongMessage (got : HandshakeType) (expected : List HandshakeType)
  | misconduct (what : Misconduct)
  | incompatible (why : Incompatibility)
  /-- What came was not encrypted with the keys that were agreed on. -/
  | undecryptable
  | noCertificates
  /-- A private key that belongs to another certificate. -/
  | inconsistentKeys
  deriving DecidableEq, Repr, Inhabited

namespace Objection

/-- The text of a fault. -/
def message : Objection → String
  | unexpected text => "unexpected error: " ++ text
  | certificate fault => "invalid peer certificate: " ++ fault.message
  | verdict fault => fault.message
  | alert reason => "received fatal alert: " ++ reason.name
  | corrupt cause => "received corrupt message of type " ++ cause.text
  | wrongContent got expected =>
    "received unexpected message: got " ++ got.name ++ " when expecting " ++ expected.name
  | wrongMessage got expected =>
    "received unexpected handshake message: got " ++ got.name ++ " when expecting " ++
      String.intercalate " or " (expected.map HandshakeType.name)
  | misconduct what => "peer misbehaved: " ++ what.name
  | incompatible why => "peer is incompatible: " ++ why.name
  | undecryptable => "cannot decrypt peer's message"
  | noCertificates => "peer sent no certificates"
  | inconsistentKeys => "keys may not be consistent: KeyMismatch"

/-- The reason of the alert that answers a fault, if one does. -/
def reply? : Objection → Option AlertReason
  | certificate fault => some fault.reply
  | verdict fault => fault.alert
  | corrupt cause => cause.reply?
  | wrongContent .. | wrongMessage .. => some .unexpectedMessage
  | misconduct what => what.reply?
  | incompatible why => some why.reply
  | undecryptable => some .badRecordMac
  | unexpected _ | alert _ | noCertificates | inconsistentKeys => none

/-- A fault of the connection as a failure of input. -/
def toFault (f : Objection) : Fault := .custom .invalidData f.message

/-- A fault as those outside hear of it. -/
def toTls (f : Objection) : TlsFault := ⟨f.message, f = .inconsistentKeys, f.reply?⟩

end Objection

end Engine

end Sockets
