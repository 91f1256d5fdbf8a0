import Sockets.Engine.MessageType

/-!
# Alerts

With an alert one side of an encrypted connection says why it gives up, or warns of something.

## Main definitions

* `Sockets.Engine.AlertReason` — the reason in an alert, with its name.
* `Sockets.Engine.Alert` — an alert, with its octets.
-/

set_option autoImplicit false

namespace Sockets

namespace Engine

/-- The reason that an alert gives, by its octet. -/
abbrev AlertReason := UInt8

namespace AlertReason

/-- The names of the reasons that have one. -/
def names : List (UInt8 × String) := [
  (0, "CloseNotify"), (10, "UnexpectedMessage"), (20, "BadRecordMac"), (21, "DecryptionFailed"),
  (22, "RecordOverflow"), (30, "DecompressionFailure"), (40, "HandshakeFailure"),
  (41, "NoCertificate"), (42, "BadCertificate"), (43, "UnsupportedCertificate"),
  (44, "CertificateRevoked"), (45, "CertificateExpired"), (46, "CertificateUnknown"),
  (47, "IllegalParameter"), (48, "UnknownCA"), (49, "AccessDenied"), (50, "DecodeError"),
  (51, "DecryptError"), (60, "ExportRestriction"), (70, "ProtocolVersion"),
  (71, "InsufficientSecurity"), (80, "InternalError"), (86, "InappropriateFallback"),
  (90, "UserCanceled"), (100, "NoRenegotiation"), (109, "MissingExtension"),
  (110, "UnsupportedExtension"), (111, "CertificateUnobtainable"), (112, "UnrecognisedName"),
  (113, "BadCertificateStatusResponse"), (114, "BadCertificateHashValue"),
  (115, "UnknownPSKIdentity"), (116, "CertificateRequired"), (120, "NoApplicationProtocol"),
  (121, "EncryptedClientHelloRequired")]

/-- The name of a reason; a reason without one is shown by its octet. -/
def name (r : AlertReason) : String :=
  (names.lookup r).getD (HandshakeType.unnamed "AlertDescription" r)

/-- A message came that was not its turn. -/
def unexpectedMessage : AlertReason := 10

/-- A record cannot be decrypted. -/
def badRecordMac : AlertReason := 20

/-- The two sides have nothing in common. -/
def handshakeFailure : AlertReason := 40

/-- A certificate is unfit. -/
def badCertificate : AlertReason := 42

/-- A certificate is for something else. -/
def unsupportedCertificate : AlertReason := 43

/-- A certificate is not valid at this time. -/
def certificateExpired : AlertReason := 45

/-- Something else is wrong with a certificate. -/
def certificateUnknown : AlertReason := 46

/-- A value makes no sense where it stands. -/
def illegalParameter : AlertReason := 47

/-- Nobody trusted stands behind a certificate. -/
def unknownAuthority : AlertReason := 48

/-- A message cannot be read. -/
def decodeError : AlertReason := 50

/-- A signature is not valid. -/
def decryptError : AlertReason := 51

/-- The version is none that is spoken here. -/
def protocolVersion : AlertReason := 70

/-- The other side changed its mind; this is never more than a warning. -/
def userCanceled : AlertReason := 90

/-- An extension is missing. -/
def missingExtension : AlertReason := 109

/-- An extension was not asked for. -/
def unsupportedExtension : AlertReason := 110

end AlertReason

/-- An alert. -/
structure Alert where
  level : UInt8
  reason : AlertReason
  deriving DecidableEq, Repr, Inhabited

namespace Alert

/-- The level of alerts that are only a warning. -/
def warning : UInt8 := 1

/-- The level of alerts that end the connection. -/
def fatal : UInt8 := 2

/-- The octets of an alert. -/
def octets (a : Alert) : Bytes := [a.level, a.reason]

end Alert

end Engine

end Sockets
