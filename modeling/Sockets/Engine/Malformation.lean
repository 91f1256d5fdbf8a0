import Sockets.Engine.Alert

/-!
# Malformed messages

The ways in which the octets of the other side are no message.

## Main definitions

* `Sockets.Engine.Malformation` — a way in which octets are no message, with its text.
* `Sockets.Engine.Malformation.reply?` — the alert with which it is answered.
-/

set_option autoImplicit false

namespace Sockets

namespace Engine

/-- A way in which octets are no message. -/
inductive Malformation where
  /-- The octets end where this should stand. -/
  | missing (what : String)
  /-- Octets are left over behind this. -/
  | trailing (what : String)
  /-- The octets end inside something whose length was announced. -/
  | tooShort
  /-- A list of these has no member and needs one. -/
  | emptyList (what : String)
  | emptyValue
  | emptyTicket
  | emptyRecord
  | noSchemes
  | recordTooLarge
  | messageTooLarge
  | certificatesTooLarge
  | invalidContentType
  | invalidChangeCipherSpec
  | invalidStatusType
  | invalidServerName
  | invalidAgreement
  | invalidRequest
  | missingKeyExchange
  | unknownVersion
  | unsupportedCompression
  /-- A message that never travels came. -/
  | impossibleMessage (what : String)
  | repeatedExtension (number : Nat)
  | sharedKeyNotLast
  | unknownRetryExtension
  | unknownCertificateExtension
  deriving DecidableEq, Repr, Inhabited

namespace Malformation

/-- A name with the thing that it is said of. -/
def about (name what : String) : String := name ++ "(\"" ++ what ++ "\")"

/-- The text of a malformation. -/
def text : Malformation → String
  | missing what => about "MissingData" what
  | trailing what => about "TrailingData" what
  | tooShort => "MessageTooShort"
  | emptyList what => about "IllegalEmptyList" what
  | emptyValue => "IllegalEmptyValue"
  | emptyTicket => "EmptyTicketValue"
  | emptyRecord => "InvalidEmptyPayload"
  | noSchemes => "NoSignatureSchemes"
  | recordTooLarge => "MessageTooLarge"
  | messageTooLarge => "HandshakePayloadTooLarge"
  | certificatesTooLarge => "CertificatePayloadTooLarge"
  | invalidContentType => "InvalidContentType"
  | invalidChangeCipherSpec => "InvalidCcs"
  | invalidStatusType => "InvalidCertificateStatusType"
  | invalidServerName => "InvalidServerName"
  | invalidAgreement => "InvalidDhParams"
  | invalidRequest => "InvalidCertRequest"
  | missingKeyExchange => "MissingKeyExchange"
  | unknownVersion => "UnknownProtocolVersion"
  | unsupportedCompression => "UnsupportedCompression"
  | impossibleMessage what => about "UnexpectedMessage" what
  | repeatedExtension number => "DuplicateExtension(" ++ toString number ++ ")"
  | sharedKeyNotLast => "PreSharedKeyIsNotFinalExtension"
  | unknownRetryExtension => "UnknownHelloRetryRequestExtension"
  | unknownCertificateExtension => "UnknownCertificateExtension"

/-- The reason of the alert that answers a malformation. A message that announces too many octets
is not answered. -/
def reply? : Malformation → Option AlertReason
  | messageTooLarge => none
  | repeatedExtension _ | sharedKeyNotLast => some .illegalParameter
  | unknownRetryExtension => some .unsupportedExtension
  | certificatesTooLarge => some .badCertificate
  | _ => some .decodeError

end Malformation

end Engine

end Sockets
