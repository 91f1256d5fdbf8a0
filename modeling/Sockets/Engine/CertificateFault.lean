import Sockets.Text.Quoted
import Sockets.Engine.Alert

/-!
# Unfit certificates

What is wrong with a certificate, or with the certificates that should lead from it to a trusted
one. Of several ways in which no path is found, the most specific one is reported.

## Main definitions

* `Sockets.Engine.CertificateFlaw`, `Sockets.Engine.CertificateFault` — what is wrong, with its
  text.
* `Sockets.Engine.CertificateFault.rank` — how specific it is.
* `Sockets.Engine.CertificateFault.reply` — the alert with which it is answered.
-/

set_option autoImplicit false

namespace Sockets

open Text

namespace Engine

/-- What is wrong with a certificate that has no class of its own. -/
inductive CertificateFlaw where
  | unsupportedVersion
  | algorithmMismatch
  | noPurpose
  | invalidExtension
  | unsupportedCriticalExtension
  | authorityAsServer
  | serverAsAuthority
  | pathLengthViolated
  | nameConstraintViolated
  | invalidNetworkMask
  | malformedName
  | malformedNameConstraint
  | pathTooDeep
  | tooManySignatures
  | tooManyPaths
  | tooManyComparisons
  deriving DecidableEq, Repr, Inhabited

namespace CertificateFlaw

/-- The name of a flaw. -/
def name : CertificateFlaw → String
  | unsupportedVersion => "UnsupportedCertVersion"
  | algorithmMismatch => "SignatureAlgorithmMismatch"
  | noPurpose => "EmptyEkuExtension"
  | invalidExtension => "ExtensionValueInvalid"
  | unsupportedCriticalExtension => "UnsupportedCriticalExtension"
  | authorityAsServer => "CaUsedAsEndEntity"
  | serverAsAuthority => "EndEntityUsedAsCa"
  | pathLengthViolated => "PathLenConstraintViolated"
  | nameConstraintViolated => "NameConstraintViolation"
  | invalidNetworkMask => "InvalidNetworkMaskConstraint"
  | malformedName => "MalformedDnsIdentifier"
  | malformedNameConstraint => "MalformedNameConstraint"
  | pathTooDeep => "MaximumPathDepthExceeded"
  | tooManySignatures => "MaximumSignatureChecksExceeded"
  | tooManyPaths => "MaximumPathBuildCallsExceeded"
  | tooManyComparisons => "MaximumNameConstraintComparisonsExceeded"

end CertificateFlaw

/-- What is wrong with a certificate. -/
inductive CertificateFault where
  /-- Something in it is not a value of the right kind. -/
  | badEncoding
  /-- Something in it does not end where it should. -/
  | notWhole
  /-- A time in it is none. -/
  | badTime
  /-- Its validity ends before it begins. -/
  | emptyValidity
  /-- At this time it is not valid. -/
  | outOfDate
  /-- No trusted certificate stands behind it. -/
  | unknownIssuer
  /-- Its issuer did not sign it. -/
  | badSignature
  /-- It is signed in a way that is not known here; the ways that are known. -/
  | unsupportedAlgorithm (algorithm : Bytes) (supported : List Bytes)
  /-- It is signed in a way that the key of its issuer is not for. -/
  | unsupportedKey (algorithm key : Bytes)
  /-- It is for purposes other than to serve. -/
  | wrongPurpose (allowed : List String)
  /-- It was made out to other names. -/
  | wrongName (name : String) (valid : List String)
  | flaw (flaw : CertificateFlaw)
  deriving DecidableEq, Repr, Inhabited

namespace CertificateFault

/-! ## Texts -/

/-- Alternatives in a sentence: commas between all but the last two, which `or` joins. -/
def alternatives : List String → String
  | [] => ""
  | [a] => a
  | [a, b] => a ++ " or " ++ b
  | a :: rest => a ++ ", " ++ alternatives rest

/-- Octets as a list of numbers. -/
def numbers (bs : Bytes) : String :=
  "[" ++ String.intercalate ", " (bs.map fun b => toString b.toNat) ++ "]"

/-- The text of what is wrong with a certificate. -/
def message : CertificateFault → String
  | badEncoding | notWhole | badTime => "BadEncoding"
  | emptyValidity | outOfDate => "Expired"
  | unknownIssuer => "UnknownIssuer"
  | badSignature => "BadSignature"
  | unsupportedAlgorithm algorithm supported =>
    "UnsupportedSignatureAlgorithmContext \x7b signature_algorithm_id: " ++ numbers algorithm ++
      ", supported_algorithms: [" ++
      String.intercalate ", " (supported.map fun a => "0x" ++ Bytes.hex a) ++ "] \x7d"
  | unsupportedKey algorithm key =>
    "UnsupportedSignatureAlgorithmForPublicKeyContext \x7b signature_algorithm_id: " ++
      numbers algorithm ++ ", public_key_algorithm_id: " ++ numbers key ++ " \x7d"
  | wrongPurpose allowed =>
    "certificate does not allow extended key usage for server authentication, allows " ++
      String.intercalate ", " allowed
  | wrongName name valid =>
    "certificate not valid for name " ++ Quoted.text name ++
      (if valid = [] then "; certificate is not valid for any names" ++
          " (according to its subjectAltName extension)"
        else "; certificate is only valid for " ++ alternatives valid)
  | flaw f => "Other(OtherError(" ++ f.name ++ "))"

/-- The reason of the alert that answers an unfit certificate. -/
def reply : CertificateFault → AlertReason
  | badEncoding | notWhole | badTime | wrongName .. => .badCertificate
  | emptyValidity | outOfDate => .certificateExpired
  | unknownIssuer => .unknownAuthority
  | badSignature | unsupportedAlgorithm .. | unsupportedKey .. => .decryptError
  | wrongPurpose _ => .unsupportedCertificate
  | flaw _ => .certificateUnknown

/-! ## Specificity -/

/-- How specific a fault is. -/
def rank : CertificateFault → Nat
  | outOfDate => 290
  | wrongName .. => 280
  | badSignature => 260
  | flaw .algorithmMismatch => 250
  | flaw .noPurpose => 245
  | wrongPurpose _ => 240
  | flaw .nameConstraintViolated => 230
  | flaw .pathLengthViolated => 220
  | flaw .authorityAsServer | flaw .serverAsAuthority => 210
  | emptyValidity => 190
  | flaw .invalidNetworkMask => 180
  | unsupportedKey .. => 150
  | unsupportedAlgorithm .. => 140
  | flaw .unsupportedCriticalExtension | flaw .unsupportedVersion => 130
  | flaw .tooManyPaths | flaw .tooManySignatures | flaw .tooManyComparisons
  | flaw .pathTooDeep => 61
  | flaw .malformedName => 60
  | flaw .malformedNameConstraint => 50
  | notWhole => 40
  | flaw .invalidExtension => 30
  | badTime => 20
  | badEncoding => 10
  | unknownIssuer => 0

/-- The more specific of two faults; of two that are equally specific, the first. -/
def moreSpecific (f g : CertificateFault) : CertificateFault := if g.rank ≤ f.rank then f else g

/-- Whether a fault ends the search for a path. -/
def endsSearch : CertificateFault → Bool
  | flaw .tooManyPaths | flaw .tooManySignatures | flaw .tooManyComparisons => true
  | _ => false

end CertificateFault

end Engine

end Sockets
