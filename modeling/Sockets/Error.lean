import Sockets.Fault
import Sockets.Text.Quoted
import Sockets.Transport

/-!
# Errors

Every way in which an operation of the library fails, as a cause; the texts are written in one
place. An error that wraps another shows the other in its text and lists it among its causes.

## Main definitions

* `Sockets.ResolveError` — why a host and a service gave no candidates.
* `Sockets.TlsFault` — what the encryption library says that it cannot work with something.
* `Sockets.CredentialError`, `Sockets.TlsError` — why a credential or a session is not to be had.
* `Sockets.Error` — why an operation failed, with its `message`, its `causes` and its classes.
-/

set_option autoImplicit false

namespace Sockets

open Text

/-! ## Resolution -/

/-- Why a host and a service gave no candidates. -/
inductive ResolveError where
  | badHints
  | family
  | socketType
  | noName (name : String)
  | memory
  | system (fault : Fault)
  deriving DecidableEq, Repr, Inhabited

namespace ResolveError

/-- The text of a failed resolution. -/
def message : ResolveError → String
  | badHints => "invalid combination of resolution hints"
  | family => "no address of the requested family"
  | socketType => "socket type not supported by the resolver"
  | noName name => "name or service not known: " ++ name
  | memory => "out of memory during resolution"
  | system fault => "system error during resolution: " ++ fault.message

/-- The texts of what lies under a failed resolution. -/
def causes : ResolveError → List String
  | system fault => [fault.message]
  | _ => []

end ResolveError

/-! ## Encryption -/

/-- What the encryption library says when it cannot work with something. -/
structure TlsFault where
  message : String
  /-- Whether it says that a private key belongs to another certificate. -/
  isInconsistent : Bool := false
  /-- The number of the alert with which a peer is told. -/
  alert : Option UInt8 := none
  deriving DecidableEq, Repr, Inhabited

/-- Why a credential is not to be had from its file. -/
inductive CredentialError where
  | inaccessible (path : String) (fault : Fault)
  | certificate (path reason : String)
  | key (path reason : String)
  | mismatch (path : String) (cause : TlsFault)
  deriving DecidableEq, Repr, Inhabited

namespace CredentialError

/-- The text of a failed credential. -/
def message : CredentialError → String
  | inaccessible path fault => "cannot read credential file " ++ path ++ ": " ++ fault.message
  | certificate path reason => "no usable certificate in " ++ path ++ ": " ++ reason
  | key path reason => "no usable private key in " ++ path ++ ": " ++ reason
  | mismatch path _ => "private key in " ++ path ++ " does not match its certificate"

/-- The texts of what lies under a failed credential. -/
def causes : CredentialError → List String
  | inaccessible _ fault => [fault.message]
  | mismatch _ cause => [cause.message]
  | certificate .. | key .. => []

end CredentialError

/-- Why a session is not to be had, or failed. -/
inductive TlsError where
  | config (fault : TlsFault)
  | invalidServerName (name : String)
  | handshake (fault : Fault)
  | record (fault : Fault)
  | credential (error : CredentialError)
  deriving DecidableEq, Repr, Inhabited

namespace TlsError

/-- The text of a failed session. -/
def message : TlsError → String
  | config fault => "TLS configuration rejected: " ++ fault.message
  | invalidServerName name => "invalid TLS server name " ++ Quoted.text name
  | handshake fault => "TLS handshake failed: " ++ fault.message
  | record fault => "TLS record I/O failed: " ++ fault.message
  | credential error => error.message

/-- The texts of what lies under a failed session; a failed credential speaks for itself. -/
def causes : TlsError → List String
  | config fault => [fault.message]
  | invalidServerName _ => []
  | handshake fault | record fault => [fault.message]
  | credential error => error.causes

/-- Whether the credential is what failed. -/
def isCredential : TlsError → Bool
  | credential _ => true
  | _ => false

end TlsError

/-! ## Operations -/

/-- Why an operation failed. -/
inductive Error where
  | address (error : ResolveError)
  /-- A system call failed; `context` names it. -/
  | system (context : String) (fault : Fault)
  /-- The address is of a family that the operation does not work with. -/
  | family
  | interfaceQuery (fault : Fault)
  | unknownInterface (name : String)
  /-- The operation makes no sense on a handle of this transport, or in its state. -/
  | misuse (protocol : Protocol) (operation : String)
  | tls (error : TlsError)
  | allocation (requested : Nat)
  deriving DecidableEq, Repr, Inhabited

namespace Error

/-- The text of an error. -/
def message : Error → String
  | address error => "address resolution failed: " ++ error.message
  | system context fault => context ++ ": " ++ fault.message
  | family => "unsupported address family"
  | interfaceQuery fault => "interface query failed: " ++ fault.message
  | unknownInterface name => "unknown interface: " ++ name
  | misuse protocol operation => operation ++ " is not supported on " ++ protocol.text ++ " sockets"
  | tls error => "TLS failure: " ++ error.message
  | allocation requested => "failed to reserve " ++ toString requested ++ " bytes"

/-- The texts of what lies under an error, nearest first. -/
def causes : Error → List String
  | address error => error.message :: error.causes
  | system _ fault | interfaceQuery fault => [fault.message]
  | tls error => error.message :: error.causes
  | family | unknownInterface _ | misuse .. | allocation _ => []

/-- The kernel's error number behind an error. -/
def errno? : Error → Option Int
  | system _ fault | interfaceQuery fault => fault.errno?
  | _ => none

/-- Whether the operation made no sense. -/
def isMisuse : Error → Bool
  | misuse .. => true
  | _ => false

/-- Whether the session is what failed. -/
def isTls : Error → Bool
  | tls _ => true
  | _ => false

/-- Whether a system call failed because waiting would be needed or was in vain. -/
def isTimeout : Error → Bool
  | system _ fault => fault.isTimeout
  | _ => false

/-- The error of an interface query that failed with an error number. -/
def ofInterfaceErrno (n : Int) : Error := interfaceQuery (.os (Errno.recognised n))

end Error

end Sockets
