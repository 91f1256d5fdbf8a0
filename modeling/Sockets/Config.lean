import Sockets.Text.Description
import Sockets.Text.Quoted
import Sockets.Transport

/-!
# Configuration

What the owner of a context settles once: how listeners are set up, which family is asked for,
the stream counts of SCTP, and where certificates and keys are found.

## Main definitions

* `Sockets.SctpConfig`, `Sockets.TlsConfig`, `Sockets.Config` — the settings, with defaults.
* `Sockets.TlsConfig.credentialFile` — the file that holds the server's credential.
-/

set_option autoImplicit false

namespace Sockets

open Text

/-- Parameters of SCTP associations, set before a listener is bound. -/
structure SctpConfig where
  outStreams : UInt16 := 10
  inStreams : UInt16 := 10
  attempts : UInt16 := 0
  timeout : UInt16 := 0
  deriving DecidableEq, Repr, Inhabited

namespace SctpConfig

/-- The description of the parameters of associations. -/
def description (c : SctpConfig) : String :=
  Description.record "SctpConfig" [
    ("out_streams", toString c.outStreams.toNat),
    ("max_in_streams", toString c.inStreams.toNat),
    ("max_attempts", toString c.attempts.toNat),
    ("max_init_timeout_ms", toString c.timeout.toNat)]

end SctpConfig

/-- Where certificates and keys are found. -/
structure TlsConfig where
  credentialPath : Option String := none
  /-- Whether the certificates of the machine are trusted. -/
  nativeRoots : Bool := true
  extraRoots : List String := []
  deriving DecidableEq, Repr, Inhabited

namespace TlsConfig

/-- The file of the server's credential when nothing else is said. -/
def standardCredentialFile : String := "/etc/unisock/server.pem"

/-- The file that holds the server's credential: the configured one, or the one that the
environment names, or the standard one. -/
def credentialFile (c : TlsConfig) (environment : Option String) : String :=
  match c.credentialPath, environment with
  | some path, _ => path
  | none, some path => if path = "" then standardCredentialFile else path
  | none, none => standardCredentialFile

/-- The description of where certificates and keys are found. -/
def description (c : TlsConfig) : String :=
  Description.record "TlsConfig" [
    ("credential_path", Description.option (c.credentialPath.map Quoted.path)),
    ("use_native_certs", Description.flag c.nativeRoots),
    ("extra_roots", Description.list (c.extraRoots.map Quoted.path))]

end TlsConfig

/-- The settings of a context. -/
structure Config where
  /-- How many connections may wait to be accepted. -/
  backlog : Int := 32
  reuseAddress : Bool := true
  family : Option Family := none
  sctp : SctpConfig := {}
  tls : TlsConfig := {}
  deriving DecidableEq, Repr, Inhabited

namespace Config

/-- The description of the settings. -/
def description (c : Config) : String :=
  Description.record "SockConfig" [
    ("listen_backlog", toString c.backlog),
    ("reuse_address", Description.flag c.reuseAddress),
    ("family", Description.option (c.family.map Family.tag)),
    ("sctp", c.sctp.description),
    ("tls", c.tls.description)]

end Config

end Sockets
