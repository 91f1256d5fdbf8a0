import Sockets.Engine.Handshake
import Sockets.Engine.Path
import Sockets.Engine.Pem

/-!
# An encryption library

The library with which everything is run that is run at all. It reads certificates, keys and names
as such libraries do, and it conducts a handshake as far as that goes with a peer that has written
everything down beforehand. No statement about sockets depends on it.

## Main definitions

* `Sockets.Engine.Anchors.check` — what is wrong with the certificates of a server.
* `Sockets.Engine.library` — the library.
-/

set_option autoImplicit false

namespace Sockets

open Tls

namespace Engine

/-! ## Files -/

/-- The layout of a key under a label. -/
def formOf : Pem.Label → KeyForm
  | .rsaKey => .pkcs1
  | .ecKey => .sec1
  | _ => .pkcs8

namespace Store

/-- Octets in the order of a dictionary. -/
def before : Bytes → Bytes → Bool
  | [], _ => true
  | _ :: _, [] => false
  | a :: as, b :: bs => a < b || (a == b && before as bs)

/-- Certificates in order, each once. -/
def tidy (certificates : List Bytes) : List Bytes := (certificates.mergeSort before).eraseDups

/-- What is wrong with a file of the machine. -/
def complaint (text : String) : String := "failed to read PEM from file: " ++ text

/-- The sections of a file of the machine that are certificates, and what is wrong with it. -/
def sections (path : String) : Except Fault Bytes → List Bytes × List String
  | .error f => ([], [complaint (f.message ++ " at '" ++ path ++ "'")])
  | .ok file =>
    let found := Pem.sections file
    (found.filterMap fun s => match s with
      | .ok s => if s.label = .certificate then some s.der else none
      | .error _ => none,
    found.filterMap fun s => match s with
      | .ok _ => none
      | .error e => some (complaint e.plainMessage))

/-- The certificates of the machine, and what is wrong with its files. -/
def certificates (files : List (String × Except Fault Bytes)) : List Bytes × List String :=
  let found := files.map fun (path, file) => sections path file
  (tidy (found.flatMap Prod.fst), found.flatMap Prod.snd)

end Store

/-! ## Certificates -/

/-- What is wrong with the certificates of a server at a time: the path comes first, and then the
name. -/
def Anchors.check (anchors : List Tls.Anchor) (name : ServerName) (chain : List Bytes)
    (now : Time) : Except CertificateFault Unit :=
  match chain with
  | [] => .error .badEncoding
  | own :: others => do
    let leaf ← Certificate.ofDer own
    Path.check anchors leaf others now
    Path.checkName name leaf

/-! ## The library -/

/-- The library with which everything is run. -/
def library : Tls.Library where
  anchor der := (Anchor.ofDer der).mapError fun f => (Objection.certificate f).toTls
  certificates file := (Pem.certificates file).mapError Pem.Fault.message
  key file := do
    let found ← (Pem.key? file).mapError Pem.Fault.message
    pure (found.map fun s => ⟨formOf s.label, s.der⟩)
  native := Store.certificates
  certify c := do
    let _ ← (Identity.ofCredential c).mapError Objection.toTls
  name? := HostName.name?
  verify anchors name chain now :=
    (Anchors.check anchors name chain (.ofClock now)).mapError fun f =>
      (Objection.certificate f).toTls
  client _ name := .ok (Handshake.client name)
  server _ c := do
    let own ← (Identity.ofCredential c).mapError Objection.toTls
    pure (Handshake.server own)

end Engine

end Sockets
