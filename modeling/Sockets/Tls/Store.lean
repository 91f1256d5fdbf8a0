import Sockets.World

/-!
# Certificates and keys from files

The credential of a server is one file with certificates and a key. Strict clients trust what is
trusted everywhere, the certificates of the machine, if they may, and those of further files. What
was built once is kept; what failed is tried again the next time.

## Main definitions

* `Sockets.Tls.Credential.load`, `Sockets.Tls.Credential.approve` — the credential in a file, and
  whether a server can work with it.
* `Sockets.Tls.Anchors.all` — what strict clients trust.
* `Sockets.Tls.Keeper.buildClient`, `Sockets.Tls.Keeper.buildServer` — what a provider builds.
* `Sockets.Tls.Keeper.verifierFor`, `Sockets.Tls.Keeper.credentialFor` — what it keeps.

## Main results

* `Sockets.Tls.Keeper.client_withClient` — how clients of one kind verify is of no concern to the
  others.
-/

set_option autoImplicit false

namespace Sockets

namespace Tls

/-! ## Credentials -/

namespace Credential

/-- The certificates in the content of a file; there has to be one. -/
def certificatesIn (library : Library) (path : String) (file : Bytes) :
    Except CredentialError (List Bytes) :=
  match library.certificates file with
  | .error reason => .error (.certificate path reason)
  | .ok [] => .error (.certificate path "no CERTIFICATE section")
  | .ok chain => .ok chain

/-- The key in the content of a file; there has to be one. -/
def keyIn (library : Library) (path : String) (file : Bytes) : Except CredentialError Key :=
  match library.key file with
  | .error reason => .error (.key path reason)
  | .ok none => .error (.key path "no PRIVATE KEY section")
  | .ok (some key) => .ok key

/-- The credential in the content of a file. -/
def ofFile (library : Library) (path : String) (file : Bytes) :
    Except CredentialError Credential := do
  let chain ← certificatesIn library path file
  let key ← keyIn library path file
  pure ⟨chain, key⟩

/-- The content of a file that holds certificates or keys. -/
def read (path : String) : Attempt CredentialError Bytes := do
  match ← (Net.readFile path).run with
  | .ok file => pure file
  | .error f => throw (.inaccessible path f)

/-- The credential in a file. -/
def load (path : String) : Attempt CredentialError Credential := do
  let library := (← Net.setting).encryption
  let file ← read path
  ofFile library path file

end Credential

/-! ## Trust -/

namespace Anchors

/-- What comes of reading files, one after the other. -/
def readAll : List String → Net (List (String × Except Fault Bytes))
  | [] => pure []
  | path :: rest => do
    let file ← (Net.readFile path).run
    let later ← readAll rest
    pure ((path, file) :: later)

/-- Warn about what is wrong with the certificates of the machine. -/
def warnAll : List String → Net Unit
  | [] => pure ()
  | text :: rest => do
    Net.record .warn ("native certificate store: " ++ text)
    warnAll rest

/-- What is trusted of those among some certificates of which anything can be. -/
def parsable (library : Library) (certificates : List Bytes) : List Anchor :=
  certificates.filterMap fun der => (library.anchor der).toOption

/-- What is trusted of the machine. -/
def machine : Net (List Anchor) := do
  let s ← Net.setting
  let files ← readAll s.nativeStores
  let (certificates, faults) := s.encryption.native files
  warnAll faults
  let anchors := parsable s.encryption certificates
  Net.record .debug ("native roots: " ++ toString anchors.length ++ " added, " ++
    toString (certificates.length - anchors.length) ++ " ignored")
  pure anchors

/-- What is trusted of certificates, of each of which something has to be. -/
def ofCertificates (library : Library) : List Bytes → Except TlsError (List Anchor)
  | [] => .ok []
  | der :: rest =>
    match library.anchor der with
    | .error f => .error (.config f)
    | .ok anchor => (ofCertificates library rest).map (anchor :: ·)

/-- What is trusted of a further file. -/
def further (path : String) : Attempt TlsError (List Anchor) := do
  let library := (← Net.setting).encryption
  let file ← ExceptT.adapt TlsError.credential (Credential.read path)
  let certificates ← match Credential.certificatesIn library path file with
    | .ok certificates => pure certificates
    | .error e => throw (.credential e)
  ofCertificates library certificates

/-- What is trusted of further files, in order; the first that is bad stops it. -/
def furtherAll : List String → Attempt TlsError (List Anchor)
  | [] => pure []
  | path :: rest => do
    let here ← further path
    let later ← furtherAll rest
    pure (here ++ later)

/-- What strict clients trust: what is trusted everywhere comes first. -/
def all (config : TlsConfig) : Attempt TlsError (List Anchor) := do
  let library := (← Net.setting).encryption
  let installed ← if config.nativeRoots then machine else pure []
  let further ← furtherAll config.extraRoots
  pure (library.publicAnchors ++ installed ++ further)

end Anchors

/-! ## What a provider builds and keeps -/

/-- The versions of the protocol have to be there. -/
def requireVersions : Attempt TlsError Unit := do
  match (← Net.setting).encryption.versions with
  | .ok () => pure ()
  | .error f => throw (.config f)

/-- A credential with which a server can work: the versions of the protocol have to be there, and
the key has to go with the certificates. -/
def Credential.approve (library : Library) (path : String) (credential : Credential) :
    Attempt TlsError Credential := do
  requireVersions
  match library.certify credential with
  | .error f =>
    if f.isInconsistent then
      Net.refuse .error ("server credential " ++ path ++ ": key does not match")
        (.credential (.mismatch path f))
    else throw (.config f)
  | .ok () =>
    Net.record .info ("TLS server credential loaded from " ++ path)
    pure credential

namespace Keeper

/-- How clients of a provider verify. -/
def buildClient (k : Keeper) (strict : Bool) : Attempt TlsError Verifier := do
  requireVersions
  if strict then
    let anchors ← Anchors.all k.config
    pure (.trusting anchors)
  else pure .acceptAny

/-- How clients of a provider verify, and the provider that keeps it. -/
def verifierFor (k : Keeper) (strict : Bool) : Attempt TlsError (Verifier × Keeper) :=
  match k.client strict with
  | some verifier => pure (verifier, k)
  | none => do
    let verifier ← k.buildClient strict
    pure (verifier, k.withClient strict verifier)

/-- What servers of a provider show, from the file with the credential. -/
def buildServer (k : Keeper) : Attempt TlsError Credential := do
  let s ← Net.setting
  let path := k.config.credentialFile s.credentialVariable
  match ← (Credential.load path).run with
  | .error e => Net.refuse .error ("server credential: " ++ e.message) (.credential e)
  | .ok credential => Credential.approve s.encryption path credential

/-- What servers of a provider show, and the provider that keeps it. -/
def credentialFor (k : Keeper) : Attempt TlsError (Credential × Keeper) :=
  match k.server with
  | some credential => pure (credential, k)
  | none => do
    let credential ← k.buildServer
    pure (credential, { k with server := some credential })

/-- How clients of one kind verify is of no concern to the others. -/
theorem client_withClient (k : Keeper) (strict other : Bool) (v : Verifier) :
    (k.withClient strict v).client other = if other = strict then some v else k.client other := by
  cases strict <;> cases other <;> rfl

end Keeper

end Tls

end Sockets
