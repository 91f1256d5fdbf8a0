import Sockets.Tls.Store

/-!
# Negotiating sessions

The provider of a context is asked for a session on a descriptor, as a client or as a server. The
library's own provider first gets ready what it needs, then settles the name of the server, and
only then lets the encryption library talk on the descriptor.

## Main definitions

* `Sockets.Tls.Verifier.ask` — the verdict of a client on the certificates of a server.
* `Sockets.Tls.Talk.run` — a talk on a descriptor.
* `Sockets.Net.negotiateClient`, `Sockets.Net.negotiateServer` — a session from the provider of a
  context.
-/

set_option autoImplicit false

namespace Sockets

/-! ## Talks -/

namespace Tls

/-- The verdict of a client that means a server on the certificates that this has sent. -/
def Verifier.ask (name : ServerName) (chain : List Bytes) :
    Verifier → Net (Except TlsFault Unit)
  | acceptAny => do
    Net.record .verbose ("accepting unverified certificate for " ++ name.description)
    pure (.ok ())
  | trusting anchors => do
    let library := (← Net.setting).encryption
    let now ← Net.now
    pure (library.verify anchors name chain now)

/-- A talk on a descriptor; `ask` gives the verdict on certificates. -/
def Talk.run (fd : Descriptor) (ask : List Bytes → Net (Except TlsFault Unit)) :
    Talk → Net (Except Fault Session)
  | ended result => pure result
  | send octets next => do
    let answer ← Net.syscall (.sendmsg fd octets .empty [])
    (next answer).run fd ask
  | receive length next => do
    let answer ← Net.syscall (.recv fd length .empty)
    (next answer).run fd ask
  | verify chain next => do
    let verdict ← ask chain
    (next verdict).run fd ask

end Tls

namespace Net

/-! ## Providers that are lists of answers -/

/-- The world with the provider of a context put in place. -/
def keepProvider (scope : Scope) (p : Tls.Provider) : Net Unit :=
  modify fun w => w.withContext scope { w.context scope with provider := p }

/-- The next answer of a provider that is a list of answers. -/
def takeSession (scope : Scope) (answers : List (Except TlsError Tls.Session)) :
    Net (Except TlsError Tls.Session) := do
  match answers with
  | [] => pure (.ok {})
  | answer :: rest => do
    keepProvider scope (.scripted rest)
    pure answer

/-- The next answer of a provider that is a list of answers, as an event on a descriptor. -/
def takeJournalled (scope : Scope) (fd : Descriptor) (c : TlsCall)
    (answers : List (Except TlsError Tls.Session)) : Net (Except TlsError Tls.Session) := do
  let answer ← takeSession scope answers
  note (.tls fd c (.ofSession answer))
  pure answer

/-! ## The library's own provider -/

/-- Let the encryption library talk on a descriptor, for a session that is recorded. -/
def establish (fd : Descriptor) (c : TlsCall) (ask : List Bytes → Net (Except TlsFault Unit))
    (message : String) (talk : Except TlsFault Tls.Talk) : Attempt TlsError Tls.Session := do
  match talk with
  | .error f => throw (.config f)
  | .ok talk =>
    match ← talk.run fd ask with
    | .error f => throw (.handshake f)
    | .ok session =>
      note (.tls fd c (.secured session))
      record .debug message
      pure session

/-- A client's session from the library's own provider, once this has what it needs. -/
def establishClient (fd : Descriptor) (host : String) (strict : Bool) (verifier : Tls.Verifier) :
    Attempt TlsError Tls.Session := do
  let library := (← setting).encryption
  match Tls.ServerName.ofHost library.name? host strict with
  | none => throw (.invalidServerName host)
  | some name =>
    let number ← numberConnection
    establish fd (.client host strict) (fun chain => verifier.ask name chain)
      ("TLS client session established with " ++ host) (library.client number name)

/-- A server's session from the library's own provider, once this has what it needs. It asks its
clients for no certificates, so there is nothing to verify. -/
def establishServer (fd : Descriptor) (credential : Tls.Credential) :
    Attempt TlsError Tls.Session := do
  let library := (← setting).encryption
  let number ← numberConnection
  establish fd .server (fun _ => pure (.ok ())) "TLS server session established"
    (library.server number credential)

/-! ## Negotiations -/

/-- A client's session from the provider of a context. -/
def negotiateClient (scope : Scope) (fd : Descriptor) (host : String) (strict : Bool) :
    Attempt TlsError Tls.Session := do
  let c ← context scope
  match c.provider with
  | .scripted answers => ExceptT.mk (takeJournalled scope fd (.client host strict) answers)
  | .own keeper =>
    let (verifier, keeper) ← keeper.verifierFor strict
    keepProvider scope (.own keeper)
    establishClient fd host strict verifier

/-- A server's session from the provider of a context. -/
def negotiateServer (scope : Scope) (fd : Descriptor) : Attempt TlsError Tls.Session := do
  let c ← context scope
  match c.provider with
  | .scripted answers => ExceptT.mk (takeJournalled scope fd .server answers)
  | .own keeper =>
    let (credential, keeper) ← keeper.credentialFor
    keepProvider scope (.own keeper)
    establishServer fd credential

end Net

end Sockets
