import Sockets.Engine.Library
import Sockets.Tls.Store

/-!
# Two providers facing each other

When a client and a server of the library face each other over one connection, the handshake
depends only on what each has got ready: the server's credential, how the client verifies, and the
name it expects. Once it has succeeded, data goes both ways unchanged, and
the next connection of the two goes on from the keys of this one, without a look at certificates.

## Main definitions

* `Sockets.Engine.Exchange.Plan` — what the two sides are to do.
* `Sockets.Engine.Exchange.verdict` — whether the client accepts the server, or what each side says.
* `Sockets.Engine.Exchange.Shipment` — how a server sends its certificates.
* `Sockets.Engine.Exchange.round` — one connection from beginning to end.
* `Sockets.Engine.Exchange.rounds` — some connections, one after the other.
-/

set_option autoImplicit false

namespace Sockets

open Crypto Tls

namespace Engine

namespace Exchange

/-- What the two sides are to do. -/
structure Plan where
  host : String
  strict : Bool
  /-- What the client writes, piece by piece; the server answers each with the octets in reverse
  order. -/
  pieces : List Bytes
  /-- Whether the server is gone before the client shuts its session down. -/
  serverLeaves : Bool
  /-- Whether the server is one that only speaks the older version, and not the library's own. -/
  olderServer : Bool

/-- What the client has seen: the counts of its writes and the answer to each piece, and how
shutting down ended. -/
structure ClientReport where
  answers : List (List Nat × Bytes)
  shutdown : Except TlsError Unit

/-- What the server has seen, in reverse order of the octets. -/
structure ServerReport where
  pieces : List Bytes

/-- How a connection went for both sides. -/
structure Outcome where
  client : Except TlsError ClientReport
  server : Except TlsError ServerReport

/-! ## Handshake -/

/-- The fault that one side sees when the other has gone away. -/
def goneAway : TlsError := .handshake (.plain .unexpectedEof)

/-- The octets of a signature with a key; over a curve it is as long as such signatures mostly
are. -/
def signatureLength (k : SigningKey) : Nat :=
  match k.algorithm with
  | .ed25519 => 64
  | .ecdsa => if k.schemes = [Scheme.p256] then 71 else 103
  | .rsa =>
    match SignatureAlgorithm.pairOf k.info.key with
    | .ok (modulus, _) => (Rsa.bitLength modulus + 7) / 8
    | .error _ => 0

/-- How a server sends its certificates. -/
structure Shipment where
  /-- The octets of the messages in front of the certificates. -/
  before : Nat
  /-- The octets that count as the message with the certificates. -/
  certificates : Nat
  /-- The octets of the messages behind the certificates. -/
  behind : Nat
  /-- The octets that each record adds to those of the messages. -/
  front : Nat
  deriving DecidableEq, Repr

namespace Shipment

/-- How a server sends its certificates to a client that means a name. -/
def ofIdentity (older : Bool) (name : ServerName) (i : Identity) : Shipment :=
  let confirmed := match name with
    | .dns _ => 4
    | .ip _ => 0
  let signed := signatureLength i.key + 4
  if older then
    { before := 85 + confirmed
      certificates := i.chain.foldl (fun n c => n + (3 + c.length)) 3
      behind := 44 + signed
      front := 5 }
  else
    { before := 6 + confirmed
      certificates := i.chain.foldl (fun n c => n + (3 + c.length + 2)) 4
      behind := 56 + signed
      front := 22 }

/-- The most octets of messages in one record. -/
def recordLimit : Nat := 16384

/-- The octets that have come in by the time the message with the certificates is complete. -/
def needed (s : Shipment) : Nat :=
  let message := s.before + (Inbound.frontLength + s.certificates)
  let records := (message + (recordLimit - 1)) / recordLimit
  min (message + s.behind) (records * recordLimit) + records * s.front

/-- What a client holds against certificates that it has no room for. -/
def fault? (s : Shipment) : Option Fault :=
  if Inbound.messageLimit < s.certificates then some (Objection.corrupt .messageTooLarge).toFault
  else if Handshake.roomLimit true < s.needed then some Handshake.full
  else none

end Shipment

/-- Whether the client accepts the server at a time, or what each side says; the server hears the
reason that the client gives. -/
def verdict (verifier : Verifier) (name : ServerName) (i : Identity) (now : Nat) :
    Except (Objection × Objection) Unit :=
  match verifier with
  | .acceptAny => .ok ()
  | .trusting anchors =>
    match Anchors.check anchors name i.chain (.ofClock now) with
    | .ok () => .ok ()
    | .error fault => .error (.certificate fault, .alert fault.reply)

/-! ## Data -/

/-- The most octets that one write takes. -/
def writeLimit : Nat := 65536

/-- The counts of the writes that a piece takes; an empty piece takes one. -/
def writeCounts (n : Nat) : List Nat :=
  if n ≤ writeLimit then [n] else writeLimit :: writeCounts (n - writeLimit)
termination_by n
decreasing_by
  rename_i h
  simp only [writeLimit] at h ⊢
  omega

/-- How shutting the client's session down ends. -/
def clientShutdown (p : Plan) : Except TlsError Unit :=
  if p.serverLeaves then .error (.record (.os 32)) else .ok ()

/-- The reports of both sides after a handshake that succeeded. -/
def reports (p : Plan) : Outcome :=
  let reversed := p.pieces.map List.reverse
  ⟨.ok ⟨p.pieces.map fun piece => (writeCounts piece.length, piece.reverse), clientShutdown p⟩,
    .ok ⟨reversed⟩⟩

/-! ## Connections -/

/-- What comes of a credential with which a server cannot work. -/
def unfit (path : String) (f : Objection) : TlsError :=
  if f = .inconsistentKeys then .credential (.mismatch path f.toTls) else .config f.toTls

/-- What the server shows; an older one is no provider and keeps and records nothing. -/
def serverIdentity (p : Plan) (server : Keeper) : Attempt TlsError (Identity × Keeper) := do
  let path := server.config.credentialFile (← Net.setting).credentialVariable
  let (credential, server) ←
    if p.olderServer then do
      let credential ← ExceptT.adapt TlsError.credential (Credential.load path)
      pure (credential, server)
    else server.credentialFor
  match Identity.ofCredential credential with
  | .ok identity => pure (identity, server)
  | .error f => throw (unfit path f)

/-- What the client needs: how it verifies, and the name it expects. -/
def clientNeeds (p : Plan) (client : Keeper) :
    Attempt TlsError ((Verifier × ServerName) × Keeper) := do
  let (verifier, client) ← client.verifierFor p.strict
  match ServerName.ofHost HostName.name? p.host p.strict with
  | some name => pure ((verifier, name), client)
  | none => throw (.invalidServerName p.host)

/-- Record what the two sides record of a handshake that succeeded. -/
def recordSuccess (p : Plan) : Net Unit := do
  Net.record .debug ("TLS client session established with " ++ p.host)
  if p.olderServer then pure ()
  else Net.record .debug "TLS server session established"

/-- What comes of a handshake that succeeded. -/
def succeed (p : Plan) : Net Outcome := do
  recordSuccess p
  pure (reports p)

/-- The first handshake of two sides that are ready, and what follows. -/
def meetFirst (p : Plan) (verifier : Verifier) (name : ServerName) (i : Identity) :
    Net Outcome := do
  if verifier = .acceptAny then
    Net.record .verbose ("accepting unverified certificate for " ++ name.description)
  match verdict verifier name i (← Net.now) with
  | .error (own, other) =>
    pure ⟨.error (.handshake own.toFault), .error (.handshake other.toFault)⟩
  | .ok () => succeed p

/-- The handshake of two sides that are ready, and what follows; they may be `acquainted` by keys
that they go on from. A client that has no room for the certificates goes away without a word. -/
def meet (p : Plan) (acquainted : Bool) (verifier : Verifier) (name : ServerName)
    (i : Identity) : Net Outcome :=
  if acquainted then succeed p
  else match (Shipment.ofIdentity p.olderServer name i).fault? with
    | none => meetFirst p verifier name i
    | some fault => pure ⟨.error (.handshake fault), .error goneAway⟩

/-- Whether two sides are acquainted behind a connection. An older server has forgotten everything
by the time of the next one. -/
def acquaints (p : Plan) (o : Outcome) : Bool :=
  !p.olderServer && match o.client with
    | .ok _ => true
    | .error _ => false

/-- One connection from beginning to end, and what the two providers keep. -/
def round (p : Plan) (acquainted : Bool) (client server : Keeper) :
    Net (Outcome × Keeper × Keeper) := do
  let ready ← (serverIdentity p server).run
  let needs ← (clientNeeds p client).run
  match ready, needs with
  | .ok (i, server), .ok ((verifier, name), client) =>
    let outcome ← meet p acquainted verifier name i
    pure (outcome, client, server)
  | .error e, .ok (_, client) => pure (⟨.error goneAway, .error e⟩, client, server)
  | .ok (_, server), .error e => pure (⟨.error e, .error goneAway⟩, client, server)
  | .error f, .error e => pure (⟨.error e, .error f⟩, client, server)

/-- Some connections, one after the other, of two sides that may be acquainted. -/
def roundsFrom (p : Plan) (acquainted : Bool) (client server : Keeper) :
    Nat → Net (List Outcome)
  | 0 => pure []
  | n + 1 => do
    let (outcome, client, server) ← round p acquainted client server
    let later ← roundsFrom p (acquaints p outcome) client server n
    pure (outcome :: later)

/-- Some connections, one after the other. -/
def rounds (p : Plan) (client server : Keeper) (count : Nat) : Net (List Outcome) :=
  roundsFrom p false client server count

end Exchange

end Engine

end Sockets
