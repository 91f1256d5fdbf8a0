import Sockets.Config
import Sockets.Tls.Library

/-!
# Providers of sessions

A provider negotiates sessions, as the client or the server of a connection. The library has one
of its own, which keeps what it built: how lax and strict clients verify their servers, and the
credential of servers. Any other provider is a list of answers.

## Main definitions

* `Sockets.Tls.Verifier` — how a client verifies the certificates of a server.
* `Sockets.Tls.Keeper` — the state of the library's own provider.
* `Sockets.Tls.Provider` — a provider.
-/

set_option autoImplicit false

namespace Sockets

namespace Tls

/-- How a client verifies the certificates of a server. -/
inductive Verifier where
  /-- Any certificates are accepted. -/
  | acceptAny
  /-- The certificates have to be those of the server, for someone with this trust. -/
  | trusting (anchors : List Anchor)
  deriving DecidableEq, Repr, Inhabited

/-- The state of the library's own provider: its settings, and what it built from them. -/
structure Keeper where
  config : TlsConfig := {}
  /-- How lax clients verify, once that was built. -/
  lax : Option Verifier := none
  /-- How strict clients verify, once that was built. -/
  strict : Option Verifier := none
  /-- What servers show, once that was built. -/
  server : Option Credential := none
  deriving DecidableEq, Repr, Inhabited

namespace Keeper

/-- How clients verify, once that was built. -/
def client (k : Keeper) (strict : Bool) : Option Verifier := if strict then k.strict else k.lax

/-- A provider that keeps how clients verify. -/
def withClient (k : Keeper) (strict : Bool) (v : Verifier) : Keeper :=
  if strict then { k with strict := some v } else { k with lax := some v }

end Keeper

/-- A provider of sessions. -/
inductive Provider where
  /-- The library's own. -/
  | own (keeper : Keeper)
  /-- One that gives these answers in order. -/
  | scripted (answers : List (Except TlsError Session))
  deriving Inhabited

end Tls

end Sockets
