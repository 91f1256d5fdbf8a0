import Sockets.Resolution.Query
import Sockets.Tls.Provider

/-!
# Contexts

A context brings together the settings, the resolver and the provider of sessions that opening a
socket works with.

## Main definitions

* `Sockets.Resolver` — a resolver: the one of the system, or a list of answers.
* `Sockets.Context` — a context.
* `Sockets.Scope` — which of two contexts an operation uses.
-/

set_option autoImplicit false

namespace Sockets

/-- A resolver. -/
inductive Resolver where
  /-- Literals, the services database and the name service of the system. -/
  | system
  /-- One that gives these answers in order. -/
  | scripted (answers : List (Except ResolveError (List Candidate)))
  deriving Inhabited

/-- The settings, the resolver and the provider of sessions. -/
structure Context where
  config : Config := {}
  resolver : Resolver := .system
  provider : Tls.Provider := .own {}
  deriving Inhabited

namespace Context

/-- The context of settings, with the resolver of the system and the library's own provider. -/
def ofConfig (config : Config) : Context :=
  { config := config, resolver := .system, provider := .own { config := config.tls } }

/-- The description of a context, its collaborators described by their names. -/
def description (c : Context) (resolver provider : String) : String :=
  Text.Description.record "SockContext" [
    ("config", c.config.description), ("resolver", resolver), ("tls", provider)]

end Context

/-- Which context an operation uses. -/
inductive Scope where
  /-- The one that the application made. -/
  | own
  /-- The one that the whole process shares. -/
  | shared
  deriving DecidableEq, Repr, Inhabited

end Sockets
