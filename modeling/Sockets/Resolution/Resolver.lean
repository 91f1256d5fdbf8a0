import Sockets.Resolution.System

/-!
# Asking a resolver

A query goes to the resolver of a context. A resolver that is a list of answers is journalled.

## Main definitions

* `Sockets.Resolver.take` — what a list of answers gives next.
* `Sockets.Net.resolve` — the candidates of a query under a context.
-/

set_option autoImplicit false

namespace Sockets

/-- What a list of answers gives next, and what is left of it. -/
def Resolver.take (answers : List (Except ResolveError (List Candidate))) :
    Except ResolveError (List Candidate) × List (Except ResolveError (List Candidate)) :=
  match answers with
  | [] => (.error (.noName "script ended"), [])
  | answer :: rest => (answer, rest)

namespace Net

/-- The next answer of the resolver of a context that is a list of answers. -/
def takeAnswer (scope : Scope) (answers : List (Except ResolveError (List Candidate))) :
    Net (Except ResolveError (List Candidate)) := do
  let (answer, rest) := Resolver.take answers
  modify fun w => w.withContext scope { w.context scope with resolver := .scripted rest }
  pure answer

/-- The candidates of a query under a context. -/
def resolve (scope : Scope) (q : Query) : Attempt ResolveError (List Candidate) := do
  let c ← Net.context scope
  match c.resolver with
  | .system => System.resolve q
  | .scripted answers =>
    Net.note (.query q)
    ExceptT.mk (takeAnswer scope answers)

end Net

end Sockets
