import Sockets.Engine.CertificateFault

/-!
# Searching for trust

To look for a way from a certificate to a trusted one can take long, so a search may only do some
things so many times. What it has done counts even where it led nowhere.

## Main definitions

* `Sockets.Engine.Budget` — how often a search may still do what takes long.
* `Sockets.Engine.Search` — a computation within a budget.
* `Sockets.Engine.Search.firstOf` — try values in order, until one leads somewhere.
-/

set_option autoImplicit false

namespace Sockets

namespace Engine

/-- How often a search may still do what takes long. -/
structure Budget where
  signatures : Nat := 100
  paths : Nat := 200000
  comparisons : Nat := 250000
  deriving DecidableEq, Repr, Inhabited

/-- A computation within a budget. -/
abbrev Search := ExceptT CertificateFault (StateM Budget)

namespace Search

/-- Use up one of the signatures that may be looked at. -/
def spendSignature : Search Unit := do
  let b ← get
  if b.signatures = 0 then throw (.flaw .tooManySignatures)
  else set { b with signatures := b.signatures - 1 }

/-- Use up one of the paths that may be gone. -/
def spendPath : Search Unit := do
  let b ← get
  if b.paths = 0 then throw (.flaw .tooManyPaths)
  else set { b with paths := b.paths - 1 }

/-- Use up one of the limits on names that may be looked at. -/
def spendComparison : Search Unit := do
  let b ← get
  if b.comparisons = 0 then throw (.flaw .tooManyComparisons)
  else set { b with comparisons := b.comparisons - 1 }

/-- Go on with what was found, or give up. -/
def ofExcept {α : Type} : Except CertificateFault α → Search α
  | .ok a => pure a
  | .error f => throw f

/-- Try something else where a search led nowhere, unless its fault ends the search. -/
def orElse (s : Search Unit) (next : CertificateFault → Search Unit) : Search Unit :=
  ExceptT.mk do
    match ← s.run with
    | .ok () => pure (.ok ())
    | .error f => if f.endsSearch then pure (.error f) else (next f).run

/-- Try values in order until one leads somewhere. If none does, the most specific fault counts,
that from before among them. -/
def firstOf {α : Type} (step : α → Search Unit) (fault : CertificateFault) :
    List α → Search Unit
  | [] => throw fault
  | a :: others => orElse (step a) fun f => firstOf step (fault.moreSpecific f) others

/-- The outcome of a search with a fresh budget. -/
def outcome (s : Search Unit) : Except CertificateFault Unit := ((ExceptT.run s).run {}).1

end Search

end Engine

end Sockets
