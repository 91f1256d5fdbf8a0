import Sockets.Engine.AltName
import Sockets.Engine.DnsPattern
import Sockets.Engine.Search

/-!
# Limits on names

An authority may be limited: to certificates with names within what is permitted, and without
names within what is excluded. A limit only concerns names of its own kind.

## Main definitions

* `Sockets.Engine.NameConstraint.judge?` — whether a name lies within a limit of its kind.
* `Sockets.Engine.NameConstraint.Limits` — what is permitted and what is excluded.
* `Sockets.Engine.NameConstraint.Limits.check` — what is wrong with a name under limits.
-/

set_option autoImplicit false

namespace Sockets

namespace Engine

namespace NameConstraint

/-! ## Single limits -/

/-- Whether an octet is a row of set bits in front of a row of others. -/
def isMaskOctet (b : UInt8) : Bool := [0, 128, 192, 224, 240, 248, 252, 254, 255].contains b

/-- Whether an address lies in a network, octet by octet; `ended` says that the mask has ended. -/
def inNetwork (ended : Bool) : List (UInt8 × UInt8 × UInt8) → Except CertificateFault Bool
  | [] => .ok true
  | (octet, network, mask) :: rest =>
    if !isMaskOctet mask || (ended && mask != 0) then .error (.flaw .invalidNetworkMask)
    else if (octet ^^^ network) &&& mask ≠ 0 then .ok false
    else inNetwork (mask != 0xFF) rest

/-- Whether an address lies in a network, which is given by an address and a mask. -/
def judgeAddress (address network : Bytes) : Except CertificateFault Bool :=
  let size := address.length
  if size ≠ 4 ∧ size ≠ 16 then .error .badEncoding
  else if network.length = 2 * size then
    inNetwork false (address.zip ((network.take size).zip (network.drop size)))
  else if network.length = 8 ∨ network.length = 32 then .ok false
  else .error (.flaw .invalidNetworkMask)

/-- Whether a host name lies within a limit. -/
def judgeHost (name limit : Bytes) : Except CertificateFault Bool :=
  let pattern := DnsPattern.chars name
  let limit := DnsPattern.chars limit
  if DnsPattern.isPattern pattern = false then .error (.flaw .malformedName)
  else if DnsPattern.isLimit limit = false then .error (.flaw .malformedNameConstraint)
  else .ok (DnsPattern.within pattern limit)

/-- Whether a name lies within a limit of its kind; there is no answer for a limit of another kind.
Names that are not looked into are taken to lie outside of what is permitted and within what is
excluded. -/
def judge? (excluded : Bool) : AltName → AltName → Option (Except CertificateFault Bool)
  | .dns name, .dns limit => some (judgeHost name limit)
  | .directory, .directory => some (.ok excluded)
  | .ip address, .ip network => some (judgeAddress address network)
  | .uri _, .uri _ => some (.ok excluded)
  | .unsupported kind, .unsupported other =>
    if kind = other then some (.error (.flaw .nameConstraintViolated)) else none
  | _, _ => none

/-! ## Lists of limits -/

/-- Read a limit: a name in a sequence. -/
def readOne : Der.Reading CertificateFault AltName := do
  let bs ← Der.content .badEncoding Der.sequenceTag
  (fun outer => (Der.whole .badEncoding bs AltName.read).map fun name => (name, outer) :
    Der.Reading CertificateFault AltName)

/-- What is wrong with a name under what is permitted or excluded, of which there are at most `fuel`
limits; `fits` and `misses` say what the limits before have given. -/
def checkWithin (excluded : Bool) (name : AltName) (fits misses : Bool) :
    Nat → Bytes → Search Unit
  | 0, _ => pure ()
  | fuel + 1, bs =>
    if bs = [] then
      if misses && !fits then throw (.flaw .nameConstraintViolated) else pure ()
    else do
      Search.spendComparison
      match readOne.run bs with
      | .error f => throw f
      | .ok (limit, rest) =>
        match judge? excluded name limit with
        | none => checkWithin excluded name fits misses fuel rest
        | some (.error f) => throw f
        | some (.ok inside) =>
          if excluded then
            if inside then throw (.flaw .nameConstraintViolated)
            else checkWithin excluded name fits misses fuel rest
          else checkWithin excluded name (fits || inside) (misses || !inside) fuel rest

/-- What is permitted and what is excluded. -/
structure Limits where
  permitted : Option Bytes
  excluded : Option Bytes
  deriving DecidableEq, Repr, Inhabited

namespace Limits

/-- Read limits that may be left out. -/
def readPart (tag : UInt8) : Der.Reading CertificateFault (Option Bytes) := do
  if ← Der.isNext tag then some <$> Der.content .badEncoding tag else pure none

/-- Read what is permitted and what is excluded. -/
def read : Der.Reading CertificateFault Limits := do
  let permitted ← readPart (Der.partTag 0)
  let excluded ← readPart (Der.partTag 1)
  pure ⟨permitted, excluded⟩

/-- What is wrong with a name under one of two lists of limits. -/
def checkPart (excluded : Bool) (name : AltName) : Option Bytes → Search Unit
  | none => pure ()
  | some bs => checkWithin excluded name false false (bs.length + 1) bs

/-- What is wrong with a name under limits. -/
def check (l : Limits) (name : AltName) : Search Unit := do
  checkPart false name l.permitted
  checkPart true name l.excluded

/-- What is wrong with names under limits, in order. -/
def checkAll (l : Limits) : List AltName → Search Unit
  | [] => pure ()
  | name :: rest => do
    l.check name
    checkAll l rest

end Limits

end NameConstraint

end Engine

end Sockets
