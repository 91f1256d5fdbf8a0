import Sockets.Engine.NameConstraint
import Sockets.Engine.SignatureAlgorithm
import Sockets.Engine.Validity

/-!
# Paths to trusted certificates

A certificate is trusted if signatures lead from it to a trusted key, through certificates of
authorities that the other side has sent along. Everything on the way has to be valid, to be for
serving, and to lie within the limits that authorities have on names.

## Main definitions

* `Sockets.Engine.Path.checkOne` — what is wrong with a certificate wherever the path leads.
* `Sockets.Engine.Path.climb` — look for a path.
* `Sockets.Engine.Path.check` — what is wrong with certificates that a server sent.
* `Sockets.Engine.Path.checkName` — what is wrong with a certificate for a server of a name.
-/

set_option autoImplicit false

namespace Sockets

open Tls

namespace Engine

namespace Path

/-! ## Single certificates -/

/-- What is wrong with the extension that says whether a certificate is an authority; `below` is
the count of authorities below it, if it stands for one. -/
def checkAuthority (below : Option Nat) (content : Option Bytes) :
    Except CertificateFault Unit :=
  match content with
  | none => if below.isSome then .error (.flaw .serverAsAuthority) else .ok ()
  | some bs => Der.whole .badEncoding bs do
    let authority ← Der.truth .notWhole .badEncoding
    let limit ← if ← Der.atEnd then pure none else some <$> Der.octet .badEncoding
    match below, authority with
    | none, true => Der.give (.flaw .authorityAsServer)
    | none, false => pure ()
    | some _, false => Der.give (.flaw .serverAsAuthority)
    | some count, true =>
      match limit with
      | some most => if most < count then Der.give (.flaw .pathLengthViolated)
      | none => pure ()

/-- The purpose of serving. -/
def serving : Bytes := [0x2b, 0x06, 0x01, 0x05, 0x05, 0x07, 0x03, 0x01]

/-- The purpose of being a client. -/
def asking : Bytes := [0x2b, 0x06, 0x01, 0x05, 0x05, 0x07, 0x03, 0x02]

/-- The numbers of an identifier behind the first two; a number that does not fit into 64 bits
loses its upper ones. -/
def numbersOf (value : Nat) : Bytes → List Nat
  | [] => []
  | b :: rest =>
    let value := (value * 256 + b.toNat % 128) % 2 ^ 64
    if 128 ≤ b.toNat then numbersOf value rest else value :: numbersOf 0 rest

/-- The numbers of an identifier, the first two of which are written as one. -/
def identifierNumbers (bs : Bytes) : List Nat :=
  match numbersOf 0 bs with
  | [] => []
  | n :: rest =>
    if n < 40 then 0 :: n :: rest
    else if n < 80 then 1 :: (n - 40) :: rest
    else 2 :: (n - 80) :: rest

/-- The text of a purpose. -/
def purposeText (bs : Bytes) : String :=
  if bs = serving then "server authentication"
  else if bs = asking then "client authentication"
  else String.intercalate ", " ((identifierNumbers bs).map toString)

/-- What is wrong with purposes, of which there are at most `fuel`; `others` stand before them. -/
def checkPurposesWithin (others : List Bytes) : Nat → Der.Reading CertificateFault Unit
  | 0 => pure ()
  | fuel + 1 => do
    if ← Der.atEnd then
      if others = [] then Der.give (.flaw .noPurpose)
      else Der.give (.wrongPurpose (others.map purposeText))
    else
      let purpose ← Der.content .badEncoding Der.identifierTag
      if purpose = serving then pure () else checkPurposesWithin (others ++ [purpose]) fuel

/-- What is wrong with the extension that says what a certificate is for. -/
def checkPurposes (content : Option Bytes) : Except CertificateFault Unit :=
  match content with
  | none => .ok ()
  | some bs => ((checkPurposesWithin [] (bs.length + 1)).run bs).map fun _ => ()

/-- What is wrong with a certificate wherever the path leads; `below` is the count of authorities
below it, if it stands for one. -/
def checkOne (now : Time) (below : Option Nat) (c : Certificate) :
    Except CertificateFault Unit := do
  Validity.checkContent c.validity now
  checkAuthority below c.authority?
  checkPurposes c.purposes?

/-! ## Signatures and limits -/

/-- What is wrong with the signatures of certificates, each by the key of the one before and the
first by that of an anchor. -/
def checkSignatures (keyInfo : Bytes) : List Certificate → Search Unit
  | [] => pure ()
  | c :: below => do
    Search.spendSignature
    Search.ofExcept (c.checkSignature keyInfo)
    checkSignatures c.keyInfo below

/-- What is wrong with the names of certificates under limits; the subject of each is a name too. -/
def checkNames (l : NameConstraint.Limits) : List Certificate → Search Unit
  | [] => pure ()
  | c :: below => do
    let (names, sound) := c.names
    l.checkAll names
    if sound then l.check .directory else throw .badEncoding
    checkNames l below

/-- What is wrong with the names of certificates under the limits of each, and of an anchor above
the first. -/
def checkLimits (limits : Option Bytes) : List Certificate → Search Unit
  | [] => pure ()
  | c :: below => do
    match limits with
    | none => pure ()
    | some bs =>
      match NameConstraint.Limits.read.run bs with
      | .error f => throw f
      | .ok (l, rest) =>
        checkNames l (c :: below)
        if rest ≠ [] then throw .badEncoding
    checkLimits c.nameConstraints? below

/-! ## Paths -/

/-- The most certificates of authorities that a path may have. -/
def authorityLimit : Nat := 6

/-- What leads to trust: trusted certificates, what a server sent along, and the time. -/
structure Grounds where
  anchors : List Anchor
  /-- What was sent along, as certificates or with what is wrong with them. -/
  others : List (Except CertificateFault Certificate)
  now : Time
  deriving Inhabited

/-- End a path with a trusted certificate. -/
def finish (path : List Certificate) (issuer : Bytes) (a : Anchor) : Search Unit := do
  if issuer ≠ a.subject then throw .unknownIssuer
  else
    checkSignatures a.keyInfo path
    checkLimits a.nameConstraints path

/-- Whether a certificate stands on a path already. -/
def isOn (path : List Certificate) (c : Certificate) : Bool :=
  path.any fun other => other.keyInfo == c.keyInfo && other.subject == c.subject

/-- The count of authorities below the head of a path, if that has to be one itself. -/
def authoritiesBelow : List Certificate → Option Nat
  | [] => none
  | below => some (below.length - 1)

/-- The certificate of the issuer of the head of a path, if what was sent along is one that is not
on the path yet. -/
def issuerOf (head : Certificate) (below : List Certificate)
    (sent : Except CertificateFault Certificate) : Search Certificate := do
  let issuer ← Search.ofExcept sent
  if issuer.subject ≠ head.issuer ∨ isOn (head :: below) issuer then throw .unknownIssuer
  else
    Search.spendPath
    pure issuer

/-- Look for a path that ends at the head of certificates, or else goes on with its issuer. -/
def reach (g : Grounds) (head : Certificate) (below : List Certificate)
    (further : Certificate → Search Unit) : Search Unit := do
  Search.ofExcept (checkOne g.now (authoritiesBelow below) head)
  Search.orElse (Search.firstOf (finish (head :: below) head.issuer) .unknownIssuer g.anchors)
    fun f => Search.firstOf (fun sent => issuerOf head below sent >>= further) f g.others

/-- Look for a path on which up to `left` certificates of authorities follow. -/
def climb (g : Grounds) : Nat → Certificate → List Certificate → Search Unit
  | 0, head, below => reach g head below fun _ => throw (.flaw .pathTooDeep)
  | left + 1, head, below => reach g head below fun issuer => climb g left issuer (head :: below)

/-- What is wrong with certificates that a server sent, its own first. -/
def check (anchors : List Anchor) (own : Certificate) (others : List Bytes) (now : Time) :
    Except CertificateFault Unit :=
  Search.outcome (climb ⟨anchors, others.map Certificate.ofDer, now⟩ authorityLimit own [])

/-! ## Names -/

/-- Whether a name in a certificate is that of a server. -/
def isName (name : ServerName) (a : AltName) : Bool :=
  match name, a with
  | .dns host, .dns bs =>
    let pattern := DnsPattern.chars bs
    DnsPattern.isPattern pattern && DnsPattern.covers pattern host.toList
  | .ip (.v4 a), .ip octets => octets == a.octets
  | .ip (.v6 a), .ip octets => octets == a.octets
  | _, _ => false

/-- What is wrong with a certificate for a server of a name. -/
def checkName (name : ServerName) (c : Certificate) : Except CertificateFault Unit :=
  let (names, sound) := c.names
  if names.any (isName name) then .ok ()
  else if sound then .error (.wrongName name.text c.nameTexts)
  else .error .badEncoding

end Path

end Engine

end Sockets
