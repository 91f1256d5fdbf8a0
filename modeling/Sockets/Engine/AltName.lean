import Sockets.Text.Utf8
import Sockets.Engine.CertificateFault
import Sockets.Engine.Der

/-!
# Names in certificates

The names that a certificate is made out to, and those that an authority is limited to: host
names, addresses, and names of kinds that are only known by their tag.

## Main definitions

* `Sockets.Engine.AltName` — a name, with its `text`.
* `Sockets.Engine.AltName.read` — the reader of a name.
* `Sockets.Engine.AltName.all` — the names in a list, up to the first that is none.
-/

set_option autoImplicit false

namespace Sockets

open Text

namespace Engine

/-- A name in a certificate. -/
inductive AltName where
  | dns (name : Bytes)
  | directory
  | ip (octets : Bytes)
  | uri (text : Bytes)
  /-- A name of another kind. -/
  | unsupported (kind : UInt8)
  deriving DecidableEq, Repr, Inhabited

namespace AltName

/-! ## Texts -/

/-- The groups of an address behind the first. Zero groups are left out, and two colons stand for
them before the next group; behind the last other group nothing stands for them. -/
def laterGroups (skipping : Bool) : Bytes → List Char
  | a :: b :: rest =>
    if a = 0 ∧ b = 0 then laterGroups true rest
    else (if skipping then [':', ':'] else [':']) ++
      (Nat.toDigits 16 (256 * a.toNat + b.toNat) ++ laterGroups false rest)
  | _ => []

/-- The text of an address among the names of a certificate. -/
def addressText (octets : Bytes) : String :=
  match octets with
  | [a, b, c, d] => String.intercalate "." ([a, b, c, d].map fun o => toString o.toNat)
  | a :: b :: rest =>
    if octets.length = 16 then
      String.ofList (Nat.toDigits 16 (256 * a.toNat + b.toNat) ++ laterGroups false rest)
    else invalid
  | _ => invalid
where
  /-- The text of octets that are no address. -/
  invalid : String :=
    "[invalid" ++ (if octets = [] then "" else ": ") ++
      String.intercalate ", " (octets.map fun o => Bytes.hex [o]) ++ "]"

/-- The text of a name. -/
def text : AltName → String
  | dns name => "DnsName(\"" ++ Utf8.lossy name ++ "\")"
  | directory => "DirectoryName"
  | ip octets => "IpAddress(" ++ addressText octets ++ ")"
  | uri text => "UniformResourceIdentifier(\"" ++ Utf8.lossy text ++ "\")"
  | unsupported kind => "Unsupported(0x" ++ Bytes.hex [kind] ++ ")"

/-! ## Reading -/

/-- The name that a value is, if its tag is that of a name. -/
def ofValue? (v : Der.Value) : Option AltName :=
  match v.tag with
  | 0x82 => some (dns v.content)
  | 0xA4 => some directory
  | 0x87 => some (ip v.content)
  | 0x86 => some (uri v.content)
  | 0xA0 => some (unsupported 0)
  | 0x81 => some (unsupported 1)
  | 0xA3 => some (unsupported 3)
  | 0xA5 => some (unsupported 5)
  | 0x88 => some (unsupported 8)
  | _ => none

/-- Read a name. -/
def read : Der.Reading CertificateFault AltName := do
  let v ← Der.next .badEncoding
  match ofValue? v with
  | some name => pure name
  | none => Der.give .badEncoding

/-- The names in a list up to the first that is none, of which there are at most `fuel`, and
whether all are names. -/
def allWithin : Nat → Bytes → List AltName × Bool
  | 0, bs => ([], bs == [])
  | fuel + 1, bs =>
    if bs = [] then ([], true)
    else match read.run bs with
      | .ok (name, rest) =>
        let (names, sound) := allWithin fuel rest
        (name :: names, sound)
      | .error _ => ([], false)

/-- The names in a list up to the first that is none, and whether all are names. -/
def all (bs : Bytes) : List AltName × Bool := allWithin bs.length bs

end AltName

end Engine

end Sockets
