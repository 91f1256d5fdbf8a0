import Sockets.Text.Quoted
import Sockets.Text.Utf8
import Sockets.Engine.Base64

/-!
# PEM files

A PEM file holds labelled sections of base64 between a line that begins a section and one that
ends it; other lines between sections are ignored. A section that begins inside another takes
its place and keeps what was collected so far. Sections with unknown labels are skipped.

## Main definitions

* `Sockets.Engine.Pem.Label`, `Sockets.Engine.Pem.Section` — the known labels, and a decoded
  section.
* `Sockets.Engine.Pem.sections` — the sections of a file and the faults between them, in order.
* `Sockets.Engine.Pem.certificates`, `Sockets.Engine.Pem.key?` — the sections that matter here.
-/

set_option autoImplicit false

namespace Sockets

open Text

namespace Engine

namespace Pem

/-! ## Lines -/

/-- Whether an octet ends a line. -/
def endsLine (b : UInt8) : Bool := b == 10 || b == 13

/-- The lines of a file, each with the octet that ends it. -/
def lines : Bytes → List Bytes
  | [] => []
  | b :: bs =>
    if endsLine b then [b] :: lines bs
    else match lines bs with
      | [] => [[b]]
      | l :: ls => (b :: l) :: ls

/-! ## Sections -/

/-- The known labels. -/
inductive Label where
  | certificate
  | publicKey
  | rsaKey
  | privateKey
  | ecKey
  | revocationList
  | request
  | echConfig
  deriving DecidableEq, Repr, Inhabited

namespace Label

/-- The text of a label. -/
def text : Label → String
  | certificate => "CERTIFICATE"
  | publicKey => "PUBLIC KEY"
  | rsaKey => "RSA PRIVATE KEY"
  | privateKey => "PRIVATE KEY"
  | ecKey => "EC PRIVATE KEY"
  | revocationList => "X509 CRL"
  | request => "CERTIFICATE REQUEST"
  | echConfig => "ECHCONFIG"

/-- All labels. -/
def all : List Label :=
  [certificate, publicKey, rsaKey, privateKey, ecKey, revocationList, request, echConfig]

/-- The label of a text. -/
def ofBytes? (bs : Bytes) : Option Label := all.find? fun l => Utf8.encode l.text = bs

/-- Whether a section under a label holds a private key. -/
def isKey : Label → Bool
  | rsaKey | privateKey | ecKey => true
  | _ => false

end Label

/-- A decoded section. -/
structure Section where
  label : Label
  der : Bytes
  deriving DecidableEq, Repr, Inhabited

/-- Why a section is not to be had. -/
inductive Fault where
  /-- A line begins like a section and does not end like its beginning. -/
  | illegalStart (line : Bytes)
  /-- The file ends inside a section. -/
  | missingEnd (label : Bytes)
  | encoding (fault : Base64.Fault)
  deriving DecidableEq, Repr, Inhabited

namespace Fault

/-- The text of a fault. -/
def message : Fault → String
  | illegalStart line => "illegal section start: " ++ Quoted.text (Utf8.lossy line)
  | missingEnd label => "section end " ++ Quoted.text (Utf8.lossy label) ++ " missing"
  | encoding fault => fault.message

/-- Octets as a list of numbers. -/
def numbers (bs : Bytes) : String :=
  "[" ++ String.intercalate ", " (bs.map fun b => toString b.toNat) ++ "]"

/-- The text of a fault in which octets stand as numbers. -/
def plainMessage : Fault → String
  | illegalStart line => "illegal section start: " ++ numbers line
  | missingEnd label => "missing section end marker: " ++ numbers label
  | encoding fault => "base64 decode error: " ++ fault.message

end Fault

/-- What a line that begins a section begins with. -/
def startMarker : Bytes := Utf8.encode "-----BEGIN "

/-- The line that ends the section of a label begins with this. -/
def endMarker (label : Bytes) : Bytes := Utf8.encode "-----END " ++ label ++ Utf8.encode "-----"

/-- The count of dashes that a reversed line begins with, line ends and spaces between them
skipped, and what lies behind the last of them. -/
def trailingDashes (count : Nat) (rest : Bytes) : Bytes → Nat × Bytes
  | [] => (count, rest)
  | b :: bs =>
    if b = 45 then trailingDashes (count + 1) bs bs
    else if b = 10 ∨ b = 13 ∨ b = 32 then trailingDashes count rest bs
    else (count, rest)

/-- The label on a line that begins a section: it stands before exactly five dashes. -/
def labelOf? (line : Bytes) : Option Bytes :=
  let (count, reversed) := trailingDashes 0 [] line.reverse
  if count = 5 then some (reversed.reverse.drop startMarker.length) else none

/-- The sections from a line on: `current` is the label of the section in which the line stands
and `collected` the base64 seen so far. A fault ends the section in which it stands. -/
def sectionsFrom (current : Option Bytes) (collected : Bytes) :
    List Bytes → List (Except Fault Section)
  | [] =>
    match current with
    | none => []
    | some label => [.error (.missingEnd label)]
  | line :: rest =>
    if startMarker.isPrefixOf line then
      match labelOf? line with
      | some label => sectionsFrom (some label) collected rest
      | none => .error (.illegalStart line) :: sectionsFrom none [] rest
    else match current with
      | none => sectionsFrom none collected rest
      | some label =>
        if (endMarker label).isPrefixOf line then
          match Label.ofBytes? label with
          | none => sectionsFrom none [] rest
          | some known =>
            match Base64.decode collected with
            | .ok der => .ok ⟨known, der⟩ :: sectionsFrom none [] rest
            | .error e => .error (.encoding e) :: sectionsFrom none [] rest
        else sectionsFrom (some label) (collected ++ line) rest

/-- The sections of a file and the faults between them, in order. -/
def sections (file : Bytes) : List (Except Fault Section) := sectionsFrom none [] (lines file)

/-- The members of a list up to the first fault, or that fault. -/
def allOrFirst {ε α : Type} : List (Except ε α) → Except ε (List α)
  | [] => .ok []
  | .error e :: _ => .error e
  | .ok a :: rest => (allOrFirst rest).map (a :: ·)

/-- The certificates of a file, in order; a fault anywhere in the file stands for them all. -/
def certificates (file : Bytes) : Except Fault (List Bytes) :=
  (allOrFirst (sections file)).map fun found =>
    (found.filter fun s => s.label = .certificate).map Section.der

/-- The first key of a file; a fault before it stands for it. -/
def key? (file : Bytes) : Except Fault (Option Section) :=
  match (sections file).find? fun s => match s with
      | .ok s => s.label.isKey
      | .error _ => true with
  | none => .ok none
  | some (.ok s) => .ok (some s)
  | some (.error e) => .error e

end Pem

end Engine

end Sockets
