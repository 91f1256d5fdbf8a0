import Sockets.Ip.Parser
import Sockets.Text.Utf8
import Sockets.Tls.ServerName

/-!
# Host names

Which texts are names of servers: host names, of labels between points, and internet addresses.

## Main definitions

* `Sockets.Engine.HostName.isHostName` — whether a text is a host name.
* `Sockets.Engine.HostName.name?` — the name that a text is.

## Main results

* `Sockets.Engine.HostName.eq_of_name?` — a host name is the text that it is read from.
-/

set_option autoImplicit false

namespace Sockets

open Text Tls

namespace Engine

namespace HostName

/-- Whether a character may stand in a label. -/
def isLabelChar (c : Char) : Bool :=
  ('a' ≤ c && c ≤ 'z') || ('A' ≤ c && c ≤ 'Z') || ('0' ≤ c && c ≤ '9') || c == '-' || c == '_'

/-- Whether a text is a label: up to 63 of its characters, no hyphen at either end. -/
def isLabel (cs : List Char) : Bool :=
  cs ≠ [] && cs.length ≤ 63 && cs.all isLabelChar && cs.head? != some '-' && cs.getLast? != some '-'

/-- The labels of a host name; one point behind the last label is allowed. -/
def labels (cs : List Char) : List (List Char) :=
  let pieces := splitAll '.' cs
  if 2 ≤ pieces.length ∧ pieces.getLast? = some [] then pieces.dropLast else pieces

/-- Whether a text is a host name. Its last label is not a number. -/
def isHostName (cs : List Char) : Bool :=
  let pieces := labels cs
  cs.length ≤ 253 && pieces.all isLabel &&
    !((pieces.getLast?.getD []).all fun c => '0' ≤ c && c ≤ '9')

/-- The name that a text is. -/
def name? (text : String) : Option ServerName :=
  if isHostName text.toList then some (.dns text)
  else (Ip.ofChars? text.toList).map .ip

/-- A host name is the text that it is read from. -/
theorem eq_of_name? {text name : String} (h : name? text = some (.dns name)) : name = text := by
  unfold name? at h
  split at h
  · cases h
    rfl
  · obtain ⟨ip, -, hip⟩ := Option.map_eq_some_iff.1 h
    exact nomatch hip

end HostName

end Engine

end Sockets
