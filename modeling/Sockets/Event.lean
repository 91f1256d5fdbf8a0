import Sockets.Kernel.Call
import Sockets.Log
import Sockets.Resolution.Query
import Sockets.Tls.Session

/-!
# Events

Everything that the library does to the world around it is an event: a system call with its
outcome, a call of a session or of the provider of sessions, a query, a log record, a tracing
event. Events are kept in the order in which they happened.

## Main definitions

* `Sockets.TlsCall`, `Sockets.TlsOutcome` — a call of a session or its provider, and how it ended.
* `Sockets.Event` — an event, and its texts in the journal and on standard error.
-/

set_option autoImplicit false

namespace Sockets

open Text

/-- A call of a session, or of the provider of sessions. -/
inductive TlsCall where
  | client (name : String) (strict : Bool)
  | server
  | read (length : Nat)
  | write (data : Bytes)
  | shutdown
  deriving DecidableEq, Repr

namespace TlsCall

/-- The text of a call on a descriptor. -/
def text (fd : Descriptor) : TlsCall → String
  | client name strict => "tls.client " ++ toString fd ++ " '" ++ name ++ "' strict=" ++
      (if strict then "true" else "false")
  | server => "tls.server " ++ toString fd
  | read length => "tls.read " ++ toString fd ++ " len=" ++ toString length
  | write data => "tls.write " ++ toString fd ++ " " ++ Fingerprint.dataText data
  | shutdown => "tls.shutdown " ++ toString fd

end TlsCall

/-- How a call of a session, or of the provider of sessions, ended: a session was shut down, one was
negotiated, octets were moved, or the call failed. -/
inductive TlsOutcome where
  | done
  | secured (s : Tls.Session)
  | moved (count : Nat)
  | failed

namespace TlsOutcome

/-- The text of an outcome. -/
def text : TlsOutcome → String
  | done | secured _ => "ok"
  | moved count => toString count
  | failed => "error"

/-- The outcome of a call that answers nothing. -/
def ofUnit {ε : Type} : Except ε Unit → TlsOutcome
  | .ok () => done
  | .error _ => failed

/-- The outcome of a negotiation. -/
def ofSession {ε : Type} : Except ε Tls.Session → TlsOutcome
  | .ok s => secured s
  | .error _ => failed

/-- The outcome of a call that answers a count. -/
def ofCount {ε : Type} : Except ε Nat → TlsOutcome
  | .ok n => moved n
  | .error _ => failed

end TlsOutcome

/-- Something that the library did to the world around it. -/
inductive Event where
  | call (c : Call) (outcome : Except Int c.Answer)
  | tls (fd : Descriptor) (c : TlsCall) (outcome : TlsOutcome)
  | query (q : Query)
  | record (sink : Sink) (level : Level) (message : String)
  | trace (t : Trace)

namespace Event

/-- Whether an event is a system call that moves data. -/
def movesData : Event → Bool
  | call c _ => c.kind.movesData
  | _ => false

/-- The text of an event in the journal. Records on standard error are not in the journal. -/
def text? : Event → Option String
  | call c outcome => some (c.outcomeText outcome)
  | tls fd c outcome => some (c.text fd ++ " = " ++ outcome.text)
  | query q => some q.text
  | record .installed level message => some ("log " ++ level.text ++ " " ++ message)
  | record .standardError .. => none
  | trace t => some t.text

/-- The line of an event on standard error, which shows records that are severe enough. -/
def standardErrorLine? (verboseBuild : Bool) : Event → Option String
  | record .standardError level message =>
    if level.onStandardError verboseBuild then
      some ("[unisock] " ++ level.text ++ " " ++ message)
    else none
  | _ => none

end Event

end Sockets
