/-!
# Log records

A record has a level and a text. Records go to a sink: the one that an application installed, or
standard error while there is none.

## Main definitions

* `Sockets.Level` — how severe a record is, with its order.
* `Sockets.Sink` — where records go.
* `Sockets.Level.onStandardError` — whether standard error shows records of a level.
* `Sockets.Trace` — a record as a tracing event.
-/

set_option autoImplicit false

namespace Sockets

/-- How severe a record is, most severe first. -/
inductive Level where
  | fatal
  | error
  | warn
  | info
  | debug
  | verbose
  deriving DecidableEq, Repr, Inhabited

namespace Level

/-- The place of a level among the levels, most severe first. -/
def rank : Level → Nat
  | fatal => 0
  | error => 1
  | warn => 2
  | info => 3
  | debug => 4
  | verbose => 5

/-- The word for a level. -/
def text : Level → String
  | fatal => "FATAL"
  | error => "ERROR"
  | warn => "WARN"
  | info => "INFO"
  | debug => "DEBUG"
  | verbose => "VERBOSE"

/-- How one level compares with another: the more severe one comes first. -/
def compare (a b : Level) : Ordering := Ord.compare a.rank b.rank

/-- Whether standard error shows records of a level; a verbose build shows all. -/
def onStandardError (verboseBuild : Bool) (l : Level) : Bool :=
  verboseBuild || decide (l.rank ≤ info.rank)

end Level

/-- Where log records go. -/
inductive Sink where
  /-- Standard error, as long as nothing else is installed. -/
  | standardError
  /-- The sink that the application installed. -/
  | installed
  deriving DecidableEq, Repr, Inhabited

/-- A tracing event: the word for its level, whether it marks a fatal record, and its text. -/
structure Trace where
  level : String
  fatal : Bool
  message : String
  deriving DecidableEq, Repr

namespace Trace

/-- A log record as a tracing event. Tracing has no level above errors and calls the lowest
level by its own name. -/
def ofRecord (l : Level) (message : String) : Trace :=
  match l with
  | .fatal => ⟨"ERROR", true, message⟩
  | .verbose => ⟨"TRACE", false, message⟩
  | l => ⟨l.text, false, message⟩

/-- The text of a tracing event in the journal. -/
def text (t : Trace) : String :=
  "trace " ++ t.level ++ " " ++ (if t.fatal then "fatal=true " else "") ++ t.message

end Trace

end Sockets
