/-!
# Descriptions of values

A value is described, for a reader who inspects it, by the name of its type and its parts: a
record by its fields in braces, a choice by its name with what it carries in parentheses.

## Main definitions

* `Sockets.Text.Description.record` — a record by name and fields.
* `Sockets.Text.Description.carrying` — a choice by name and what it carries.
* `Sockets.Text.Description.option`, `Sockets.Text.Description.list` — a value that may be
  missing, and a sequence of values.
-/

set_option autoImplicit false

namespace Sockets

namespace Text

namespace Description

/-- A record by its name and its fields, each a name and a description. -/
def record (name : String) (fields : List (String × String)) : String :=
  name ++ " \x7b " ++ String.intercalate ", " (fields.map fun (f, v) => f ++ ": " ++ v) ++ " \x7d"

/-- A choice by its name and the description of what it carries. -/
def carrying (name inner : String) : String := name ++ "(" ++ inner ++ ")"

/-- A value that may be missing, by the description of the value. -/
def option : Option String → String
  | none => "None"
  | some inner => carrying "Some" inner

/-- A sequence by the descriptions of its members. -/
def list (members : List String) : String := "[" ++ String.intercalate ", " members ++ "]"

/-- A truth value. -/
def flag (b : Bool) : String := if b then "true" else "false"

end Description

end Text

end Sockets
