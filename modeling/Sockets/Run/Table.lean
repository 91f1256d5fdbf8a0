import Sockets.Handle.Basic

/-!
# Named handles

A run keeps the handles that are alive in a table, by name, in the order of their names.

## Main definitions

* `Sockets.Table` — the handles that are alive.
* `Sockets.Table.get?`, `Sockets.Table.insert`, `Sockets.Table.erase` — finding, storing and
  taking out a handle.
-/

set_option autoImplicit false

namespace Sockets

/-- The handles that are alive, by name, in the order of their names. -/
abbrev Table := List (String × Handle)

namespace Table

/-- The handle of a name. -/
def get? : Table → String → Option Handle
  | [], _ => none
  | (n, h) :: rest, name => if n = name then some h else get? rest name

/-- The table with a handle stored under a name, in place of one that has it. -/
def insert : Table → String → Handle → Table
  | [], name, h => [(name, h)]
  | (n, g) :: rest, name, h =>
    if n = name then (name, h) :: rest
    else if name < n then (name, h) :: (n, g) :: rest
    else (n, g) :: insert rest name h

/-- The table without the handle of a name. -/
def erase (t : Table) (name : String) : Table := t.filter fun p => p.1 ≠ name

/-- The handles that are alive, in the order of their names. -/
def handles (t : Table) : List Handle := t.map Prod.snd

end Table

end Sockets
