import Sockets.Engine.Malformation

/-!
# Reading messages

A reader takes octets from the front and says what it makes of them, or in which way they are no
message. Numbers have a fixed count of octets, most significant first; anything of a variable
length stands behind a count of its octets.

## Main definitions

* `Sockets.Engine.Reader` — a reader.
* `Sockets.Engine.Reader.number`, `Sockets.Engine.Reader.counted`, `Sockets.Engine.Reader.list` —
  numbers, octets behind their count, and members of a list behind its count.
* `Sockets.Engine.Reader.whole` — read octets to the last.
-/

set_option autoImplicit false

namespace Sockets

namespace Engine

/-- A reader of octets. -/
abbrev Reader := StateT Bytes (Except Malformation)

namespace Reader

variable {α : Type}

/-- The next `count` octets; when there are too few, that is the malformation given. -/
def take (count : Nat) (short : Malformation) : Reader Bytes := fun bs =>
  if bs.length < count then .error short else .ok (bs.take count, bs.drop count)

/-- A number of `count` octets, which is said to be missing when there are too few. -/
def number (count : Nat) (what : String) : Reader Nat := do
  let bs ← take count (.missing what)
  pure (Bytes.bigValue bs)

/-- An octet as a number. -/
def one : Reader Nat := number 1 "u8"

/-- Two octets as a number. -/
def two : Reader Nat := number 2 "u16"

/-- Three octets as a number. -/
def three : Reader Nat := number 3 "u24"

/-- Four octets as a number. -/
def four : Reader Nat := number 4 "u32"

/-- All octets that are left. -/
def rest : Reader Bytes := fun bs => .ok (bs, [])

/-- Whether octets are left. -/
def isMore : Reader Bool := fun bs => .ok (bs ≠ [], bs)

/-- Give up. -/
def fail (m : Malformation) : Reader α := fun _ => .error m

/-- Nothing may be left behind the thing named. -/
def finish (what : String) : Reader Unit := do
  if ← isMore then fail (.trailing what)

/-- Read within octets of their own; what is left of them is dropped. -/
def inside (bs : Bytes) (item : Reader α) : Reader α := fun outer =>
  match item.run bs with
  | .ok (a, _) => .ok (a, outer)
  | .error m => .error m

/-- Octets behind the number that counts them. -/
def counted (size : Reader Nat) : Reader Bytes := do
  let count ← size
  take count .tooShort

/-- Octets behind the number that counts them, of which there has to be one. -/
def countedSome (size : Reader Nat) : Reader Bytes := do
  let bs ← counted size
  if bs = [] then fail .emptyValue else pure bs

/-- Members up to the end, of which there are at most `fuel`. -/
def manyWithin (item : Reader α) : Nat → Reader (List α)
  | 0 => pure []
  | fuel + 1 => do
    if ← isMore then
      let a ← item
      let others ← manyWithin item fuel
      pure (a :: others)
    else pure []

/-- Members up to the end; each of them takes at least one octet. -/
def many (item : Reader α) : Reader (List α) := fun bs => (manyWithin item bs.length).run bs

/-- The members of a list behind the count of its octets. -/
def list (size : Reader Nat) (item : Reader α) : Reader (List α) := do
  let bs ← counted size
  inside bs (many item)

/-- The members of a list behind the count of its octets, which is not zero. -/
def listSome (size : Reader Nat) (empty : Malformation) (item : Reader α) : Reader (List α) := do
  let count ← size
  if count = 0 then fail empty
  else
    let bs ← take count .tooShort
    inside bs (many item)

/-- Read octets to the last; nothing may be left behind the thing named. -/
def whole (bs : Bytes) (what : String) (item : Reader α) : Except Malformation α :=
  let reading : Reader α := do
    let a ← item
    finish what
    pure a
  (reading.run bs).map Prod.fst

end Reader

end Engine

end Sockets
