import Sockets.Engine.CertificateFault
import Sockets.Engine.Der

/-!
# Validity

A certificate is valid from one time to another. Times are written in digits, the year with two or
with four of them, always to the second and always as of the zero meridian.

## Main definitions

* `Sockets.Engine.Time` — a time to the second, so that later times are larger.
* `Sockets.Engine.Time.read` — the reader of a time.
* `Sockets.Engine.Validity.check` — what is wrong with a validity at a time.
-/

set_option autoImplicit false

namespace Sockets

namespace Engine

/-- A time to the second, as the number that its digits form: year, month, day, hour, minute and
second. -/
abbrev Time := Nat

namespace Time

/-- The days of a month. -/
def daysIn (year month : Nat) : Nat :=
  if month = 2 then
    if year % 4 = 0 ∧ (year % 100 ≠ 0 ∨ year % 400 = 0) then 29 else 28
  else if [4, 6, 9, 11].contains month then 30
  else 31

/-- The value of an octet that is a digit. -/
def digit? (b : UInt8) : Option Nat :=
  if 48 ≤ b.toNat ∧ b.toNat ≤ 57 then some (b.toNat - 48) else none

/-- A number of two digits within bounds. -/
def pair (low high : Nat) : Der.Reading CertificateFault Nat := fun bs =>
  match bs with
  | a :: b :: rest =>
    match digit? a, digit? b with
    | some x, some y =>
      let n := 10 * x + y
      if low ≤ n ∧ n ≤ high then .ok (n, rest) else .error .badTime
    | _, _ => .error .badTime
  | _ => .error .badTime

/-- The mark of the zero meridian. -/
def zone : Der.Reading CertificateFault Unit := fun bs =>
  match bs with
  | 0x5A :: rest => .ok ((), rest)
  | _ => .error .badTime

/-- The year that two digits stand for. -/
def readShortYear : Der.Reading CertificateFault Nat := do
  let n ← pair 0 99
  pure (if 50 ≤ n then 1900 + n else 2000 + n)

/-- The year that four digits stand for. -/
def readYear : Der.Reading CertificateFault Nat := do
  let century ← pair 0 99
  let n ← pair 0 99
  pure (100 * century + n)

/-- The time behind a year; no time is before the year 1970. -/
def readBehind (year : Nat) : Der.Reading CertificateFault Time := do
  let month ← pair 1 12
  let day ← pair 1 (daysIn year month)
  let hour ← pair 0 23
  let minute ← pair 0 59
  let second ← pair 0 59
  zone
  if year < 1970 then Der.give .badTime
  else pure (((((year * 100 + month) * 100 + day) * 100 + hour) * 100 + minute) * 100 + second)

/-- Read a time. -/
def read : Der.Reading CertificateFault Time := do
  if ← Der.isNext Der.shortTimeTag then
    Der.nested .notWhole Der.shortTimeTag do
      let year ← readShortYear
      readBehind year
  else
    Der.nested .notWhole Der.timeTag do
      let year ← readYear
      readBehind year

/-- The year, month and day that come so many days after the first of March of the year 0. -/
def dayOf (days : Nat) : Nat × Nat × Nat :=
  let era := days / 146097
  let day := days % 146097
  let year := (day - day / 1460 + day / 36524 - day / 146096) / 365
  let rest := day - (365 * year + year / 4 - year / 100)
  let month := (5 * rest + 2) / 153
  (400 * era + year + (if month < 10 then 0 else 1), if month < 10 then month + 3 else month - 9,
    rest - (153 * month + 2) / 5 + 1)

/-- The time that it is so many seconds after the beginning of the year 1970. -/
def ofClock (seconds : Nat) : Time :=
  let (year, month, day) := dayOf (seconds / 86400 + 719468)
  let rest := seconds % 86400
  ((((year * 100 + month) * 100 + day) * 100 + rest / 3600) * 100 + rest / 60 % 60) * 100 +
    rest % 60

end Time

namespace Validity

/-- What is wrong with a validity from one time to another at a time. -/
def check (first last now : Time) : Except CertificateFault Unit :=
  if last < first then .error .emptyValidity
  else if now < first ∨ last < now then .error .outOfDate
  else .ok ()

/-- What is wrong with the content of a validity at a time. -/
def checkContent (bs : Bytes) (now : Time) : Except CertificateFault Unit :=
  Der.whole .badEncoding bs do
    let first ← Time.read
    let last ← Time.read
    match check first last now with
    | .ok () => pure ()
    | .error f => Der.give f

end Validity

end Engine

end Sockets
