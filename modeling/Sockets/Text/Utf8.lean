import Sockets.Bytes

/-!
# UTF-8

Text is stored in octets as UTF-8. Octets that are not UTF-8 still have a text: each maximal
beginning of a character that the next octet rules out, and each octet that begins none, is
shown as the replacement character.

## Main definitions

* `Sockets.Text.Utf8.encode` — the octets of a text.
* `Sockets.Text.Utf8.lossy` — the text of octets, well-formed or not.
* `Sockets.Text.Utf8.decode?` — the text of well-formed octets.
-/

set_option autoImplicit false

namespace Sockets

namespace Text

namespace Utf8

/-- The octets of a sequence of characters. -/
def encodeChars (cs : List Char) : Bytes := cs.flatMap String.utf8EncodeChar

/-- The octets of a text. -/
def encode (s : String) : Bytes := encodeChars s.toList

/-- The text that well-formed octets stand for. -/
def decode? (bs : Bytes) : Option String := String.fromUTF8? ⟨bs.toArray⟩

/-- What is shown for octets that stand for no character. -/
def replacement : Char := '\uFFFD'

/-- Where a reader stands between octets: between characters, or inside one that still owes
`count` octets, the next of them between `low` and `high`, with `value` read so far. -/
inductive State where
  | idle
  | owing (count : Nat) (low high : UInt8) (value : Nat)
  deriving DecidableEq, Repr

/-- The first octet of a character: what it shows by itself, and where it leaves the reader.
Octets that begin no character show the replacement. -/
def start (b : UInt8) : List Char × State :=
  let n := b.toNat
  if n < 0x80 then ([Char.ofNat n], .idle)
  else if n < 0xC2 then ([replacement], .idle)
  else if n < 0xE0 then ([], .owing 1 0x80 0xBF (n - 0xC0))
  else if n = 0xE0 then ([], .owing 2 0xA0 0xBF (n - 0xE0))
  else if n = 0xED then ([], .owing 2 0x80 0x9F (n - 0xE0))
  else if n < 0xF0 then ([], .owing 2 0x80 0xBF (n - 0xE0))
  else if n = 0xF0 then ([], .owing 3 0x90 0xBF (n - 0xF0))
  else if n < 0xF4 then ([], .owing 3 0x80 0xBF (n - 0xF0))
  else if n = 0xF4 then ([], .owing 3 0x80 0x8F (n - 0xF0))
  else ([replacement], .idle)

/-- One octet: the characters it completes or rules out, and where it leaves the reader. -/
def step : State → UInt8 → List Char × State
  | .idle, b => start b
  | .owing count low high value, b =>
    if low ≤ b ∧ b ≤ high then
      let value := 64 * value + (b.toNat - 0x80)
      if count ≤ 1 then ([Char.ofNat value], .idle)
      else ([], .owing (count - 1) 0x80 0xBF value)
    else
      let (cs, next) := start b
      (replacement :: cs, next)

/-- The characters shown from a state on; a character cut short by the end is replaced. -/
def lossyFrom : State → Bytes → List Char
  | .idle, [] => []
  | .owing .., [] => [replacement]
  | s, b :: bs =>
    let (cs, next) := step s b
    cs ++ lossyFrom next bs

/-- The characters that octets show, well-formed or not. -/
def lossyChars (bs : Bytes) : List Char := lossyFrom .idle bs

/-- The text that octets show, well-formed or not. -/
def lossy (bs : Bytes) : String := String.ofList (lossyChars bs)

end Utf8

end Text

end Sockets
