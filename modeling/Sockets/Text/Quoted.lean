import Sockets.Bytes
import Sockets.Text.GraphemeExtend
import Sockets.Text.Ignorable
import Sockets.Text.Unprintable

/-!
# Quoted text

A text is quoted by enclosing it in double quotes and writing as escapes what would be misread or
not be seen: the quote, the backslash, the usual control characters by a letter, and every other
character that is unprintable, leaves no trace or extends the one before it by its code point.

## Main definitions

* `Sockets.Text.Quoted.escape` — how one character is written inside quotes.
* `Sockets.Text.Quoted.text` — a text in quotes.
* `Sockets.Text.Quoted.path` — the path of a file in quotes, where apostrophes are escaped too.
-/

set_option autoImplicit false

namespace Sockets

namespace Text

namespace Quoted

/-- The lower-case hexadecimal digits of a number, without leading zeros. -/
def hexDigits (n : Nat) : List Char :=
  (Nat.toDigits 16 n)

/-- The escape of a character by its code point. -/
def codePoint (c : Char) : List Char :=
  '\\' :: 'u' :: '\x7b' :: (hexDigits c.toNat ++ ['\x7d'])

/-- How a character is written inside quotes. -/
def escape (c : Char) : List Char :=
  if c = '\x00' then ['\\', '0']
  else if c = '\t' then ['\\', 't']
  else if c = '\n' then ['\\', 'n']
  else if c = '\r' then ['\\', 'r']
  else if c = '"' then ['\\', '"']
  else if c = '\\' then ['\\', '\\']
  else if c.toNat < 0x20 then codePoint c
  else if c.toNat < 0x7F then [c]
  else if isExtending c || isUnprintable c || isIgnorable c then codePoint c
  else [c]

/-- The characters of a text in quotes. -/
def chars (cs : List Char) : List Char := '"' :: (cs.flatMap escape ++ ['"'])

/-- A text in quotes. -/
def text (s : String) : String := String.ofList (chars s.toList)

/-- The apostrophe. -/
def apostrophe : Char := '\x27'

/-- How a character of the path of a file is written inside quotes. -/
def escapeInPath (c : Char) : List Char := if c = apostrophe then ['\\', apostrophe] else escape c

/-- The path of a file in quotes. -/
def path (s : String) : String := String.ofList ('"' :: (s.toList.flatMap escapeInPath ++ ['"']))

end Quoted

end Text

end Sockets
