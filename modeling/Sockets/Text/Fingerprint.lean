import Sockets.Bytes

/-!
# Short text for data

Data is shown in hexadecimal while it is short; longer data is shown by its length and a 64-bit
FNV-1a hash, which tells apart what a reader would not compare by eye.

## Main definitions

* `Sockets.Text.Fingerprint.fnv1a` — the 64-bit FNV-1a hash of octets.
* `Sockets.Text.Fingerprint.dataText` — the text of data.
-/

set_option autoImplicit false

namespace Sockets

namespace Text

namespace Fingerprint

/-- The 64-bit FNV-1a hash of octets. -/
def fnv1a (bs : Bytes) : UInt64 :=
  bs.foldl (fun h b => (h ^^^ b.toUInt64) * 0x100000001b3) 0xcbf29ce484222325

/-- The sixteen hexadecimal digits of a 64-bit word. -/
def wordText (w : UInt64) : String := Bytes.hex (Bytes.littleEndian 8 w.toNat).reverse

/-- The most octets that are shown one by one. -/
def shownLimit : Nat := 64

/-- The text of data: its octets in hexadecimal, or its length and hash when it is long. -/
def dataText (bs : Bytes) : String :=
  if bs.length ≤ shownLimit then Bytes.hex bs
  else toString bs.length ++ ":" ++ wordText (fnv1a bs)

end Fingerprint

end Text

end Sockets
