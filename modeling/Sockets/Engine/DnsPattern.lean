import Sockets.Engine.HostName

/-!
# Host names in certificates

A certificate is made out to host names, of which the first label may be a wildcard, and an
authority may be limited to the names below some name. A malformed name in a certificate matches
nothing.

## Main definitions

* `Sockets.Engine.DnsPattern.isPattern` — whether a text is a host name or a wildcard with one.
* `Sockets.Engine.DnsPattern.covers` — whether a pattern covers a host name.
* `Sockets.Engine.DnsPattern.within` — whether a pattern lies below a name that it is limited to.
-/

set_option autoImplicit false

namespace Sockets

open Text

namespace Engine

namespace DnsPattern

/-! ## Forms -/

/-- Octets as the characters of the same numbers. -/
def chars (bs : Bytes) : List Char := bs.map fun b => Char.ofNat b.toNat

/-- Whether a text is made of labels, the last of which is not a number. -/
def isLabelled (cs : List Char) : Bool :=
  let pieces := splitAll '.' cs
  pieces.all HostName.isLabel && !((pieces.getLast?.getD []).all fun c => '0' ≤ c && c ≤ '9')

/-- Whether a text is a host name, or a wildcard in front of at least two labels. -/
def isPattern (cs : List Char) : Bool :=
  cs.length ≤ 253 && match cs with
  | '*' :: '.' :: rest => isLabelled rest && 2 ≤ (splitAll '.' rest).length
  | _ => isLabelled cs

/-- Whether a text is a limit on names: a host name, perhaps behind a point, or nothing. -/
def isLimit (cs : List Char) : Bool :=
  cs.length ≤ 253 && match cs with
  | [] => true
  | '.' :: rest => isLabelled rest
  | _ => isLabelled cs

/-! ## Matching -/

/-- What is left of a text behind another, if it begins with that in letters of either case. -/
def behind? : List Char → List Char → Option (List Char)
  | [], rest => some rest
  | _ :: _, [] => none
  | p :: ps, c :: cs => if p.toLower = c.toLower then behind? ps cs else none

/-- What is left of a text behind a pattern, if it begins with that; the wildcard stands for
everything up to the next point, but not for nothing. -/
def behindPattern? (pattern cs : List Char) : Option (List Char) :=
  match pattern, cs with
  | '*' :: _, [] => none
  | '*' :: rest, _ :: cs =>
    match cs.dropWhile (· ≠ '.') with
    | [] => none
    | left => behind? rest left
  | pattern, cs => behind? pattern cs

/-- Whether a pattern covers a host name, behind which a point may stand. -/
def covers (pattern name : List Char) : Bool :=
  match behindPattern? pattern name with
  | some [] | some ['.'] => true
  | _ => false

/-- Whether a pattern lies below a limit; a limit that begins with a point stands for everything
that ends in it. -/
def within (pattern limit : List Char) : Bool :=
  let excess := pattern.length - limit.length
  if excess = 0 then behindPattern? pattern limit == some []
  else match limit with
    | [] => true
    | '.' :: _ => behindPattern? (pattern.drop excess) limit == some []
    | _ =>
      match pattern.drop (excess - 1) with
      | '.' :: rest => behindPattern? rest limit == some []
      | _ => false

end DnsPattern

end Engine

end Sockets
