import Sockets.Engine.Reader

/-!
# Extensions

Several messages end in a list of extensions, each a number and a content. No number may occur
twice; which numbers are known, and what their contents are, depends on the message.

## Main definitions

* `Sockets.Engine.ExtensionType` — the numbers of extensions.
* `Sockets.Engine.Extensions` — extensions by their numbers.
* `Sockets.Engine.Extensions.Grammar` — what the extensions of a message are.
* `Sockets.Engine.Extensions.read` — the extensions of a message.
-/

set_option autoImplicit false

namespace Sockets

namespace Engine

/-! ## Numbers -/

namespace ExtensionType

/-- The name of the server that a client means. -/
@[match_pattern] abbrev serverName : Nat := 0

/-- A proof that a certificate is not revoked. -/
@[match_pattern] abbrev statusRequest : Nat := 5

/-- The groups for agreeing on keys. -/
@[match_pattern] abbrev groups : Nat := 10

/-- The ways of writing points. -/
@[match_pattern] abbrev pointFormats : Nat := 11

/-- The ways of signing. -/
@[match_pattern] abbrev schemes : Nat := 13

/-- The protocols on top of the connection. -/
@[match_pattern] abbrev protocols : Nat := 16

/-- The kinds of certificates of clients. -/
@[match_pattern] abbrev clientCertificateType : Nat := 19

/-- The kinds of certificates of servers. -/
@[match_pattern] abbrev serverCertificateType : Nat := 20

/-- Secrets that depend on the whole exchange. -/
@[match_pattern] abbrev extendedSecret : Nat := 23

/-- The ways of compressing certificates. -/
@[match_pattern] abbrev certificateCompression : Nat := 27

/-- A ticket for a later session. -/
@[match_pattern] abbrev sessionTicket : Nat := 35

/-- Keys that both sides know from before. -/
@[match_pattern] abbrev sharedKey : Nat := 41

/-- Data before the end of the handshake. -/
@[match_pattern] abbrev earlyData : Nat := 42

/-- The versions that are spoken. -/
@[match_pattern] abbrev versions : Nat := 43

/-- Something to be sent back. -/
@[match_pattern] abbrev cookie : Nat := 44

/-- The ways of using keys from before. -/
@[match_pattern] abbrev sharedKeyModes : Nat := 45

/-- The issuers of certificates that are known. -/
@[match_pattern] abbrev authorities : Nat := 47

/-- What a side contributes to the keys. -/
@[match_pattern] abbrev keyShare : Nat := 51

/-- Parameters of the transport underneath. -/
@[match_pattern] abbrev transportParameters : Nat := 57

/-- Extensions of another message that stand here. -/
@[match_pattern] abbrev outerExtensions : Nat := 0xFD00

/-- An encrypted first message. -/
@[match_pattern] abbrev encryptedHello : Nat := 0xFE0D

/-- A connection that goes on from another. -/
@[match_pattern] abbrev renegotiation : Nat := 0xFF01

end ExtensionType

/-! ## Lists -/

/-- Extensions by their numbers, in order. -/
abbrev Extensions (α : Type) := List (Nat × α)

namespace Extensions

variable {α : Type}

/-- What the extensions of a message are. -/
structure Grammar (α : Type) where
  /-- What a content that goes on too long is left over behind. -/
  name : String
  /-- The content of an extension whose number is known. -/
  content : Nat → Option (Reader α)
  /-- What to make of an extension whose number is not known. -/
  unknown : Except Malformation α
  /-- The number of an extension that has to be the last. -/
  last : Option Nat := none

/-- Whether there is an extension of a number. -/
def has (xs : Extensions α) (number : Nat) : Bool := xs.any fun x => x.1 == number

/-- The content of the first extension for which there is something to find. -/
def find? {β : Type} (xs : Extensions α) (f : α → Option β) : Option β :=
  xs.findSome? fun x => f x.2

namespace Grammar

/-- An extension behind others. -/
def readOne (g : Grammar α) (before : Extensions α) : Reader (Nat × α) := do
  let number ← Reader.number 2 "ExtensionType"
  let body ← Reader.counted Reader.two
  match g.content number with
  | none =>
    let a ← (fun bs => g.unknown.map fun a => (a, bs) : Reader α)
    if before.has number then Reader.fail (.repeatedExtension number)
    else pure (number, a)
  | some item =>
    if before.has number then Reader.fail (.repeatedExtension number)
    else
      let a ← Reader.inside body do
        let a ← item
        Reader.finish g.name
        pure a
      pure (number, a)

/-- The extensions behind others, of which there are at most `fuel`. -/
def readWithin (g : Grammar α) : Nat → Extensions α → Reader (Extensions α)
  | 0, before => pure before
  | fuel + 1, before => do
    if ← Reader.isMore then
      let x ← g.readOne before
      if (← Reader.isMore) && g.last == some x.1 then Reader.fail .sharedKeyNotLast
      else g.readWithin fuel (before ++ [x])
    else pure before

end Grammar

/-- The extensions of a message, behind the count of their octets. -/
def read (g : Grammar α) : Reader (Extensions α) := do
  let bs ← Reader.counted Reader.two
  Reader.inside bs (g.readWithin bs.length [])

/-- The extensions of a message that may end before them. -/
def readOptional (g : Grammar α) : Reader (Extensions α) := do
  if ← Reader.isMore then read g else pure []

end Extensions

end Engine

end Sockets
