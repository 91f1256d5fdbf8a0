import Sockets.Engine.Fault

/-!
# Records

Encrypted connections speak in records: a kind, a version, a length and that many octets. What is
wrong with the front of a record is seen as soon as that is there, before the record has come to
its end.

## Main definitions

* `Sockets.Engine.Record` — a record, with its octets.
* `Sockets.Engine.Record.first?` — the record that octets begin with, or what is wrong with it.
-/

set_option autoImplicit false

namespace Sockets

namespace Engine

/-- A record. -/
structure Record where
  content : ContentType
  version : Nat
  body : Bytes
  deriving DecidableEq, Repr, Inhabited

namespace Record

/-! ## Octets -/

/-- A number as two octets, most significant first. -/
def two (n : Nat) : Bytes := [UInt8.ofNat (n / 256), UInt8.ofNat n]

/-- The octets of a record. -/
def octets (r : Record) : Bytes :=
  r.content.octet :: (two r.version ++ (two r.body.length ++ r.body))

/-- The version that records say they are of. -/
def usualVersion : Nat := 0x0303

/-- The octets of the record with which a side gives up. -/
def alert (reason : AlertReason) : Bytes :=
  octets ⟨.alert, usualVersion, Alert.octets ⟨Alert.fatal, reason⟩⟩

/-! ## Reading -/

/-- Whether a number is a version that a record may have. -/
def isVersion (n : Nat) : Bool :=
  n / 256 == 3 || [0x0002, 0xFEFC, 0xFEFD, 0xFEFF].contains n

/-- The length that no record may have. -/
def lengthLimit : Nat := 18432

/-- What is wrong with the length of a record; only data of the application may be empty. -/
def lengthFault? (content : ContentType) (length : Nat) : Option Malformation :=
  if length = 0 ∧ content ≠ .applicationData then some .emptyRecord
  else if lengthLimit ≤ length then some .recordTooLarge
  else none

/-- The record that octets begin with and what lies behind it, as soon as it is complete. -/
def first? : Bytes → Except Malformation (Option (Record × Bytes))
  | [] => .ok none
  | kind :: bs =>
    match ContentType.ofOctet? kind, bs with
    | none, _ => .error .invalidContentType
    | some content, high :: low :: bs =>
      let version := 256 * high.toNat + low.toNat
      if isVersion version = false then .error .unknownVersion
      else match bs with
      | l1 :: l2 :: rest =>
        let length := 256 * l1.toNat + l2.toNat
        match lengthFault? content length with
        | some m => .error m
        | none =>
          if rest.length < length then .ok none
          else .ok (some (⟨content, version, rest.take length⟩, rest.drop length))
      | _ => .ok none
    | some _, _ => .ok none

/-- Reading a record leaves fewer octets. -/
theorem length_rest {bs rest : Bytes} {r : Record} (h : first? bs = .ok (some (r, rest))) :
    rest.length < bs.length := by
  unfold first? at h
  split at h
  · exact nomatch h
  · split at h
    · exact nomatch h
    · simp only at h
      split at h
      · exact nomatch h
      · split at h
        · split at h
          · exact nomatch h
          · split at h
            · exact nomatch h
            · simp only [Except.ok.injEq, Option.some.injEq, Prod.mk.injEq] at h
              rw [← h.2, List.length_drop]
              simp only [List.length_cons]
              omega
        · exact nomatch h
    · exact nomatch h

end Record

end Engine

end Sockets
