import Sockets.Proofs.Memos
import Sockets.Proofs.Transfers

/-!
# Transfers without encryption

A handle that is not encrypted moves data by system calls. A transfer that is not refused is one
call on the descriptor of the handle, whose kind goes by the transport, with the length or the
octets and the flags that the caller gave; whatever the call ends with, it is not made again. What
the kernel answers is what the caller gets, the count included, even where that is more than the
buffer is long; and nothing is left behind but the call and one record: the handle is what it was,
and the side data changes only where a slot for it was brought along and the call succeeded.

Reading into a new buffer is reading into a buffer of zeros that is then cut to the count. If the
buffer cannot be had, no call is made.

## Main definitions

* `Sockets.Handle.Plain` — what a handle does when it is asked for transfers in some world.

## Main results

* `Sockets.Handle.plain_of_not_enabled` — a handle that is not encrypted is plain.
* `Sockets.Run.plain_of_mem_table` — however the library is used, handles without encryption are
  plain.
-/

set_option autoImplicit false

namespace Sockets

/-- Side data that is no slot for a header stays as it is. -/
lemma SideData.headed_of_ne {side : Option SideData} (h : ∀ header, side ≠ some (sctp header))
    (control : List ControlMessage) : headed side control = side := by
  rcases side with _ | _ | header
  · rfl
  · rfl
  · exact absurd rfl (h header)

namespace Handle

variable {α : Type} {h : Handle} {fd : Descriptor} {v : World} {side : Option SideData}

/-! ## Plain handles -/

/-- Reading may change side data: there is a place in it for what is told with the data. -/
def Slotted (h : Handle) (side : Option SideData) : Prop :=
  (h.protocol = .udp ∧ ∃ peer, side = some (.datagram peer)) ∨
    (h.protocol = .sctp ∧ ∃ header, side = some (.sctp header))

/-- **What a handle without encryption does** when it is asked for transfers in a world. -/
structure Plain (h : Handle) (fd : Descriptor) (v : World) : Prop where
  read : ∀ buffer side flags, h.ReadsPlain fd v buffer side flags (h.read buffer side flags v)
  write : ∀ data side flags, h.WritesPlain fd v data side flags (h.write data side flags v)
  /-- Reading changes side data only if it succeeds and there is a place for what is told. -/
  side_eq : ∀ buffer side flags, (h.read buffer side flags v).1.side = side ∨
    (h.read buffer side flags v).1.result.isOk = true ∧ h.Slotted side
  /-- Reading into a new buffer is reading into one of zeros, which is cut to the count. -/
  readVec_of_reservable : ∀ length, v.reservable length = true → ∀ side flags,
    h.readVec length side flags v =
      ((h.read (zeroed length) side flags v).1.map Reading.octets,
        (h.read (zeroed length) side flags v).2)
  /-- If the buffer cannot be had, no call is made. -/
  readVec_of_unreservable : ∀ length, v.reservable length = false → ∀ side flags, ∃ message,
    h.readVec length side flags v =
      (⟨.error (.allocation length), side, h⟩, v.noting (.record v.sink .fatal message))

/-- A transfer that was one call leaves the side data, or it succeeded and the kernel told
something. -/
lemma Carried.side_eq {c : Call} {got : c.Answer → α × Option SideData} {out : Transfer α × World}
    (hcarried : h.Carried side v c got out) :
    out.1.side = side ∨ out.1.result.isOk = true ∧ ∃ answer, (got answer).2 ≠ side := by
  cases hcarried with
  | failed => exact .inl rfl
  | @done answer hout message =>
    by_cases htold : (got answer).2 = side
    · exact .inl htold
    · exact .inr ⟨rfl, answer, htold⟩

/-- Where a read without encryption may change side data.

**Proof sketch.** By how the read went. A refusal leaves side data; a datagram has the slot for its
sender filled; and for messages only a slot for a header may change. -/
lemma ReadsPlain.side_eq {buffer : Bytes} {flags : MessageFlags} {out : Transfer Reading × World}
    (hreads : h.ReadsPlain fd v buffer side flags out) :
    out.1.side = side ∨ out.1.result.isOk = true ∧ h.Slotted side := by
  cases hreads with
  | refused => exact .inl rfl
  | @datagram peer _ hp hside hcarried =>
    exact hcarried.side_eq.imp_right fun ⟨hok, _⟩ => ⟨hok, .inl ⟨hp, peer, hside⟩⟩
  | message hp hf hcarried =>
    refine hcarried.side_eq.imp_right fun ⟨hok, answer, htold⟩ => ⟨hok, .inr ⟨hp, ?_⟩⟩
    by_contra hside
    exact htold (SideData.headed_of_ne (fun header heq => hside ⟨header, heq⟩) answer.2)
  | stream hp hcarried =>
    exact .inl (hcarried.side_eq.resolve_right fun ⟨_, _, htold⟩ => htold rfl)

/-- **A handle that is not encrypted is plain**, if it owns a descriptor.

**Proof sketch.** What becomes of a transfer is known for every handle (`reads_read`,
`writes_write`), and for one without encryption that is what the clauses say. -/
theorem plain_of_not_enabled (htls : h.flags.tls.enabled = false) (hfd : h.descriptor = some fd)
    (v : World) : h.Plain fd v where
  read buffer side flags := (reads_read hfd v buffer side flags).of_not_enabled htls
  write data side flags := (writes_write hfd v data side flags).of_not_enabled htls
  side_eq buffer side flags := ((reads_read hfd v buffer side flags).of_not_enabled htls).side_eq
  readVec_of_reservable _ hl := readVec_of_reservable h hl
  readVec_of_unreservable _ hl side flags := ⟨_, readVec_of_unreservable h hl side flags⟩

end Handle

/-! ## Runs -/

namespace Run

/-- **Without encryption a transfer is one system call.** However the library was used before, and
whatever the world is then: a handle that is not encrypted is plain.

**Proof sketch.** A handle that is alive owns a descriptor. What becomes of a transfer on it is
known for every transport, and without encryption only what is plain is left of that. -/
theorem plain_of_mem_table (w : World) (ss : List Step) (v : World) :
    ∀ p ∈ ((start w).steps ss).table, p.2.flags.tls.enabled = false →
      ∃ fd, p.2.descriptor = some fd ∧ p.2.Plain fd v := by
  intro p hp htls
  obtain ⟨fd, hfd, -, -⟩ := (held_steps w ss).2 p hp
  exact ⟨fd, hfd, Handle.plain_of_not_enabled htls hfd v⟩

/-- A datagram that is longer than the buffer is read with its whole length for the count, where the
caller asks for that. -/
example : ((start {}).replies [.socketpair "a" "b", .write "a" [1, 2, 3, 4, 5, 6] none .empty,
    .read "b" [0, 0, 0, 0] none .truncate]).getLast? =
      some (.filled (.ok ⟨6, [1, 2, 3, 4]⟩) none) := by cbv

/-- A socket for datagrams is plain. -/
theorem plain_datagrams :
    ∃ ss : List Step, ∃ h : 0 < ((start {}).steps ss).table.length,
      (((start {}).steps ss).table[0]).2.flags.tls.enabled = false ∧
        ∃ fd, (((start {}).steps ss).table[0]).2.descriptor = some fd ∧
          (((start {}).steps ss).table[0]).2.Plain fd {} :=
  ⟨[.bind "u" .own (some "127.0.0.1") "5000" .udp {}], by decide +kernel, by decide +kernel,
    plain_of_mem_table {} _ {} _ (List.getElem_mem _) (by decide +kernel)⟩

end Run

end Sockets
