import Sockets.Proofs.Transfers

/-!
# Headers on the way

A header goes out as side data of the message that it is the header of, and comes back from the side
data of the message that is received. What a writer attaches is one piece of side data that has room
in every control buffer, and a reader who gets it has the header that the writer meant, whatever the
numbers in it are. The other way round, the octets of a header can be read and written again: all of
them are as they were, except for the padding.

## Main definitions

* `Sockets.Sctp.Header.Conveys` — side data hands a header to whoever receives it.

## Main results

* `Sockets.Sctp.Header.decode_encode` — a header is read back from its octets.
* `Sockets.Sctp.Header.encode_decode` — octets are written back as they were read.
* `Sockets.Handle.conveys_header` — a message that is written conveys its header.
-/

set_option autoImplicit false

namespace Sockets

/-- More octets tell more numbers apart. -/
lemma Bytes.capacity_le {m n : Nat} (h : m ≤ n) : capacity m ≤ capacity n := by
  induction h with
  | refl => exact Nat.le_refl _
  | step _ ih =>
    rw [capacity]
    omega

namespace Sctp.Header

/-! ## Fields -/

/-- A field behind some octets is not in them. -/
lemma field_append {as : Bytes} {start : Nat} (h : as.length ≤ start) (bs : Bytes) (count : Nat) :
    field (as ++ bs) start count = field bs (start - as.length) count := by
  rw [field, field, List.drop_append, List.drop_eq_nil_of_le h, List.nil_append]

/-- The field that is the octets of a number. -/
lemma field_littleEndian {k n : Nat} (h : n < Bytes.capacity k) (bs : Bytes) :
    field (Bytes.littleEndian k n ++ bs) 0 k = n := by
  rw [field, List.drop_zero, List.take_left' (Bytes.length_littleEndian k n),
    Bytes.littleValue_littleEndian k n h]

/-- A word of two octets is read back from them. -/
lemma ofNat_field_two (n : UInt16) (bs : Bytes) :
    UInt16.ofNat (field (Bytes.littleEndian 2 n.toNat ++ bs) 0 2) = n := by
  rw [field_littleEndian n.toNat_lt, UInt16.ofNat_toNat]

/-- A word of four octets is read back from them. -/
lemma ofNat_field_four (n : UInt32) (bs : Bytes) :
    UInt32.ofNat (field (Bytes.littleEndian 4 n.toNat ++ bs) 0 4) = n := by
  rw [field_littleEndian n.toNat_lt, UInt32.ofNat_toNat]

/-- **A header is read back** from its octets. -/
theorem decode_encode (h : Header) : decode h.encode = h := by
  unfold decode encode
  simp only [field_append, Bytes.length_littleEndian, Nat.reduceLeDiff, Nat.reduceSub, Nat.le_refl,
    Nat.sub_self, ofNat_field_two, ofNat_field_four]
  -- Nothing stands behind the last field.
  rw [← List.append_nil (Bytes.littleEndian 4 h.assocId.toUInt32.toNat), ofNat_field_four,
    Int32.toInt32_toUInt32]

/-! ## Octets -/

/-- A field is below the capacity of its octets. -/
lemma field_lt (bs : Bytes) (start count : Nat) : field bs start count < Bytes.capacity count :=
  Nat.lt_of_lt_of_le (Bytes.littleValue_lt _) (Bytes.capacity_le (List.length_take_le ..))

/-- A word of two octets holds the field that it is read from. -/
lemma toNat_field_two (bs : Bytes) (start : Nat) :
    (UInt16.ofNat (field bs start 2)).toNat = field bs start 2 :=
  UInt16.toNat_ofNat_of_lt' (field_lt bs start 2)

/-- A word of four octets holds the field that it is read from. -/
lemma toNat_field_four (bs : Bytes) (start : Nat) :
    (UInt32.ofNat (field bs start 4)).toNat = field bs start 4 :=
  UInt32.toNat_ofNat_of_lt' (field_lt bs start 4)

/-- The octets of a field are where it is. -/
lemma littleEndian_field {bs : Bytes} {start count : Nat} (h : start + count ≤ bs.length) :
    Bytes.littleEndian count (field bs start count) = (bs.drop start).take count := by
  have hlength : ((bs.drop start).take count).length = count := by
    rw [List.length_take, List.length_drop]
    omega
  have hback := Bytes.littleEndian_littleValue ((bs.drop start).take count)
  rwa [hlength] at hback

/-- Octets from a place on, and those that follow them. -/
lemma take_append_take (bs : Bytes) {start next : Nat} (count more : Nat)
    (h : next = start + count) : (bs.drop start).take count ++ (bs.drop next).take more =
      (bs.drop start).take (count + more) := by
  rw [List.take_add, List.drop_drop, h]

/-- **Octets are written back** as they were read, but for the padding, which is zero.

**Proof sketch.** Each field is written back as the octets that were read for it
(`littleEndian_field`). The first three and the last six stand side by side, before and behind the
padding, so that they are the octets there. -/
theorem encode_decode {bs : Bytes} (h : bs.length = headerLength) :
    (decode bs).encode = bs.take 6 ++ (Bytes.littleEndian 2 0 ++ bs.drop 8) := by
  have hfield {start count : Nat} (hle : start + count ≤ headerLength) :
      Bytes.littleEndian count (field bs start count) = (bs.drop start).take count :=
    littleEndian_field (h ▸ hle)
  have hfront : (bs.drop 0).take 2 ++ ((bs.drop 2).take 2 ++ (bs.drop 4).take 2) = bs.take 6 := by
    rw [take_append_take bs 2 2 rfl, take_append_take bs 2 4 rfl, List.drop_zero]
  have hback : (bs.drop 8).take 4 ++ ((bs.drop 12).take 4 ++ ((bs.drop 16).take 4 ++
      ((bs.drop 20).take 4 ++ ((bs.drop 24).take 4 ++ (bs.drop 28).take 4)))) = bs.drop 8 := by
    rw [take_append_take bs 4 4 rfl, take_append_take bs 4 8 rfl, take_append_take bs 4 12 rfl,
      take_append_take bs 4 16 rfl, take_append_take bs 4 20 rfl]
    exact List.take_of_length_le (by rw [List.length_drop, h]; decide)
  rw [← hfront, ← hback]
  unfold decode encode
  simp only [toNat_field_two, toNat_field_four, UInt32.toUInt32_toInt32, List.append_assoc]
  rw [hfield (by decide), hfield (by decide), hfield (by decide), hfield (by decide),
    hfield (by decide), hfield (by decide), hfield (by decide), hfield (by decide),
    hfield (by decide)]

/-- Only the padding may change where octets are read and written again.

**Proof sketch.** What is written back is known in three parts (`encode_decode`): the front, two
octets of padding, and the back. Every place but the two is in the front or the back. -/
lemma getElem?_encode_decode {bs : Bytes} (h : bs.length = headerLength) {i : Nat} (h6 : i ≠ 6)
    (h7 : i ≠ 7) : (decode bs).encode[i]? = bs[i]? := by
  have hfront : (bs.take 6).length = 6 := by
    rw [List.length_take, h]
    decide
  have hpadded : (bs.take 6 ++ Bytes.littleEndian 2 0).length = 8 := by
    rw [List.length_append, hfront, Bytes.length_littleEndian]
  rw [encode_decode h]
  by_cases hi : i < 6
  · rw [List.getElem?_append_left (by omega), List.getElem?_take_of_lt hi]
  · rw [← List.append_assoc, List.getElem?_append_right (by omega), hpadded, List.getElem?_drop]
    congr 1
    omega

/-! ## Side data -/

/-- Side data takes up the room in a control buffer that is counted for it. -/
lemma length_layout (m : ControlMessage) : (layout m).length = Kernel.controlSpace m := by
  have hfilled : m.data.length + (filling m.data.length).length =
      (m.data.length + 7) / 8 * 8 := by
    rw [filling, List.length_replicate]
    omega
  simp only [layout, List.length_append, Bytes.length_littleEndian, Kernel.controlSpace,
    Kernel.controlFront]
  omega

/-- The header in the side data that carries it. -/
lemma find?_control (header : Header) : find? [header.control] = some header := by
  have hheader : isHeader header.control = true := rfl
  have hoctets : (bufferFrom header.control []).take headerLength = header.encode :=
    List.take_left' (length_encode header)
  rw [find?, if_pos hheader, hoctets, decode_encode]

/-- **Side data conveys a header**: it is one piece of side data, of the level and the type of
headers, whose thirty-two octets stand for the header. It has room in the control buffer of a
receiver, who gets the whole of it; and whoever receives it with a slot for a header finds the
header there. -/
structure Conveys (control : List ControlMessage) (header : Header) : Prop where
  single : ∃ m, control = [m] ∧ m.level = 132 ∧ m.type = 1 ∧ m.data.length = 32 ∧
    decode m.data = header
  length_le : (control.flatMap layout).length ≤ 64
  delivered : ∀ k : Kernel, k.fitting Kernel.controlRoom control = control
  received : ∀ (g : Handle) (fd : Descriptor) (buffer : Bytes) (old : Header) (flags : MessageFlags)
    (v : World) (got : Received),
    (v.kernel.perform (.recvmsg fd buffer.length flags)).1 = .ok (got, control) →
      (g.readMessage fd buffer (some (.sctp old)) flags v).1 =
        ⟨.ok (.ofReceived buffer got), some (.sctp header), g⟩

end Sctp.Header

/-! ## Messages -/

open Sctp

namespace Handle

/-- Where a message is received into a slot for its header, the slot has the header that is found,
or what it had before. -/
lemma readMessage_of_ok {h : Handle} {fd : Descriptor} {w : World} {buffer : Bytes} {old : Header}
    {flags : MessageFlags} {got : Received} {control : List ControlMessage}
    (hout : (w.kernel.perform (.recvmsg fd buffer.length flags)).1 = .ok (got, control)) :
    (h.readMessage fd buffer (some (.sctp old)) flags w).1 =
      ⟨.ok (.ofReceived buffer got), some (.sctp ((Header.find? control).getD old)), h⟩ := by
  unfold readMessage
  rw [Net.syscall_bind, hout]
  dsimp only
  cases Header.find? control <;> rfl

end Handle

/-- The side data of a header conveys it.

**Proof sketch.** There is one message in the side data, with the octets of the header, and these
are read back (`decode_encode`). With its lead it takes up forty-eight octets, which fit into the
control buffer. -/
theorem Sctp.Header.conveys_control (header : Header) : Conveys [header.control] header where
  single := ⟨header.control, rfl, rfl, rfl, length_encode header, decode_encode header⟩
  length_le := by
    rw [List.flatMap_singleton, length_layout, Kernel.controlSpace, control, length_encode]
    decide
  delivered := by
    have hspace : Kernel.controlSpace header.control = 48 := by
      rw [Kernel.controlSpace, control, length_encode]
      rfl
    intro k
    rw [Kernel.fitting, hspace, if_pos (by decide), Kernel.fitting]
  received g fd buffer old flags v got hout := by
    rw [Handle.readMessage_of_ok hout, find?_control, Option.getD_some]

/-- **A message conveys its header.** What is written on a handle whose messages carry headers goes
out by one system call, whose side data conveys the header that the caller gave, or one of zeros if
none was given. And wherever thirty-two octets are read as a header and written again, they are what
they were, but for the two of padding.

**Proof sketch.** Writing on such a handle is one system call with the side data of the header
(`carried_writeMessage`), and that conveys it. The codec is about octets alone
(`getElem?_encode_decode`). -/
theorem Handle.conveys_header {h : Handle} {fd : Descriptor} {w : World}
    (hfd : h.descriptor = some fd) (htls : h.flags.tls.enabled = false) (hp : h.protocol = .sctp)
    (hf : w.features.sctpMessages = true) (data : Bytes) (side : Option SideData)
    (flags : MessageFlags) :
    (∃ control outcome level message, (h.write data side flags w).2.journal = w.journal ++
      [.call (.sendmsg fd data flags control) outcome, .record w.sink level message] ∧
        Header.Conveys control (headerFor side)) ∧
      ∀ octets : Bytes, octets.length = 32 → ∀ i, i ≠ 6 → i ≠ 7 →
        (Header.decode octets).encode[i]? = octets[i]? := by
  refine ⟨?_, fun octets hoctets i h6 h7 => Header.getElem?_encode_decode hoctets h6 h7⟩
  have hcarried : h.Carried side w (.sendmsg fd data flags [(headerFor side).control])
      (fun n : Nat => (n, side)) (h.writeMessage fd data side flags w) :=
    carried_writeMessage data flags
  obtain ⟨level, message, hjournal⟩ := hcarried.journal_eq
  have hwrite : h.write data side flags w = h.writeMessage fd data side flags w := by
    rw [write_eq_writePlain htls hfd, writePlain_sctp hp, if_pos hf]
  exact ⟨_, _, level, message, hwrite ▸ hjournal, Header.conveys_control _⟩

/-- A header with the greatest numbers, and with an association below zero, is conveyed. -/
theorem Handle.conveys_extremes :
    ∃ (h : Handle) (w : World) (header : Header), h.descriptor = some 100 ∧
      h.flags.tls.enabled = false ∧ h.protocol = .sctp ∧ w.features.sctpMessages = true ∧
      (header.stream.toNat = 65535 ∧ header.ppid.toNat = 4294967295 ∧ header.assocId = -7) ∧
      ((∃ control outcome level message,
        (h.write [1, 2] (some (.sctp header)) .empty w).2.journal = w.journal ++
          [.call (.sendmsg 100 [1, 2] .empty control) outcome, .record w.sink level message] ∧
            Header.Conveys control header) ∧
        ∀ octets : Bytes, octets.length = 32 → ∀ i, i ≠ 6 → i ≠ 7 →
          (Header.decode octets).encode[i]? = octets[i]?) :=
  ⟨{ id := 1, descriptor := some 100, protocol := .sctp, flags := {} },
    { features := { sctpMessages := true } },
    { stream := 65535, ppid := 4294967295, assocId := -7 }, rfl, rfl, rfl, rfl, by decide,
    Handle.conveys_header rfl rfl rfl rfl _ _ _⟩

end Sockets
