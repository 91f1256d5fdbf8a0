import Mathlib.Control.Monad.Basic
import Sockets.Proofs.HeaderCodec

/-!
# Control buffers

The kernel puts the side data of a received message into a control buffer of sixty-four octets, one
piece behind the other, each with its length, its level and its type before its data. Whoever wants
a header walks from piece to piece, and where a piece is a header takes the thirty-two octets behind
its type. If there are so many, they are those of the header, and the walk keeps within the octets
that the kernel has written; the slot of a caller has that header afterwards, or what was in it
before if no piece is a header.

A piece that says it is a header and has less data is taken as one all the same, with whatever
stands behind it.

## Main definitions

* `Sockets.Sctp.Header.Holds` — a buffer holds side data.
* `Sockets.Sctp.Header.inBuffer?` — the header in a buffer, found by walking through its octets.
* `Sockets.Handle.Receives` — what is received into a slot for a header.

## Main results

* `Sockets.Sctp.Header.holds_layout` — side data that is laid out is held.
* `Sockets.Sctp.Header.inBuffer?_eq` — the walk finds the first header, and reads nothing that is
  not in the buffer.
* `Sockets.Handle.receives_header` — a slot receives the header of a message.
-/

set_option autoImplicit false

namespace Sockets

namespace Sctp.Header

/-! ## Octets of a buffer -/

/-- The octets of a buffer from a place on, if the buffer has so many there. -/
def octets? (buffer : Bytes) (start count : Nat) : Option Bytes :=
  if start + count ≤ buffer.length then some ((buffer.drop start).take count) else none

/-- The number in octets of a buffer. -/
def number? (buffer : Bytes) (start count : Nat) : Option Nat :=
  (octets? buffer start count).map Bytes.littleValue

/-- The number of either sign in four octets of a buffer. -/
def signed? (buffer : Bytes) (start : Nat) : Option Int :=
  (number? buffer start 4).map fun n => (UInt32.ofNat n).toInt32.toInt

/-- The octets that stand between others. -/
lemma octets?_append (front middle back : Bytes) {start count : Nat} (hstart : front.length = start)
    (hcount : middle.length = count) :
    octets? (front ++ (middle ++ back)) start count = some middle := by
  subst hstart hcount
  rw [octets?, if_pos (by simp only [List.length_append]; omega), List.drop_left, List.take_left]

/-- Fewer octets are the first of them. -/
lemma octets?_of_le {buffer bs : Bytes} {start count n : Nat}
    (h : octets? buffer start count = some bs) (hle : n ≤ count) :
    octets? buffer start n = some (bs.take n) := by
  obtain ⟨hin, hbs⟩ := Option.ite_none_right_eq_some.1 h
  obtain rfl := Option.some.inj hbs
  rw [octets?, if_pos (by omega), List.take_take, Nat.min_eq_left hle]

/-! ## The walk -/

/-- The octets of a piece of side data before its data. -/
def leadLength : Nat := 16

/-- The whole count of eight octets that has room for some. -/
def rounded (n : Nat) : Nat := (n + 7) / 8 * 8

/-- The place of the piece of side data behind that at a place, if there is one among the octets
that are used: one that has room for what is before its data, and for the length that it says it
has. -/
def next? (buffer : Bytes) (used start : Nat) : Option (Option Nat) := do
  let length ← number? buffer start 8
  let next := start + rounded length
  if length < leadLength ∨ used < next + leadLength then
    return none
  let following ← number? buffer next 8
  return if used < next + rounded following then none else some next

/-- The next piece is further on, and among the octets that are used.

**Proof sketch.** The walk goes on behind the length of the piece, which is that of its lead at
least, and only if what is there begins among the used octets. -/
lemma lt_of_next? {buffer : Bytes} {used start next : Nat}
    (h : next? buffer used start = some (some next)) : start < next ∧ next < used := by
  unfold next? at h
  obtain ⟨length, -, h⟩ := Option.bind_eq_some_iff.1 h
  dsimp only at h
  split at h
  · exact nomatch h
  · rename_i hnot
    obtain ⟨following, -, h⟩ := Option.bind_eq_some_iff.1 h
    obtain ⟨-, hnext⟩ := Option.ite_none_left_eq_some.1 (Option.some.inj h)
    obtain rfl := Option.some.inj hnext
    simp only [rounded, leadLength] at hnot ⊢
    omega

/-- The header in a buffer, from the piece of side data at a place on: the octets behind the type of
the first piece that is a header by its level and type. There is no answer if the walk leaves the
buffer. -/
def walk (buffer : Bytes) (used start : Nat) : Option (Option Header) :=
  match signed? buffer (start + 8), signed? buffer (start + 12) with
  | some l, some t =>
    if l = Sctp.level ∧ t = headerType then
      (octets? buffer (start + leadLength) headerLength).map fun bs => some (decode bs)
    else
      match _hnext : next? buffer used start with
      | none => none
      | some none => some none
      | some (some next) => walk buffer used next
  | _, _ => none
termination_by used - start
decreasing_by
  have hlt := lt_of_next? _hnext
  omega

/-- The header in a buffer of whose octets the first ones are used. There is no answer if the walk
through them leaves the buffer. -/
def inBuffer? (buffer : Bytes) (used : Nat) : Option (Option Header) :=
  if used < leadLength then some none else walk buffer used 0

/-! ## Side data in a buffer -/

/-- **A buffer holds a piece of side data** at a place: the length of all of it, its level, its type
and its data. -/
structure HoldsAt (buffer : Bytes) (start : Nat) (m : ControlMessage) : Prop where
  length : number? buffer start 8 = some (leadLength + m.data.length)
  level : signed? buffer (start + 8) = some m.level
  type : signed? buffer (start + 12) = some m.type
  data : octets? buffer (start + leadLength) m.data.length = some m.data

/-- **A buffer holds side data** from a place on to the end of what is used of it, piece by piece.
Nothing is said of the octets that fill up the data of a piece, and of those that are not used. -/
inductive Holds (buffer : Bytes) (used : Nat) : Nat → List ControlMessage → Prop
  | done : Holds buffer used used []
  | more {start : Nat} {m : ControlMessage} {ms : List ControlMessage}
    (first : HoldsAt buffer start m)
    (rest : Holds buffer used (start + Kernel.controlSpace m) ms) :
    Holds buffer used start (m :: ms)

variable {buffer : Bytes} {used start : Nat} {m : ControlMessage} {ms : List ControlMessage}

/-- What is used of a buffer is what its pieces take up. -/
lemma Holds.used_eq (h : Holds buffer used start ms) :
    used = start + (ms.flatMap layout).length := by
  induction h with
  | done => rfl
  | more _ _ ih => rw [ih, List.flatMap_cons, List.length_append, length_layout, Nat.add_assoc]

/-- A piece takes up its length, rounded. -/
lemma rounded_length (m : ControlMessage) :
    rounded (leadLength + m.data.length) = Kernel.controlSpace m := by
  rw [rounded, leadLength, Kernel.controlSpace, Kernel.controlFront]
  omega

/-- A piece takes up at least what is before its data. -/
lemma leadLength_le (m : ControlMessage) : leadLength ≤ Kernel.controlSpace m := by
  rw [leadLength, Kernel.controlSpace, Kernel.controlFront]
  omega

/-- Behind the last piece there is none. -/
lemma HoldsAt.next?_last (h : HoldsAt buffer start m) :
    next? buffer (start + Kernel.controlSpace m) start = some none := by
  unfold next?
  rw [h.length]
  show (if _ then _ else _) = _
  rw [rounded_length, if_pos (.inr (Nat.lt_add_of_pos_right (by decide)))]
  rfl

/-- Behind a piece comes the one that is held there. -/
lemma HoldsAt.next?_more {m' : ControlMessage} (h : HoldsAt buffer start m)
    (h' : HoldsAt buffer (start + Kernel.controlSpace m) m')
    (hused : start + Kernel.controlSpace m + Kernel.controlSpace m' ≤ used) :
    next? buffer used start = some (some (start + Kernel.controlSpace m)) := by
  have hlead := leadLength_le m'
  unfold next?
  rw [h.length]
  show (if _ then _ else _) = _
  rw [rounded_length, if_neg (by omega), h'.length]
  show some (if _ then _ else _) = _
  rw [rounded_length, if_neg (by omega)]

/-- The walk goes on behind a piece that is no header. -/
lemma HoldsAt.walk_of_not (h : HoldsAt buffer start m) (hm : ¬ isHeader m = true) :
    walk buffer used start = (next? buffer used start).bind fun
      | none => some none
      | some next => walk buffer used next := by
  rw [walk, h.level, h.type]
  dsimp only
  rw [if_neg (by simpa [isHeader] using hm)]
  split <;> (rename_i hnext; rw [hnext]; rfl)

/-- The walk ends at a piece that is a header and has all the octets of one. -/
lemma HoldsAt.walk_of_isHeader (h : HoldsAt buffer start m) (hm : isHeader m = true)
    (hlength : headerLength ≤ m.data.length) :
    walk buffer used start = some (some (decode (m.data.take headerLength))) := by
  rw [walk, h.level, h.type]
  dsimp only
  rw [if_pos (by simpa [isHeader] using hm), octets?_of_le h.data hlength]
  rfl

/-- The first header among side data, if there is one, has all the octets of a header. -/
def Complete (ms : List ControlMessage) : Prop :=
  ∀ m, ms.find? isHeader = some m → headerLength ≤ m.data.length

/-- The header that the first of side data that is one has in its data. -/
def first? (ms : List ControlMessage) : Option Header :=
  (ms.find? isHeader).map fun m => decode (m.data.take headerLength)

/-- **The walk finds the first header** of the side data that a buffer holds, if that has all the
octets of one; and it never leaves the buffer.

**Proof sketch.** By induction on what the buffer holds. A piece that is a header ends the walk,
which reads its octets, of which there are enough. Any other piece is stepped over, and that leads
to the next piece, or to the end, where nothing is found. -/
theorem walk_eq (h : Holds buffer used start ms) (hne : ms ≠ []) (hall : Complete ms) :
    walk buffer used start = some (first? ms) := by
  induction h with
  | done => exact absurd rfl hne
  | @more start m ms first rest ih =>
    unfold Complete first? at *
    by_cases hm : isHeader m = true
    · have hfind : (m :: ms).find? isHeader = some m := List.find?_cons_of_pos hm
      rw [first.walk_of_isHeader hm (hall m hfind), hfind, Option.map_some]
    · have hfind : (m :: ms).find? isHeader = ms.find? isHeader := List.find?_cons_of_neg hm
      rw [first.walk_of_not hm, hfind]
      -- Where the walk goes on is what the buffer holds behind this piece.
      cases rest with
      | done =>
        rw [first.next?_last]
        rfl
      | more second rest =>
        rw [first.next?_more second (by have := rest.used_eq; omega)]
        exact ih (List.cons_ne_nil _ _) (hfind ▸ hall)

/-- The header in a buffer that holds side data.

**Proof sketch.** Without side data fewer octets are used than a piece begins with, so nothing is
looked for. With some the walk begins at the first piece (`walk_eq`). -/
theorem inBuffer?_eq (h : Holds buffer used 0 ms) (hall : Complete ms) :
    inBuffer? buffer used = some (first? ms) := by
  unfold inBuffer?
  cases ms with
  | nil =>
    rw [h.used_eq, if_pos (by decide)]
    rfl
  | cons m ms =>
    have hused := h.used_eq
    have hlead := leadLength_le m
    rw [List.flatMap_cons, List.length_append, length_layout] at hused
    rw [if_neg (by omega), walk_eq h (List.cons_ne_nil _ _) hall]

/-! ## Side data that is laid out -/

/-- A number that four octets have room for. -/
def InWord (n : Int) : Prop := -2147483648 ≤ n ∧ n < 2147483648

/-- A number of either sign is read back from the word with its bits. -/
lemma toInt_wordOf {n : Int} (h : InWord n) : (wordOf n).toInt32.toInt = n := by
  obtain ⟨hlow, hhigh⟩ := h
  have hword : ((wordOf n).toNat : Int) = n % 2 ^ 32 := by
    rw [wordOf, UInt32.ofInt, UInt32.toNat_ofNat_of_lt' (by simp only [UInt32.size]; omega)]
    omega
  have hbits : (wordOf n).toInt32.toInt = ((wordOf n).toNat : Int).bmod (2 ^ 32) :=
    BitVec.toInt_eq_toNat_bmod _
  rw [hbits, hword, Int.bmod_def]
  split <;> omega

/-- A number is read back from its octets between others. -/
lemma number?_append (front back : Bytes) {start k n : Nat} (hstart : front.length = start)
    (hn : n < Bytes.capacity k) :
    number? (front ++ (Bytes.littleEndian k n ++ back)) start k = some n := by
  rw [number?, octets?_append front _ back hstart (Bytes.length_littleEndian k n), Option.map_some,
    Bytes.littleValue_littleEndian k n hn]

/-- A number of either sign is read back from its octets between others. -/
lemma signed?_append (front back : Bytes) {start : Nat} {n : Int} (hstart : front.length = start)
    (hn : InWord n) :
    signed? (front ++ (Bytes.littleEndian 4 (wordOf n).toNat ++ back)) start = some n := by
  rw [signed?, number?_append front back hstart (wordOf n).toNat_lt, Option.map_some,
    UInt32.ofNat_toNat, toInt_wordOf hn]

/-- A piece of side data that is laid out between octets is held there.

**Proof sketch.** The parts of a piece stand one behind the other, each in as many octets as it is
read from, so that each is read back behind those before it. -/
lemma holdsAt_layout (front back : Bytes) (hlevel : InWord m.level) (htype : InWord m.type)
    (hlength : leadLength + m.data.length < Bytes.capacity 8) :
    HoldsAt (front ++ (layout m ++ back)) front.length m := by
  simp only [layout, List.append_assoc]
  -- Each part is read behind those before it.
  refine ⟨number?_append front _ rfl hlength, ?_, ?_, ?_⟩
  · rw [← List.append_assoc front]
    exact signed?_append _ _ (by simp) hlevel
  · rw [← List.append_assoc front, ← List.append_assoc (front ++ _)]
    exact signed?_append _ _ (by simp) htype
  · rw [← List.append_assoc front, ← List.append_assoc (front ++ _),
      ← List.append_assoc (front ++ _ ++ _)]
    exact octets?_append _ _ _ (by simp [leadLength]) rfl

/-- **Side data that is laid out is held**, whatever is before and behind it.

**Proof sketch.** By induction on the side data, with what stands before it generalised, since each
piece is one more thing before the rest. A length fits into its octets because the whole fits into
the control buffer. -/
theorem holds_layout (front back : Bytes)
    (hwords : ∀ m ∈ ms, InWord m.level ∧ InWord m.type)
    (hroom : (ms.flatMap layout).length ≤ Kernel.controlRoom) :
    Holds (front ++ (ms.flatMap layout ++ back)) (front.length + (ms.flatMap layout).length)
      front.length ms := by
  induction ms generalizing front with
  | nil => exact .done
  | cons m ms ih =>
    obtain ⟨⟨hlevel, htype⟩, hrest⟩ := List.forall_mem_cons.1 hwords
    rw [List.flatMap_cons, List.length_append, length_layout] at hroom ⊢
    rw [List.append_assoc]
    -- The length of a piece fits its eight octets because all of them fit the control buffer.
    have hlength : leadLength + m.data.length < Bytes.capacity 8 := by
      have hspace : leadLength + m.data.length ≤ Kernel.controlSpace m := by
        rw [leadLength, Kernel.controlSpace, Kernel.controlFront]
        omega
      have hcapacity : Kernel.controlRoom < Bytes.capacity 8 := by decide
      omega
    refine .more (holdsAt_layout front _ hlevel htype hlength) ?_
    have hbehind : (front ++ layout m).length = front.length + Kernel.controlSpace m := by
      rw [List.length_append, length_layout]
    have hheld := ih (front ++ layout m) hrest (by omega)
    rwa [hbehind, List.append_assoc, Nat.add_assoc] at hheld

/-- The header that is found among side data is that of the first.

**Proof sketch.** By induction on the side data. The first header has all its octets, so that what
is read of it is not filled up from elsewhere. -/
lemma find?_eq_first? (hall : Complete ms) : find? ms = first? ms := by
  induction ms with
  | nil => rfl
  | cons m ms ih =>
    unfold Complete first? at *
    by_cases hm : isHeader m = true
    · have hfind : (m :: ms).find? isHeader = some m := List.find?_cons_of_pos hm
      rw [find?, if_pos hm, hfind, Option.map_some, bufferFrom,
        List.take_append_of_le_length (hall m hfind)]
    · have hfind : (m :: ms).find? isHeader = ms.find? isHeader := List.find?_cons_of_neg hm
      rw [find?, if_neg hm, hfind, ih (hfind ▸ hall)]

end Sctp.Header

/-! ## Receiving -/

namespace Kernel

/-- Side data that is cut to a room takes up no more than that. -/
lemma length_layout_cut {room : Nat} (h8 : room % 8 = 0) (hfront : controlFront ≤ room)
    (m : ControlMessage) : (Sctp.Header.layout
      { m with data := m.data.take (room - controlFront) }).length ≤ room := by
  have hlength := List.length_take_le (room - controlFront) m.data
  rw [Sctp.Header.length_layout]
  show controlFront + ((m.data.take (room - controlFront)).length + 7) / 8 * 8 ≤ room
  unfold controlFront at *
  omega

/-- What fits a room of whole words takes up no more than that.

**Proof sketch.** By induction on the side data, with the room generalised. A piece that fits leaves
whole words again; one that is cut is the last, and fills at most what is left; and one for which
there is no room ends it. -/
lemma length_fitting_le (k : Kernel) {room : Nat} (h8 : room % 8 = 0) (ms : List ControlMessage) :
    ((k.fitting room ms).flatMap Sctp.Header.layout).length ≤ room := by
  induction ms generalizing room with
  | nil => exact Nat.zero_le _
  | cons m ms ih =>
    unfold fitting
    split
    · -- A piece of side data takes up whole words, and so does what is left of the room.
      have hleft : (room - controlSpace m) % 8 = 0 := by
        unfold controlSpace controlFront at *
        omega
      have hrest := ih hleft
      rw [List.flatMap_cons, List.length_append, Sctp.Header.length_layout]
      omega
    split
    · rename_i hcut
      rw [List.flatMap_singleton]
      exact length_layout_cut h8 hcut.2 m
    · exact Nat.zero_le _

/-- The side data that is delivered fits the control buffer. -/
lemma delivered_le {k : Kernel} {fd : Descriptor} {length : Nat} {flags : MessageFlags}
    {got : Received} {ms : List ControlMessage}
    (h : (k.perform (.recvmsg fd length flags)).1 = .ok (got, ms)) :
    (ms.flatMap Sctp.Header.layout).length ≤ controlRoom := by
  unfold perform at h
  dsimp only at h
  split at h
  · exact nomatch h
  · dsimp only [answer] at h
    generalize (receive _ fd length flags _).1 = result at h
    cases result with
    | error n => exact nomatch h
    | ok got =>
      obtain ⟨-, rfl⟩ := Prod.mk.inj (Except.ok.inj h)
      exact length_fitting_le _ rfl _

end Kernel

namespace Handle

open Sctp

/-- **A slot receives the header of a message.** If receiving fails, the slot has what it had. If it
does not, and the first piece of side data that is a header has all the octets of one, the slot has
the header that they are; without such a piece it has what it had. There is a buffer of sixty-four
octets that holds the side data; and through every such buffer the walk ends with what the slot has,
and never leaves the buffer. -/
structure Receives {α : Type} (h : Handle) (fd : Descriptor) (length : Nat) (old : Header)
    (flags : MessageFlags) (made : Received → α) (x : Net (Transfer α)) (w : World) : Prop where
  failed : ∀ n, (w.kernel.perform (.recvmsg fd length flags)).1 = .error n →
    (x w).1 = ⟨.error (.system "recvmsg" (.os n)), some (.sctp old), h⟩
  headed : ∀ got ms m, (w.kernel.perform (.recvmsg fd length flags)).1 = .ok (got, ms) →
    ms.find? Header.isHeader = some m → 32 ≤ m.data.length →
      (x w).1 = ⟨.ok (made got), some (.sctp (Header.decode (m.data.take 32))), h⟩
  bare : ∀ got ms, (w.kernel.perform (.recvmsg fd length flags)).1 = .ok (got, ms) →
    ms.find? Header.isHeader = none → (x w).1 = ⟨.ok (made got), some (.sctp old), h⟩
  held : ∀ got ms, (w.kernel.perform (.recvmsg fd length flags)).1 = .ok (got, ms) →
    (∀ m ∈ ms, Header.InWord m.level ∧ Header.InWord m.type) →
      ∃ buffer used, buffer.length = 64 ∧ Header.Holds buffer used 0 ms
  inside : ∀ got ms, (w.kernel.perform (.recvmsg fd length flags)).1 = .ok (got, ms) →
    Header.Complete ms → ∀ buffer used, buffer.length = 64 → Header.Holds buffer used 0 ms →
      used ≤ 64 ∧ ∃ found, Header.inBuffer? buffer used = some found ∧
        (x w).1.side = some (.sctp (found.getD old))

variable {h : Handle} {fd : Descriptor} {w : World} {old : Header} {flags : MessageFlags}

/-- What gives the same receives the same. -/
lemma Receives.congr {α : Type} {length : Nat} {made : Received → α} {x y : Net (Transfer α)}
    (hx : h.Receives fd length old flags made x w) (hxy : y w = x w) :
    h.Receives fd length old flags made y w where
  failed n hout := hxy ▸ hx.failed n hout
  headed got ms m hout hfind hlength := hxy ▸ hx.headed got ms m hout hfind hlength
  bare got ms hout hfind := hxy ▸ hx.bare got ms hout hfind
  held := hx.held
  inside := hxy ▸ hx.inside

/-- Something is made of what is received along with a header. -/
lemma Receives.map {α β : Type} {length : Nat} {made : Received → α} {x : Net (Transfer α)}
    {y : Net (Transfer β)} (hx : h.Receives fd length old flags made x w) (f : α → β)
    (hxy : (y w).1 = (x w).1.map f) :
    h.Receives fd length old flags (fun got => f (made got)) y w where
  failed n hout := by
    rw [hxy, hx.failed n hout]
    rfl
  headed got ms m hout hfind hlength := by
    rw [hxy, hx.headed got ms m hout hfind hlength]
    rfl
  bare got ms hout hfind := by
    rw [hxy, hx.bare got ms hout hfind]
    rfl
  held := hx.held
  inside got ms hout hall buffer used hbuffer hholds := by
    rw [hxy]
    exact hx.inside got ms hout hall buffer used hbuffer hholds

/-- Where receiving a message fails, the slot for its header has what it had. -/
lemma readMessage_of_error {buffer : Bytes} {n : Int}
    (hout : (w.kernel.perform (.recvmsg fd buffer.length flags)).1 = .error n) :
    (h.readMessage fd buffer (some (.sctp old)) flags w).1 =
      ⟨.error (.system "recvmsg" (.os n)), some (.sctp old), h⟩ := by
  unfold readMessage
  rw [Net.syscall_bind, hout]
  rfl

/-- Where a message is received whose first header is complete, the slot has it. -/
lemma readMessage_of_complete {buffer : Bytes} {got : Received} {ms : List ControlMessage}
    (hout : (w.kernel.perform (.recvmsg fd buffer.length flags)).1 = .ok (got, ms))
    (hall : Header.Complete ms) :
    (h.readMessage fd buffer (some (.sctp old)) flags w).1 =
      ⟨.ok (.ofReceived buffer got), some (.sctp ((Header.first? ms).getD old)), h⟩ := by
  rw [readMessage_of_ok hout, Header.find?_eq_first? hall]

/-- A message of SCTP is received into a slot for its header.

**Proof sketch.** The header that is read is the first of the side data, if all of that is complete
(`readMessage_of_complete`). That the buffer holds the side data is how it was laid out
(`holds_layout`), and the walk does not leave what it holds (`inBuffer?_eq`). -/
lemma receives_readMessage (h : Handle) (fd : Descriptor) (buffer : Bytes) (old : Header)
    (flags : MessageFlags) (w : World) :
    h.Receives fd buffer.length old flags (.ofReceived buffer)
      (h.readMessage fd buffer (some (.sctp old)) flags) w where
  failed _ hout := readMessage_of_error hout
  headed got ms m hout hfind hlength := by
    have hall : Header.Complete ms := fun m' hm' =>
      Option.some.inj (hfind.symm.trans hm') ▸ hlength
    rw [readMessage_of_complete hout hall, Header.first?, hfind]
    rfl
  bare got ms hout hfind := by
    have hall : Header.Complete ms := fun m hm => nomatch hfind.symm.trans hm
    rw [readMessage_of_complete hout hall, Header.first?, hfind]
    rfl
  held got ms hout hwords := by
    have hroom := Kernel.delivered_le hout
    have hholds := Header.holds_layout []
      (List.replicate (64 - (ms.flatMap Header.layout).length) 0) hwords hroom
    refine ⟨_, _, ?_, hholds⟩
    rw [List.nil_append, List.length_append, List.length_replicate]
    exact Nat.add_sub_cancel' hroom
  inside got ms hout hall buffer used _ hholds := by
    have hused : used ≤ 64 := by
      rw [hholds.used_eq, Nat.zero_add]
      exact Kernel.delivered_le hout
    exact ⟨hused, _, Header.inBuffer?_eq hholds hall,
      congrArg Transfer.side (readMessage_of_complete hout hall)⟩

/-- **Receiving a message into a slot for its header**, on a handle whose messages carry headers:
the slot receives the header, also where a buffer is made for the octets; and if that cannot be had,
the slot has what it had.

**Proof sketch.** The kernel delivers side data that the control buffer has room for. It is held
there piece by piece, and the walk through the pieces goes on behind each that is no header, so it
ends where a search through the list of them does. -/
theorem receives_header (hfd : h.descriptor = some fd) (htls : h.flags.tls.enabled = false)
    (hp : h.protocol = .sctp) (hf : w.features.sctpMessages = true) (old : Header)
    (flags : MessageFlags) :
    (∀ buffer : Bytes, h.Receives fd buffer.length old flags (.ofReceived buffer)
      (h.read buffer (some (.sctp old)) flags) w) ∧
      ∀ length, (w.reservable length = true → h.Receives fd length old flags
          (fun got => (Reading.ofReceived (zeroed length) got).octets)
          (h.readVec length (some (.sctp old)) flags) w) ∧
        (w.reservable length = false →
          (h.readVec length (some (.sctp old)) flags w).1.side = some (.sctp old)) := by
  have hread (buffer : Bytes) : h.Receives fd buffer.length old flags (.ofReceived buffer)
      (h.read buffer (some (.sctp old)) flags) w := by
    have hrun : h.read buffer (some (.sctp old)) flags w =
        h.readMessage fd buffer (some (.sctp old)) flags w := by
      rw [read_eq_readPlain htls hfd, readPlain_sctp hp, if_pos hf]
    exact (h.receives_readMessage fd buffer old flags w).congr hrun
  refine ⟨hread, fun length => ⟨fun hlength => ?_, fun hlength => ?_⟩⟩
  · have hmade : (zeroed length).length = length := List.length_replicate
    have hzeroed := (hread (zeroed length)).map Reading.octets
      (y := h.readVec length (some (.sctp old)) flags) (by rw [readVec_of_reservable h hlength])
    rwa [hmade] at hzeroed
  · rw [readVec_of_unreservable h hlength]

/-- A header behind side data of another kind is received. -/
theorem receives_behind : ∃ (h : Handle) (w : World) (header old : Header),
    (h.descriptor = some 100 ∧ h.flags.tls.enabled = false ∧ h.protocol = .sctp ∧
      w.features.sctpMessages = true) ∧
      (w.kernel.perform (.recvmsg 100 2 .empty)).1 =
        .ok (.ofData [10, 11], [⟨1, 2, []⟩, header.control]) ∧
      header ≠ old ∧
      ((∀ buffer : Bytes, h.Receives 100 buffer.length old .empty (.ofReceived buffer)
        (h.read buffer (some (.sctp old)) .empty) w) ∧
        ∀ length, (w.reservable length = true → h.Receives 100 length old .empty
            (fun got => (Reading.ofReceived (zeroed length) got).octets)
            (h.readVec length (some (.sctp old)) .empty) w) ∧
          (w.reservable length = false →
            (h.readVec length (some (.sctp old)) .empty w).1.side = some (.sctp old))) :=
  ⟨{ id := 1, descriptor := some 100, protocol := .sctp, flags := {} },
    { features := { sctpMessages := true }, kernel := { sockets := [(100, {
      family := .inet, type := .stream, near := none, far := none, ended := false, twin := none,
      queue := [⟨[10, 11], .unix [],
        [⟨1, 2, []⟩, Header.control { stream := 7, ppid := 9 }]⟩] })] } },
    { stream := 7, ppid := 9 }, { stream := 3 }, ⟨rfl, rfl, rfl, rfl⟩, by decide +kernel, by decide,
    receives_header rfl rfl rfl rfl _ _⟩

/-- Where the first piece of side data that is a header has two octets, the slot does not keep what
it had. -/
theorem not_every_short_header_is_left : ¬ ∀ (h : Handle) (fd : Descriptor) (w : World)
    (buffer : Bytes) (old : Header) (flags : MessageFlags) (got : Received)
    (ms : List ControlMessage),
    h.descriptor = some fd → h.flags.tls.enabled = false → h.protocol = .sctp →
      w.features.sctpMessages = true →
      (w.kernel.perform (.recvmsg fd buffer.length flags)).1 = .ok (got, ms) →
      (∀ m, ms.find? Header.isHeader = some m → m.data.length < 32) →
        (h.read buffer (some (.sctp old)) flags w).1.side = some (.sctp old) := by
  intro hall
  have hleft := hall { id := 1, descriptor := some 100, protocol := .sctp, flags := {} } 100
    { features := { sctpMessages := true }, kernel := { sockets := [(100, {
      family := .inet, type := .stream, near := none, far := none, ended := false, twin := none,
      queue := [⟨[10, 11], .unix [], [⟨132, 1, [7, 0]⟩]⟩] })] } }
    [0, 0] { stream := 9, ppid := 5 } .empty (.ofData [10, 11]) [⟨132, 1, [7, 0]⟩] rfl rfl rfl rfl
    (by decide +kernel) (by decide +kernel)
  exact absurd hleft (by decide +kernel)

end Handle

end Sockets
