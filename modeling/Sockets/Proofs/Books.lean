import Mathlib.Data.List.Nodup
import Mathlib.Logic.Function.Basic
import Mathlib.Tactic.Convert
import Sockets.Kernel.Script
import Sockets.Proofs.Leads
import Sockets.Proofs.Life

/-!
# Books

Books say of every descriptor what is held on it, and they are right if its life so far led there
and the kernel has it open just when it is held. This module says once what a system call does to
the descriptors of the kernel, and from that how books are kept when something happens.

## Main definitions

* `Sockets.Kernel.Follows` — what an event leaves of the open descriptors.
* `Sockets.Holdings` — what is held on each descriptor.
* `Sockets.Books` — what is held on each descriptor is what its life led to.

## Main results

* `Sockets.Kernel.follows_perform` — what a system call leaves of the open descriptors.
* `Sockets.Books.opened`, `Sockets.Books.deed`, `Sockets.Books.idle_event` — books after an event.
-/

set_option autoImplicit false

namespace Sockets

/-! ## Open descriptors -/

namespace Kernel

/-- What an event leaves of the open descriptors: those that it opens are the next ones in order,
and the one that it closes is gone. -/
structure Follows (k : Kernel) (e : Event) (k' : Kernel) : Prop where
  descriptors_eq : k'.descriptors =
    (k.descriptors ++ e.opens).filter fun fd => e.target? ≠ some (fd, .closed)
  next_eq : k'.nextDescriptor = k.nextDescriptor + e.opens.length
  opens_eq : e.opens = List.range' k.nextDescriptor e.opens.length

variable {k k' : Kernel} {e : Event}

/-- What an event opens are the next numbers, which are used up after it. -/
lemma Follows.mem_opens (h : k.Follows e k') {fd : Descriptor} (hfd : fd ∈ e.opens) :
    k.nextDescriptor ≤ fd ∧ fd < k'.nextDescriptor := by
  rw [h.opens_eq, List.mem_range'_1] at hfd
  rw [h.next_eq]
  exact hfd

/-- What an event opens are different numbers. -/
lemma Follows.nodup_opens (h : k.Follows e k') : e.opens.Nodup := by
  rw [h.opens_eq]
  exact List.nodup_range'

/-- Numbers are never handed out again. -/
lemma Follows.next_le (h : k.Follows e k') : k.nextDescriptor ≤ k'.nextDescriptor := by
  rw [h.next_eq]
  exact Nat.le_add_right _ _

/-- An event that opens and closes nothing leaves the descriptors as they are. -/
lemma Follows.of_eq (ho : e.opens = []) (ht : ∀ fd, e.target? ≠ some (fd, .closed))
    (hd : k'.descriptors = k.descriptors) (hn : k'.nextDescriptor = k.nextDescriptor) :
    k.Follows e k' := by
  refine ⟨?_, by simp [hn, ho], by simp [ho]⟩
  rw [hd, ho, List.append_nil, List.filter_eq_self.2]
  intro fd _
  simpa using ht fd

/-- An event that opens something puts that behind the descriptors. -/
lemma Follows.of_opens (ht : e.target? = none)
    (ho : e.opens = List.range' k.nextDescriptor e.opens.length)
    (hd : k'.descriptors = k.descriptors ++ e.opens)
    (hn : k'.nextDescriptor = k.nextDescriptor + e.opens.length) : k.Follows e k' := by
  refine ⟨?_, hn, ho⟩
  rw [hd, List.filter_eq_self.2]
  intro fd _
  simp [ht]

/-- Closing takes a descriptor away, whether or not it succeeds. -/
lemma Follows.of_close {fd : Descriptor} {outcome : Except Int Unit}
    (hd : k'.descriptors = k.descriptors.filter (· ≠ fd))
    (hn : k'.nextDescriptor = k.nextDescriptor) : k.Follows (.call (.close fd) outcome) k' := by
  refine ⟨?_, by simp [hn, Event.opens], by simp [Event.opens]⟩
  rw [hd]
  simp [Event.opens, Event.target?, eq_comm]

/-- A descriptor without a socket is not open. -/
lemma notMem_of_socket? {fd : Descriptor} (h : k.socket? fd = none) : fd ∉ k.descriptors := by
  intro hmem
  obtain ⟨p, hp, rfl⟩ := List.mem_map.1 hmem
  simpa using List.lookup_eq_none_iff.1 h p hp

/-- An automatic port opens nothing. -/
@[simp] lemma descriptors_withPort (k : Kernel) (a : Address) :
    (k.withPort a).2.descriptors = k.descriptors ∧
      (k.withPort a).2.nextDescriptor = k.nextDescriptor := by
  unfold withPort
  split <;> exact ⟨rfl, rfl⟩

/-- Changing a socket changes no number. -/
@[simp] lemma nextDescriptor_modify (k : Kernel) (fd : Descriptor) (f : Socket → Socket) :
    (k.modify fd f).nextDescriptor = k.nextDescriptor := rfl

/-- Receiving opens and closes nothing. -/
lemma descriptors_receive (k : Kernel) (fd : Descriptor) (length : Nat) (flags : MessageFlags)
    (limit : Option Nat) : (k.receive fd length flags limit).2.descriptors = k.descriptors ∧
      (k.receive fd length flags limit).2.nextDescriptor = k.nextDescriptor := by
  unfold receive
  split <;> simp

/-- Sending opens and closes nothing. -/
lemma descriptors_transmit (k : Kernel) (fd : Descriptor) (data : Bytes) (limit : Option Nat) :
    (k.transmit fd data limit).2.descriptors = k.descriptors ∧
      (k.transmit fd data limit).2.nextDescriptor = k.nextDescriptor := by
  unfold transmit
  split
  · simp
  · dsimp only
    split <;> simp

/-- The kinds of system calls that open or close descriptors. -/
def turning : List CallKind := [.socket, .socketpair, .accept, .close]

/-- A system call of any other kind leaves the open descriptors as they are.

**Proof sketch.** By cases on the call. Those that receive or send change the queue of a socket at
most, and the others what a socket knows of its ends; none of that is which descriptors are open. -/
lemma descriptors_answer (k : Kernel) (limit : Option Nat) (c : Call) (h : c.kind ∉ turning) :
    (k.answer limit c).2.descriptors = k.descriptors ∧
      (k.answer limit c).2.nextDescriptor = k.nextDescriptor := by
  cases c with
  | socket | socketpair | accept | close => simp [turning, Call.kind] at h
  | bind fd a =>
    simp only [answer]
    split <;> simp
  | connect fd a =>
    simp only [answer]
    split
    · simp
    · split <;> simp
  | recv fd length flags | recvfrom fd length flags | recvmsg fd length flags =>
    exact k.descriptors_receive fd length flags limit
  | send fd data flags | sendto fd data flags peer | sendmsg fd data flags control =>
    exact k.descriptors_transmit fd data limit
  | getpeername fd =>
    simp only [answer]
    split
    · simp
    · split <;> exact ⟨rfl, rfl⟩
  | listen fd | setsockopt fd | getsockname fd | openFile path | getaddrinfo host
    | interfaceIndex name =>
    simp only [answer]
    split <;> exact ⟨rfl, rfl⟩
  | interfaceNames | interfaceAddresses => exact ⟨rfl, rfl⟩

/-- A system call of a kind that does not open or close is an event that does neither. -/
lemma opens_of_kind (c : Call) (outcome : Except Int c.Answer) (h : c.kind ∉ turning) :
    (Event.call c outcome).opens = [] ∧
      ∀ fd, (Event.call c outcome).target? ≠ some (fd, .closed) := by
  cases c with
  | socket | socketpair | accept | close => simp [turning, Call.kind] at h
  | setsockopt on option =>
    refine ⟨rfl, fun fd => ?_⟩
    cases option <;> cases outcome <;> simp [Event.target?, SocketOption.deed?, Except.isOk,
      Except.toBool]
  | _ => exact ⟨rfl, fun _ => (Option.some_ne_none _).symm⟩

/-- What a system call that is not stopped leaves of the open descriptors.

**Proof sketch.** Calls of any other kind change nothing (`descriptors_answer`) and open nothing. Of
the four that are left, three put what they answer behind the open descriptors, and closing takes
its own out, or finds that it is not there. -/
lemma follows_answer (k : Kernel) (limit : Option Nat) (c : Call) :
    k.Follows (.call c (k.answer limit c).1) (k.answer limit c).2 := by
  by_cases hc : c.kind ∉ turning
  · obtain ⟨hd, hn⟩ := k.descriptors_answer limit c hc
    obtain ⟨ho, ht⟩ := opens_of_kind c (k.answer limit c).1 hc
    exact .of_eq ho ht hd hn
  cases c with
  | socket family type protocol =>
    exact .of_opens rfl (by simp [answer, Event.opens]) (by simp [answer, Event.opens]) rfl
  | socketpair family type protocol =>
    refine .of_opens rfl (by simp [answer, Event.opens, List.range']) ?_ rfl
    simp only [answer, Event.opens, descriptors_opened, List.append_assoc]
    rfl
  | accept fd =>
    simp only [answer]
    split
    · exact .of_eq rfl (fun _ => (Option.some_ne_none _).symm) rfl rfl
    · exact .of_eq rfl (fun _ => (Option.some_ne_none _).symm) rfl rfl
    · exact .of_opens rfl (by simp [Event.opens]) (k.descriptors_opened _) rfl
  | close fd =>
    simp only [answer]
    split
    · rename_i h
      refine .of_close (List.filter_eq_self.2 fun other hother => ?_).symm rfl
      have hne : other ≠ fd := by
        rintro rfl
        exact notMem_of_socket? h hother
      simpa using hne
    · exact .of_close (k.descriptors_closed fd) rfl
  | _ => simp [turning, Call.kind] at hc

/-- What a system call that is stopped leaves of the open descriptors. -/
lemma follows_stopped (k : Kernel) (n : Int) (c : Call) :
    k.Follows (.call c (.error n)) (k.stopped c) := by
  cases c with
  | close fd => exact .of_close (k.descriptors_closed fd) rfl
  | setsockopt on option =>
    refine .of_eq rfl (fun fd => ?_) rfl rfl
    exact (opens_of_kind (.setsockopt on option) (.error n) (by simp [turning, Call.kind])).2 fd
  | _ => exact .of_eq rfl (fun _ => (Option.some_ne_none _).symm) rfl rfl

/-- **Open descriptors after a system call.** A call that succeeds opens what it answers, and
closing closes even where it fails; otherwise the open descriptors stay what they are.

**Proof sketch.** A fault of the script is taken first, which is no matter of descriptors. Then the
call is either stopped by it, or answered (`follows_answer`). -/
theorem follows_perform (k : Kernel) (c : Call) :
    k.Follows (.call c (k.perform c).1) (k.perform c).2 := by
  have htake : (k.takeFault c.kind).2.descriptors = k.descriptors ∧
      (k.takeFault c.kind).2.nextDescriptor = k.nextDescriptor := by
    unfold takeFault
    split <;> exact ⟨rfl, rfl⟩
  have hfollows : (k.takeFault c.kind).2.Follows (.call c (k.perform c).1) (k.perform c).2 := by
    simp only [perform]
    split
    · exact follows_stopped _ _ c
    · exact follows_answer _ _ c
  obtain ⟨hd, hn, ho⟩ := hfollows
  rw [htake.1] at hd
  rw [htake.2] at hn ho
  exact ⟨hd, hn, ho⟩

end Kernel

/-! ## Books -/

namespace World

variable {w v : World} {e : Event}

/-- What an event that is added leaves of the open descriptors.

**Proof sketch.** A call changes the descriptors as the kernel says (`follows_perform`). Any other
event that is added leaves the kernel, and neither opens nor closes anything. -/
lemma Adds.follows (h : w.Adds e v) : w.kernel.Follows e v.kernel := by
  cases h with
  | call c => exact w.kernel.follows_perform c
  | note e he =>
    have ht (fd : Descriptor) : e.target? ≠ some (fd, .closed) := by
      cases e with
      | call => exact nomatch he
      | tls on c outcome =>
        cases c <;> cases outcome <;> simp [Event.target?, TlsCall.deed?]
      | query | record | trace => exact (Option.some_ne_none _).symm
    cases e with
    | call => exact nomatch he
    | tls | query | record | trace => exact .of_eq rfl ht rfl rfl

/-- A life goes on with what an event does. -/
lemma Adds.life_eq (h : w.Adds e v) (fd : Descriptor) :
    v.life fd = w.life fd ++ (e.deed? fd).toList := by
  rw [life, h.journal_eq, List.filterMap_append]
  cases hd : e.deed? fd <;> simp [hd, life]

end World

/-- What is held on each descriptor that is open. -/
abbrev Holdings := Descriptor → Option Holding

/-- The books are right: what they say of a descriptor is what its life led to, and they say
something of just the descriptors that are open. The life of a descriptor that was not handed out
yet has not begun. -/
structure Books (stray : Prop) (w : World) (H : Holdings) : Prop where
  lived : ∀ fd, ∃ s : Stage, Lived stray (w.life fd) s ∧ s.holding? = H fd ∧
    (w.kernel.nextDescriptor ≤ fd → s = .unopened)
  open_iff : ∀ fd, fd ∈ w.kernel.descriptors ↔ (H fd).isSome
  nodup : w.kernel.descriptors.Nodup

namespace Books

variable {stray : Prop} {w v : World} {H : Holdings} {e : Event}

/-- Where nothing is open and nothing has happened, the books are empty. -/
lemma start (hk : w.kernel.sockets = []) (hj : w.journal = []) :
    Books stray w fun _ => none := by
  refine ⟨fun fd => ⟨.unopened, ?_, rfl, fun _ => rfl⟩, ?_, ?_⟩
  · rw [World.life, hj]
    exact .nil
  · simp [Kernel.descriptors, hk]
  · simp [Kernel.descriptors, hk]

/-- Nothing is held on a descriptor that was not handed out yet. -/
lemma eq_none_of_le (hB : Books stray w H) {fd : Descriptor}
    (h : w.kernel.nextDescriptor ≤ fd) : H fd = none := by
  obtain ⟨s, -, hs, hfresh⟩ := hB.lived fd
  rw [← hs, hfresh h]
  rfl

/-- A change that leaves the journal and the open descriptors as they are leaves the books. -/
lemma aside (hB : Books stray w H) (hj : v.journal = w.journal)
    (hd : v.kernel.descriptors = w.kernel.descriptors)
    (hn : v.kernel.nextDescriptor = w.kernel.nextDescriptor) : Books stray v H := by
  refine ⟨?_, by rw [hd]; exact hB.open_iff, by rw [hd]; exact hB.nodup⟩
  rw [hn]
  unfold World.life
  rw [hj]
  exact hB.lived

/-- An event that does nothing to any descriptor leaves the books. -/
lemma idle_event (hB : Books stray w H) (ha : w.Adds e v) (he : e.Idle) : Books stray v H := by
  obtain ⟨hd, hn, -⟩ := ha.follows
  have hd : v.kernel.descriptors = w.kernel.descriptors := by
    rw [hd, he.1, List.append_nil, List.filter_eq_self.2]
    simp [he.2]
  refine ⟨fun fd => ?_, by rw [hd]; exact hB.open_iff, by rw [hd]; exact hB.nodup⟩
  rw [ha.life_eq, he.deed?_eq, hn, he.1]
  simpa using hB.lived fd

/-- What does nothing to any descriptor leaves the books. -/
lemma onward (hB : Books stray w H) (h : w.Onward Event.Idle v) : Books stray v H := by
  refine h.keeps (I := fun u => Books stray u H) (fun u v hm hu => ?_) hB
  cases hm with
  | event ha he => exact hu.idle_event ha he
  | aside _ hk hj => exact hu.aside hj (by rw [hk]) (by rw [hk])

/-- An operation that does nothing to any descriptor leaves the books. -/
lemma only {α : Type} {x : Net α} (hB : Books stray w H) (hx : Net.Only Event.Idle x) :
    Books stray (x w).2 H :=
  hB.onward (hx w)

/-- An event that opens descriptors puts them on the books, with nothing held on them; before,
nothing was said of them.

**Proof sketch.** The numbers of what is opened are not below the next one, so nothing was held on
them and nothing had been done to them (`eq_none_of_le`). Their life is the one event that opens
them; the life of every other descriptor is what it was. -/
lemma opened (hB : Books stray w H) (ha : w.Adds e v) (ht : e.target? = none) :
    (∀ fd ∈ e.opens, H fd = none) ∧
      Books stray v fun fd => if fd ∈ e.opens then some {} else H fd := by
  have hf := ha.follows
  have hnone (fd : Descriptor) (hfd : fd ∈ e.opens) : H fd = none :=
    hB.eq_none_of_le (hf.mem_opens hfd).1
  have hd : v.kernel.descriptors = w.kernel.descriptors ++ e.opens := by
    rw [hf.descriptors_eq, List.filter_eq_self.2]
    simp [ht]
  refine ⟨hnone, fun fd => ?_, fun fd => ?_, ?_⟩
  · obtain ⟨s, hl, hs, hfresh⟩ := hB.lived fd
    rw [ha.life_eq]
    by_cases hfd : fd ∈ e.opens
    · obtain ⟨hle, hlt⟩ := hf.mem_opens hfd
      obtain rfl := hfresh hle
      refine ⟨.live {}, ?_, by simp [hfd, Stage.holding?], fun h => absurd hlt (Nat.not_lt.2 h)⟩
      simpa [Event.deed?, hfd] using hl.snoc .opened
    · refine ⟨s, by simpa [Event.deed?, hfd, ht] using hl, by simpa [hfd] using hs, fun h => ?_⟩
      exact hfresh (Nat.le_trans hf.next_le h)
  · rw [hd, List.mem_append, hB.open_iff]
    by_cases hfd : fd ∈ e.opens
    · simp [hfd]
    · simp [hfd]
  · rw [hd]
    refine List.Nodup.append hB.nodup hf.nodup_opens fun fd hopen hfd => ?_
    rw [hB.open_iff, hnone fd hfd] at hopen
    exact absurd hopen Bool.false_ne_true

/-- An event that opens one descriptor puts it on the books. -/
lemma opened_one (hB : Books stray w H) (ha : w.Adds e v) (ht : e.target? = none)
    {fd : Descriptor} (ho : e.opens = [fd]) :
    H fd = none ∧ Books stray v (Function.update H fd (some {})) := by
  obtain ⟨hnone, hv⟩ := hB.opened ha ht
  rw [ho] at hnone hv
  refine ⟨hnone fd (List.mem_singleton_self fd), ?_⟩
  convert hv using 1
  funext other
  simp [Function.update_apply]

/-- An event that opens two descriptors puts both on the books. -/
lemma opened_two (hB : Books stray w H) (ha : w.Adds e v) (ht : e.target? = none)
    {a b : Descriptor} (ho : e.opens = [a, b]) :
    (a ≠ b ∧ H a = none ∧ H b = none) ∧
      Books stray v (Function.update (Function.update H a (some {})) b (some {})) := by
  have hnodup := ha.follows.nodup_opens
  obtain ⟨hnone, hv⟩ := hB.opened ha ht
  rw [ho] at hnodup hnone hv
  refine ⟨⟨by simpa using hnodup, hnone a (by simp), hnone b (by simp)⟩, ?_⟩
  convert hv using 1
  funext other
  by_cases hother : other = b <;> simp [Function.update_apply, hother]

/-- An event that does something to a descriptor on the books changes what is held on it, and on
no other.

**Proof sketch.** The descriptor of the event goes on in its life by one stage, and the books are
changed at that place. The life of every other one stays as it was, and so do the open descriptors,
but for this one if the event closes it. -/
lemma deed (hB : Books stray w H) (ha : w.Adds e v) (ho : e.opens = []) {fd : Descriptor}
    {d : Deed} (ht : e.target? = some (fd, d)) {k : Holding} (hfd : H fd = some k) {t : Stage}
    (hd : (Stage.live k).Step d t) : Books stray v (Function.update H fd t.holding?) := by
  obtain ⟨hdesc, hn, -⟩ := ha.follows
  rw [ho, List.append_nil] at hdesc
  refine ⟨fun other => ?_, fun other => ?_, ?_⟩
  · obtain ⟨s, hl, hs, hfresh⟩ := hB.lived other
    rw [ha.life_eq, Event.deed?_of_target ho ht, hn, ho]
    by_cases hother : fd = other
    · subst hother
      rw [if_pos rfl, Function.update_self]
      obtain rfl : s = .live k := by
        rw [hfd] at hs
        cases s <;> simp_all [Stage.holding?]
      exact ⟨t, hl.snoc hd, rfl, fun hle => absurd (hfresh hle) (by simp)⟩
    · rw [if_neg hother, Function.update_of_ne (Ne.symm hother)]
      exact ⟨s, by simpa using hl, hs, hfresh⟩
  · rw [hdesc, List.mem_filter, hB.open_iff, ht]
    by_cases hother : fd = other
    · subst hother
      simp [hfd, hd.isSome_holding?]
    · simp [hother, Function.update_of_ne (Ne.symm hother)]
  · rw [hdesc]
    exact hB.nodup.filter _

/-- Groups that are joined and left behind the back of whoever holds a descriptor are not on the
books.

**Proof sketch.** The event opens nothing and closes nothing, as it is about groups, so what is open
stays. In the life of its descriptor it is a deed that went astray, and other lives are what they
were. -/
lemma astray (hs : stray) (hB : Books stray w H) (ha : w.Adds e v) (ho : e.opens = [])
    {fd : Descriptor} {d : Deed} (ht : e.target? = some (fd, d)) (hd : d.isMembership = true) :
    Books stray v H := by
  obtain ⟨hdesc, hn, -⟩ := ha.follows
  have hdesc : v.kernel.descriptors = w.kernel.descriptors := by
    rw [hdesc, ho, List.append_nil, List.filter_eq_self.2]
    intro other _
    rw [ht]
    cases d <;> simp_all [Deed.isMembership]
  refine ⟨fun other => ?_, by rw [hdesc]; exact hB.open_iff, by rw [hdesc]; exact hB.nodup⟩
  obtain ⟨s, hl, hs', hfresh⟩ := hB.lived other
  rw [ha.life_eq, Event.deed?_of_target ho ht, hn, ho]
  refine ⟨s, ?_, hs', hfresh⟩
  by_cases hother : fd = other
  · simpa [hother] using hl.astray hs hd
  · simpa [hother] using hl

end Books

end Sockets
