import Sockets.Proofs.Books
import Sockets.Proofs.Reach

/-!
# Opening descriptors on the books

An operation that opens a descriptor either succeeds, and then there is one more descriptor on the
books with nothing held on it, or it fails, and then the books are what they were: whatever was
opened on the way has been closed again.

## Main definitions

* `Sockets.Books.OrKept` — how an operation that may fail leaves the books.
* `Sockets.Books.Opened` — how an operation that opens a descriptor leaves them.

## Main results

* `Sockets.Opening.leads_connect`, `Sockets.Opening.leads_bind` — connecting and binding fresh
  descriptors, by way of any number of candidates.
* `Sockets.Opening.made_connectAgain` — connecting again touches no books.
-/

set_option autoImplicit false

namespace Sockets

open Net (Leads)

/-! ## Rules -/

/-- An operation that makes system calls of some kinds does nothing to descriptors. -/
lemma Net.Only.idle {α : Type} {kinds : List CallKind} {x : Net α}
    (hx : Net.Only (Event.Within kinds) x) (h : ∀ k ∈ kinds, k ∉ Event.active) :
    Net.Only Event.Idle x :=
  hx.mono fun _ he => he.idle h

/-- A log record does nothing to descriptors. -/
lemma Net.Only.idle_record (level : Level) (message : String) :
    Net.Only Event.Idle (Net.record level message) := by
  have hx : Net.Only (Event.Within []) (Net.record level message) := .record level message
  exact hx.idle nofun

namespace Books

variable {α ε : Type} {stray : Prop} {H : Holdings} {fd : Descriptor}

/-- The books after an operation that does nothing to descriptors. -/
lemma leads_idle {x : Net α} (hx : Net.Only Event.Idle x) :
    Leads (fun w => Books stray w H) x fun _ w => Books stray w H :=
  fun _ hw => hw.only hx

/-- The books after an operation that makes system calls of some kinds. -/
lemma leads_within {kinds : List CallKind} {x : Net α} (hx : Net.Only (Event.Within kinds) x)
    (h : ∀ k ∈ kinds, k ∉ Event.active) :
    Leads (fun w => Books stray w H) x fun _ w => Books stray w H :=
  leads_idle (hx.idle h)

/-- The books after a log record. -/
lemma leads_record (level : Level) (message : String) :
    Leads (fun w => Books stray w H) (Net.record level message) fun _ w => Books stray w H :=
  leads_idle (Net.Only.idle_record level message)

/-- The books after a system call that does nothing to descriptors. -/
lemma leads_call (c : Call) (h : c.kind ∉ Event.active) :
    Leads (fun w => Books stray w H) (Net.syscall c) fun _ w => Books stray w H :=
  leads_within (.syscall c (List.mem_singleton_self _)) (by simpa using h)

/-- The books after a refusal. -/
lemma leads_refuse {Q : Except ε α → World → Prop} (level : Level) (message : String) (e : ε)
    (h : ∀ w, Books stray w H → Q (.error e) w) :
    Leads (fun w => Books stray w H) (Net.refuse level message e).run Q :=
  .run_lift_bind (leads_record level message) fun _ => .run_throw e h

/-- How an operation that may fail leaves the books: as it says for its answer, or as they were. -/
def OrKept (stray : Prop) (H : Holdings) (R : α → World → Prop) (r : Except ε α) (w : World) :
    Prop :=
  match r with
  | .ok a => R a w
  | .error _ => Books stray w H

/-- The books after a system call that has to succeed. -/
lemma leads_require {context : String} {c : Call} {R : c.Answer → World → Prop}
    (hx : Leads (fun w => Books stray w H) (Net.syscall c) (OrKept stray H R)) :
    Leads (fun w => Books stray w H) (Net.require context c).run (OrKept stray H R) := by
  refine .run_lift_bind hx fun r => ?_
  cases r with
  | ok a => exact .run_pure a fun _ hw => hw
  | error n => exact leads_refuse _ _ _ fun _ hw => hw

/-- The books after a system call, by what they are after the event that it is. -/
lemma leads_syscall {c : Call} {Q : Except Int c.Answer → World → Prop}
    (h : ∀ r w v, Books stray w H → w.Adds (.call c r) v → Q r v) :
    Leads (fun w => Books stray w H) (Net.syscall c) Q :=
  fun _ hw => h _ _ _ hw (.call c)

/-- What is held on a descriptor is at an end when it is closed. -/
lemma leads_close (h : H fd = some {}) : Leads (fun w => Books stray w H)
    (Net.syscall (.close fd)) fun _ w => Books stray w (Function.update H fd none) :=
  fun _ hw => hw.deed (.call _) rfl rfl h .closed

/-- A descriptor that belongs to no handle is off the books when it is closed. -/
lemma leads_discard (h : H fd = some {}) : Leads (fun w => Books stray w H)
    (Net.discard fd) fun _ w => Books stray w (Function.update H fd none) :=
  .bind (leads_close h) fun _ => .pure () fun _ hw => hw

/-! ## Opened descriptors -/

/-- How an operation that opens a descriptor leaves the books: with one more descriptor, on which
nothing is held, or as they were. -/
def Opened (stray : Prop) (H : Holdings) : Except ε Descriptor → World → Prop :=
  OrKept stray H fun fd w => H fd = none ∧ Books stray w (Function.update H fd (some {}))

/-- Something further is done with a descriptor that was opened; if it fails, the descriptor is
closed. -/
lemma leads_discard_opened (h : H fd = none) :
    Leads (fun w => Books stray w (Function.update H fd (some {}))) (Net.discard fd)
      fun _ w => Books stray w H := by
  refine (leads_discard (Function.update_self ..)).weaken (fun _ hw => hw) fun _ w hw => ?_
  rw [Function.update_idem, Function.update_eq_self_iff.2 h.symm] at hw
  exact hw

/-- Asking for a socket opens a descriptor. -/
lemma leads_socket (family : Family) (type : SocketType) (protocol : Int) :
    Leads (fun w => Books stray w H) (Net.syscall (.socket family type protocol))
      (Opened stray H) := by
  refine leads_syscall fun r w v hw ha => ?_
  cases r with
  | ok fd => exact hw.opened_one ha rfl rfl
  | error n => exact hw.idle_event ha ⟨rfl, rfl⟩

/-- Accepting a connection opens a descriptor. -/
lemma leads_accept (waiting : Descriptor) :
    Leads (fun w => Books stray w H) (Net.syscall (.accept waiting)) (OrKept stray H fun q w =>
      H q.1 = none ∧ Books stray w (Function.update H q.1 (some {}))) := by
  refine leads_syscall fun r w v hw ha => ?_
  cases r with
  | ok answer => exact hw.opened_one ha rfl rfl
  | error n => exact hw.idle_event ha ⟨rfl, rfl⟩

/-- Asking for a pair of sockets opens two descriptors. -/
lemma leads_socketpair (family : Family) (type : SocketType) (protocol : Int) :
    Leads (fun w => Books stray w H) (Net.syscall (.socketpair family type protocol))
      (OrKept stray H fun q w => (q.1 ≠ q.2 ∧ H q.1 = none ∧ H q.2 = none) ∧
        Books stray w (Function.update (Function.update H q.1 (some {})) q.2 (some {}))) := by
  refine leads_syscall fun r w v hw ha => ?_
  cases r with
  | ok answer => exact hw.opened_two ha rfl rfl
  | error n => exact hw.idle_event ha ⟨rfl, rfl⟩

end Books

/-! ## Opening -/

namespace Opening

variable {stray : Prop} {H : Holdings} {fd : Descriptor}

/-- A descriptor of the kind that a candidate asks for is opened, or nothing is. -/
lemma leads_socketFor (c : Candidate) :
    Leads (fun w => Books stray w H) (socketFor c) (Books.Opened stray H) := by
  refine .bind (Books.leads_socket _ _ _) fun r => ?_
  cases r with
  | ok fd => exact .pure _ fun _ hw => hw
  | error n => exact .pure _ fun _ hw => hw

/-- A descriptor for local streams is opened, or nothing is. -/
lemma leads_localSocket :
    Leads (fun w => Books stray w H) localSocket.run (Books.Opened stray H) :=
  Books.leads_require (Books.leads_socket _ _ _)

/-- Connecting a descriptor to a local socket does nothing else to it. -/
lemma made_connectLocalTo (fd : Descriptor) (path : String) :
    Net.Made [.connect] (connectLocalTo fd path).run := by
  refine .run_bind ((made_localAddress path).widen (List.nil_subset _)) fun address => ?_
  refine .run_bind (Net.made_require _ _ (List.mem_singleton.2 rfl)) fun _ => ?_
  exact .run_lift (.record _ _)

/-- A fresh descriptor is connected to a local socket, or nothing is left open. -/
lemma leads_connectLocal (path : String) :
    Leads (fun w => Books stray w H) (connectLocal path).run (Books.Opened stray H) := by
  refine .run_bind leads_localSocket (fun fd => .of_and fun hfd => ?_) fun _ _ hw => hw
  refine .run_lift_bind (Books.leads_within (made_connectLocalTo fd path).only (by decide))
    fun r => ?_
  cases r with
  | ok _ => exact .run_pure _ fun _ hw => ⟨hfd, hw⟩
  | error e =>
    exact .run_lift_bind (Books.leads_discard_opened hfd) fun _ => .run_throw e fun _ hw => hw

/-- A fresh descriptor is connected to a candidate, or nothing is left open. -/
lemma leads_connectTo (c : Candidate) :
    Leads (fun w => Books stray w H) (connectTo c) (Books.Opened stray H) := by
  refine .bind (leads_socketFor c) fun r => ?_
  cases r with
  | error f => exact .pure _ fun _ hw => hw
  | ok fd =>
    refine .of_and fun hfd => ?_
    refine .bind (Books.leads_call _ (by simp [Call.kind, Event.active])) fun r => ?_
    cases r with
    | ok _ => exact .pure _ fun _ hw => ⟨hfd, hw⟩
    | error n => exact .bind (Books.leads_discard_opened hfd) fun _ => .pure _ fun _ hw => hw

/-- A fresh descriptor is connected to one of some candidates, or nothing is left open. -/
lemma leads_connectFirst (last : Option Fault) (found : List Candidate) :
    Leads (fun w => Books stray w H) (connectFirst last found) (Books.Opened stray H) := by
  induction found generalizing last with
  | nil => exact .pure _ fun _ hw => hw
  | cons c rest ih =>
    refine .bind (leads_connectTo c) fun r => ?_
    cases r with
    | ok fd =>
      refine .of_and fun hfd => ?_
      exact .bind (Books.leads_record _ _) fun _ => .pure _ fun _ hw => ⟨hfd, hw⟩
    | error f => exact .bind (Books.leads_record _ _) fun _ => ih (some f)

/-- **Connecting.** A fresh descriptor is connected, or nothing is left open.

**Proof sketch.** Looking candidates up does nothing to descriptors. Trying them in order leaves the
one that was connected open, or none (`leads_connectFirst`), and all that follows is a record. -/
theorem leads_connect (scope : Scope) (host service : String) (p : Protocol) :
    Leads (fun w => Books stray w H) (connect scope host service p).run
      (Books.Opened stray H) := by
  unfold connect
  split
  · exact leads_connectLocal host
  refine .run_lift_bind (Books.leads_idle (Net.only_context scope)) fun context => ?_
  refine .run_bind (R := fun _ w => Books stray w H)
    (Books.leads_within (made_candidates _ _ _ _).only (by decide)) (fun found => ?_)
    fun _ _ hw => hw
  refine .run_lift_bind (leads_connectFirst none found) fun r => ?_
  cases r with
  | ok fd => exact .run_pure _ fun _ hw => hw
  | error last => exact Books.leads_refuse _ _ _ fun _ hw => hw

/-- Connecting a descriptor again to one of some candidates takes calls that connect. -/
lemma made_connectFirstAgain (fd : Descriptor) (last : Option Fault) (found : List Candidate) :
    Net.Made [.connect] (connectFirstAgain fd last found) := by
  induction found generalizing last with
  | nil => exact .pure _
  | cons c rest ih =>
    refine .bind (.syscall _ (List.mem_singleton.2 rfl)) fun r => ?_
    cases r with
    | ok _ => exact .bind (.record _ _) fun _ => .pure _
    | error n => exact .bind (.record _ _) fun _ => ih _

/-- **Connecting again.** A descriptor that is there already is asked for its address and
connected, and nothing else is done to it. -/
theorem made_connectAgain (scope : Scope) (fd : Descriptor) (host service : String)
    (p : Protocol) : Net.Made [.connect, .getsockname, .getaddrinfo]
      (connectAgain scope fd host service p).run := by
  unfold connectAgain
  split
  · exact (made_connectLocalTo fd host).widen (by decide)
  have hfamily : Net.Made [.connect, .getsockname, .getaddrinfo] (familyOf fd) := by
    refine .bind (.syscall _ (by simp [Call.kind])) fun r => ?_
    cases r <;> exact .pure _
  refine .run_bind (.run_lift hfamily) fun family => ?_
  refine .run_bind ((made_candidates _ _ _ _).widen (by decide)) fun found => ?_
  refine .run_bind (.run_lift ((made_connectFirstAgain fd none found).widen (by decide)))
    fun r => ?_
  cases r with
  | ok _ => exact .run_pure _
  | error last => exact (made_exhausted _ _ _ _).widen (by decide)

/-! ## Binding -/

/-- A fresh descriptor is bound to a local socket, or nothing is left open.

**Proof sketch.** Without a path it is refused at once. With one, a fresh descriptor is on the
books, and is closed again where binding it fails. -/
lemma leads_bindLocal (path : Option String) :
    Leads (fun w => Books stray w H) (bindLocal path).run (Books.Opened stray H) := by
  cases path with
  | none => exact .run_throw _ fun _ hw => hw
  | some path =>
    refine .run_bind (R := fun _ w => Books stray w H)
      (Books.leads_within (made_localAddress path).only (by decide)) (fun address => ?_)
      fun _ _ hw => hw
    refine .run_bind leads_localSocket (fun fd => .of_and fun hfd => ?_) fun _ _ hw => hw
    refine .run_lift_bind (Books.leads_call _ (by simp [Call.kind, Event.active])) fun r => ?_
    cases r with
    | ok _ =>
      exact .run_lift_bind (Books.leads_record _ _) fun _ => .run_pure _ fun _ hw => ⟨hfd, hw⟩
    | error n =>
      refine .run_lift_bind (Books.leads_record _ _) fun _ => ?_
      exact .run_lift_bind (Books.leads_discard_opened hfd) fun _ => .run_throw _ fun _ hw => hw

/-- Setting an option that is not about groups does nothing to descriptors. -/
lemma leads_setsockopt (fd : Descriptor) (option : SocketOption)
    (h : ∀ succeeded, option.deed? succeeded = none) :
    Leads (fun w => Books stray w H) (Net.syscall (.setsockopt fd option))
      fun _ w => Books stray w H :=
  Books.leads_syscall fun _ _ _ hw ha => hw.idle_event ha ⟨rfl, by simp [Event.target?, h]⟩

/-- Asking for reuse of the address does nothing to descriptors. -/
lemma leads_askReuse (fd : Descriptor) (c : Config) (target : String) :
    Leads (fun w => Books stray w H) (askReuse fd c target) fun _ w => Books stray w H := by
  unfold askReuse
  split
  · refine .bind (leads_setsockopt _ _ fun _ => rfl) fun r => ?_
    cases r with
    | ok _ => exact .pure _ fun _ hw => hw
    | error n => exact Books.leads_record _ _
  · exact .pure _ fun _ hw => hw

/-- Setting the options of SCTP does nothing to descriptors. -/
lemma leads_setSctpOptions (fd : Descriptor) (c : SctpConfig) :
    Leads (fun w => Books stray w H) (setSctpOptions fd c) fun _ w => Books stray w H := by
  refine .bind (leads_setsockopt _ _ fun _ => rfl) fun r => ?_
  cases r with
  | error n => exact .pure _ fun _ hw => hw
  | ok _ =>
    refine .bind (leads_setsockopt _ _ fun _ => rfl) fun r => ?_
    cases r <;> exact .pure _ fun _ hw => hw

/-- A descriptor whose candidate is given up is closed. -/
lemma leads_giveUp (h : H fd = none) (step : String) (f : Fault) :
    Leads (fun w => Books stray w (Function.update H fd (some {}))) (giveUp fd step f)
      (Books.Opened stray H) :=
  .bind (Books.leads_record _ _) fun _ =>
    .bind (Books.leads_discard_opened h) fun _ => .pure _ fun _ hw => hw

/-- A last system call is made on a descriptor, which is given up if the call fails. -/
lemma leads_orGiveUp (h : H fd = none) {c : Call} (hc : c.kind ∉ Event.active)
    {f : Except Int c.Answer → Net (Except Fault Descriptor)} {message step : String}
    (hok : ∀ a, f (.ok a) = do
      Net.record .debug message
      pure (.ok fd))
    (herror : ∀ n, f (.error n) = giveUp fd step (.os n)) :
    Leads (fun w => Books stray w (Function.update H fd (some {}))) (Net.syscall c >>= f)
      (Books.Opened stray H) := by
  refine .bind (Books.leads_call c hc) fun r => ?_
  cases r with
  | ok a =>
    rw [hok]
    exact .bind (Books.leads_record _ _) fun _ => .pure _ fun _ hw => ⟨h, hw⟩
  | error n =>
    rw [herror]
    exact leads_giveUp h _ _

/-- A fresh descriptor is bound to a candidate, or nothing is left open.

**Proof sketch.** A socket is opened, and is on the books then with nothing held on it. Asking for
options leaves the books. Where an option for messages, or binding itself, fails, the socket is
closed again (`leads_giveUp`), and that takes it off the books. -/
lemma leads_bindTo (c : Config) (p : Protocol) (candidate : Candidate) :
    Leads (fun w => Books stray w H) (bindTo c p candidate) (Books.Opened stray H) := by
  have hactive (fd : Descriptor) : (Call.bind fd candidate.address).kind ∉ Event.active := by
    simp [Call.kind, Event.active]
  refine .bind (leads_socketFor candidate) fun r => ?_
  cases r with
  | error f => exact .bind (Books.leads_record _ _) fun _ => .pure _ fun _ hw => hw
  | ok fd =>
    refine .of_and fun hfd => ?_
    refine .bind (leads_askReuse _ _ _) fun _ => ?_
    dsimp only
    split
    case' isTrue => refine .bind (leads_setSctpOptions _ _) fun r => ?_
    case' isFalse =>
      refine .bind (R := fun _ w => Books stray w (Function.update H fd (some {})))
        (.pure _ fun _ hw => hw) fun r => ?_
    all_goals
      cases r with
      | error f => exact leads_giveUp hfd _ _
      | ok _ =>
        show Leads _ (Net.syscall (.bind fd candidate.address) >>= _) _
        exact leads_orGiveUp hfd (hactive fd) (fun _ => rfl) fun _ => rfl

/-- A fresh descriptor is bound to one of some candidates, or nothing is left open. -/
lemma leads_bindFirst (c : Config) (p : Protocol) (last : Option Fault)
    (found : List Candidate) :
    Leads (fun w => Books stray w H) (bindFirst c p last found) (Books.Opened stray H) := by
  induction found generalizing last with
  | nil => exact .pure _ fun _ hw => hw
  | cons candidate rest ih =>
    refine .bind (leads_bindTo c p candidate) fun r => ?_
    cases r with
    | ok fd => exact .pure _ fun _ hw => hw
    | error f => exact ih (some f)

/-- **Binding.** A fresh descriptor is bound, or nothing is left open.

**Proof sketch.** As for connecting, with `leads_bindFirst` for the candidates. -/
theorem leads_bind (scope : Scope) (host : Option String) (service : String) (p : Protocol) :
    Leads (fun w => Books stray w H) (bind scope host service p).run (Books.Opened stray H) := by
  unfold bind
  split
  · exact leads_bindLocal host
  refine .run_lift_bind (Books.leads_idle (Net.only_context scope)) fun context => ?_
  refine .run_bind (R := fun _ w => Books stray w H)
    (Books.leads_within (made_candidates _ _ _ _).only (by decide)) (fun found => ?_)
    fun _ _ hw => hw
  refine .run_lift_bind (leads_bindFirst _ p none found) fun r => ?_
  cases r with
  | ok fd => exact .run_pure _ fun _ hw => hw
  | error last => exact Books.leads_refuse _ _ _ fun _ hw => hw

end Opening

end Sockets
