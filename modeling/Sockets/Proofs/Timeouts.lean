import Sockets.Proofs.Misuse

/-!
# Timeouts

A transfer makes one call, of the system or of the session of its handle, and fails if the call
does. Whether the call would have had to wait, or waited in vain, is then seen from the error that
the transfer fails with, and from the record that is made: that one is for debugging, where any
other failure is recorded as an error. What fails without a call makes no sense, or asks for a
buffer that cannot be had.

Not so where a session says that it could not wait: that is told of as any other failure of a
session.

## Main definitions

* `Sockets.Setback` — a call that failed under a transfer.
* `Sockets.Handle.Course` — what becomes of a transfer.
* `Sockets.Request.Meets` — a transfer meets with a setback.
* `Sockets.Request.Recognises` — a transfer tells whether its setback is a timeout.

## Main results

* `Sockets.Handle.Goes.course`, `Sockets.Request.course` — transfers take their course.
* `Sockets.Run.recognises_of_meets` — however the library is used, transfers recognise timeouts.
-/

set_option autoImplicit false

namespace Sockets

/-! ## Setbacks -/

/-- The fault of input and output under the failure of a session, if there is one. -/
def TlsError.fault? : TlsError → Option Fault
  | handshake f | record f => some f
  | config _ | invalidServerName _ | credential _ => none

/-- A session answers a call in one way. -/
lemma Tls.Session.Answers.unique {s t u : Session} {c : TlsCall} {a b : Except TlsError Nat}
    (ha : s.Answers c a t) (hb : s.Answers c b u) : a = b := by
  cases ha <;> cases hb <;> rfl

/-- A call that failed under a transfer: a system call with an error number, or a call of a session
on a descriptor. -/
inductive Setback where
  | call (c : Call) (errno : Int)
  | session (fd : Descriptor) (c : TlsCall) (e : TlsError)

namespace Setback

/-- The fault of input and output that is behind a setback. -/
def fault? : Setback → Option Fault
  | call _ n => some (.os n)
  | session _ _ e => e.fault?

/-- Whether waiting would have been needed, or was in vain. -/
def isTimeout (s : Setback) : Bool := s.fault?.any Fault.isTimeout

/-- The call that failed, as it happened. -/
def event : Setback → Event
  | call c n => .call c (.error n)
  | session fd c _ => .tls fd c .failed

/-- The error that a transfer fails with. -/
def error : Setback → Error
  | call c n => .system c.kind.name (.os n)
  | session _ _ e => .tls e

/-- A setback is one of a handle: if it is one of a session, it is one of that of the handle. -/
def Of (h : Handle) : Setback → Prop
  | call .. => True
  | session _ c e => ∃ s t, h.session = some s ∧ s.Answers c (.error e) t

/-- **A setback is veiled** if it is a session that says that waiting would have been needed, or was
in vain. -/
def Veiled : Setback → Prop
  | call .. => False
  | s@(session ..) => s.isTimeout = true

/-- From the error of a setback it is seen whether it is a timeout, unless it is veiled. -/
lemma isTimeout_error {s : Setback} (hs : ¬ s.Veiled) : s.error.isTimeout = s.isTimeout := by
  cases s with
  | call c n => rfl
  | session fd c e => exact (Bool.eq_false_iff.2 hs).symm

/-- A setback of a handle is settled by the call that failed.

**Proof sketch.** By cases on both setbacks. A call is its own event, and for a session the event
says the call, whose answer by that session is one. -/
lemma eq_of_event {h : Handle} {s t : Setback} (hs : s.Of h) (ht : t.Of h)
    (hevent : s.event = t.event) : s = t := by
  cases s with
  | call c n =>
    cases t with
    | call c' n' =>
      cases hevent
      rfl
    | session => exact nomatch hevent
  | session fd c e =>
    cases t with
    | call => exact nomatch hevent
    | session fd' c' e' =>
      obtain ⟨g, _, hg, hfails⟩ := hs
      obtain ⟨g', _, hg', hfails'⟩ := ht
      obtain rfl : g = g' := Option.some.inj (hg.symm.trans hg')
      obtain ⟨rfl, rfl, -⟩ := Event.tls.inj hevent
      rw [Except.error.inj (hfails.unique hfails')]

end Setback

/-! ## Transfers -/

namespace Handle

variable {α : Type} {h : Handle} {fd : Descriptor} {side : Option SideData}

/-- **The course of a transfer** on a handle, from a world to its failure, if there is one, and the
events after it. Either no call fails, and then the transfer only fails if it makes no sense or a
buffer cannot be had; or one call is made and fails, and with it the transfer, and a record follows,
for debugging if the error is that of a timeout. -/
inductive Course (h : Handle) (v : World) (failure : Option Error) (journal : List Event) : Prop
  | smooth (es : List Event) (hes : journal = v.journal ++ es) (hno : ∀ s : Setback, s.event ∉ es)
    (hfailure : ∀ e, failure = some e → e.isMisuse = true ∨ ∃ n, e = .allocation n)
  | setback (s : Setback) (message : String) (hs : s.Of h) (hfailure : failure = some s.error)
    (hes : journal = v.journal ++ [s.event, .record v.sink
      (if s.error.isTimeout then .debug else .error) message])

/-- **Transfers take their course.**

**Proof sketch.** One case for each way in which a transfer goes. It fails in a call, of the kernel
or of its session, with a record of that behind it, or it goes smoothly: then there is no failure of
a call among its events. -/
theorem Goes.course {v : World} {senseless : Prop} {out : Transfer α × World}
    (hgoes : h.Goes fd v side senseless out) :
    h.Course v (failure? out.1.result) out.2.journal := by
  cases hgoes with
  | refused operation =>
    refine .smooth [] (List.append_nil _).symm (fun _ => List.not_mem_nil) ?_
    rintro _ ⟨⟩
    exact .inl rfl
  | unreservable length message =>
    refine .smooth [.record v.sink .fatal message] rfl (fun s hs => ?_) ?_
    · cases s <;> cases List.mem_singleton.1 hs
    · rintro _ ⟨⟩
      exact .inr ⟨length, rfl⟩
  | @failed c n _ _ hout =>
    refine .setback (.call c n) (h.name ++ ": " ++ c.kind.name ++ ": " ++ (Fault.os n).message)
      trivial rfl ?_
    show (Net.syscall c v).2.journal ++ [Event.record v.sink (failureLevel (.os n)) _] = _
    rw [Net.syscall_journal, hout, List.append_assoc]
    rfl
  | @done c answer _ _ hout a told message =>
    refine .smooth [.call c (.ok answer), .record v.sink .verbose message] ?_ (fun s hs => ?_) nofun
    · show (Net.syscall c v).2.journal ++ [Event.record v.sink .verbose message] = _
      rw [Net.syscall_journal, hout, List.append_assoc]
      rfl
    · obtain hs | hs := List.mem_pair.1 hs <;> cases s <;> cases hs
  | @denied s s' c e _ hs hanswer message =>
    exact .setback (.session fd c e) message ⟨s, s', hs, hanswer⟩ rfl (List.append_assoc ..)
  | @used s s' c n _ _ _ a message =>
    refine .smooth [.tls fd c (.moved n), .record v.sink .verbose message] (List.append_assoc ..)
      (fun s hs => ?_) nofun
    obtain hs | hs := List.mem_pair.1 hs <;> cases s <;> cases hs

end Handle

namespace Request

variable {h : Handle} {v : World} {q : Request} {s : Setback}

/-- Whether a request is to transfer data. -/
def transfers : Request → Bool
  | read .. | readVec .. | write .. => true
  | setDestination _ | joinGroup .. | reconnect .. => false

/-- **A request meets with a setback**: among what happens when it is made of a handle is a call
that failed, of the system or of the session of the handle. -/
structure Meets (h : Handle) (v : World) (q : Request) (s : Setback) : Prop where
  of : s.Of h
  happened : ∃ es, (q.on h v).2.journal = v.journal ++ es ∧ s.event ∈ es

/-- **A request recognises a setback**: it fails with its error, from which it is seen whether it
is a timeout; and the call that failed and one record are all that happens, a record for debugging
if it is a timeout and one of an error if not. -/
structure Recognises (h : Handle) (v : World) (q : Request) (s : Setback) : Prop where
  error_eq : (q.on h v).1.1 = some s.error
  isTimeout_eq : s.error.isTimeout = s.isTimeout
  journal_eq : ∃ message, (q.on h v).2.journal = v.journal ++ [s.event, .record v.sink
    (if s.isTimeout then .debug else .error) message]

/-- **Transfers take their course** on a handle that owns a descriptor.

**Proof sketch.** Each of the three transfers goes in one of the ways that transfers go, and these
are all a course (`Goes.course`). -/
theorem course {fd : Descriptor} (hfd : h.descriptor = some fd) (v : World)
    (hq : q.transfers = true) : h.Course v (q.on h v).1.1 (q.on h v).2.journal := by
  cases q with
  | read buffer side flags => exact (Handle.goes_read hfd v buffer side flags).course
  | readVec length side flags => exact (Handle.goes_readVec hfd v length side flags).course
  | write data side flags => exact (Handle.goes_write hfd v data side flags).course
  | setDestination | joinGroup | reconnect => exact nomatch hq

/-- A setback is met with in the course of a transfer only if that is the failure of the
transfer.

**Proof sketch.** In a smooth course no setback is met with. Otherwise the events of the course are
a call and a record, so the setback that is met with is the one of the course (`eq_of_event`), whose
failure is what the transfer answers. -/
lemma Meets.recognises (hcourse : h.Course v (q.on h v).1.1 (q.on h v).2.journal)
    (hmeets : q.Meets h v s) (hseen : ¬ s.Veiled) : q.Recognises h v s := by
  obtain ⟨hs, es, hes, hmem⟩ := hmeets
  cases hcourse with
  | smooth es' hes' hno _ =>
    obtain rfl : es = es' := List.append_cancel_left (hes.symm.trans hes')
    exact absurd hmem (hno s)
  | setback t message ht hfailure hes' =>
    -- There is one call among the events, so that the setback is the one of the course.
    obtain rfl := List.append_cancel_left (hes.symm.trans hes')
    have hevent : s.event = t.event := by
      obtain h | h := List.mem_pair.1 hmem
      · exact h
      · cases s <;> exact nomatch h
    obtain rfl := Setback.eq_of_event hs ht hevent
    have htimeout := Setback.isTimeout_error hseen
    exact ⟨hfailure, htimeout, message, htimeout ▸ hes'⟩

/-- A transfer that makes sense, and has its buffer, fails with a setback that it meets with. -/
lemma exists_meets (hcourse : h.Course v (q.on h v).1.1 (q.on h v).2.journal) {e : Error}
    (he : (q.on h v).1.1 = some e) (hmisuse : e.isMisuse = false)
    (hbuffer : ∀ n, e ≠ .allocation n) : ∃ s, q.Meets h v s ∧ e = s.error := by
  cases hcourse with
  | smooth es _ _ hfailure =>
    obtain htrue | ⟨n, hn⟩ := hfailure e he
    · exact nomatch hmisuse.symm.trans htrue
    · exact absurd hn (hbuffer n)
  | setback s message hs hfailure hes =>
    exact ⟨s, ⟨hs, _, hes, List.mem_cons_self⟩, Option.some.inj (he.symm.trans hfailure)⟩

end Request

/-! ## Runs -/

namespace Run

/-- **Timeouts are recognised.** However the library was used before, and whatever the world is
then: where a call fails under a transfer on any handle, the transfer fails with it, and tells by
its error and by its record whether that is a timeout, unless it is a session that could not wait;
and a transfer that makes sense, and has its buffer, fails for no other reason.

**Proof sketch.** Every handle of a run owns a descriptor (`held_steps`), so its transfers take
their course (`course`). In a course there is one setback at most, and it is the failure
(`Meets.recognises`); a failure that is neither a misuse nor a missing buffer is that of a setback
(`exists_meets`). -/
theorem recognises_of_meets (w : World) (ss : List Step) (v : World) :
    ∀ p ∈ ((start w).steps ss).table, ∀ q : Request, q.transfers = true →
      (∀ s, q.Meets p.2 v s → ¬ s.Veiled → q.Recognises p.2 v s) ∧
        ∀ e, (q.on p.2 v).1.1 = some e → e.isMisuse = false → (∀ n, e ≠ .allocation n) →
          ∃ s, q.Meets p.2 v s ∧ e = s.error := by
  intro p hp q hq
  obtain ⟨fd, hfd, -, -⟩ := (held_steps w ss).2 _ hp
  have hcourse := Request.course hfd v hq
  exact ⟨fun s hmeets => hmeets.recognises hcourse, fun e => Request.exists_meets hcourse⟩

/-- A read that could not wait is recognised. -/
theorem recognises_waiting :
    ∃ (ss : List Step) (v : World) (q : Request) (s : Setback),
      ∃ _ : 0 < ((start {}).steps ss).table.length, q.transfers = true ∧
        q.Meets (((start {}).steps ss).table[0]).2 v s ∧ ¬ s.Veiled ∧ s.isTimeout = true ∧
          q.Recognises (((start {}).steps ss).table[0]).2 v s := by
  obtain ⟨hrecognised, hfails⟩ := recognises_of_meets {}
    [.bind "a" .own (some "127.0.0.1") "5000" .tcp {}]
    { kernel := { faults := Kernel.moreFaults (fun _ => []) [(.recv, [11])] } } _
    (List.getElem_mem (n := 0) (by decide +kernel)) (.read (Handle.zeroed 16) none .empty) rfl
  obtain ⟨s, hmeets, hs⟩ := hfails (.system "recv" (.os 11)) (by decide +kernel) rfl nofun
  cases s with
  | call c n =>
    obtain rfl : 11 = n := Fault.os.inj (Error.system.inj hs).2
    exact ⟨_, _, _, _, _, rfl, hmeets, id, rfl, hrecognised _ hmeets id⟩
  | session => exact nomatch hs

/-- A read through a session that could not wait is not recognised. -/
theorem not_every_timeout_is_recognised :
    ¬ ∀ (w : World) (ss : List Step) (v : World), ∀ p ∈ ((start w).steps ss).table,
      ∀ q : Request, q.transfers = true → ∀ s, q.Meets p.2 v s → q.Recognises p.2 v s := by
  intro hall
  have hmem := List.getElem_mem (n := 0) (show 0 < ((start { own := {
      provider := .scripted [.ok { reads := [fun _ => .error (.record (.os 11))] }] } }).steps
        [.connect "c" .own "127.0.0.1" "8443" .tcp { tls := .lax }]).table.length
    by decide +kernel)
  obtain ⟨fd, hfd, -, -⟩ := (held_steps _ _).2 _ hmem
  obtain ⟨s, hmeets, hs⟩ := Request.exists_meets (e := .tls (.record (.os 11)))
    (Request.course (q := .read [0, 0, 0, 0] none .empty) hfd {} rfl) (by decide +kernel) rfl nofun
  have hseen := (hall _ _ {} _ hmem _ rfl s hmeets).isTimeout_eq
  cases s with
  | call => exact nomatch hs
  | session fd' c e =>
    obtain rfl := Error.tls.inj hs
    exact nomatch hseen

end Run

end Sockets
