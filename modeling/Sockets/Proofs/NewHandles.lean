import Sockets.Builder
import Sockets.Proofs.Talks
import Sockets.Proofs.Tending

/-!
# New handles on the books

An operation that opens a handle either succeeds, and then the handle is on the books and has the
shape that the operation gives it, or it fails, and then the books are what they were.

## Main definitions

* `Sockets.Handle.Connected`, `Sockets.Handle.Bound`, `Sockets.Handle.Paired` — the shapes of new
  handles.
* `Sockets.Handle.Made` — how an operation that opens a handle leaves the books.

## Main results

* `Sockets.Net.leads_connect`, `Sockets.Net.leads_bind`, `Sockets.Net.leads_accept`,
  `Sockets.Net.leads_socketpair` — opening handles.
* `Sockets.Builder.leads_connect`, `Sockets.Builder.leads_bind`, `Sockets.Builder.leads_listen` —
  opening them with a builder.
-/

set_option autoImplicit false

namespace Sockets

open Net (Leads)

/-! ## Sessions -/

namespace Net

variable {stray : Prop} {H : Holdings} {fd : Descriptor}

/-- How a negotiation leaves the books: with a session on the descriptor, or as they were. -/
def Secured (stray : Prop) (H : Holdings) (fd : Descriptor) :
    Except TlsError Tls.Session → World → Prop :=
  Books.OrKept stray (Function.update H fd (some {})) fun _ w =>
    Books stray w (Function.update H fd (some { session := true }))

/-- **A negotiation** puts a session on the books, or leaves them.

**Proof sketch.** What comes before the end of a negotiation, and behind it, does nothing that the
books keep. In between there is at most one note: that of a session puts it on the books, and that
of a failure leaves them. -/
lemma Negotiates.secured {c : TlsCall} {q : Tls.Provider} {v w : World}
    {answer : Except TlsError Tls.Session} (hn : Negotiates fd c q v answer w)
    (hc : c.negotiates = true)
    (hv : Books stray v (Function.update H fd (some {}))) : Secured stray H fd answer w := by
  have hidle {kinds : List CallKind} {u u' : World} {H' : Holdings} (hu : Books stray u H')
      (honward : u.Onward (Event.Within kinds) u') (hk : ∀ k ∈ kinds, k ∉ Event.active) :
      Books stray u' H' :=
    hu.onward (honward.mono fun _ he => he.idle hk)
  cases hn with
  | failed hw => exact hidle hv hw (by decide)
  | @answered _ u _ hu _ hw =>
    have hbooks := hidle hv hu (by decide)
    have ha := World.Adds.note (w := u) (.tls fd c (.ofSession answer)) rfl
    cases answer with
    | ok s =>
      have hd := hbooks.deed ha rfl
        (by simp [Event.target?, TlsOutcome.ofSession, TlsCall.deed?_secured hc])
        (Function.update_self ..) (.secured rfl)
      rw [Function.update_idem] at hd
      exact hidle hd hw (by simp)
    | error e =>
      refine hidle (hbooks.idle_event ha ⟨rfl, ?_⟩) hw (by simp)
      simp [Event.target?, TlsOutcome.ofSession, TlsCall.deed?_failed hc]

/-- Negotiating as a client puts a session on the books, or leaves them. -/
lemma leads_negotiateClient (scope : Scope) (host : String) (strict : Bool) :
    Leads (fun w => Books stray w (Function.update H fd (some {})))
      (negotiateClient scope fd host strict).run (Secured stray H fd) :=
  fun v hv => (negotiates_client scope fd host strict v).secured rfl hv

/-- Negotiating as a server puts a session on the books, or leaves them. -/
lemma leads_negotiateServer (scope : Scope) :
    Leads (fun w => Books stray w (Function.update H fd (some {})))
      (negotiateServer scope fd).run (Secured stray H fd) :=
  fun v hv => (negotiates_server scope fd v).secured rfl hv

/-- A new descriptor gets a session just if the flags ask for one; where there is none to be had
the descriptor is closed.

**Proof sketch.** By whether a session is asked for. If it is, the negotiation has it on the books
of the descriptor, or else the descriptor is closed and off the books again. -/
lemma leads_sessionFor (hfd : H fd = none) (flags : Flags) (what : String)
    {negotiation : Attempt TlsError Tls.Session}
    (hn : Leads (fun w => Books stray w (Function.update H fd (some {}))) negotiation.run
      (Secured stray H fd)) :
    Leads (fun w => Books stray w (Function.update H fd (some {})))
      (sessionFor fd flags what negotiation).run (Books.OrKept stray H fun session w =>
        session.isSome = flags.tls.enabled ∧
          Books stray w (Function.update H fd (some { session := session.isSome }))) := by
  unfold sessionFor
  split
  · rename_i he
    refine .run_lift_bind hn fun r => ?_
    cases r with
    | ok session => exact .run_pure _ fun _ hw => ⟨he.symm, hw⟩
    | error e =>
      refine .run_lift_bind (Books.leads_record _ _) fun _ => ?_
      exact .run_lift_bind (Books.leads_discard_opened hfd) fun _ => .run_throw _ fun _ hw => hw
  · rename_i he
    exact .run_pure _ fun _ hw => ⟨by simpa using he, hw⟩

end Net

/-! ## Shapes -/

/-- Asking for the host text leaves the address. -/
@[simp] lemma Endpoint.address_host (e : Endpoint) : e.host.2.address = e.address := by
  unfold host
  split <;> rfl

/-- Asking for the port leaves the address. -/
@[simp] lemma Endpoint.address_port (e : Endpoint) : e.port.2.address = e.address := by
  unfold port
  split <;> rfl

namespace Handle

/-- A new handle with both ends of its connection known, and a session if it is encrypted. -/
structure Connected (p : Protocol) (tls : TlsMode) (h : Handle) : Prop where
  protocol_eq : h.protocol = p
  tls_eq : h.flags.tls = tls
  near_known : h.near.address.isSome = true
  far_known : h.far.address.isSome = true
  session_eq : h.session.isSome = tls.enabled

/-- A new handle with only its own end known, in no group and without a session. -/
structure Bound (p : Protocol) (tls : TlsMode) (h : Handle) : Prop where
  protocol_eq : h.protocol = p
  tls_eq : h.flags.tls = tls
  near_known : h.near.address.isSome = true
  far_unknown : h.far.address = none
  membership_eq : h.membership = none
  session_eq : h.session = none

/-- A new handle of a pair: it knows no address, and there is nothing about it. -/
structure Paired (h : Handle) : Prop where
  protocol_eq : h.protocol = .unix
  flags_eq : h.flags = {}
  near_unknown : h.near.address = none
  far_unknown : h.far.address = none
  membership_eq : h.membership = none
  session_eq : h.session = none

/-- How an operation that opens a handle leaves the books: with the handle, of some shape, on a
descriptor that was not on them, or as they were. -/
def Made (stray : Prop) (H : Holdings) (shape : Handle → Prop) :
    Except Error Handle → World → Prop :=
  Books.OrKept stray H fun h w => shape h ∧ ∃ fd, H fd = none ∧ Tended stray H fd h h w

/-- A handle that was just made. -/
def plain (id : Nat) (fd : Descriptor) (p : Protocol) (flags : Flags)
    (session : Option Tls.Session) : Handle :=
  ⟨id, some fd, p, flags, {}, {}, session, none⟩

variable {stray : Prop} {H : Holdings} {fd : Descriptor}

/-- A handle is made on a descriptor with what is on its books. -/
lemma leads_create (p : Protocol) (flags : Flags) (session : Option Tls.Session)
    (hs : session.isSome = flags.tls.enabled ∨ session = none) :
    Leads (fun w => Books stray w (Function.update H fd (some { session := session.isSome })))
      (create fd p flags.requested session) fun h w =>
        (∃ id, h = plain id fd p flags.requested session) ∧ Tended stray H fd h h w := by
  intro w hw
  refine ⟨⟨w.nextId, rfl⟩, rfl, ⟨?_, ?_, ?_⟩, .refl _, ?_⟩
  · exact ⟨nofun, nofun⟩
  · exact TlsMode.enabled_of_isStrict _
  · intro h
    rcases hs with hs | rfl
    · exact hs.symm.trans h
    · exact nomatch h
  · exact hw.aside rfl rfl rfl

/-- An operation on a new handle leaves the handle on the books, or if it fails, the books as they
were before there was the handle. -/
lemma leads_settle {α : Type} {g : Handle} {x : Act α} {S : Except Error α × Handle → Prop}
    (hfd : H fd = none) (hx : Leads (Tended stray H fd g g) (x.on g)
      fun q w => S q ∧ Tended stray H fd g q.2 w) :
    Leads (Tended stray H fd g g) (g.settle x).run (Books.OrKept stray H fun q w =>
      S (.ok q.1, q.2) ∧ g.Same q.2 ∧ Tended stray H fd q.2 q.2 w) := by
  refine .settle hx (fun a h w hw => ⟨hw.1, hw.2.same, hw.2.self⟩) fun e h => .of_and fun _ => ?_
  refine leads_drop.weaken (fun _ hw => hw) fun _ w hw => ?_
  rwa [Function.update_eq_self_iff.2 hfd.symm] at hw

end Handle

namespace Net

variable {stray : Prop} {H : Holdings} {fd : Descriptor}

/-- **Connecting** makes a handle with both ends known, or leaves the books.

**Proof sketch.** A descriptor is connected and gets its session, each of which leaves it closed
where it fails. The handle that is made of both then asks for the addresses of its ends; if that
succeeds both are known, and joining the group of the peer changes neither. -/
theorem leads_connect (scope : Scope) (host service : String) (p : Protocol) (flags : Flags) :
    Leads (fun w => Books stray w H) (connect scope host service p flags).run
      (Handle.Made stray H (Handle.Connected p flags.tls)) := by
  refine .run_bind (Opening.leads_connect _ _ _ _) (fun fd => .of_and fun hfd => ?_)
    fun _ _ hw => hw
  refine .run_bind (leads_sessionFor hfd _ _ (leads_negotiateClient _ _ _))
    (fun session => .of_and fun hs => ?_) fun _ _ hw => hw
  refine .run_lift_bind (Handle.leads_create p flags session (.inl hs)) fun g => .of_and ?_
  rintro ⟨id, rfl⟩
  refine .run_bind (Handle.leads_settle (S := fun q => q.1 = .ok () →
    q.2.near.address.isSome = true ∧ q.2.far.address.isSome = true) hfd ?_) ?_ fun _ _ hw => hw
  · refine Handle.Act.leads_bind Handle.leads_refreshNear (fun _ h => .of_and fun hnear => ?_)
      fun _ _ _ hw => ⟨nofun, hw.2⟩
    refine Handle.Act.leads_bind Handle.leads_refreshFar (fun _ i => .of_and fun hfar => ?_)
      fun _ _ _ hw => ⟨nofun, hw.2⟩
    have hkept : i.near = h.near := by
      have hnear' := congrArg Handle.near hfar.1
      exact hnear'
    refine Handle.leads_joinPeer.weaken (fun _ hw => hw) fun q w hw => ⟨fun _ => ?_, hw.2⟩
    rw [hw.1.1, hw.1.2, hkept]
    exact ⟨hnear.2 rfl, hfar.2 rfl⟩
  · rintro ⟨-, h⟩
    refine .of_and fun hknown => .of_and fun hsame => ?_
    obtain ⟨hnear, hfar⟩ := hknown rfl
    refine .run_lift_bind (Handle.Tended.leads_record _ _) fun _ => .run_pure h fun w hw => ?_
    exact ⟨⟨hsame.protocol_eq, hsame.tls_eq, hnear, hfar, hsame.session_eq.trans hs⟩, fd, hfd, hw⟩

/-- **Binding** makes a handle with only its own end known, or leaves the books.

**Proof sketch.** A descriptor is bound, and the handle made of it has no session. Asking for its
own address is all that is done to it before it is answered, so nothing else about it is known. -/
theorem leads_bind (scope : Scope) (host : Option String) (service : String) (p : Protocol)
    (flags : Flags) : Leads (fun w => Books stray w H) (bind scope host service p flags).run
      (Handle.Made stray H (Handle.Bound p flags.tls)) := by
  refine .run_bind (Opening.leads_bind _ _ _ _) (fun fd => .of_and fun hfd => ?_)
    fun _ _ hw => hw
  refine .run_lift_bind (Handle.leads_create p flags none (.inr rfl)) fun g => .of_and ?_
  rintro ⟨id, rfl⟩
  refine .run_bind (Handle.leads_settle hfd Handle.leads_refreshNear) ?_ fun _ _ hw => hw
  rintro ⟨-, h⟩
  refine .of_and fun hnear => .of_and fun hsame => ?_
  have hfields : h = (Handle.plain id fd p flags.requested none).moved h.near {} := hnear.1
  dsimp only
  rcases hhost : h.near.host with ⟨text, near⟩
  have haddress : near.address = h.near.address := by rw [← h.near.address_host, hhost]
  refine .run_lift_bind (Handle.Tended.leads_record _ _) fun _ => .run_pure _ fun w hw => ?_
  refine ⟨⟨hsame.protocol_eq, hsame.tls_eq, ?_, ?_, ?_, ?_⟩, fd, hfd, (hw.moved near h.far).self⟩
  · rw [haddress]
    exact hnear.2 rfl
  · exact congrArg (fun i => i.far.address) hfields
  · exact congrArg Handle.membership hfields
  · exact congrArg Handle.session hfields

/-- **Accepting** makes a handle with both ends known that is encrypted as the one it was accepted
on, or leaves the books.

**Proof sketch.** A descriptor is accepted and gets its session. The address of the peer came with
it, so only that of the near end is asked for; the settings are those that can be asked for of the
listener, which are in no group. -/
theorem leads_accept (scope : Scope) (listener : Handle) :
    Leads (fun w => Books stray w H) (accept scope listener).run
      (Handle.Made stray H fun h =>
        h.Connected listener.protocol listener.flags.tls ∧ h.flags.joined = false) := by
  unfold accept
  split
  · exact .run_throw _ fun _ hw => hw
  refine .run_bind (Books.leads_require (Books.leads_accept _)) ?_ fun _ _ hw => hw
  rintro ⟨fd, peer⟩
  refine .of_and fun hfd => ?_
  refine .run_bind (leads_sessionFor hfd _ _ (leads_negotiateServer _))
    (fun session => .of_and fun hs => ?_) fun _ _ hw => hw
  refine .run_lift_bind (Handle.leads_create _ listener.flags session (.inl hs))
    fun g => .of_and ?_
  rintro ⟨id, rfl⟩
  set g := Handle.plain id fd listener.protocol listener.flags.requested session
  refine .run_bind (Handle.leads_settle (S := fun q => q.1 = .ok () →
    q.2.near.address.isSome = true ∧ q.2 = g.moved q.2.near (.ofAddress peer)) hfd ?_) ?_
    fun _ _ hw => hw
  · refine Handle.Act.leads_modify_bind (Handle.leads_refreshNear.weaken
      (fun _ hw => hw.moved g.near (.ofAddress peer)) fun q w hw => ⟨fun hq => ?_, hw.2⟩)
    exact ⟨hw.1.2 hq, hw.1.1⟩
  · rintro ⟨-, h⟩
    refine .of_and fun hshape => .of_and fun hsame => ?_
    obtain ⟨hnear, hfields⟩ := hshape rfl
    dsimp only
    rcases hhost : h.far.host with ⟨text, far⟩
    have haddress : far.address = h.far.address := by rw [← h.far.address_host, hhost]
    refine .run_lift_bind (Handle.Tended.leads_record _ _) fun _ => .run_pure _ fun w hw => ?_
    refine ⟨⟨⟨hsame.protocol_eq, hsame.tls_eq, hnear, ?_, hsame.session_eq.trans hs⟩, ?_⟩,
      fd, hfd, (hw.moved h.near far).self⟩
    · rw [haddress]
      exact congrArg (fun i => i.far.address.isSome) hfields
    · exact congrArg (fun i => i.flags.joined) hfields

/-- **A pair** is two handles, each on a descriptor of its own, or leaves the books.

**Proof sketch.** Both descriptors are opened by one call. Each handle is made on its own while the
other descriptor is on the books with nothing held on it; the updates of the books commute, since
the descriptors differ. -/
theorem leads_socketpair :
    Leads (fun w => Books stray w H) socketpair.run (Books.OrKept stray H fun q w =>
      (q.1.Paired ∧ q.2.Paired) ∧ ∃ a b, (a ≠ b ∧ H a = none ∧ H b = none) ∧
        Handle.Tended stray (Function.update H b (some q.2.holding)) a q.1 q.1 w ∧
        Handle.Tended stray (Function.update H a (some q.1.holding)) b q.2 q.2 w) := by
  refine .run_bind (Books.leads_require (Books.leads_socketpair _ _ _)) ?_ fun _ _ hw => hw
  rintro ⟨a, b⟩
  refine .of_and fun hab => ?_
  have hcomm (j k : Holding) : Function.update (Function.update H a (some j)) b (some k) =
      Function.update (Function.update H b (some k)) a (some j) :=
    Function.update_comm hab.1 _ _ _
  dsimp only
  rw [hcomm]
  refine .run_lift_bind (Handle.leads_create .unix {} none (.inr rfl)) fun g => .of_and ?_
  rintro ⟨i, rfl⟩
  refine .assuming (fun _ hw => hw.wellFormed) fun hwf => ?_
  set g := Handle.plain i a .unix (Flags.requested {}) none
  have hsecond : Leads (Handle.Tended stray (Function.update H b (some {})) a g g)
      (Handle.create b .unix {} none) fun h w =>
        (∃ j, h = Handle.plain j b .unix (Flags.requested {}) none) ∧
          Handle.Tended stray (Function.update H a (some {})) b h h w := by
    refine (Handle.leads_create .unix {} none (.inr rfl)).weaken (fun w hw => ?_) fun _ _ hw => hw
    rw [hcomm]
    exact hw.books
  refine .run_lift_bind hsecond fun h => .of_and ?_
  rintro ⟨j, rfl⟩
  refine .run_lift_bind (Handle.Tended.leads_record _ _) fun _ => .run_pure _ fun w hw => ?_
  refine ⟨⟨⟨rfl, rfl, rfl, rfl, rfl, rfl⟩, ⟨rfl, rfl, rfl, rfl, rfl, rfl⟩⟩, a, b, hab, ?_, hw⟩
  refine ⟨rfl, hwf, .refl g, ?_⟩
  rw [← hcomm]
  exact hw.books

/-- Letting a handle wait for connections does nothing to descriptors. -/
lemma made_listen (scope : Scope) (h : Handle) :
    Made [.listen] (listen scope h).run := by
  refine .run_bind (.run_lift (.context scope)) fun c => ?_
  dsimp only
  split
  · exact .run_throw _
  · exact made_require _ _ (List.mem_singleton.2 rfl)

end Net

/-! ## Builders -/

namespace Builder

variable {stray : Prop} {H : Holdings} (b : Builder)

/-- The shape of a handle that a builder bound: it has no session, and if no group was asked for it
is just bound. -/
structure Receiving (h : Handle) : Prop where
  protocol_eq : h.protocol = b.protocol
  tls_eq : h.flags.tls = b.flags.tls
  session_eq : h.session = none
  bound : b.group = none → h.Bound b.protocol b.flags.tls

/-- Tracing does nothing to descriptors. -/
lemma only_trace (what : String) : Net.Only Event.Idle (b.trace what) := by
  unfold trace
  split
  · exact .note rfl ⟨rfl, rfl⟩
  · exact .pure _

/-- Connecting with a builder makes a handle as connecting does. -/
theorem leads_connect (host service : String) :
    Leads (fun w => Books stray w H) (b.connect host service).run
      (Handle.Made stray H (Handle.Connected b.protocol b.flags.tls)) :=
  .run_lift_bind (Books.leads_idle (b.only_trace _)) fun _ => Net.leads_connect _ _ _ _ _

/-- Joining the group that was asked for tends a handle. -/
lemma leads_joinChosen {fd : Descriptor} {g h : Handle} (c : GroupChoice) :
    Leads (Handle.Tended stray H fd g h) ((b.joinChosen c).on h)
      fun q w => Handle.Tended stray H fd g q.2 w := by
  unfold joinChosen
  split
  · exact Handle.Act.leads_throw _ fun _ hw => hw
  · refine Handle.Act.leads_bind (Handle.leads_joinGroup _ _) (fun _ i => ?_) fun _ _ _ hw => hw
    exact Handle.Act.leads_ofNet (Handle.Tended.leads_idle (b.only_trace _))

/-- Binding with a builder makes a handle without a session, which is bound as binding does it if
no group was asked for, or leaves the books.

**Proof sketch.** Binding gives a handle as it does without a builder. If a group was asked for, the
handle tries to join it, which keeps its transport, its settings for encryption and its want of a
session. -/
theorem leads_bind (host : Option String) (service : String) :
    Leads (fun w => Books stray w H) (b.bind host service).run
      (Handle.Made stray H b.Receiving) := by
  refine .run_lift_bind (Books.leads_idle (b.only_trace _)) fun _ => ?_
  refine .run_bind (Net.leads_bind _ _ _ _ _) (fun h => .of_and fun hbound => ?_) fun _ _ hw => hw
  have hbound' : b.Receiving h :=
    ⟨hbound.protocol_eq, hbound.tls_eq, hbound.session_eq, fun _ => hbound⟩
  cases hg : b.group with
  | none => exact .run_pure h fun w hw => ⟨hbound', hw⟩
  | some c =>
    refine .of_exists fun fd => .of_and fun hfd => ?_
    refine .run_bind (Handle.leads_settle (S := fun _ => True) hfd
      ((b.leads_joinChosen c).weaken (fun _ hw => hw) fun _ _ hw => ⟨trivial, hw⟩))
      (fun q => .of_and fun _ => .of_and fun hsame => ?_) fun _ _ hw => hw
    refine .run_pure q.2 fun w hw => ⟨⟨?_, ?_, ?_, ?_⟩, fd, hfd, hw⟩
    · exact hsame.protocol_eq.trans hbound.protocol_eq
    · exact hsame.tls_eq.trans hbound.tls_eq
    · rw [← Option.not_isSome_iff_eq_none, hsame.session_eq, hbound.session_eq]
      exact Bool.false_ne_true
    · simp [hg]

/-- Listening with a builder makes a handle as binding with it does, or leaves the books.

**Proof sketch.** Binding with the builder makes the handle. Listening changes nothing of it and is
idle on the books, and if it fails the handle is dropped. -/
theorem leads_listen (host service : String) :
    Leads (fun w => Books stray w H) (b.listen host service).run
      (Handle.Made stray H b.Receiving) := by
  refine .run_bind (b.leads_bind _ _) (fun h => .of_and fun hshape => ?_) fun _ _ hw => hw
  refine .of_exists fun fd => .of_and fun hfd => ?_
  refine .run_bind (Handle.leads_settle (S := fun q => q.2 = h) hfd ?_) ?_ fun _ _ hw => hw
  · have hlisten : Net.Only Event.Idle (Net.listen b.scope h).run :=
      ((Net.made_listen _ _).only.idle (by decide))
    exact Handle.Act.leads_ofAttempt ((Handle.Tended.leads_idle hlisten).weaken
      (fun _ hw => hw) fun _ _ hw => ⟨rfl, hw⟩)
  · rintro ⟨-, i⟩
    refine .of_and fun hi => .of_and fun _ => ?_
    obtain rfl : i = h := hi
    exact .run_pure i fun w hw => ⟨hshape, fd, hfd, hw⟩

end Builder

end Sockets
