import Sockets.Proofs.DescriptorLedger
import Sockets.Proofs.Providers

/-!
# New handles and their sessions

An operation that opens a handle asks the provider for a session at most once, and on the descriptor
that it has just opened. If there is none to be had, that is the end of it, before the descriptor is
asked for an address. If there is one, the new handle has it, or if something fails before there is
a new handle, the session is shut down.

## Main definitions

* `Sockets.Event.Preparing` — what may happen before there is a session.
* `Sockets.World.Opens` — a descriptor is opened on the way from one world to another.
* `Sockets.Net.Arranged` — how an operation that opens a handle deals with sessions.

## Main results

* `Sockets.Net.arranged_connect`, `Sockets.Net.arranged_accept`, `Sockets.Net.arranged_bind` — and
  the same with a builder.
-/

set_option autoImplicit false

namespace Sockets

open Event (Within)
open Net (Leads Only)
open World (Told Backed)

/-- What an operation leads to in two respects. -/
lemma Net.Leads.and {α : Type} {P P' : World → Prop} {Q Q' : α → World → Prop} {x : Net α}
    (h : Leads P x Q) (h' : Leads P' x Q') :
    Leads (fun w => P w ∧ P' w) x fun a w => Q a w ∧ Q' a w :=
  fun w hw => ⟨h w hw.1, h' w hw.2⟩

/-! ## Before there is a session -/

/-- What may happen before there is a session: no descriptor is asked for an address, and no session
or provider is called but for a negotiation that fails. -/
def Event.Preparing : Event → Prop
  | call c _ => c.kind ≠ .getsockname ∧ c.kind ≠ .getpeername
  | tls _ c outcome => c.negotiates = true ∧ outcome = .failed
  | query _ | record .. | trace _ => True

/-- System calls of most kinds may happen before there is a session. -/
lemma Event.Within.preparing {kinds : List CallKind} {e : Event} (he : e.Within kinds)
    (hk : CallKind.getsockname ∉ kinds ∧ CallKind.getpeername ∉ kinds) : e.Preparing := by
  cases e with
  | call c outcome => exact ⟨fun h => hk.1 (h ▸ he), fun h => hk.2 (h ▸ he)⟩
  | tls => exact he.elim
  | query | record | trace => trivial

namespace World

variable {α : Type} {u v w : World} {fd : Descriptor} {ds : List Dealing}

/-- A descriptor is opened on the way from one world to another, and not before. -/
def Opens (u w : World) (fd : Descriptor) : Prop := .opened ∉ u.life fd ∧ .opened ∈ w.life fd

/-- A descriptor that was opened on the first part of the way. -/
lemma Opens.trans (h : u.Opens v fd) (hw : v.Told ds w) : u.Opens w fd := by
  obtain ⟨more, hmore⟩ := hw.exists_life_eq fd
  exact ⟨h.1, by rw [hmore]; exact List.mem_append_left _ h.2⟩

/-- The way to a world on which nothing was said to sessions yet. -/
structure Poised (u w : World) : Prop where
  onward : u.Onward Event.Preparing w
  told : u.Told [] w

/-- The way goes on by system calls, records and queries. -/
lemma Poised.onward_within {kinds : List CallKind} (hv : u.Poised v)
    (hw : v.Onward (Within kinds) w)
    (hk : CallKind.getsockname ∉ kinds ∧ CallKind.getpeername ∉ kinds) : u.Poised w :=
  ⟨hv.onward.trans (hw.mono fun _ he => he.preparing hk), hv.told.trans_nil (Told.of_onward hw)⟩

/-- The way goes on by an operation that makes system calls, records and queries. -/
lemma Poised.leads_within {kinds : List CallKind} {x : Net α} (hx : Only (Within kinds) x)
    (hk : CallKind.getsockname ∉ kinds ∧ CallKind.getpeername ∉ kinds) :
    Leads u.Poised x fun _ => u.Poised :=
  fun w hw => hw.onward_within (hx w) hk

/-- The way to a world in which there is no session to be had: if the provider was asked for one, it
was on a descriptor that is opened on the way. -/
structure Denied (u w : World) : Prop where
  onward : u.Onward Event.Preparing w
  told : u.Told [] w ∨
    ∃ fd c, c.negotiates = true ∧ u.Opens w fd ∧ u.Told [⟨fd, c, .failed⟩] w

/-- Nothing is denied yet where nothing was said. -/
lemma Poised.denied (hw : u.Poised w) : u.Denied w := ⟨hw.onward, .inl hw.told⟩

/-- After a denial, the way goes on by system calls and records. -/
lemma Denied.leads_within {kinds : List CallKind} {x : Net α} (hx : Only (Within kinds) x)
    (hk : CallKind.getsockname ∉ kinds ∧ CallKind.getpeername ∉ kinds) :
    Leads u.Denied x fun _ => u.Denied := by
  intro w hw
  have htold := Told.of_only hx w
  refine ⟨hw.onward.trans ((hx w).mono fun _ he => he.preparing hk), ?_⟩
  rcases hw.told with hnil | ⟨fd, c, hc, ho, hd⟩
  · exact .inl (hnil.trans_nil htold)
  · exact .inr ⟨fd, c, hc, ho.trans htold, hd.trans_nil htold⟩

end World

/-! ## Fresh descriptors -/

section

variable {stray : Prop} {u w : World} {H H' : Holdings} {fd : Descriptor} {ds : List Dealing}

/-- A descriptor that is on the books was opened. -/
lemma Books.opened_mem (hw : Books stray w H) (hsome : (H fd).isSome = true) :
    .opened ∈ w.life fd := by
  obtain ⟨s, hs, hH⟩ := hw.bounds_eq fd
  cases s with
  | live k =>
    have hmem : Deed.opened ∈ (w.life fd).filter Deed.isBound := by rw [hs]; exact .head _
    exact (List.mem_filter.1 hmem).1
  | unopened | closed =>
    rw [← hH] at hsome
    exact nomatch hsome

/-- A descriptor that was not opened yet is not on the books. -/
lemma Books.eq_none_of_not_opened (hw : Books stray w H) (hno : .opened ∉ w.life fd) :
    H fd = none := by
  rw [← Option.not_isSome_iff_eq_none]
  exact fun hsome => hno (hw.opened_mem hsome)

/-- A descriptor that comes onto the books is opened on the way.

**Proof sketch.** A life that is on the books ends at the stage that the books hold. The descriptor
was unopened, live or closed before. If it was live the books held it, which they did not. If it was
closed its life, which only grows, could not be one of a descriptor that is open now. So it was
never opened before, and it is opened now. -/
lemma Books.opens (hu : Books stray u H) (hnone : H fd = none) (hw : Books stray w H')
    (hsome : (H' fd).isSome = true) (htold : u.Told ds w) : u.Opens w fd := by
  refine ⟨fun hmem => ?_, hw.opened_mem hsome⟩
  obtain ⟨s, hs, hH⟩ := hu.bounds_eq fd
  obtain ⟨t, ht, hH'⟩ := hw.bounds_eq fd
  obtain ⟨more, hmore⟩ := htold.exists_life_eq fd
  rw [hmore, List.filter_append, hs] at ht
  have hmem' : Deed.opened ∈ (u.life fd).filter Deed.isBound := List.mem_filter.2 ⟨hmem, rfl⟩
  rw [hs] at hmem'
  -- Before, the descriptor was closed; its life cannot be one of an open descriptor after that.
  cases s with
  | unopened => exact nomatch hmem'
  | live k =>
    rw [← hH] at hnone
    exact nomatch hnone
  | closed =>
    cases t with
    | live k => simp [Stage.bounds] at ht
    | unopened | closed =>
      rw [← hH'] at hsome
      exact nomatch hsome

/-- Where a descriptor is opened by system calls, it is opened on the way, and nothing is said to
sessions. -/
lemma World.Poised.leads_opened {ε α : Type} {x : Attempt ε α} {f : α → Descriptor}
    {kinds : List CallKind} (hu : Books stray u H) (hx : Only (Within kinds) x.run)
    (hk : CallKind.getsockname ∉ kinds ∧ CallKind.getpeername ∉ kinds)
    (hB : Leads (fun w => Books stray w H) x.run (Books.OrKept stray H fun a w =>
      H (f a) = none ∧ Books stray w (Function.update H (f a) (some {})))) :
    Leads (fun w => u.Poised w ∧ Books stray w H) x.run fun r w =>
      u.Poised w ∧ ∀ a, r = .ok a → u.Opens w (f a) := by
  intro w hw
  have hpoised := leads_within hx hk w hw.1
  refine ⟨hpoised, fun a hr => ?_⟩
  have hopened := hB w hw.2
  rw [hr] at hopened
  exact hu.opens hopened.1 hopened.2 (by simp) hpoised.told

end

/-! ## Negotiating -/

namespace Net

variable {scope : Scope} {q : Tls.Provider} {u : World} {fd : Descriptor}

/-- How a negotiation ends: with the session that the provider gives, or with none to be had. -/
def Answered (u : World) (q : Tls.Provider) (fd : Descriptor) :
    Except TlsError Tls.Session → World → Prop
  | .ok g, w => u.Opens w fd ∧ ∃ ds, q.Gave fd (some g) ds ∧ u.Told ds w
  | .error _, w => u.Denied w

/-- **A negotiation** gives a session that the provider gives, or none.

**Proof sketch.** A negotiation fails before the provider is asked or has its answer noted in the
journal. In the first case nothing was said; in the second the note is all that was said, and the
answer in it is a session that the provider gives, or a failure. -/
lemma Negotiates.settled {c : TlsCall} {v w : World} {answer : Except TlsError Tls.Session}
    (hn : Negotiates fd c q v answer w) (hc : c.negotiates = true) (hv : u.Poised v)
    (ho : u.Opens v fd) : Answered u q fd answer w := by
  have hk : CallKind.getsockname ∉ negotiating ∧ CallKind.getpeername ∉ negotiating := by decide
  cases hn with
  | failed hw => exact (hv.onward_within hw hk).denied
  | @answered _ v' _ hv' hgives hw =>
    have hpoised := hv.onward_within hv' hk
    have hopens : u.Opens v' fd := ho.trans (Told.of_onward hv')
    have htold (outcome : TlsOutcome) : v'.Told [⟨fd, c, outcome⟩]
        (v'.noting (.tls fd c outcome)) := ⟨_, rfl, rfl⟩
    cases answer with
    | ok g =>
      have hlast := (htold (.secured g)).trans_nil (Told.of_onward hw)
      exact ⟨hopens.trans hlast, _, .session (hgives g rfl) hc, hpoised.told.trans hlast⟩
    | error e =>
      have hlast := (htold .failed).trans_nil (Told.of_onward hw)
      have hfailed : v'.Onward Event.Preparing (v'.noting (.tls fd c .failed)) :=
        Only.note rfl ⟨hc, rfl⟩ v'
      have honward := hpoised.onward.trans
        (hfailed.trans (hw.mono fun _ he => he.preparing (by simp)))
      exact ⟨honward, .inr ⟨fd, c, hc, hopens.trans hlast, hpoised.told.trans hlast⟩⟩

/-- A client's negotiation gives a session that the provider gives, or none. -/
lemma answered_negotiateClient (host : String) (strict : Bool) :
    Leads (fun w => (u.Poised w ∧ u.Opens w fd) ∧ w.Backed scope q)
      (negotiateClient scope fd host strict).run (Answered u q fd) := by
  rintro v ⟨⟨hv, ho⟩, rfl⟩
  exact (negotiates_client scope fd host strict v).settled rfl hv ho

/-- A server's negotiation gives a session that the provider gives, or none. -/
lemma answered_negotiateServer :
    Leads (fun w => (u.Poised w ∧ u.Opens w fd) ∧ w.Backed scope q)
      (negotiateServer scope fd).run (Answered u q fd) := by
  rintro v ⟨⟨hv, ho⟩, rfl⟩
  exact (negotiates_server scope fd v).settled rfl hv ho

/-- How a new descriptor gets a session: it does just if one is asked for, unless there is none to
be had. -/
def Secures (u : World) (q : Tls.Provider) (fd : Descriptor) (encrypted : Bool) :
    Except Error (Option Tls.Session) → World → Prop
  | .ok session, w => session.isSome = encrypted ∧ u.Opens w fd ∧
      ∃ ds, q.Gave fd session ds ∧ u.Told ds w
  | .error _, w => encrypted = true ∧ u.Denied w

/-- Where a session is asked for, the descriptor gets it or is closed.

**Proof sketch.** By whether a session is asked for. If it is, the negotiation settles what is
answered (`hn`), and a failure is recorded and the descriptor closed, neither of which says anything
to a session. If it is not, there is none and nothing is said. -/
lemma secures_sessionFor (flags : Flags) (what : String)
    {negotiation : Attempt TlsError Tls.Session}
    (hn : Leads (fun w => (u.Poised w ∧ u.Opens w fd) ∧ w.Backed scope q) negotiation.run
      (Answered u q fd)) :
    Leads (fun w => (u.Poised w ∧ u.Opens w fd) ∧ w.Backed scope q)
      (sessionFor fd flags what negotiation).run (Secures u q fd flags.tls.enabled) := by
  unfold sessionFor
  split
  · rename_i he
    refine .run_lift_bind hn fun r => ?_
    cases r with
    | ok g => exact .run_pure _ fun _ hw => ⟨he.symm, hw⟩
    | error e =>
      have hrecord : Only (Within []) (record .error (what ++ ": " ++ e.message)) := .record _ _
      have hdiscard : Only (Within [.close]) (discard fd) :=
        (made_discard fd (List.mem_singleton.2 rfl)).only
      refine .run_lift_bind (World.Denied.leads_within hrecord (by simp)) fun _ => ?_
      refine .run_lift_bind (World.Denied.leads_within hdiscard (by decide)) fun _ => ?_
      exact .run_throw _ fun _ hw => ⟨he, hw⟩
  · rename_i he
    exact .run_pure _ fun _ hw => ⟨by simpa using he, hw.1.2, [], .nothing, hw.1.1.told⟩

end Net

/-! ## New handles -/

/-- A handle that owns a descriptor which is opened on the way from one world to another, and has
the session that the descriptor got. -/
structure Handle.Equipped (u : World) (q : Tls.Provider) (encrypted : Bool) (h : Handle)
    (w : World) : Prop where
  encrypted_eq : h.session.isSome = encrypted
  enabled_of_session : h.session.isSome = true → h.flags.tls.enabled = true
  exists_gave : ∃ fd ds, h.descriptor = some fd ∧ q.Gave fd h.session ds ∧ u.Opens w fd ∧
    u.Told ds w

/-- How an operation that opens a handle, encrypted or not, deals with sessions: it fails before any
is asked for, or there is none to be had, or the descriptor gets what it should and the handle is
made with it, or that fails and the last words are said. -/
inductive Net.Arranged (u : World) (q : Tls.Provider) (encrypted : Bool) :
    Except Error Handle → World → Prop
  | poised {e : Error} {w : World} (hw : u.Poised w) : Arranged u q encrypted (.error e) w
  | denied {e : Error} {w : World} (he : encrypted = true) (hw : u.Denied w) :
      Arranged u q encrypted (.error e) w
  | unwound {e : Error} {fd : Descriptor} {session : Option Tls.Session} {ds : List Dealing}
      {w : World} (hs : session.isSome = encrypted) (hg : q.Gave fd session ds)
      (ho : u.Opens w fd) (hw : u.Told (ds ++ Handle.lastWords fd session) w) :
      Arranged u q encrypted (.error e) w
  | made {h : Handle} {w : World} (hw : h.Equipped u q encrypted w) :
      Arranged u q encrypted (.ok h) w

namespace Handle

variable {α : Type} {u : World} {q : Tls.Provider} {encrypted : Bool} {g h : Handle}

/-- A handle stays equipped while nothing is said to sessions. -/
lemma Equipped.of_told {v w : World} (hv : h.Equipped u q encrypted v) (hw : v.Told [] w) :
    h.Equipped u q encrypted w := by
  obtain ⟨fd, ds, hfd, hg, ho, ht⟩ := hv.exists_gave
  exact ⟨hv.encrypted_eq, hv.enabled_of_session, fd, ds, hfd, hg, ho.trans hw, ht.trans_nil hw⟩

/-- A log record leaves a handle equipped. -/
lemma Equipped.leads_record (level : Level) (message : String) :
    Leads (h.Equipped u q encrypted) (Net.record level message)
      fun _ => h.Equipped u q encrypted :=
  fun _ hw => hw.of_told (Told.leads_record level message _ (.of_journal_eq rfl))

/-- A handle is made on a descriptor with the session that this got. -/
lemma equipped_create {fd : Descriptor} (p : Protocol) (flags : Flags)
    (session : Option Tls.Session) (hs : session.isSome = encrypted)
    (he : session.isSome = true → flags.tls.enabled = true) :
    Leads (fun w => u.Opens w fd ∧ ∃ ds, q.Gave fd session ds ∧ u.Told ds w)
      (create fd p flags session) fun h => h.Equipped u q encrypted := by
  rintro w ⟨ho, ds, hg, ht⟩
  have hcreate : w.Told [] (create fd p flags session w).2 := .of_journal_eq rfl
  exact ⟨hs, he, fd, ds, rfl, hg, ho.trans hcreate, ht.trans_nil hcreate⟩

/-- Where a handle is connected to has nothing to do with its session. -/
lemma Equipped.moved {w : World} (hw : h.Equipped u q encrypted w) (near far : Endpoint) :
    (h.moved near far).Equipped u q encrypted w :=
  ⟨hw.encrypted_eq, hw.enabled_of_session, hw.exists_gave⟩

/-- How an operation on a new handle leaves it: equipped, or if the operation fails, dropped. -/
def Settled (u : World) (q : Tls.Provider) (encrypted : Bool) :
    Except Error (α × Handle) → World → Prop
  | .ok (_, i), w => i.Equipped u q encrypted w
  | .error e, w => Net.Arranged u q encrypted (.error e) w

/-- A quiet operation on a new handle leaves it equipped, or if the operation fails, the last words
are said to its session.

**Proof sketch.** The operation says nothing and leaves the session and the descriptor (`hx`), so
that on success the handle is equipped as before. On failure the handle is dropped, and what is said
in that are the last words for its session (`told_drop`). -/
lemma equipped_settle {x : Act α} (hx : ∀ v fd,
    Leads (Quiet v [] fd h h) (x.on h) fun p => Quiet v [] fd h p.2) :
    Leads (h.Equipped u q encrypted) (h.settle x).run (Settled u q encrypted) := by
  intro w hw
  obtain ⟨fd, ds, hfd, hg, ho, ht⟩ := hw.exists_gave
  have hsettle : Leads (Quiet w [] fd h h) (h.settle x).run (Settled u q encrypted) := by
    refine .settle (hx w fd) (fun _ i v hv => ?_) fun e i v hv => ?_
    · have hsome : i.session.isSome = true → i.flags.tls.enabled = true := by
        rw [hv.session_eq, hv.tls_eq]
        exact hw.enabled_of_session
      refine ⟨?_, hsome, fd, ds, hv.descriptor_eq, ?_, ho.trans hv.told, ht.trans_nil hv.told⟩
      · rw [hv.session_eq]
        exact hw.encrypted_eq
      · rw [hv.session_eq]
        exact hg
    · have hdrop := told_drop hv.descriptor_eq (by
        rw [hv.session_eq, hv.tls_eq]
        exact hw.enabled_of_session) v hv.told
      rw [List.nil_append, hv.session_eq] at hdrop
      exact .unwound hw.encrypted_eq hg (ho.trans hdrop) (ht.trans hdrop)
  exact hsettle w (.self (.of_journal_eq rfl) hfd)

end Handle

namespace Net

variable {stray : Prop} {scope : Scope} {q : Tls.Provider} {u : World} {H : Holdings}

/-- **Connecting** asks for a session just if one is wanted, and deals with it as it should.

**Proof sketch.** Opening says nothing to a session and gives a descriptor that was not open before.
Then a session is got or the descriptor closed (`secures_sessionFor`). The handle that is made of
both is equipped, and stays so while it learns its ends (`equipped_settle`). -/
theorem arranged_connect (hu : Books stray u H) (host service : String) (p : Protocol)
    (flags : Flags) :
    Leads (fun w => (u.Poised w ∧ Books stray w H) ∧ w.Backed scope q)
      (connect scope host service p flags).run (Arranged u q flags.tls.enabled) := by
  have hopen := World.Poised.leads_opened (f := id) hu
    (Opening.made_connect scope host service p).only (by decide) (Opening.leads_connect _ _ _ _)
  refine .run_bind (hopen.and (Opening.made_connect _ _ _ _).backed) (fun fd => ?_)
    fun _ _ hw => .poised hw.1.1
  refine .run_bind ((secures_sessionFor _ _ (answered_negotiateClient _ _)).weaken
    (fun w hw => ⟨⟨hw.1.1, hw.1.2 fd rfl⟩, hw.2⟩) fun _ _ hw => hw) (fun session => ?_)
    fun _ _ hw => .denied hw.1 hw.2
  refine .of_and fun hs => ?_
  refine .run_lift_bind (Handle.equipped_create p flags.requested session hs
    fun h => hs.symm.trans h) fun g => ?_
  refine .run_bind (Handle.equipped_settle fun v fd => Handle.Quiet.frame.leads_arrival fun _ =>
    Handle.quiet_refreshFar) ?_ fun _ _ hw => hw
  rintro ⟨-, h⟩
  refine .run_lift_bind (Handle.Equipped.leads_record _ _) fun _ => ?_
  exact .run_pure _ fun _ hw => .made hw

/-- **Accepting** asks for a session just if the listener is encrypted, and deals with it as it
should.

**Proof sketch.** As for connecting (`arranged_connect`), with the one call that accepts in place of
opening, the other side of the negotiation, and the peer known from the call. -/
theorem arranged_accept (hu : Books stray u H) (listener : Handle) :
    Leads (fun w => (u.Poised w ∧ Books stray w H) ∧ w.Backed scope q)
      (accept scope listener).run (Arranged u q listener.flags.tls.enabled) := by
  unfold accept
  split
  · exact .run_throw _ fun _ hw => .poised hw.1.1
  rename_i waiting _
  have hcall : Made [.accept] (require "accept" (.accept waiting)).run :=
    made_require _ _ (List.mem_singleton.2 rfl)
  have hopen := World.Poised.leads_opened (f := Prod.fst) hu hcall.only (by decide)
    (Books.leads_require (Books.leads_accept waiting))
  refine .run_bind (hopen.and hcall.backed) ?_ fun _ _ hw => .poised hw.1.1
  rintro ⟨fd, peer⟩
  refine .run_bind ((secures_sessionFor _ _ answered_negotiateServer).weaken
    (fun w hw => ⟨⟨hw.1.1, hw.1.2 _ rfl⟩, hw.2⟩) fun _ _ hw => hw) (fun session => ?_)
    fun _ _ hw => .denied hw.1 hw.2
  refine .of_and fun hs => ?_
  refine .run_lift_bind (Handle.equipped_create _ listener.flags.requested session hs
    fun h => hs.symm.trans h) fun g => ?_
  refine .run_bind (Handle.equipped_settle fun v fd => ?_) ?_ fun _ _ hw => hw
  · exact Handle.Act.leads_bind (Handle.quiet_setFar _)
      (fun _ _ => Handle.Quiet.frame.leads_refreshNear) fun _ _ _ hw => hw
  · rintro ⟨-, h⟩
    dsimp only
    refine .run_lift_bind (Handle.Equipped.leads_record _ _) fun _ => ?_
    exact .run_pure _ fun _ hw => .made (hw.moved h.near h.far.host.2)

/-- **Binding** asks for no session.

**Proof sketch.** Opening says nothing, and no session is asked for, so that the handle is equipped
with none (`equipped_settle`). -/
theorem arranged_bind (hu : Books stray u H) (host : Option String) (service : String)
    (p : Protocol) (flags : Flags) :
    Leads (fun w => u.Poised w ∧ Books stray w H) (bind scope host service p flags).run
      (Arranged u q false) := by
  refine .run_bind (World.Poised.leads_opened (f := id) hu
    (Opening.made_bind scope host service p).only (by decide) (Opening.leads_bind _ _ _ _))
    (fun fd => ?_) fun _ _ hw => .poised hw.1
  refine .run_lift_bind ((Handle.equipped_create (q := q) p flags.requested none rfl nofun).weaken
    (fun w hw => ⟨hw.2 fd rfl, [], .nothing, hw.1.told⟩) fun _ _ hw => hw) fun g => ?_
  refine .run_bind (Handle.equipped_settle fun v fd => Handle.Quiet.frame.leads_refreshNear) ?_
    fun _ _ hw => hw
  rintro ⟨-, h⟩
  dsimp only
  refine .run_lift_bind (Handle.Equipped.leads_record _ _) fun _ => ?_
  exact .run_pure _ fun _ hw => .made (hw.moved h.near.host.2 h.far)

/-- Making a pair of handles takes one call. -/
lemma only_socketpair : Only (Within [.socketpair]) socketpair.run := by
  have hcall : Made [.socketpair] (require "socketpair" (.socketpair .unix .dgram 0)).run :=
    made_require _ _ (List.mem_singleton.2 rfl)
  refine .run_bind hcall.only fun q => ?_
  refine .run_bind (.run_lift (.aside fun _ => ⟨rfl, rfl⟩)) fun _ => ?_
  refine .run_bind (.run_lift (.aside fun _ => ⟨rfl, rfl⟩)) fun _ => ?_
  exact .run_bind (.run_lift (.record _ _)) fun _ => .run_pure _

/-- **A pair** of handles is made without a session, each on a descriptor of its own.

**Proof sketch.** Opening a pair says nothing to a session. Its two descriptors come onto the books,
so that they are opened on the way (`Books.opens`). -/
theorem told_socketpair (hu : Books stray u H) :
    Leads (fun w => u.Poised w ∧ Books stray w H) socketpair.run fun r w =>
      u.Told [] w ∧ ∀ g h, r = .ok (g, h) →
        ((g.session = none ∧ g.WellFormed) ∧ h.session = none ∧ h.WellFormed) ∧
          ∃ a b, (g.descriptor = some a ∧ h.descriptor = some b) ∧ a ≠ b ∧
            u.Opens w a ∧ u.Opens w b := by
  intro w hw
  have htold := hw.1.told.trans_nil (Told.of_only only_socketpair w)
  refine ⟨htold, fun g h hr => ?_⟩
  have hmade := leads_socketpair w hw.2
  rw [hr] at hmade
  obtain ⟨⟨hg, hh⟩, a, b, ⟨hab, ha, hb⟩, hga, hhb⟩ := hmade
  refine ⟨⟨⟨hg.session_eq, hga.wellFormed⟩, hh.session_eq, hhb.wellFormed⟩, a, b,
    ⟨hga.descriptor_eq, hhb.descriptor_eq⟩, hab, ?_, ?_⟩
  · exact hu.opens ha hga.books (by simp) htold
  · exact hu.opens hb hhb.books (by simp) htold

end Net

/-! ## Builders -/

namespace Builder

variable {stray : Prop} {q : Tls.Provider} {u : World} {H : Holdings} (b : Builder)

/-- Tracing leaves everything that opening begins with. -/
lemma leads_poised_trace (what : String) :
    Leads (fun w => u.Poised w ∧ Books stray w H) (b.trace what)
      fun _ w => u.Poised w ∧ Books stray w H :=
  (World.Poised.leads_within (b.within_trace what) (by simp)).and
    (Books.leads_idle (b.only_trace what))

/-- **Connecting with a builder** deals with sessions as connecting does.

**Proof sketch.** The builder makes a note of what it does, which is no call, and connects. -/
theorem arranged_connect (hu : Books stray u H) (host service : String) :
    Leads (fun w => (u.Poised w ∧ Books stray w H) ∧ w.Backed b.scope q)
      (b.connect host service).run (Net.Arranged u q b.flags.tls.enabled) := by
  have htrace (what : String) :
      Leads (Backed b.scope q) (b.trace what) fun _ => Backed b.scope q := by
    intro w hw
    unfold trace
    split <;> exact hw
  exact .run_lift_bind ((b.leads_poised_trace _).and (htrace _))
    fun _ => Net.arranged_connect hu _ _ _ _

/-- **Binding with a builder** asks for no session.

**Proof sketch.** The plain function does so (`Net.arranged_bind`), and joining a group afterwards
is quiet. -/
theorem arranged_bind (hu : Books stray u H) (host : Option String) (service : String) :
    Leads (fun w => u.Poised w ∧ Books stray w H) (b.bind host service).run
      (Net.Arranged u q false) := by
  refine .run_lift_bind (b.leads_poised_trace _) fun _ => ?_
  refine .run_bind (Net.arranged_bind hu _ _ _ _) (fun h => ?_) fun _ _ hw => hw
  cases b.group with
  | none => exact .run_pure h fun _ hw => hw
  | some c =>
    refine .run_bind (R := Handle.Settled u q false) ?_ (fun p => ?_) fun _ _ hw => hw
    · refine (Handle.equipped_settle fun v fd => Handle.Quiet.frame.leads_joinChosen b c).weaken
        (fun w hw => ?_) fun _ _ hw => hw
      cases hw with
      | made hw => exact hw
    · exact .run_pure p.2 fun _ hw => .made hw

/-- **Listening with a builder** asks for no session.

**Proof sketch.** Binding with the builder asks for none (`arranged_bind`), and listening says
nothing to a session. -/
theorem arranged_listen (hu : Books stray u H) (host service : String) :
    Leads (fun w => u.Poised w ∧ Books stray w H) (b.listen host service).run
      (Net.Arranged u q false) := by
  refine .run_bind (b.arranged_bind hu _ _) (fun h => ?_) fun _ _ hw => hw
  refine .run_bind (R := Handle.Settled u q false) ?_ (fun p => ?_) fun _ _ hw => hw
  · refine (Handle.equipped_settle fun v fd => ?_).weaken (fun w hw => ?_) fun _ _ hw => hw
    · exact Handle.Act.leads_ofAttempt (Handle.Quiet.leads_told
        (Told.leads_within (Net.made_listen _ _).only))
    · cases hw with
      | made hw => exact hw
  · exact .run_pure p.2 fun _ hw => .made hw

end Builder

end Sockets
