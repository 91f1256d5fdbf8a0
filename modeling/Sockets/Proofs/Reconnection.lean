import Sockets.Proofs.CandidateOrder
import Sockets.Proofs.HandleShapes
import Sockets.Proofs.Memos

/-!
# Connecting again

A handle that was connected again is what a new connection would have made of it: whatever it was
before, it knows the addresses that the kernel tells now, and it is in the group of its peer, if
that is one, and in no other. A group that it was in before was left first, once, and how that ended
has no part in what comes after it.

## Main definitions

* `Sockets.Address.group?` — the group that an address names.
* `Sockets.Handle.ofAnswers` — the handle that is made of what the kernel tells of its ends.
* `Sockets.Handle.arrival` — what is done last when a handle is connected.
* `Sockets.Handle.Renewed` — one handle was connected again, and another one came out.

## Main results

* `Sockets.Run.renewed_of_reconnect` — connecting again renews every handle without encryption.
-/

set_option autoImplicit false

namespace Sockets

open Net (Leads)

/-! ## Operations that succeed -/

/-- An operation that may fail leads to something if it does not. -/
def Net.OnOk {ε α : Type} (φ : α → World → Prop) : Except ε α → World → Prop
  | .ok a, w => φ a w
  | .error _, _ => True

/-- One operation after another, where only success counts. -/
lemma Net.Leads.run_bind_ok {ε α β : Type} {P : World → Prop} {φ : α → World → Prop}
    {ψ : β → World → Prop} {x : Attempt ε α} {f : α → Attempt ε β}
    (hx : Leads P x.run (Net.OnOk φ)) (hf : ∀ a, Leads (φ a) (f a).run (Net.OnOk ψ)) :
    Leads P (x >>= f).run (Net.OnOk ψ) :=
  .run_bind hx hf fun _ _ _ => trivial

/-- A system call that has to succeed is one more action, which did. -/
lemma World.acts_require_ok {as : List Event} (context : String) (c : Call) :
    Leads (fun w => w.actions = as) (Net.require context c).run
      (Net.OnOk fun a w => w.actions = as ++ [.call c (.ok a)]) := by
  refine (World.acts_require context c).weaken (fun _ hw => hw) fun r w hr => ?_
  obtain ⟨outcome, hw, rfl⟩ := hr
  cases outcome with
  | ok a => exact hw
  | error n => trivial

/-- An operation on a handle leads to something if it does not fail. -/
def Handle.OnOk {α : Type} (φ : α → Handle → World → Prop) :
    Except Error α × Handle → World → Prop
  | (.ok a, h), w => φ a h w
  | (.error _, _), _ => True

/-- An operation on a handle that succeeds, with what it leads to. -/
lemma Handle.Act.on_ok {x : Act Unit} {g : Handle} {v : World} (hok : (x.on g v).1.1.isOk = true) :
    x.on g v = ((.ok (), (x.on g v).1.2), (x.on g v).2) := by
  generalize x.on g v = out at hok ⊢
  obtain ⟨⟨e | u, h⟩, w⟩ := out
  · exact nomatch hok
  · rfl

/-- One operation on a handle after another, where only success counts. -/
lemma Handle.Act.leads_bind_ok {α β : Type} {P : World → Prop} {g : Handle}
    {φ : α → Handle → World → Prop} {ψ : β → Handle → World → Prop} {x : Act α} {f : α → Act β}
    (hx : Leads P (x.on g) (Handle.OnOk φ))
    (hf : ∀ a h, Leads (φ a h) ((f a).on h) (Handle.OnOk ψ)) :
    Leads P ((x >>= f).on g) (Handle.OnOk ψ) :=
  Act.leads_bind hx hf fun _ _ _ _ => trivial

/-- An operation on a new handle, where only success counts. -/
lemma Net.Leads.settle_ok {α : Type} {P : World → Prop} {g : Handle} {x : Handle.Act α}
    {φ : α → Handle → World → Prop} (hx : Leads P (x.on g) (Handle.OnOk φ)) :
    Leads P (g.settle x).run (Net.OnOk fun p => φ p.1 p.2) :=
  .settle hx (fun _ _ _ h => h) fun _ _ _ _ => trivial

/-- An operation on a handle after one on the world, where only success counts. -/
lemma Handle.Act.leads_ofAttempt_bind_ok {α β : Type} {P : World → Prop} {g : Handle}
    {φ : α → World → Prop} {ψ : β → Handle → World → Prop} {x : Attempt Error α} {f : α → Act β}
    (hx : Leads P x.run (Net.OnOk φ)) (hf : ∀ a, Leads (φ a) ((f a).on g) (Handle.OnOk ψ)) :
    Leads P ((Act.ofAttempt x >>= f).on g) (Handle.OnOk ψ) := by
  refine Act.leads_bind_ok (φ := fun a h w => h = g ∧ φ a w) (Act.leads_ofAttempt ?_)
    fun a h => .of_and ?_
  · refine hx.weaken (fun _ hw => hw) fun r w hr => ?_
    cases r with
    | ok a => exact ⟨rfl, hr⟩
    | error e => trivial
  · rintro rfl
    exact hf a

/-! ## Groups -/

/-- The group that an address names, if it names one. -/
def Address.group? (a : Address) : Option Ip := a.ip?.filter Ip.isMulticast

/-- An address names a group if its internet address does. -/
lemma Address.isSome_group? (a : Address) :
    a.group?.isSome = true ↔ a.isMulticast? = some true := by
  unfold group? isMulticast?
  cases a.ip? with
  | none => simp
  | some ip => cases h : ip.isMulticast <;> simp [Option.filter, h]

namespace Membership

/-- The membership in a group through the interface that the kernel picks. -/
def byDefault : Ip → Membership
  | .v4 group => .v4 group .unspecified 0
  | .v6 group => .v6 group .unspecified 0

/-- The option by which the group of a membership is joined. -/
def joining : Membership → SocketOption
  | v4 group interface _ => .join4 group interface
  | v6 group _ index => .join6 group index

variable {as : List Event} {fd : Descriptor}

/-- Joining a group, once its interface is known, is one action. -/
lemma acts_require_join (context : String) (m : Membership) :
    Leads (fun w => w.actions = as)
      (do let _ ← Net.require context (.setsockopt fd m.joining)
          pure m : Attempt Error Membership).run
      (Net.OnOk fun m' w =>
        m' = m ∧ w.actions = as ++ [.call (.setsockopt fd m.joining) (.ok ())]) :=
  .run_bind_ok (World.acts_require_ok context _) fun _ => .run_pure m fun _ hw => ⟨rfl, hw⟩

/-- Joining a group through the interface that the kernel picks is one action.

**Proof sketch.** For either kind of group there is one call, which has to succeed, and a record
behind it. -/
lemma acts_join_any {a : Address} {ip : Ip} (hip : a.ip? = some ip) :
    Leads (fun w => w.actions = as) (join fd a .any).run (Net.OnOk fun m w =>
      m = byDefault ip ∧
        w.actions = as ++ [.call (.setsockopt fd (byDefault ip).joining) (.ok ())]) := by
  have hrest (m : Membership) : Leads (fun w => m = byDefault ip ∧
        w.actions = as ++ [.call (.setsockopt fd (byDefault ip).joining) (.ok ())])
      (do Net.record .debug ("joined " ++ m.group.text ++ " via " ++ Interface.any.text)
          pure m : Attempt Error Membership).run
      (Net.OnOk fun m w => m = byDefault ip ∧
        w.actions = as ++ [.call (.setsockopt fd (byDefault ip).joining) (.ok ())]) :=
    .of_and fun hm => .run_lift_bind (World.acts_record _ _) fun _ =>
      .run_pure m fun _ hw => ⟨hm, hw⟩
  unfold join
  rw [hip]
  cases ip with
  | v4 group => exact .run_bind_ok (acts_require_join _ (.v4 group .unspecified 0)) hrest
  | v6 group => exact .run_bind_ok (acts_require_join _ (.v6 group .unspecified 0)) hrest

end Membership

/-! ## Addresses and the group of the peer -/

namespace Handle

/-- A handle that is connected without encryption and in no group, whatever it knows of its
ends. -/
def outset (id : Nat) (fd : Descriptor) (p : Protocol) (near far : Endpoint) : Handle :=
  ⟨id, some fd, p, {}, near, far, none, none⟩

/-- The handle that is made of what the kernel tells of the ends of a connection without
encryption. -/
def ofAnswers (id : Nat) (fd : Descriptor) (p : Protocol) (near far : Address) : Handle where
  id := id
  descriptor := some fd
  protocol := p
  flags := { joined := far.group?.isSome }
  near := .ofAddress near
  far := .ofAddress far
  membership := far.group?.map .byDefault

/-- Joining the group of a peer, if it is one. -/
def joins (fd : Descriptor) (far : Address) : List Event :=
  (far.group?.map fun ip =>
    Event.call (.setsockopt fd (Membership.byDefault ip).joining) (.ok ())).toList

/-- What is done when a descriptor has been connected: the kernel is asked for the addresses, and
the group of the peer is joined. -/
def arrival (fd : Descriptor) (near far : Address) : List Event :=
  [.call (.getsockname fd) (.ok near), .call (.getpeername fd) (.ok far)] ++ joins fd far

variable {as : List Event} {id : Nat} {fd : Descriptor} {p : Protocol} {near far : Endpoint}

/-- Asking the kernel for an address of a descriptor is one action. -/
lemma acts_ask {g : Handle} (hfd : g.descriptor = some fd) (name : String) (c : Descriptor → Call)
    (read : (fd : Descriptor) → (c fd).Answer → Address) :
    Leads (fun w => w.actions = as) ((ask name c read).on g) (OnOk fun a h w =>
      h = g ∧ ∃ answer, a = read fd answer ∧ w.actions = as ++ [.call (c fd) (.ok answer)]) := by
  refine Act.leads_owned_bind hfd ?_
  refine Act.leads_ofNet_bind (World.acts_syscall _) fun r => ?_
  cases r with
  | ok answer => exact Act.leads_pure _ fun w hw => ⟨rfl, answer, rfl, hw⟩
  | error n =>
    exact Act.leads_record_bind (World.acts_record _ _) (Act.leads_throw _ fun _ _ => trivial)

/-- Asking the kernel for the near address. -/
lemma acts_refreshNear :
    Leads (fun w => w.actions = as) (refreshNear.on (outset id fd p near far)) (OnOk fun _ h w =>
      ∃ a, h = outset id fd p (.ofAddress a) far ∧
        w.actions = as ++ [.call (.getsockname fd) (.ok a)]) := by
  refine Act.leads_bind_ok (acts_ask rfl _ _ _) fun a h => .of_and ?_
  rintro rfl
  refine Act.leads_modify _ ?_
  rintro w ⟨answer, rfl, hw⟩
  exact ⟨_, rfl, hw⟩

/-- Asking the kernel for the far address. -/
lemma acts_refreshFar :
    Leads (fun w => w.actions = as) (refreshFar.on (outset id fd p near far)) (OnOk fun _ h w =>
      ∃ a, h = outset id fd p near (.ofAddress a) ∧
        w.actions = as ++ [.call (.getpeername fd) (.ok a)]) := by
  refine Act.leads_bind_ok (acts_ask rfl _ _ _) fun a h => .of_and ?_
  rintro rfl
  refine Act.leads_modify _ ?_
  rintro w ⟨answer, rfl, hw⟩
  exact ⟨_, rfl, hw⟩

/-- Joining the group of the peer.

**Proof sketch.** By whether the peer is a group. If it is not, nothing is done. If it is, it is
joined through the interface that the kernel picks, with one call, and the handle remembers that. -/
lemma acts_joinPeer (a b : Address) :
    Leads (fun w => w.actions = as)
      (joinPeer.on (outset id fd p (.ofAddress a) (.ofAddress b))) (OnOk fun _ h w =>
        h = ofAnswers id fd p a b ∧ w.actions = as ++ joins fd b) := by
  refine Act.leads_get_bind ?_
  dsimp only [outset, Endpoint.ofAddress]
  rcases hb : b.group? with _ | ip
  · have hno : b.isMulticast? ≠ some true := fun h => by simp [← b.isSome_group?, hb] at h
    rw [if_pos (by simpa using hno)]
    refine Act.leads_pure _ fun w hw => ⟨?_, ?_⟩
    · simp [ofAnswers, hb, Endpoint.ofAddress]
    · simpa [joins, hb] using hw
  · have hyes : b.isMulticast? = some true := by simp [← b.isSome_group?, hb]
    have hip : b.ip? = some ip := (Option.filter_eq_some_iff.1 hb).1
    rw [if_neg (by simp [hyes])]
    refine Act.leads_owned_bind rfl ?_
    refine Act.leads_ofAttempt_bind_ok (Membership.acts_join_any hip) fun m => .of_and ?_
    rintro rfl
    refine Act.leads_record_bind (World.acts_record _ _) (Act.leads_modify _ fun w hw => ⟨?_, ?_⟩)
    · simp [ofAnswers, hb, Endpoint.ofAddress, Flags.withGroup]
    · simpa [joins, hb] using hw

/-- What is done when a descriptor has been connected, and what the handle is made then. -/
lemma acts_arrival_bind {f : Unit → Act Unit} {ψ : Unit → Handle → World → Prop}
    (hf : ∀ a b, Leads (fun w => w.actions = as ++ arrival fd a b)
      ((f ()).on (ofAnswers id fd p a b)) (OnOk ψ)) :
    Leads (fun w => w.actions = as) ((do refreshNear; refreshFar; joinPeer >>= f).on
      (outset id fd p near far)) (OnOk ψ) := by
  refine Act.leads_bind_ok acts_refreshNear fun _ h => .of_exists fun a => .of_and ?_
  rintro rfl
  refine Act.leads_bind_ok acts_refreshFar fun _ h => .of_exists fun b => .of_and ?_
  rintro rfl
  refine Act.leads_bind_ok (acts_joinPeer a b) fun _ h => .of_and ?_
  rintro rfl
  exact (hf a b).weaken (fun w hw => by simpa [arrival] using hw) fun _ _ h => h

end Handle

/-! ## Descriptors that are connected -/

namespace Opening

variable {as : List Event} {fd : Descriptor}

/-- The last thing that was done is that a descriptor was connected, and all that was done since
some actions before that takes calls of some kinds. -/
def Connected (kinds : List CallKind) (as : List Event) (fd : Descriptor) (w : World) : Prop :=
  ∃ mid address, (∀ e ∈ mid, e.Within kinds) ∧
    w.actions = as ++ mid ++ [.call (.connect fd address) (.ok ())]

/-- The last thing that is done where candidates are tried with success is a trial that succeeds. -/
lemma Tries.last_of_ok {α : Type} {operation : String} {host : Option String}
    {trial : Candidate → List Event → Except Fault α → Prop}
    {answer : Except ResolveError (List Candidate)} {a : α} {w : World}
    (h : Tries operation host trial answer as (.ok a) w) :
    ∃ before c last, trial c last (.ok a) ∧ w.actions = as ++ before ++ last := by
  obtain ⟨asked, es, -, hw, hsettles⟩ := h
  cases hsettles with
  | succeeded hturn =>
    obtain ⟨-, c, -, ess, last, -, -, hlast, -, rfl⟩ := hturn
    exact ⟨asked ++ ess.flatten, c, last, hlast, by simp only [hw, List.append_assoc]⟩

/-- Connecting to a local socket is one action. -/
lemma acts_connectLocalTo (kinds : List CallKind) (fd : Descriptor) (path : String) :
    Leads (fun w => w.actions = as) (connectLocalTo fd path).run
      (Net.OnOk fun _ => Connected kinds as fd) := by
  refine .run_bind_ok (φ := fun _ w => w.actions = as) ?_ fun address => ?_
  · unfold localAddress
    split
    · exact .run_pure _ fun _ hw => hw
    · exact .run_lift_bind (World.acts_record _ _) fun _ => .run_throw _ fun _ _ => trivial
  refine .run_bind_ok (World.acts_require_ok _ _) fun _ => ?_
  intro w hw
  refine ⟨[], address, List.forall_mem_nil _, ?_⟩
  rw [List.append_nil]
  exact World.acts_record _ _ w hw

/-- Where the last thing that was done is that a descriptor was connected, the rest of what was done
takes what all of it does. -/
lemma connected_of_onward {kinds : List CallKind} {v w : World}
    (h : v.Onward (Event.Within kinds) w) (before : List Event) (address : Address)
    (hw : w.actions = v.actions ++ (before ++ [.call (.connect fd address) (.ok ())])) :
    Connected kinds v.actions fd w := by
  obtain ⟨es, hes, hwithin, -⟩ := h.actions_eq
  obtain rfl : es = before ++ [.call (.connect fd address) (.ok ())] :=
    List.append_cancel_left (hes.symm.trans hw)
  exact ⟨before, address, fun e he => hwithin e (List.mem_append_left _ he),
    hes.trans (List.append_assoc ..).symm⟩

/-- Connecting a descriptor that is there already.

**Proof sketch.** A path is connected to directly. Otherwise the candidates are tried in turn
(`tries_connectAgain`), and since it succeeded the last of them was connected to. -/
lemma acts_connectAgain (scope : Scope) (fd : Descriptor) (host service : String) (p : Protocol) :
    Leads (fun w => w.actions = as) (connectAgain scope fd host service p).run
      (Net.OnOk fun _ => Connected [.connect, .getsockname, .getaddrinfo] as fd) := by
  by_cases hp : p = .unix
  · unfold connectAgain
    rw [if_pos hp]
    exact acts_connectLocalTo _ fd host
  rintro v rfl
  have htries := @tries_connectAgain v scope p hp fd host service v rfl
  have honward := (made_connectAgain scope fd host service p).only v
  generalize (connectAgain scope fd host service p).run v = out at htries honward ⊢
  obtain ⟨r | u, w⟩ := out
  · trivial
  obtain ⟨before, c, last, hlast, hw⟩ := htries.last_of_ok
  obtain rfl : last = [.call (.connect fd c.address) (.ok ())] := by
    cases hlast with
    | next _ h =>
      cases h
      rfl
  refine connected_of_onward honward
    ([.call (.getsockname fd) (v.kernel.perform (.getsockname fd)).1] ++ before) c.address ?_
  simpa only [List.append_assoc] using hw

/-- Connecting a fresh descriptor.

**Proof sketch.** A path takes a socket and one call to connect it. Otherwise the candidates are
tried in turn (`tries_connect`), and since it succeeded the last one had its socket opened and
connected. -/
lemma acts_connect (scope : Scope) (host service : String) (p : Protocol) :
    Leads (fun w => w.actions = as) (connect scope host service p).run
      (Net.OnOk (Connected calls as)) := by
  by_cases hp : p = .unix
  · unfold connect
    rw [if_pos hp]
    refine .run_bind_ok (World.acts_require_ok _ _) fun fd => ?_
    refine .run_lift_bind (acts_connectLocalTo [] fd host) fun r => ?_
    cases r with
    | error e =>
      exact .run_lift_bind (R := fun _ _ => True) (fun _ _ => trivial) fun _ =>
        .run_throw _ fun _ _ => trivial
    | ok u =>
      refine .run_pure _ fun w ⟨mid, address, hmid, hw⟩ => ?_
      refine ⟨.call (.socket .unix .stream 0) (.ok fd) :: mid, address, ?_, ?_⟩
      · rintro e (_ | ⟨_, he⟩)
        · exact (by decide : CallKind.socket ∈ calls)
        · exact (hmid e he).mono (List.nil_subset _)
      · simpa using hw
  rintro v rfl
  have htries := @tries_connect v scope p hp host service v rfl
  have honward := (made_connect scope host service p).only v
  generalize (connect scope host service p).run v = out at htries honward ⊢
  obtain ⟨r | fd, w⟩ := out
  · trivial
  obtain ⟨before, c, last, hlast, hw⟩ := htries.last_of_ok
  cases hlast with
  | done hwished hneeded =>
    cases hwished
    cases hneeded with
    | next u h =>
      cases h
      refine connected_of_onward honward (before ++ [.call (opening c) (.ok fd)]) c.address ?_
      simpa only [List.append_assoc, List.nil_append] using hw

end Opening

/-! ## Handles that are connected -/

/-- What is not encrypted has its encryption off. -/
lemma TlsMode.eq_off {m : TlsMode} (h : m.enabled = false) : m = .off := by
  obtain ⟨enabled, strict, himp⟩ := m
  obtain rfl : enabled = false := h
  cases strict with
  | false => rfl
  | true => exact Bool.noConfusion (himp rfl)

namespace Handle

variable {as : List Event} {fd : Descriptor} {g h : Handle}

/-- The last thing that was done is that a descriptor was connected, the kernel told the addresses
of its ends, and the group of the peer was joined. -/
def Arrived (kinds : List CallKind) (as : List Event) (fd : Descriptor) (near far : Address)
    (w : World) : Prop :=
  ∃ mid address, (∀ e ∈ mid, e.Within kinds) ∧
    w.actions = as ++ mid ++ [.call (.connect fd address) (.ok ())] ++ arrival fd near far

/-- A connected handle without encryption is made of what the kernel tells of its ends.

**Proof sketch.** Opening ends in a descriptor that is connected (`Opening.acts_connect`), and no
session is asked for. A new handle knows nothing of its ends, and then asks the kernel for both and
joins the group of the peer (`acts_arrival_bind`). -/
lemma acts_connect (scope : Scope) (host service : String) (p : Protocol) {flags : Flags}
    (hoff : flags.tls = .off) :
    Leads (fun w => w.actions = as) (Net.connect scope host service p flags).run
      (Net.OnOk fun k w => ∃ id fd near far, k = ofAnswers id fd p near far ∧
        Arrived Opening.calls as fd near far w) := by
  have hflags : flags.requested = {} := by rw [Flags.requested, hoff]
  unfold Net.connect
  rw [hflags]
  refine .run_bind_ok (Opening.acts_connect scope host service p) fun fd => ?_
  refine .run_bind_ok (φ := fun s w => s = none ∧ Opening.Connected Opening.calls as fd w)
    (.run_pure none fun w hw => ⟨rfl, hw⟩) fun s => .of_and ?_
  rintro rfl
  rintro w ⟨mid, address, hmid, hw⟩
  refine Leads.run_lift_bind (P := fun v => v.actions = w.actions)
    (R := fun h v => ∃ id, h = outset id fd p {} {} ∧ v.actions = w.actions)
    (fun v hv => ⟨v.nextId, rfl, hv⟩) (fun h => .of_exists fun id => .of_and ?_) w rfl
  rintro rfl
  refine .run_bind_ok (.settle_ok (φ := fun _ h v => ∃ near far, h = ofAnswers id fd p near far ∧
    v.actions = w.actions ++ arrival fd near far) ?_) fun out => ?_
  · rw [← bind_pure joinPeer]
    exact acts_arrival_bind (f := pure) fun a b => Act.leads_pure _ fun v hv => ⟨a, b, rfl, hv⟩
  · obtain ⟨-, h⟩ := out
    refine .of_exists fun near => .of_exists fun far => .of_and ?_
    rintro rfl
    refine .run_lift_bind (World.acts_record _ _) fun _ => .run_pure _ fun v hv => ?_
    exact ⟨id, fd, near, far, rfl, mid, address, hmid, by rw [hv, hw]⟩

/-- A well-formed handle without encryption is at the outset when it has left its group. -/
lemma WellFormed.outset_eq (hwf : g.WellFormed) (hfd : g.descriptor = some fd)
    (hoff : g.flags.tls.enabled = false) :
    { g with membership := none, flags := g.flags.requested } =
      outset g.id fd g.protocol g.near g.far := by
  have htls := TlsMode.eq_off hoff
  have hsession : g.session = none := by
    cases h : g.session with
    | none => rfl
    | some s => simp [hwf.enabled_of_session (by simp [h])] at hoff
  simp only [outset, Flags.requested, htls, hfd, hsession]

/-- Leaving the group that was joined. -/
lemma acts_releaseGroup (hwf : g.WellFormed) (hfd : g.descriptor = some fd)
    (hoff : g.flags.tls.enabled = false) :
    Leads (fun w => w.actions = as) (releaseGroup.on g) (OnOk fun _ h w =>
      h = outset g.id fd g.protocol g.near g.far ∧
        ∃ left, w.actions = as ++ g.groupFarewell fd left) := by
  refine Act.leads_get_bind ?_
  have houtset := hwf.outset_eq hfd hoff
  cases hm : g.membership with
  | none =>
    have hjoined : g.flags.joined = false := by simpa [hm] using hwf.joined_iff
    have hg : { g with membership := none, flags := g.flags.requested } = g := by
      rw [Flags.requested, ← hm, ← hjoined]
    refine Act.leads_pure () fun w hw => ⟨hg.symm.trans houtset, .ok (), ?_⟩
    simpa [groupFarewell, hm] using hw
  | some m =>
    rw [hfd]
    refine Act.leads_ofNet_bind (acts_leaveGroup g.id m) fun _ => ?_
    refine Act.leads_modify _ ?_
    rintro w ⟨left, hw⟩
    refine ⟨houtset, left, ?_⟩
    simpa [groupFarewell, hm] using hw

/-- A handle that was connected again is made of what the kernel tells of its ends.

**Proof sketch.** The group is left first, which makes the handle one at its outset
(`acts_releaseGroup`). Then the descriptor is connected (`Opening.acts_connectAgain`), and the
handle asks for its ends and joins the group of its peer (`acts_arrival_bind`). -/
lemma acts_reconnect (hwf : g.WellFormed) (hfd : g.descriptor = some fd)
    (hoff : g.flags.tls.enabled = false) (scope : Scope) (host service : String) :
    Leads (fun w => w.actions = as) ((reconnect scope host service).on g) (OnOk fun _ h w =>
      ∃ left near far, h = ofAnswers g.id fd g.protocol near far ∧
        Arrived [.connect, .getsockname, .getaddrinfo] (as ++ g.groupFarewell fd left) fd near far
          w) := by
  refine Act.leads_get_bind ?_
  dsimp only
  rw [if_neg (by simp [hoff])]
  refine Act.leads_bind_ok (acts_releaseGroup hwf hfd hoff) fun _ h => .of_and ?_
  rintro rfl
  refine .of_exists fun left => ?_
  refine Act.leads_owned_bind rfl ?_
  refine Act.leads_ofAttempt_bind_ok (Opening.acts_connectAgain scope fd host service _) fun _ => ?_
  rintro w ⟨mid, address, hmid, hw⟩
  refine acts_arrival_bind (f := fun _ => record _ _) (fun near far => ?_) w hw
  refine Act.leads_get_bind (Act.leads_ofNet ?_)
  refine (World.acts_record _ _).weaken (fun _ hv => hv) fun _ v hv => ?_
  exact ⟨left, near, far, rfl, mid, address, hmid, hv⟩

/-! ### A failure to leave -/

/-- Leaving a group makes no difference but to the journal, and what the kernel makes of the
call.

**Proof sketch.** Leaving is one call for either kind of group, which the worlds agree on
afterwards. All else are records. -/
lemma agrees_leaveGroup (id : Nat) (fd : Descriptor) (m : Membership) (v : World) :
    World.Agrees (Net.syscall (.setsockopt fd m.leaving) v).2 (leaveGroup id fd m v).2 := by
  have hrecord (w : World) (level : Level) (message : String) :
      Leads w.Agrees (Net.record level message) fun _ => w.Agrees :=
    fun _ hw => hw.record level message
  have hrequire (context : String) : Leads v.Agrees
      (Net.require context (.setsockopt fd m.leaving)).run
      fun _ => World.Agrees (Net.syscall (.setsockopt fd m.leaving) v).2 := by
    refine .run_lift_bind (R := fun _ => World.Agrees (Net.syscall (.setsockopt fd m.leaving) v).2)
      (fun w hw => (World.steady_agrees.call _ v w hw).2) fun r => ?_
    cases r with
    | ok u => exact .run_pure _ fun _ hw => hw
    | error n => exact .run_lift_bind (hrecord _ _ _) fun _ => .run_throw _ fun _ hw => hw
  have hleave : Leads v.Agrees (Membership.leave fd (.ofIp m.group 0)).run
      fun _ => World.Agrees (Net.syscall (.setsockopt fd m.leaving) v).2 := by
    unfold Membership.leave
    rw [Address.ip?_ofIp]
    cases m <;> exact hrequire _
  have hall : Leads v.Agrees (leaveGroup id fd m)
      fun _ => World.Agrees (Net.syscall (.setsockopt fd m.leaving) v).2 := by
    refine .bind (hrecord _ _ _) fun _ => .bind hleave fun r => ?_
    cases r with
    | ok u => exact .pure _ fun _ hw => hw
    | error e => exact hrecord _ _ _
  exact hall v (.refl v)

/-- Connecting a handle again, once it has left the group that it was in. -/
lemma reconnect_on {m : Membership} (hfd : g.descriptor = some fd) (hm : g.membership = some m)
    (hoff : g.flags.tls.enabled = false) (scope : Scope) (host service : String) (v : World) :
    (reconnect scope host service).on g v =
      (connectOver scope host service g.protocol).on
        { g with membership := none, flags := g.flags.requested } (leaveGroup g.id fd m v).2 := by
  obtain ⟨id, descriptor, protocol, ⟨tls, joined⟩, near, far, session, membership⟩ := g
  obtain rfl : descriptor = some fd := hfd
  obtain rfl : membership = some m := hm
  obtain rfl := TlsMode.eq_off hoff
  rfl

/-- How leaving a group ends has no part in how connecting again does, unless the kernel is left in
another state.

**Proof sketch.** After leaving, the two worlds agree wherever the kernel is left in the same state
(`agrees_leaveGroup`). Connecting again asks nothing of what the handle remembers, so it answers
alike in worlds that agree (`alike_connectOver`), with the same ends; and the handle is made of its
ends. -/
lemma reconnect_unaffected (hg : g.Faithful) (hwf : g.WellFormed) (hfd : g.descriptor = some fd)
    (hoff : g.flags.tls.enabled = false) {scope : Scope} {host service : String} {v v' u : World}
    (hrun : (reconnect scope host service).on g v = ((.ok (), h), u)) {m : Membership}
    (hm : g.membership = some m)
    (hleft : World.Agrees (Net.syscall (.setsockopt fd m.leaving) v).2
      (Net.syscall (.setsockopt fd m.leaving) v').2) :
    ((reconnect scope host service).on g v').1 = (.ok (), h) := by
  have hv := acts_reconnect hwf hfd hoff scope host service v rfl
  have hv' := acts_reconnect hwf hfd hoff scope host service v' rfl
  have hagrees := ((agrees_leaveGroup g.id fd m v).symm.trans hleft).trans
    (agrees_leaveGroup g.id fd m v')
  have hparted : Faithful { g with membership := none, flags := g.flags.requested } := hg
  have halike := alike_connectOver World.steady_agrees scope host service g.protocol _ _
    hparted.alike _ _ hagrees
  rw [← reconnect_on hfd hm hoff, ← reconnect_on hfd hm hoff] at halike
  rw [hrun] at hv halike
  generalize (reconnect scope host service).on g v' = out at hv' halike ⊢
  obtain ⟨⟨r, h'⟩, u'⟩ := out
  obtain ⟨⟨hr, hhh'⟩, -⟩ := halike
  obtain rfl : Except.ok () = r := hr
  obtain ⟨-, near, far, rfl, -⟩ := hv
  obtain ⟨-, near', far', rfl, -⟩ := hv'
  obtain rfl : near = near' :=
    Option.some.inj (hhh'.congr (fun i => i.near.address) fun _ => rfl)
  obtain rfl : far = far' := Option.some.inj (hhh'.congr (fun i => i.far.address) fun _ => rfl)
  rfl

/-- **A handle was connected again**, from one world to another, and another handle came out, which
knows the addresses that the kernel told: it left its group, once, if it was in one; then its
descriptor was connected, and after that the kernel was asked for the addresses and the group of the
peer was joined, if that is one. -/
structure Renewed (g : Handle) (scope : Scope) (host service : String) (v : World) (h : Handle)
    (u : World) (fd : Descriptor) (left : Except Int Unit) (near far : Address) : Prop where
  descriptor_eq : g.descriptor = some fd
  arrived : Arrived [.connect, .getsockname, .getaddrinfo] (v.actions ++ g.groupFarewell fd left)
    fd near far u
  near_eq : h.near.address = some near
  far_eq : h.far.address = some far
  /-- What is asked about the ends is answered from these addresses. -/
  told : (h.tell .nearHost).1 = .host near.host? ∧ (h.tell .nearPort).1 = .port near.port? ∧
    (h.tell .farHost).1 = .host far.host? ∧ (h.tell .farPort).1 = .port far.port?
  joined_iff : h.flags.joined = true ↔ far.isMulticast? = some true
  membership_eq : h.membership = far.group?.map .byDefault
  kept : h.id = g.id ∧ h.descriptor = g.descriptor ∧ h.protocol = g.protocol
  /-- A new connection of the transport, without encryption, would have made the same handle of the
  same addresses, with a number and a descriptor of its own. -/
  fresh : ∀ (scope : Scope) (host service : String) (flags : Flags) (v' u' : World) (k : Handle),
    flags.tls.enabled = false →
    (Net.connect scope host service g.protocol flags).run v' = (.ok k, u') →
    ∃ fd near' far', Arrived Opening.calls v'.actions fd near' far' u' ∧
      (near' = near → far' = far → h = { k with id := g.id, descriptor := g.descriptor })
  /-- The same comes out where leaving the group ends otherwise, if it leaves the kernel in the same
  state. -/
  unaffected : ∀ (m : Membership) (v' : World), g.membership = some m →
    World.Agrees (Net.syscall (.setsockopt fd m.leaving) v).2
      (Net.syscall (.setsockopt fd m.leaving) v').2 →
    ((reconnect scope host service).on g v').1 = (.ok (), h)

/-- A well-formed handle without encryption that remembers rightly is renewed.

**Proof sketch.** What connecting again does is known in full (`acts_reconnect`), and the handle is
made of what the kernel tells of its ends. A new handle is made in the same way (`acts_connect`), so
that the two agree wherever the ends do. That the way in which the group was left has no part in
this is `reconnect_unaffected`. -/
theorem WellFormed.renewed (hwf : g.WellFormed) (hg : g.Faithful) (hfd : g.descriptor = some fd)
    (hoff : g.flags.tls.enabled = false) {scope : Scope} {host service : String} {v u : World}
    (hrun : (reconnect scope host service).on g v = ((.ok (), h), u)) :
    ∃ left near far, g.Renewed scope host service v h u fd left near far := by
  have hacts := acts_reconnect hwf hfd hoff scope host service v rfl
  rw [hrun] at hacts
  obtain ⟨left, near, far, hh, harrived⟩ := hacts
  have hunaffected (m : Membership) (v' : World) (hm : g.membership = some m) :
      World.Agrees (Net.syscall (.setsockopt fd m.leaving) v).2
        (Net.syscall (.setsockopt fd m.leaving) v').2 →
      ((reconnect scope host service).on g v').1 = (.ok (), h) :=
    reconnect_unaffected hg hwf hfd hoff hrun hm
  subst hh
  refine ⟨left, near, far, hfd, harrived, rfl, rfl, ⟨rfl, rfl, rfl, rfl⟩, far.isSome_group?, rfl,
    ⟨rfl, hfd.symm, rfl⟩, ?_, hunaffected⟩
  intro scope host service flags v' u' k hoff' hconnect
  have hacts' := acts_connect scope host service g.protocol (TlsMode.eq_off hoff') v' rfl
  rw [hconnect] at hacts'
  obtain ⟨id, fd', near', far', rfl, harrived'⟩ := hacts'
  refine ⟨fd', near', far', harrived', ?_⟩
  rintro rfl rfl
  simp only [ofAnswers, hfd]

end Handle

namespace Run

/-- **Connecting again.** However the library was used before, and whatever it is done in: where a
handle without encryption is connected again, what comes out is what a new connection would have
made of the addresses that the kernel tells, apart from its number, its descriptor and its
transport, which stay; and the group that it was in before was left.

**Proof sketch.** Every handle of a run is held by it, which makes it well-formed and one that
remembers rightly (`held_steps`). Such a handle is renewed wherever it is connected again
(`WellFormed.renewed`). -/
theorem renewed_of_reconnect (w : World) (ss : List Step) (p : String × Handle)
    (hp : p ∈ ((start w).steps ss).table) (hoff : p.2.flags.tls.enabled = false) (scope : Scope)
    (host service : String) (v : World) (h : Handle) (u : World)
    (hrun : (Handle.reconnect scope host service).on p.2 v = ((.ok (), h), u)) :
    ∃ fd left near far, p.2.Renewed scope host service v h u fd left near far := by
  obtain ⟨fd, hfd, hwf, hfaithful⟩ := (held_steps w ss).2 p hp
  exact ⟨fd, hwf.renewed hfaithful hfd hoff hrun⟩

/-- A handle in a group that it fails to leave is renewed, and is in the group of its new peer. -/
theorem renewed_joined :
    ∃ (r : Run) (_ : 0 < r.table.length) (v : World),
      (r.table[0]).2.membership = some (.v4 ⟨239, 1, 2, 3⟩ .unspecified 0) ∧
      (Net.syscall (.setsockopt 100 (.leave4 ⟨239, 1, 2, 3⟩ .unspecified)) v).1.isOk = false ∧
      ((Handle.reconnect .own "239.4.5.6" "6000").on (r.table[0]).2 v).1.2.membership =
        some (.v4 ⟨239, 4, 5, 6⟩ .unspecified 0) ∧
      ∃ fd left near far, (r.table[0]).2.Renewed .own "239.4.5.6" "6000" v
        ((Handle.reconnect .own "239.4.5.6" "6000").on (r.table[0]).2 v).1.2
        ((Handle.reconnect .own "239.4.5.6" "6000").on (r.table[0]).2 v).2 fd left near far :=
  ⟨(start {}).steps [.bind "u" .own (some "127.0.0.1") "5000" .udp {},
    .joinGroup "u" (.inet ⟨239, 1, 2, 3⟩ 5000) .any, .tell "u" .farHost],
    by decide +kernel,
    { kernel := {
        sockets := [(100, ⟨.inet, .dgram, some (.inet ⟨127, 0, 0, 1⟩ 5000), none, [], false, none⟩)]
        faults := Kernel.moreFaults (fun _ => []) [(.setsockopt, [22])] } },
    by decide +kernel, by decide +kernel, by decide +kernel,
    renewed_of_reconnect {} _ _ (List.getElem_mem _) (by decide +kernel) _ _ _ _ _ _
      (Handle.Act.on_ok (by decide +kernel))⟩

end Run

end Sockets
