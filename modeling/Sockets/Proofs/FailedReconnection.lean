import Sockets.Proofs.Complaints
import Sockets.Proofs.DescriptorLedger
import Sockets.Proofs.NoPlaintext
import Sockets.Proofs.Reconnection

/-!
# Connecting again in vain

A handle that could not be connected again has left its group, and is otherwise what it was as far
as it was not reached: until a descriptor was connected it knows the ends that it knew, and from
then on each end that the kernel told is the new one, the near end first. It still owns its
descriptor, which is as open as it was. An encrypted handle is not touched at all.

## Main definitions

* `Sockets.Event.Still` — an event that opens and closes no descriptor.
* `Sockets.Handle.Broken` — where connecting again broke off, and what the ends are then.
* `Sockets.Handle.Unrenewed` — a handle after connecting it again failed.

## Main results

* `Sockets.World.Onward.still` — the open descriptors change by events only.
* `Sockets.Run.unrenewed_of_reconnect_fails` — whatever steps there were, a handle that cannot be
  connected again is unrenewed.
-/

set_option autoImplicit false

namespace Sockets

open Net (Leads OnOk)

/-! ## Operations that fail -/

/-- An operation that may fail leads to something if it does. -/
def Net.OnError {ε α : Type} (ψ : World → Prop) : Except ε α → World → Prop
  | .ok _, _ => True
  | .error _, w => ψ w

/-- One operation after another, where only failure counts. -/
lemma Net.Leads.run_bind_error {ε α β : Type} {P ψ : World → Prop} {φ : α → World → Prop}
    {x : Attempt ε α} {f : α → Attempt ε β} (hok : Leads P x.run (Net.OnOk φ))
    (herror : Leads P x.run (Net.OnError ψ)) (hf : ∀ a, Leads (φ a) (f a).run (Net.OnError ψ)) :
    Leads P (x >>= f).run (Net.OnError ψ) :=
  .run_bind (R := fun r w => Net.OnOk φ r w ∧ Net.OnError ψ r w)
    (fun w hw => ⟨hok w hw, herror w hw⟩) (fun a w hw => hf a w hw.1) fun _ _ hw => hw.2

/-- Where an operation that may fail succeeds, there may be nothing to say. -/
lemma Net.Leads.of_ok {ε α : Type} {P : World → Prop} {x : Net (Except ε α)} :
    Leads P x (Net.OnOk fun _ _ => True) := by
  intro w _
  cases (x w).1 <;> trivial

/-- Less may be said of a failure. -/
lemma Net.Leads.weaken_error {ε α : Type} {P ψ ψ' : World → Prop} {x : Net (Except ε α)}
    (h : Leads P x (Net.OnError ψ)) (hψ : ∀ w, ψ w → ψ' w) : Leads P x (Net.OnError ψ') := by
  refine h.weaken (fun _ hw => hw) fun r w hr => ?_
  cases r with
  | ok a => trivial
  | error e => exact hψ w hr

/-- A system call that has to succeed is one more action, which failed. -/
lemma World.acts_require_error {as : List Event} (context : String) (c : Call) :
    Leads (fun w => w.actions = as) (Net.require context c).run
      (Net.OnError fun w => ∃ n, w.actions = as ++ [.call c (.error n)]) := by
  refine (World.acts_require context c).weaken (fun _ hw => hw) fun r w hr => ?_
  obtain ⟨outcome, hw, rfl⟩ := hr
  cases outcome with
  | ok a => trivial
  | error n => exact ⟨n, hw⟩

namespace Handle

/-- An operation on a handle leads to something if it fails. -/
def OnError {α : Type} (ψ : Handle → World → Prop) : Except Error α × Handle → World → Prop
  | (.ok _, _), _ => True
  | (.error _, h), w => ψ h w

variable {α β : Type} {P : World → Prop} {ψ : Handle → World → Prop} {g : Handle}

/-- An operation on a handle that fails, with what it leads to. -/
lemma Act.on_error {x : Act α} {v : World} {e : Error} (he : (x.on g v).1.1 = .error e) :
    x.on g v = ((.error e, (x.on g v).1.2), (x.on g v).2) := by
  rw [← he]
  rfl

/-- Less may be said of the failure of an operation on a handle. -/
lemma Act.weaken_error {ψ' : Handle → World → Prop} {x : Act α}
    (h : Leads P (x.on g) (OnError ψ)) (hψ : ∀ h w, ψ h w → ψ' h w) :
    Leads P (x.on g) (OnError ψ') := by
  refine h.weaken (fun _ hw => hw) fun out w hout => ?_
  obtain ⟨e | a, h⟩ := out
  · exact hψ h w hout
  · trivial

/-- One operation on a handle after another, where only failure counts. -/
lemma Act.leads_bind_error {φ : α → Handle → World → Prop} {x : Act α} {f : α → Act β}
    (hok : Leads P (x.on g) (OnOk φ)) (herror : Leads P (x.on g) (OnError ψ))
    (hf : ∀ a h, Leads (φ a h) ((f a).on h) (OnError ψ)) :
    Leads P ((x >>= f).on g) (OnError ψ) :=
  Act.leads_bind (R := fun out w => OnOk φ out w ∧ OnError ψ out w)
    (fun w hw => ⟨hok w hw, herror w hw⟩) (fun a h w hw => hf a h w hw.1) fun _ _ _ hw => hw.2

/-- An operation on a handle after one on the world, where only failure counts. -/
lemma Act.leads_ofAttempt_bind_error {φ : α → World → Prop} {x : Attempt Error α} {f : α → Act β}
    (hok : Leads P x.run (Net.OnOk φ)) (herror : Leads P x.run (Net.OnError (ψ g)))
    (hf : ∀ a, Leads (φ a) ((f a).on g) (OnError ψ)) :
    Leads P ((Act.ofAttempt x >>= f).on g) (OnError ψ) := by
  refine Act.leads_bind (R := fun out w => out.2 = g ∧ Net.OnOk φ out.1 w ∧
    Net.OnError (ψ g) out.1 w) (Act.leads_ofAttempt fun w hw => ⟨rfl, hok w hw, herror w hw⟩)
    (fun a h => .of_and ?_) ?_
  · rintro rfl
    exact (hf a).weaken (fun _ hw => hw.1) fun _ _ hw => hw
  · rintro e h w ⟨rfl, -, hw⟩
    exact hw

end Handle

/-! ## Open descriptors -/

/-- An event that opens and closes no descriptor. -/
def Event.Still (e : Event) : Prop := e.opens = [] ∧ ∀ fd, e.target? ≠ some (fd, .closed)

/-- System calls that are not about opening and closing open and close nothing. -/
lemma Event.Within.still {kinds : List CallKind} (h : ∀ k ∈ kinds, k ∉ Kernel.turning) {e : Event}
    (he : e.Within kinds) : e.Still := by
  cases e with
  | tls => exact he.elim
  | call c outcome => exact Kernel.opens_of_kind c outcome (h _ he)
  | query | record | trace => exact ⟨rfl, fun _ => nofun⟩

/-- A log record opens and closes nothing. -/
lemma Event.still_of_isRecord {e : Event} (h : e.isRecord = true) : e.Still := by
  cases e with
  | record => exact ⟨rfl, fun _ => nofun⟩
  | call | tls | query | trace => exact nomatch h

/-- An event that opens and closes nothing leaves the open descriptors. -/
lemma Kernel.Follows.still {k k' : Kernel} {e : Event} (h : k.Follows e k') (he : e.Still) :
    k'.descriptors = k.descriptors := by
  rw [h.descriptors_eq, he.1, List.append_nil, List.filter_eq_self.2]
  intro fd _
  simpa using he.2 fd

/-- **The open descriptors change by events only**: where nothing that was done opens or closes a
descriptor, they are what they were.

**Proof sketch.** By induction on the way. A step beside events leaves the kernel, and one that adds
an event leaves the open descriptors unless the event opens or closes one. -/
lemma World.Onward.still {p : Event → Prop} {u w : World} (h : u.Onward p w) :
    ∃ es, w.actions = u.actions ++ es ∧
      ((∀ e ∈ es, e.Still) → w.kernel.descriptors = u.kernel.descriptors) := by
  induction h with
  | refl => exact ⟨[], (List.append_nil _).symm, fun _ => rfl⟩
  | @tail v w _ hm ih =>
    obtain ⟨es, hes, hkeeps⟩ := ih
    cases hm with
    | aside _ hk hj =>
      refine ⟨es, ?_, fun hstill => (congrArg Kernel.descriptors hk).trans (hkeeps hstill)⟩
      rw [actions, hj]
      exact hes
    | @event e _ ha _ =>
      refine ⟨es ++ [e].filter fun e => !e.isRecord, ?_, fun hstill => ?_⟩
      · rw [actions, ha.journal_eq, List.filter_append, ← List.append_assoc, ← hes]
        rfl
      · -- A record is no action, but it opens and closes nothing either.
        have he : e.Still := by
          cases hrecord : e.isRecord with
          | true => exact Event.still_of_isRecord hrecord
          | false => exact hstill e (List.mem_append_right _ (by simp [hrecord]))
        refine (ha.follows.still he).trans (hkeeps fun e' he' => ?_)
        exact hstill e' (List.mem_append_left _ he')

/-! ## Descriptors that are not connected -/

/-- Whether an event is that a descriptor was connected. -/
def Event.connects : Event → Bool
  | call (.connect ..) (.ok _) => true
  | _ => false

namespace Opening

variable {as : List Event} {fd : Descriptor}

/-- The kinds of system calls that connecting a descriptor again takes. -/
def renewing : List CallKind := [.connect, .getsockname, .getaddrinfo]

/-- Events among which no descriptor was connected, though it may have been tried. -/
def InVain (es : List Event) : Prop := ∀ e ∈ es, e.Within renewing ∧ e.connects = false

/-- No descriptor was connected since some actions. -/
def Unconnected (as : List Event) (w : World) : Prop := ∃ es, InVain es ∧ w.actions = as ++ es

/-- What does not connect is no call that did. -/
lemma connects_eq_false {kinds : List CallKind} (h : .connect ∉ kinds) {e : Event}
    (he : e.Within kinds) : e.connects = false := by
  cases e with
  | call c outcome =>
    cases c with
    | connect => exact absurd he h
    | _ => rfl
  | tls | query | record | trace => rfl

/-- The trial of a candidate that fails is in vain. -/
lemma Retrial.inVain {c : Candidate} {es : List Event} {f : Fault}
    (h : Retrial fd c es (.error f)) : InVain es := by
  cases h with
  | failed _ _ n =>
    rintro e (_ | ⟨_, ⟨⟩⟩)
    exact ⟨by simp [Event.Within, Call.kind, renewing], rfl⟩
  | next a h => cases h

/-- Trials that all fail are in vain. -/
lemma InTurn.inVain {found : List Candidate} {es : List Event} {f : Fault}
    (h : InTurn (Retrial fd) found es (.error f)) : InVain es := by
  obtain ⟨before, c, after, ess, last, -, hbefore, hlast, -, rfl⟩ := h
  have hall : InVain ess.flatten := by
    induction hbefore with
    | nil => exact List.forall_mem_nil _
    | cons hb _ ih =>
      obtain ⟨f', hb⟩ := hb
      exact List.forall_mem_append.2 ⟨Retrial.inVain hb, ih⟩
  exact List.forall_mem_append.2 ⟨hall, Retrial.inVain hlast⟩

/-- What fails about the answer to a query is in vain. -/
lemma Settles.inVain {operation : String} {host : Option String}
    {answer : Except ResolveError (List Candidate)} {es : List Event} {e : Error}
    (h : Settles operation host (Retrial fd) answer es (.error e)) : InVain es := by
  cases h with
  | unresolved | empty => exact List.forall_mem_nil _
  | failed h => exact h.inVain

/-- Connecting a descriptor to a local socket, where it fails.

**Proof sketch.** The path may be none that fits, and then nothing is done. Otherwise the one call
to connect is what failed. -/
lemma unconnected_connectLocalTo (path : String) :
    Leads (fun w => w.actions = as) (connectLocalTo fd path).run
      (Net.OnError (Unconnected as)) := by
  have hnothing (w : World) (hw : w.actions = as) : Unconnected as w :=
    ⟨[], List.forall_mem_nil _, hw.trans (List.append_nil as).symm⟩
  unfold connectLocalTo localAddress
  split
  · refine .run_bind_error (φ := fun _ w => w.actions = as) (.run_pure _ fun _ hw => hw)
      (.run_pure _ fun _ _ => trivial) fun address => ?_
    refine .run_bind_error (World.acts_require_ok _ _) ?_ fun _ => ?_
    · refine (World.acts_require_error _ _).weaken_error fun w ⟨n, hw⟩ => ⟨_, ?_, hw⟩
      exact List.forall_mem_singleton.2 ⟨by simp [Event.Within, Call.kind, renewing], rfl⟩
    · exact fun _ _ => trivial
  · exact .run_bind (R := fun r w => Unconnected as w ∧ r.isOk = false)
      (.run_lift_bind (World.acts_record _ _) fun _ =>
        .run_throw _ fun w hw => ⟨hnothing w hw, rfl⟩)
      (fun a w hw => Bool.noConfusion hw.2) fun e w hw => hw.1

/-- Connecting a descriptor that is there already, where it fails.

**Proof sketch.** A path is refused in one call. Otherwise the candidates are tried in turn
(`tries_connectAgain`), and since it failed none of them was connected to. -/
lemma unconnected_connectAgain (scope : Scope) (host service : String) (p : Protocol) :
    Leads (fun w => w.actions = as) (connectAgain scope fd host service p).run
      (Net.OnError (Unconnected as)) := by
  by_cases hp : p = .unix
  · unfold connectAgain
    rw [if_pos hp]
    exact unconnected_connectLocalTo host
  rintro v rfl
  have htries := @tries_connectAgain v scope p hp fd host service v rfl
  generalize (connectAgain scope fd host service p).run v = out at htries ⊢
  obtain ⟨e | u, w⟩ := out
  swap
  · trivial
  obtain ⟨asked, es, hasked, hw, hsettles⟩ := htries
  refine ⟨.call (.getsockname fd) (v.kernel.perform (.getsockname fd)).1 :: (asked ++ es), ?_, ?_⟩
  · refine List.forall_mem_cons.2 ⟨⟨by simp [Event.Within, Call.kind, renewing], rfl⟩, ?_⟩
    refine List.forall_mem_append.2 ⟨fun e he => ?_, hsettles.inVain⟩
    exact ⟨(hasked e he).mono (by simp [renewing]), connects_eq_false (by simp) (hasked e he)⟩
  · rw [hw, List.append_assoc, List.append_assoc]
    rfl

end Opening

/-! ## Where connecting again breaks off -/

namespace Membership

variable {as : List Event} {fd : Descriptor}

/-- No group is left by joining one. -/
lemma leaving_ne_joining (m n : Membership) : m.leaving ≠ n.joining := by
  cases m <;> cases n <;> exact nofun

/-- Joining a group through the interface that the kernel picks, where it fails.

**Proof sketch.** Through the interface that the kernel picks, joining takes a single call for
either kind of group, so this is the one that failed. -/
lemma failed_join_any {a : Address} {ip : Ip} (hip : a.ip? = some ip) :
    Leads (fun w => w.actions = as) (join fd a .any).run (Net.OnError fun w =>
      ∃ n, w.actions = as ++ [.call (.setsockopt fd (byDefault ip).joining) (.error n)]) := by
  have hrest (m : Membership) : Leads (fun _ => True)
      (do Net.record .debug ("joined " ++ m.group.text ++ " via " ++ Interface.any.text)
          pure m : Attempt Error Membership).run
      (Net.OnError fun w =>
        ∃ n, w.actions = as ++ [.call (.setsockopt fd (byDefault ip).joining) (.error n)]) :=
    fun _ _ => trivial
  have hrequire (context : String) (m : Membership) (hm : m = byDefault ip) :
      Leads (fun w => w.actions = as)
        (do let _ ← Net.require context (.setsockopt fd m.joining)
            pure m : Attempt Error Membership).run
        (Net.OnError fun w =>
          ∃ n, w.actions = as ++ [.call (.setsockopt fd (byDefault ip).joining) (.error n)]) := by
    rw [← hm]
    exact .run_bind_error (World.acts_require_ok _ _) (World.acts_require_error _ _)
      fun _ _ _ => trivial
  unfold join
  rw [hip]
  cases ip with
  | v4 group =>
    exact .run_bind_error .of_ok (hrequire _ (.v4 group .unspecified 0) rfl) hrest
  | v6 group =>
    exact .run_bind_error .of_ok (hrequire _ (.v6 group .unspecified 0) rfl) hrest

end Membership

namespace Handle

variable {as : List Event} {id : Nat} {fd : Descriptor} {p : Protocol} {near far : Endpoint}

/-- Asking the kernel for an address of a descriptor, where it fails. -/
lemma failed_ask {g : Handle} (hfd : g.descriptor = some fd) (name : String)
    (c : Descriptor → Call) (read : (fd : Descriptor) → (c fd).Answer → Address) :
    Leads (fun w => w.actions = as) ((ask name c read).on g) (OnError fun h w =>
      h = g ∧ ∃ n, w.actions = as ++ [.call (c fd) (.error n)]) := by
  refine Act.leads_owned_bind hfd ?_
  refine Act.leads_ofNet_bind (World.acts_syscall _) fun r => ?_
  cases r with
  | ok answer => exact Act.leads_pure _ fun _ _ => trivial
  | error n =>
    exact Act.leads_record_bind (World.acts_record _ _) (Act.leads_throw _ fun _ hw => ⟨rfl, n, hw⟩)

/-- Asking the kernel for the near address, where it fails. -/
lemma failed_refreshNear :
    Leads (fun w => w.actions = as) (refreshNear.on (outset id fd p near far)) (OnError fun h w =>
      h = outset id fd p near far ∧ ∃ n, w.actions = as ++ [.call (.getsockname fd) (.error n)]) :=
  Act.leads_bind_error (acts_ask rfl _ _ _) (failed_ask rfl _ _ _) fun _ _ => Act.leads_modify _
    fun _ _ => trivial

/-- Asking the kernel for the far address, where it fails. -/
lemma failed_refreshFar :
    Leads (fun w => w.actions = as) (refreshFar.on (outset id fd p near far)) (OnError fun h w =>
      h = outset id fd p near far ∧ ∃ n, w.actions = as ++ [.call (.getpeername fd) (.error n)]) :=
  Act.leads_bind_error (acts_ask rfl _ _ _) (failed_ask rfl _ _ _) fun _ _ => Act.leads_modify _
    fun _ _ => trivial

/-- Joining the group of the peer, where it fails.

**Proof sketch.** Where the peer is no group nothing is done, and nothing can fail. Where it is,
joining it is the one call (`failed_join_any`), and the handle has not yet been changed. -/
lemma failed_joinPeer (a b : Address) :
    Leads (fun w => w.actions = as)
      (joinPeer.on (outset id fd p (.ofAddress a) (.ofAddress b))) (OnError fun h w =>
        h = outset id fd p (.ofAddress a) (.ofAddress b) ∧ ∃ ip n, b.group? = some ip ∧
          w.actions = as ++
            [.call (.setsockopt fd (Membership.byDefault ip).joining) (.error n)]) := by
  refine Act.leads_get_bind ?_
  dsimp only [outset, Endpoint.ofAddress]
  split
  · exact Act.leads_pure _ fun _ _ => trivial
  rename_i hgroup
  have hmulticast : b.isMulticast? = some true := by simpa using hgroup
  obtain ⟨ip, hb⟩ := Option.isSome_iff_exists.1 (b.isSome_group?.2 hmulticast)
  have hip : b.ip? = some ip := (Option.filter_eq_some_iff.1 hb).1
  refine Act.leads_owned_bind rfl ?_
  refine Act.leads_ofAttempt_bind_error .of_ok ?_ fun m => Act.leads_record_bind
    (R := fun _ => True) (fun _ _ => trivial) (Act.leads_modify _ fun _ _ => trivial)
  exact (Membership.failed_join_any hip).weaken_error fun w ⟨n, hw⟩ => ⟨rfl, ip, n, hb, hw⟩

/-- **Where connecting a handle again broke off**, once it had left its group: what had been done by
then, and what the ends are. Either no descriptor was connected, or it was and then the kernel did
not tell the near end, or the far end, or the group of the peer was not joined. -/
inductive Broken (fd : Descriptor) (near far : Endpoint) :
    List Event → Endpoint → Endpoint → Prop
  | unconnected {es : List Event} (hes : Opening.InVain es) : Broken fd near far es near far
  | nearUnknown {before : List Event} (hbefore : ∀ e ∈ before, e.Within Opening.renewing)
    (address : Address) (n : Int) :
    Broken fd near far (before ++ [.call (.connect fd address) (.ok ()),
      .call (.getsockname fd) (.error n)]) near far
  | farUnknown {before : List Event} (hbefore : ∀ e ∈ before, e.Within Opening.renewing)
    (address a : Address) (n : Int) :
    Broken fd near far (before ++ [.call (.connect fd address) (.ok ()),
      .call (.getsockname fd) (.ok a), .call (.getpeername fd) (.error n)]) (.ofAddress a) far
  | apart {before : List Event} (hbefore : ∀ e ∈ before, e.Within Opening.renewing)
    (address a b : Address) (ip : Ip) (hb : b.group? = some ip) (n : Int) :
    Broken fd near far (before ++ [.call (.connect fd address) (.ok ()),
      .call (.getsockname fd) (.ok a), .call (.getpeername fd) (.ok b),
      .call (.setsockopt fd (Membership.byDefault ip).joining) (.error n)])
      (.ofAddress a) (.ofAddress b)

/-- Connecting a handle again fails where it breaks off. -/
def BrokenOff (id : Nat) (fd : Descriptor) (p : Protocol) (near far : Endpoint) (as : List Event)
    (h : Handle) (w : World) : Prop :=
  ∃ es near' far', h = outset id fd p near' far' ∧ Broken fd near far es near' far' ∧
    w.actions = as ++ es

/-- Asking for the ends of a descriptor that has been connected, and joining the group of the peer,
where one of these fails.

**Proof sketch.** Three things are done in turn and the first that fails ends it: asking for the
near end, asking for the far end, and joining the group of the peer. Where the second or the third
fails, what was done before is known from its success. -/
lemma failed_arrival {before : List Event} (hbefore : ∀ e ∈ before, e.Within Opening.renewing)
    (address : Address) (message : String) :
    Leads (fun w => w.actions = as ++ before ++ [.call (.connect fd address) (.ok ())])
      ((do refreshNear; refreshFar; joinPeer; record .debug message).on (outset id fd p near far))
      (OnError (BrokenOff id fd p near far as)) := by
  refine Act.leads_bind_error acts_refreshNear ?_ fun _ h => .of_exists fun a => .of_and ?_
  · refine Act.weaken_error failed_refreshNear ?_
    rintro h w ⟨rfl, n, hw⟩
    refine ⟨_, _, _, rfl, .nearUnknown hbefore address n, ?_⟩
    simp only [hw, List.append_assoc, List.cons_append, List.nil_append]
  rintro rfl
  refine Act.leads_bind_error acts_refreshFar ?_ fun _ h => .of_exists fun b => .of_and ?_
  · refine Act.weaken_error failed_refreshFar ?_
    rintro h w ⟨rfl, n, hw⟩
    refine ⟨_, _, _, rfl, .farUnknown hbefore address a n, ?_⟩
    simp only [hw, List.append_assoc, List.cons_append, List.nil_append]
  rintro rfl
  refine Act.leads_bind_error (acts_joinPeer a b) ?_ fun _ h _ _ => trivial
  refine Act.weaken_error (failed_joinPeer a b) ?_
  rintro h w ⟨rfl, ip, n, hb, hw⟩
  refine ⟨_, _, _, rfl, .apart hbefore address a b ip hb n, ?_⟩
  simp only [hw, List.append_assoc, List.cons_append, List.nil_append]

/-- Leaving the group that was joined does not fail. -/
lemma failed_releaseGroup (g : Handle) {P : World → Prop} {ψ : Handle → World → Prop} :
    Leads P (releaseGroup.on g) (OnError ψ) := by
  have hmodify (k : Handle → Handle) : Leads P ((modify k : Act Unit).on g) (OnError ψ) :=
    Act.leads_modify _ fun _ _ => trivial
  refine Act.leads_get_bind ?_
  cases g.membership with
  | none => exact Act.leads_pure _ fun _ _ => trivial
  | some m =>
    dsimp only
    split
    · exact Act.leads_ofNet_bind (R := fun _ _ => True) (fun _ _ => trivial) fun _ =>
        Act.leads_modify _ fun _ _ => trivial
    · exact hmodify _

/-- Connecting a handle again without encryption, where it fails.

**Proof sketch.** Leaving the group does not fail. From the outset that it leaves, either connecting
fails (`unconnected_connectAgain`), or it succeeds and what comes after it fails (`failed_arrival`).
-/
lemma failed_reconnect {g : Handle} (hwf : g.WellFormed) (hfd : g.descriptor = some fd)
    (hoff : g.flags.tls.enabled = false) (scope : Scope) (host service : String) :
    Leads (fun w => w.actions = as) ((reconnect scope host service).on g) (OnError fun h w =>
      ∃ left, BrokenOff g.id fd g.protocol g.near g.far (as ++ g.groupFarewell fd left) h w) := by
  refine Act.leads_get_bind ?_
  dsimp only
  rw [if_neg (by simp [hoff])]
  refine Act.leads_bind_error (acts_releaseGroup hwf hfd hoff) (failed_releaseGroup g)
    fun _ h => .of_and ?_
  rintro rfl
  refine .of_exists fun left => ?_
  refine Act.leads_owned_bind rfl ?_
  refine Act.leads_ofAttempt_bind_error (Opening.acts_connectAgain scope fd host service _) ?_
    fun _ => ?_
  · refine (Opening.unconnected_connectAgain scope host service _).weaken_error ?_
    rintro w ⟨es, hes, hw⟩
    exact ⟨left, es, _, _, rfl, .unconnected hes, hw⟩
  · rintro w ⟨before, address, hbefore, hw⟩
    exact Act.weaken_error (failed_arrival hbefore address _) (fun h u hu => ⟨left, hu⟩) w hw

namespace Broken

variable {es : List Event} {near' far' : Endpoint}

/-- The kinds of system calls that connecting a handle again takes once it has left its group. -/
def calls : List CallKind := Opening.renewing ++ [.getpeername, .setsockopt]

/-- What is done takes system calls of a few kinds. -/
lemma within (h : Broken fd near far es near' far') : ∀ e ∈ es, e.Within calls := by
  have hbefore {before : List Event} (h : ∀ e ∈ before, e.Within Opening.renewing) :
      ∀ e ∈ before, e.Within calls :=
    fun e he => (h e he).mono (List.subset_append_left _ _)
  cases h with
  | unconnected hes => exact hbefore fun e he => (hes e he).1
  | nearUnknown h | farUnknown h | apart h =>
    refine List.forall_mem_append.2 ⟨hbefore h, ?_⟩
    simp [Event.Within, Call.kind, calls, Opening.renewing]

/-- No descriptor is opened or closed. -/
lemma still (h : Broken fd near far es near' far') : ∀ e ∈ es, e.Still :=
  fun e he => (h.within e he).still (by decide)

/-- No group is left. -/
lemma not_leaving (h : Broken fd near far es near' far') (m : Membership) (left : Except Int Unit) :
    .call (.setsockopt fd m.leaving) left ∉ es := by
  have hbefore {before : List Event} (h : ∀ e ∈ before, e.Within Opening.renewing) :
      .call (.setsockopt fd m.leaving) left ∉ before :=
    fun he => by simpa [Event.Within, Call.kind, Opening.renewing] using h _ he
  cases h with
  | unconnected hes => exact hbefore fun e he => (hes e he).1
  | nearUnknown h | farUnknown h => simp [hbefore h]
  | apart h => simp [hbefore h, Membership.leaving_ne_joining]

/-- Where no descriptor was connected the ends are what they were. -/
lemma ends_eq (h : Broken fd near far es near' far') (hes : ∀ e ∈ es, e.connects = false) :
    near' = near ∧ far' = far := by
  cases h with
  | unconnected => exact ⟨rfl, rfl⟩
  | nearUnknown _ address | farUnknown _ address | apart _ address =>
    have hfalse := hes (.call (.connect fd address) (.ok ())) (by simp)
    exact nomatch hfalse

/-- The ends are remembered rightly if they were. -/
lemma faithful (h : Broken fd near far es near' far') (hnear : near.Faithful)
    (hfar : far.Faithful) : near'.Faithful ∧ far'.Faithful := by
  cases h with
  | unconnected | nearUnknown => exact ⟨hnear, hfar⟩
  | farUnknown _ _ a => exact ⟨Endpoint.faithful_ofAddress a, hfar⟩
  | apart _ _ a b => exact ⟨Endpoint.faithful_ofAddress a, Endpoint.faithful_ofAddress b⟩

end Broken

variable {g h : Handle} {v u : World}

/-- **Connecting a handle again failed**, from one world to another, and another handle came out: it
left its group, once, if it was in one, and then connecting again broke off somewhere. -/
structure Unrenewed (g : Handle) (v : World) (h : Handle) (u : World) (fd : Descriptor)
    (left : Except Int Unit) (es : List Event) : Prop where
  actions_eq : u.actions = v.actions ++ g.groupFarewell fd left ++ es
  once : ∀ (m : Membership) (left : Except Int Unit), .call (.setsockopt fd m.leaving) left ∉ es
  /-- What the ends are goes by what had been done. -/
  broken : Broken fd g.near g.far es h.near h.far
  /-- If no descriptor was connected, nothing can be told from the handle before. -/
  unreached : (∀ e ∈ es, e.connects = false) →
    h.near = g.near ∧ h.far = g.far ∧ ∀ q, (h.tell q).1 = (g.tell q).1
  owned : g.descriptor = some fd ∧ h.descriptor = some fd
  descriptors_eq : u.kernel.descriptors = v.kernel.descriptors
  kept : h.id = g.id ∧ h.protocol = g.protocol ∧ h.flags.tls = g.flags.tls ∧
    h.session = g.session
  parted : h.membership = none ∧ h.flags.joined = false
  wellFormed : h.WellFormed
  faithful : h.Faithful

/-- Leaving a group opens and closes no descriptor. -/
lemma still_groupFarewell (g : Handle) (fd : Descriptor) (left : Except Int Unit) :
    ∀ e ∈ g.groupFarewell fd left, e.Still := by
  intro e he
  obtain ⟨m, -, rfl⟩ := Option.map_eq_some_iff.1 (Option.mem_toList.1 he)
  exact Kernel.opens_of_kind (.setsockopt fd m.leaving) left
    (by decide : CallKind.setsockopt ∉ Kernel.turning)

/-- A handle in no group that is not encrypted is well-formed. -/
lemma wellFormed_outset (id : Nat) (fd : Descriptor) (p : Protocol) (near far : Endpoint) :
    (outset id fd p near far).WellFormed :=
  ⟨by simp [outset], by simp [outset, TlsMode.off], by simp [outset]⟩

/-- A well-formed handle without encryption that remembers rightly is unrenewed where it cannot be
connected again.

**Proof sketch.** How far connecting again came is known (`failed_reconnect`), and each point at
which it breaks off says what the handle remembers and what was done. Descriptors change by events
only (`World.Onward.still`), and none of those here opens or closes one. -/
theorem WellFormed.unrenewed (hwf : g.WellFormed) (hg : g.Faithful) (hfd : g.descriptor = some fd)
    (hoff : g.flags.tls.enabled = false) {scope : Scope} {host service : String} {e : Error}
    (hrun : (reconnect scope host service).on g v = ((.error e, h), u)) :
    ∃ left es, g.Unrenewed v h u fd left es := by
  have hfailed := failed_reconnect hwf hfd hoff scope host service v rfl
  have hvocal : Act.Vocal fd True (fun g => g.flags.tls.enabled = true)
      (reconnect scope host service) := vocal_reconnect scope host service
  have honward := hvocal.only g hfd v
  rw [hrun] at hfailed honward
  obtain ⟨left, es, near, far, rfl, hbroken, hactions⟩ := hfailed
  have hsession : g.session = none := by
    have houtset := congrArg Handle.session (hwf.outset_eq hfd hoff)
    exact houtset
  refine ⟨left, es, hactions, hbroken.not_leaving, hbroken, fun hes => ?_, ⟨hfd, rfl⟩, ?_, ?_,
    ⟨rfl, rfl⟩, wellFormed_outset .., hbroken.faithful hg.1 hg.2⟩
  · obtain ⟨rfl, rfl⟩ := hbroken.ends_eq hes
    exact ⟨rfl, rfl, fun q => by cases q <;> rfl⟩
  · -- What was added to the journal is known from `hactions`, and none of it opens or closes.
    obtain ⟨es', hes', hstill⟩ := honward.still
    obtain rfl : es' = g.groupFarewell fd left ++ es :=
      List.append_cancel_left (hes'.symm.trans (hactions.trans (List.append_assoc ..)))
    exact hstill (List.forall_mem_append.2 ⟨g.still_groupFarewell fd left, hbroken.still⟩)
  · exact ⟨rfl, rfl, (TlsMode.eq_off hoff).symm, hsession.symm⟩

end Handle

namespace Run

/-- Whatever steps there were, a handle that is alive owns a descriptor that is open. -/
lemma open_steps (w : World) (ss : List Step) {p : String × Handle}
    (hp : p ∈ ((start w).steps ss).table) {fd : Descriptor} (hfd : p.2.descriptor = some fd) :
    fd ∈ ((start w).steps ss).world.kernel.descriptors := by
  have hsane : ((start w).steps ss).Sane True :=
    (sane_start w).steps _ fun _ _ _ => trivial
  have hmem : some fd ∈ ((start w).steps ss).table.handles.map Handle.descriptor :=
    List.mem_map.2 ⟨p.2, List.mem_map_of_mem hp, hfd⟩
  obtain ⟨fd', hfd', heq⟩ := List.mem_map.1 (hsane.balanced.owned.mem_iff.1 hmem)
  obtain rfl := Option.some.inj heq
  exact hfd'

/-- **Connecting again in vain.** However the library was used before, and whatever it is done in:
where connecting a handle again fails, nothing at all has happened if it is encrypted; any other
handle, whose descriptor was open, has left its group and is unrenewed.

**Proof sketch.** Every handle of a run is held by it, which makes it well-formed and one that
remembers rightly (`held_steps`). An encrypted one is refused at once, and any other one is
`WellFormed.unrenewed`. -/
theorem unrenewed_of_reconnect_fails (w : World) (ss : List Step) (p : String × Handle)
    (hp : p ∈ ((start w).steps ss).table) (scope : Scope) (host service : String) (v : World)
    (e : Error) (h : Handle) (u : World)
    (hrun : (Handle.reconnect scope host service).on p.2 v = ((.error e, h), u)) :
    (p.2.flags.tls.enabled = true → h = p.2 ∧ u = v) ∧
      (p.2.flags.tls.enabled = false → ∃ fd left es, p.2.Unrenewed v h u fd left es ∧
        fd ∈ ((start w).steps ss).world.kernel.descriptors) := by
  obtain ⟨fd, hfd, hwf, hfaithful⟩ := (held_steps w ss).2 p hp
  refine ⟨fun hon => ?_, fun hoff => ?_⟩
  · rw [Handle.reconnect_of_enabled hon] at hrun
    cases hrun
    exact ⟨rfl, rfl⟩
  · obtain ⟨left, es, hunrenewed⟩ := hwf.unrenewed hfaithful hfd hoff hrun
    exact ⟨fd, left, es, hunrenewed, open_steps w ss hp hfd⟩

/-- A handle in a group that cannot tell its new far end has left the group, and has a new near end
only. -/
theorem unrenewed_joined :
    ∃ (r : Run) (_ : 0 < r.table.length) (v : World),
      (r.table[0]).2.membership ≠ none ∧ (r.table[0]).2.flags.tls.enabled = false ∧
      ((Handle.reconnect .own "10.0.0.2" "6000").on (r.table[0]).2 v).1.1 =
        .error (.system "getpeername" (.os 107)) ∧
      ((Handle.reconnect .own "10.0.0.2" "6000").on (r.table[0]).2 v).1.2.near.address =
        some (.inet ⟨10, 0, 0, 1⟩ 5000) ∧
      ∃ fd left es, (r.table[0]).2.Unrenewed v
        ((Handle.reconnect .own "10.0.0.2" "6000").on (r.table[0]).2 v).1.2
        ((Handle.reconnect .own "10.0.0.2" "6000").on (r.table[0]).2 v).2 fd left es ∧
        fd ∈ r.world.kernel.descriptors :=
  ⟨(start {}).steps [.bind "u" .own (some "127.0.0.1") "5000" .udp {},
    .joinGroup "u" (.inet ⟨239, 1, 2, 3⟩ 5000) .any, .tell "u" .farHost],
    by decide +kernel,
    { kernel := {
        sockets := [(100, ⟨.inet, .dgram, some (.inet ⟨10, 0, 0, 1⟩ 5000), none, [], false, none⟩)]
        faults := Kernel.moreFaults (fun _ => []) [(.getpeername, [107])] } },
    by decide +kernel, by decide +kernel, by decide +kernel, by decide +kernel,
    (unrenewed_of_reconnect_fails {} _ _ (List.getElem_mem _) .own "10.0.0.2" "6000" _
      (.system "getpeername" (.os 107)) _ _ (Handle.Act.on_error (by decide +kernel))).2
        (by decide +kernel)⟩

end Run

end Sockets
