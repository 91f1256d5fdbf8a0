import Sockets.Proofs.CandidateOrder
import Sockets.Proofs.Complaints
import Sockets.Proofs.Resolution

/-!
# Kinds of sockets

A socket has a family, a type and a transport, and each of these is settled by one thing: the family
by the address that the socket is for, and the type and the transport by what the handle was asked
for. Where the resolver of the system is asked, all of them agree, from the hints of the query to
the call that opens the socket and the one that connects or binds it. A handle that is connected
again keeps its socket, so it is connected to addresses of the family that the socket has.

## Main definitions

* `Sockets.Protocol.kinds` — the types and transports of the sockets that a transport stands for.
* `Sockets.Opening.Fitting` — what is done with one socket for one address.
* `Sockets.Opening.Seated` — sockets were opened for addresses, of the kinds of a transport.
* `Sockets.Handle.Homed` — a handle was connected to addresses of the family that it has.

## Main results

* `Sockets.Resolution.Answers.serves` — the candidates of a query are its addresses, each with the
  kinds of the transport.
* `Sockets.Net.seated_of_system` — connecting, binding and connecting again under the resolver of
  the system.
-/

set_option autoImplicit false

namespace Sockets

open Net (Leads Only)

/-! ## Kinds -/

/-- The types and the transport numbers of the sockets that a transport stands for, in the order in
which they are tried for an address. -/
def Protocol.kinds : Protocol → List (SocketType × Int)
  | unspecified => [(.stream, tcpNumber), (.dgram, udpNumber)]
  | tcp => [(.stream, tcpNumber)]
  | udp => [(.dgram, udpNumber)]
  | sctp => [(.stream, sctpNumber)]
  | unix => []

/-- A candidate is for an address, whose family it has, and of a kind. -/
structure Candidate.Serves (c : Candidate) (a : Address) (kind : SocketType × Int) : Prop where
  address_eq : c.address = a
  family_eq : a.family? = some c.family
  type_eq : c.type = kind.1
  protocol_eq : c.protocol = some kind.2

/-- An address is of the family that is asked for, if one is. -/
def Address.HasFamily (family : Option Family) (a : Address) : Prop :=
  ∀ f, family = some f → a.family? = some f

/-- A port at an internet address has the family of that one. -/
lemma Address.family?_ofIp (ip : Ip) (port : UInt16) :
    (Address.ofIp ip port).family? = some (System.familyOf ip) := by
  cases ip <;> rfl

namespace Resolution

variable {table : List ServiceEntry} {said : String → Except Int (Except Int (List (Option Ip)))}

/-- The socket types to try for a transport are those of its kinds. -/
lemma Types.eq_kinds {p : Protocol} (hp : p ≠ .unix) {types : List SocketType}
    (h : Types p.socketType? (.ok types)) : types = p.kinds.map Prod.fst := by
  have hkinds : System.socketTypes p.socketType? = .ok (p.kinds.map Prod.fst) := by
    cases p with
    | unix => exact absurd rfl hp
    | unspecified | tcp | udp | sctp => rfl
  exact Except.ok.inj (h.unique (hkinds ▸ types_socketTypes _))

/-- The addresses of a host are of the family that is hinted at.

**Proof sketch.** By how the addresses were found. Every address of the machine, and none, are of
the family by themselves; a literal is checked for it; and of what the name service says only what
is of the family is kept. -/
lemma Hosts.ofFamily {hints : Hints} {host : Option String} {ips : List Ip}
    (h : Hosts said hints host (.ok ips)) : ∀ ip ∈ ips, OfFamily hints.family ip := by
  obtain ⟨family, type, protocol, passive⟩ := hints
  cases h with
  | everywhere _ _ h =>
    cases h with
    | any => exact fun _ _ => .inl rfl
    | inet | inet6 => exact List.forall_mem_singleton.2 (.inr rfl)
  | literal _ _ hf => exact List.forall_mem_singleton.2 hf
  | @named name _ _ _ hr =>
    obtain _ | ⟨-, hsaid⟩ := hr
    generalize said name = answer at hsaid
    cases hsaid with
    | found h _ => exact fun ip hip => ((h.mem_iff ip).1 hip).2

/-- What suits an address and the type of a kind of a transport is of that kind.

**Proof sketch.** The transport is unspecified, and then the type settles it, or it is the one that
is hinted at. -/
lemma Suits.serves {p : Protocol} {family : Option Family} {passive : Bool} {port : UInt16}
    {ip : Ip} {kind : SocketType × Int} {c : Candidate} (hk : kind ∈ p.kinds)
    (h : Suits ⟨family, p.socketType?, p.number?, passive⟩ port ip kind.1 c) :
    c.Serves (.ofIp ip port) kind := by
  refine ⟨h.address_eq, ?_, h.type_eq, ?_⟩
  · rw [h.family_eq, Address.family?_ofIp]
  · cases p with
    | unspecified =>
      obtain rfl | rfl : kind = (.stream, tcpNumber) ∨ kind = (.dgram, udpNumber) := by
        simpa [Protocol.kinds] using hk
      · exact h.protocol_stream rfl rfl
      · exact h.protocol_dgram rfl rfl
    | tcp | udp | sctp =>
      obtain rfl := List.mem_singleton.1 hk
      exact h.protocol_of_hint _ rfl
    | unix => exact nomatch hk

/-- The product of two lists of images is the list of images of the product. -/
lemma product_map {α β γ δ : Type} (f : α → γ) (g : β → δ) (as : List α) (bs : List β) :
    as.map f ×ˢ bs.map g = (as ×ˢ bs).map (Prod.map f g) := by
  induction as with
  | nil => rfl
  | cons a as ih => simp [List.product_cons, ih]

/-- **The candidates of a query** for a transport are addresses of the family that is hinted at,
each with the kinds of the transport side by side.

**Proof sketch.** The addresses are those of the host, of the family that is hinted at. A candidate
suits its address and its type, and the type is one of the kinds of the transport, so that its
protocol is settled with it. -/
theorem Answers.serves {p : Protocol} (hp : p ≠ .unix) {host service : Option String}
    {family : Option Family} {passive : Bool} {found : List Candidate}
    (h : Answers table said ⟨host, service, ⟨family, p.socketType?, p.number?, passive⟩⟩
      (.ok found)) :
    ∃ addresses : List Address, (∀ a ∈ addresses, a.HasFamily family) ∧
      List.Forall₂ (fun k c => c.Serves k.1 k.2) (addresses ×ˢ p.kinds) found := by
  cases h with
  | @candidates types port ips _ _ ht _ hh hc =>
    obtain rfl := ht.eq_kinds hp
    refine ⟨ips.map fun ip => .ofIp ip port, ?_, ?_⟩
    · refine List.forall_mem_map.2 fun ip hip f hf => ?_
      obtain hnone | hsome := hh.ofFamily ip hip
      · exact nomatch hnone.symm.trans hf
      · rw [Address.family?_ofIp, ← hsome, hf]
    · rw [← List.map_id ips, product_map, List.forall₂_map_left_iff] at hc
      rw [← List.map_id p.kinds, product_map, List.forall₂_map_left_iff]
      refine ((List.forall₂_and_left _ _).2 ⟨fun k hk => (List.mem_product.1 hk).2, hc⟩).imp ?_
      exact fun k c hsuits => hsuits.2.serves hsuits.1

end Resolution

/-! ## Sockets that are opened -/

/-- A call on one descriptor: it opens no socket, and if it connects or binds one, it is that
descriptor, to an address. -/
def Call.AimedAt (fd : Descriptor) (a : Address) : Call → Prop
  | .connect other b | .bind other b => other = fd ∧ b = a
  | c => c.kind ∉ CallKind.placing

/-- A call that opens, connects and binds no socket is aimed wherever one likes. -/
lemma Call.aimedAt_of_kind {c : Call} (h : c.kind ∉ CallKind.placing) (fd : Descriptor)
    (a : Address) : c.AimedAt fd a := by
  cases c with
  | connect | bind => exact absurd (by simp [Call.kind, CallKind.placing]) h
  | _ => exact h

/-- An event is no call but one that is aimed at an address. -/
def Event.AimedAt (fd : Descriptor) (a : Address) : Event → Prop
  | call c _ => c.AimedAt fd a
  | tls .. | query _ | record .. | trace _ => True

namespace Opening

/-- What is done with one socket for an address. It is asked for, of the family of the address and
of a kind; if there is one, all that is done then are calls that connect and bind no other socket,
and this one to that address only. -/
inductive Fitting (a : Address) (kind : SocketType × Int) : List Event → Prop
  | unopened {family : Family} (hf : a.family? = some family) (n : Int) :
    Fitting a kind [.call (.socket family kind.1 kind.2) (.error n)]
  | opened {family : Family} (hf : a.family? = some family) (fd : Descriptor) {es : List Event}
    (hes : ∀ e ∈ es, e.AimedAt fd a) :
    Fitting a kind (.call (.socket family kind.1 kind.2) (.ok fd) :: es)

/-- Events that come one after the other, one list for each address and kind up to some point: the
addresses are of the family that is asked for, and each goes with the kinds of a transport side by
side. -/
def Attempts (attempt : Address → SocketType × Int → List Event → Prop) (p : Protocol)
    (family : Option Family) (es : List Event) : Prop :=
  ∃ (addresses : List Address) (tried : List (Address × SocketType × Int))
    (ess : List (List Event)),
    (∀ a ∈ addresses, a.HasFamily family) ∧ tried <+: addresses ×ˢ p.kinds ∧
      List.Forall₂ (fun k es => attempt k.1 k.2 es) tried ess ∧ es = ess.flatten

/-- Sockets were opened since some actions, of the kinds of a transport and for addresses of the
family that is asked for. Nothing else that was done opens a socket, or connects or binds one. -/
def Seated (p : Protocol) (family : Option Family) (as : List Event) (w : World) : Prop :=
  ∃ before es after, (∀ e ∈ before ++ after, e.Beside) ∧ Attempts Fitting p family es ∧
    w.actions = as ++ before ++ es ++ after

/-! ### Trials -/

section Trial

variable {wished needed : Descriptor → List Call} {c : Candidate} {a : Address}
  {kind : SocketType × Int} {es : List Event} {r : Except Fault Descriptor}

/-- A trial whose calls are aimed at its address is fitting.

**Proof sketch.** By how the trial ended. All calls on the descriptor are aimed at the address of
the candidate (`haimed`), whichever of them failed, and closing it names no address. -/
lemma Trial.fitting (h : Trial wished needed c es r) (hc : c.Serves a kind)
    (haimed : ∀ fd, ∀ call ∈ wished fd ++ needed fd, call.AimedAt fd c.address) :
    Fitting a kind es := by
  obtain ⟨family, type, protocol, address⟩ := c
  obtain ⟨rfl, hf, rfl, rfl⟩ := hc
  have hwished {fd : Descriptor} {ws : List Event} (hws : Wishes (wished fd) ws) :
      ∀ e ∈ ws, e.AimedAt fd address := by
    intro e he
    obtain ⟨call, hcall, outcome, rfl⟩ := hws.mem e he
    exact haimed fd call (List.mem_append_left _ hcall)
  have hneeded {fd : Descriptor} {es : List Event} {f : Option Fault}
      (hes : Calls (needed fd) es f) : ∀ e ∈ es, e.AimedAt fd address := by
    intro e he
    obtain ⟨call, hcall, outcome, rfl⟩ := hes.mem e he
    exact haimed fd call (List.mem_append_right _ hcall)
  cases h with
  | unopened n => exact .unopened hf n
  | @failed fd _ _ _ hws hes closed =>
    have hclose : (Call.close fd).AimedAt fd address :=
      Call.aimedAt_of_kind (by simp [Call.kind, CallKind.placing]) fd address
    refine .opened hf fd (List.forall_mem_append.2 ⟨List.forall_mem_append.2 ⟨?_, ?_⟩, ?_⟩)
    · exact hwished hws
    · exact hneeded hes
    · exact List.forall_mem_singleton.2 hclose
  | @done fd _ _ hws hes =>
    exact .opened hf fd (List.forall_mem_append.2 ⟨hwished hws, hneeded hes⟩)

/-- A trial of connecting is fitting. -/
lemma fitting_connecting (h : Trial (fun _ => []) (connecting c) c es r) (hc : c.Serves a kind) :
    Fitting a kind es :=
  h.fitting hc fun fd call hcall => by
    obtain rfl := List.mem_singleton.1 hcall
    exact ⟨rfl, rfl⟩

/-- A trial of binding is fitting.

**Proof sketch.** Of the calls of a trial, only the last one names an address, which is that of the
candidate; setting an option names none. -/
lemma fitting_binding {config : Config} {p : Protocol}
    (h : Trial (reusing config) (binding config p c) c es r) (hc : c.Serves a kind) :
    Fitting a kind es := by
  refine h.fitting hc fun fd call hcall => ?_
  have hoption (option : SocketOption) : (Call.setsockopt fd option).AimedAt fd c.address :=
    Call.aimedAt_of_kind (by simp [Call.kind, CallKind.placing]) fd c.address
  obtain hreuse | hsctp | hbind : call ∈ reusing config fd ∨
      call ∈ (if p = .sctp then sctpOptions config.sctp fd else []) ∨
        call = .bind fd c.address := by
    simpa [binding] using hcall
  · unfold reusing at hreuse
    split at hreuse
    · obtain rfl := List.mem_singleton.1 hreuse
      exact hoption _
    · exact absurd hreuse List.not_mem_nil
  · split at hsctp
    · obtain rfl | rfl : call = _ ∨ call = _ := by simpa [sctpOptions] using hsctp
      · exact hoption _
      · exact hoption _
    · exact absurd hsctp List.not_mem_nil
  · obtain rfl := hbind
    exact ⟨rfl, rfl⟩

end Trial

/-! ### Candidates in turn -/

/-- One list goes with another element by element, and that one with a third. -/
lemma forall₂_trans {α β γ : Type} {R : α → β → Prop} {S : β → γ → Prop} {T : α → γ → Prop}
    (h : ∀ a b c, R a b → S b c → T a c) {as : List α} {bs : List β} {cs : List γ}
    (hR : List.Forall₂ R as bs) (hS : List.Forall₂ S bs cs) : List.Forall₂ T as cs := by
  induction hR generalizing cs with
  | nil =>
    cases hS
    exact .nil
  | cons hab _ ih =>
    cases hS with
    | cons hbc hS => exact .cons (h _ _ _ hab hbc) (ih hS)

/-- What is done about the candidates of a query for a transport are attempts.

**Proof sketch.** A query that has no candidates makes no attempt. Otherwise the candidates tried
are the first ones of the list, so that they go with as many of the first addresses and kinds, and
each trial is an attempt at its own (`htrial`). -/
lemma Settles.attempts {α : Type} {operation : String}
    {trial : Candidate → List Event → Except Fault α → Prop}
    {attempt : Address → SocketType × Int → List Event → Prop} {table : List ServiceEntry}
    {said : String → Except Int (Except Int (List (Option Ip)))} {p : Protocol} (hp : p ≠ .unix)
    {host service : Option String} {family : Option Family} {passive : Bool}
    {answer : Except ResolveError (List Candidate)} {es : List Event} {r : Except Error α}
    (h : Settles operation host trial answer es r)
    (hanswer : Resolution.Answers table said
      ⟨host, service, ⟨family, p.socketType?, p.number?, passive⟩⟩ answer)
    (htrial : ∀ c a kind es r, trial c es r → c.Serves a kind → attempt a kind es) :
    Attempts attempt p family es := by
  have hturn {found : List Candidate} {r : Except Fault α} (hin : InTurn trial found es r)
      (hfound : answer = .ok found) : Attempts attempt p family es := by
    subst hfound
    obtain ⟨addresses, hfamily, hserves⟩ := hanswer.serves hp
    obtain ⟨before, c, after, ess, last, rfl, hbefore, hlast, -, rfl⟩ := hin
    -- The candidates up to the last one tried go with as many of the first addresses and kinds.
    rw [List.append_cons] at hserves
    have htried := List.forall₂_take_append _ (before ++ [c]) after hserves
    have hess : List.Forall₂ (fun b es => ∃ r, trial b es r) (before ++ [c]) (ess ++ [last]) :=
      List.rel_append (hbefore.imp fun b es ⟨f, hf⟩ => ⟨.error f, hf⟩) (.cons ⟨r, hlast⟩ .nil)
    refine ⟨addresses, _, ess ++ [last], hfamily, List.take_prefix _ _,
      forall₂_trans ?_ htried hess, by simp⟩
    rintro ⟨a, kind⟩ c es hc ⟨r, hes⟩
    exact htrial c a kind es r hes hc
  cases h with
  | unresolved | empty =>
    exact ⟨[], [], [], List.forall_mem_nil _, List.nil_prefix, .nil, rfl⟩
  | succeeded hin | failed hin => exact hturn hin rfl

/-- What holds of the events of every attempt for an address of the family that is asked for holds
of the events of all attempts. -/
lemma Attempts.forall_mem {attempt : Address → SocketType × Int → List Event → Prop} {p : Protocol}
    {family : Option Family} {es : List Event} (h : Attempts attempt p family es)
    {ψ : Event → Prop}
    (hψ : ∀ a kind es, a.HasFamily family → attempt a kind es → ∀ e ∈ es, ψ e) :
    ∀ e ∈ es, ψ e := by
  obtain ⟨addresses, tried, ess, hfamily, htried, hess, rfl⟩ := h
  have hall : ∀ k ∈ tried, k.1.HasFamily family :=
    fun k hk => hfamily _ (List.mem_product.1 (htried.subset hk)).1
  clear htried
  induction hess with
  | nil => exact List.forall_mem_nil _
  | cons hes _ ih =>
    obtain ⟨hfirst, hrest⟩ := List.forall_mem_cons.1 hall
    exact List.forall_mem_append.2 ⟨hψ _ _ _ hfirst hes, ih hrest⟩

/-! ### Whole operations -/

section Operations

variable {w : World} {scope : Scope} {p : Protocol}

/-- Under the resolver of the system a query has the answer that this one gives. -/
lemma answers_resolve (hsystem : (w.context scope).resolver = .system) (q : Query) :
    ∃ v : World, Resolution.Answers v.services.entries
      (fun host => (v.kernel.perform (.getaddrinfo host)).1) q ((Net.resolve scope q).run w).1 := by
  refine ⟨(Net.context scope w).2, ?_⟩
  have hfound : (Net.context scope w).1.resolver = .system := hsystem
  have hrun : (Net.resolve scope q).run w = (System.resolve q).run (Net.context scope w).2 := by
    unfold Net.resolve
    rw [Net.run_lift_bind_eq, hfound]
  rw [hrun]
  exact Resolution.leads_resolve q _ ⟨rfl, rfl⟩

/-- The family of a descriptor is that of the address that the kernel tells, if it tells one.

**Proof sketch.** The call answers an address or fails, and its family is looked up in the first
case. -/
lemma familyOf_eq (fd : Descriptor) (w : World) :
    familyOf fd w =
      (Except.toOption (w.kernel.perform (.getsockname fd)).1 |>.bind Address.family?,
        (Net.syscall (.getsockname fd) w).2) := by
  have hleads : Net.Leads (· = w) (familyOf fd) fun family v => (family, v) =
      (Except.toOption (w.kernel.perform (.getsockname fd)).1 |>.bind Address.family?,
        (Net.syscall (.getsockname fd) w).2) := by
    refine .bind (R := fun r v => r = (w.kernel.perform (.getsockname fd)).1 ∧
      v = (Net.syscall (.getsockname fd) w).2) ?_ fun r => ?_
    · rintro _ rfl
      exact ⟨rfl, rfl⟩
    · cases r with
      | ok a => exact .pure _ fun v hv => by rw [← hv.1, hv.2]; rfl
      | error n => exact .pure _ fun v hv => by rw [← hv.1, hv.2]; rfl
  exact hleads w rfl

/-- Trying the candidates of a query for a transport opens fitting sockets. -/
lemma Tries.seated {operation : String}
    {trial : Candidate → List Event → Except Fault Descriptor → Prop} (hp : p ≠ .unix)
    (hsystem : (w.context scope).resolver = .system) {host service : Option String}
    {family : Option Family} {passive : Bool} {as : List Event} {r : Except Error Descriptor}
    {u : World}
    (h : Tries operation host trial ((Net.resolve scope
      ⟨host, service, ⟨family, p.socketType?, p.number?, passive⟩⟩).run (Net.context scope w).2).1
      as r u)
    (htrial : ∀ c a kind es r, trial c es r → c.Serves a kind → Fitting a kind es) :
    Seated p family as u := by
  obtain ⟨asked, es, hasked, hu, hsettles⟩ := h
  have hcontext : ((Net.context scope w).2.context scope).resolver = .system := by
    rw [← hsystem]
    exact congrArg Context.resolver (w.context_withContext scope _)
  obtain ⟨v, hanswer⟩ := answers_resolve hcontext _
  refine ⟨asked, es, [], ?_, hsettles.attempts hp hanswer htrial, ?_⟩
  · rw [List.append_nil]
    exact fun e he => (hasked e he).beside (by decide)
  · rw [hu, List.append_nil]

/-- What is done after sockets were opened, and opens none, may be done. -/
lemma Seated.later {α : Type} {family : Option Family} {as : List Event} {v : World} {x : Net α}
    (hv : Seated p family as v) (hx : Only Event.Beside x) : Seated p family as (x v).2 := by
  obtain ⟨before, es, after, hbeside, hes, hv⟩ := hv
  obtain ⟨more, hmore, hmoreBeside, -⟩ := (hx v).actions_eq
  refine ⟨before, es, after ++ more, ?_, hes, ?_⟩
  · rw [← List.append_assoc]
    exact List.forall_mem_append.2 ⟨hbeside, hmoreBeside⟩
  · rw [hmore, hv, List.append_assoc]

/-- Connecting a fresh descriptor under the resolver of the system. -/
lemma seated_connect (hp : p ≠ .unix) (hsystem : (w.context scope).resolver = .system)
    (host service : String) :
    Seated p (w.context scope).config.family w.actions
      ((connect scope host service p).run w).2 :=
  (tries_connect hp host service w rfl).seated hp hsystem fun _ _ _ _ _ => fitting_connecting

/-- Binding a fresh descriptor under the resolver of the system. -/
lemma seated_bind (hp : p ≠ .unix) (hsystem : (w.context scope).resolver = .system)
    (host : Option String) (service : String) :
    Seated p (w.context scope).config.family w.actions
      ((bind scope host service p).run w).2 :=
  (tries_bind hp host service w rfl).seated hp hsystem fun _ _ _ _ _ => fitting_binding

end Operations

end Opening

/-! ## New handles -/

namespace Handle

variable {α β : Type} {q : Event → Prop} {g : Handle} {fd : Descriptor}

/-- One operation on a handle after another. -/
lemma Act.only_bind {x : Act α} {f : α → Act β} (hx : Only q (x.on g))
    (hf : ∀ a h, Only q ((f a).on h)) : Only q ((x >>= f).on g) := by
  intro w
  have hfirst := hx w
  rw [Act.on_bind]
  generalize x.on g w = out at hfirst ⊢
  obtain ⟨⟨e | a, h⟩, v⟩ := out
  · exact hfirst
  · exact hfirst.trans (hf a h v)

/-- The descriptor of a handle is there or not. -/
lemma Act.only_owned : Only q (owned.on g) := by
  obtain ⟨id, descriptor, protocol, flags, near, far, session, membership⟩ := g
  cases descriptor <;> exact fun w => .refl

/-- Asking the kernel for an address opens, connects and binds no socket. -/
lemma beside_ask (name : String) {c : Descriptor → Call} (hc : ∀ fd, (c fd).kind ∉ CallKind.placing)
    (read : (fd : Descriptor) → (c fd).Answer → Address) :
    Only Event.Beside ((ask name c read).on g) := by
  refine Act.only_bind Act.only_owned fun fd h => ?_
  refine Act.only_bind (fun w => .single (.event (.call (c fd)) (hc fd))) fun r h => ?_
  cases r with
  | ok answer => exact fun w => .refl
  | error n => exact Act.only_bind (Net.beside_record _ _) fun _ _ w => .refl

/-- Asking for the near address opens, connects and binds no socket. -/
lemma beside_refreshNear : Only Event.Beside (refreshNear.on g) :=
  Act.only_bind (beside_ask _ (by simp [Call.kind, CallKind.placing]) _) fun _ _ w => .refl

/-- Asking for the far address opens, connects and binds no socket. -/
lemma beside_refreshFar : Only Event.Beside (refreshFar.on g) :=
  Act.only_bind (beside_ask _ (by simp [Call.kind, CallKind.placing]) _) fun _ _ w => .refl

/-- Joining the group of the peer opens, connects and binds no socket. -/
lemma beside_joinPeer : Only Event.Beside (joinPeer.on g) := by
  have hjoin (a : Address) (fd : Descriptor) : Only Event.Beside (Membership.join fd a .any).run :=
    (Membership.made_join fd a .any).only.beside (by decide)
  refine Act.only_bind (x := get) (fun w => .refl) fun h g => ?_
  split
  · exact fun w => .refl
  · split
    · exact fun w => .refl
    · refine Act.only_bind Act.only_owned fun fd _ => Act.only_bind (hjoin _ fd) fun m _ => ?_
      exact Act.only_bind (Net.beside_record _ _) fun _ _ w => .refl

/-- An operation on a new handle, which is dropped if it fails, opens, connects and binds no socket
if the operation does not. -/
lemma beside_settle {x : Act α} (hx : Only Event.Beside (x.on g)) :
    Only Event.Beside (g.settle x).run := by
  refine .run_bind (.run_lift hx) fun out => ?_
  obtain ⟨e | a, h⟩ := out
  · exact .run_bind (.run_lift (beside_drop h)) fun _ => .run_throw e
  · exact .run_pure _

end Handle

namespace Net

variable {w : World} {scope : Scope} {p : Protocol}

/-- What is done first may have opened sockets, if nothing does that is done later. -/
lemma seated_bind_beside {α β : Type} {x : Attempt Error α} {f : α → Attempt Error β}
    {family : Option Family} {as : List Event}
    (hx : Opening.Seated p family as (x.run w).2) (hf : ∀ a, Only Event.Beside (f a).run) :
    Opening.Seated p family as ((x >>= f).run w).2 := by
  rw [run_bind_eq]
  cases (x.run w).1 with
  | ok a => exact hx.later (hf a)
  | error e => exact hx

/-- Connecting a handle under the resolver of the system. -/
lemma seated_connect (hp : p ≠ .unix) (hsystem : (w.context scope).resolver = .system)
    (host service : String) (flags : Flags) :
    Opening.Seated p (w.context scope).config.family w.actions
      ((connect scope host service p flags).run w).2 := by
  refine seated_bind_beside (Opening.seated_connect hp hsystem host service) fun fd => ?_
  refine .run_bind ((among_sessionFor fd _ _ (among_negotiateClient _ _ _ _)).mono
    fun _ he => he.beside (by decide)) fun session => ?_
  refine .run_bind (.run_lift (.aside fun _ => ⟨rfl, rfl⟩)) fun h => ?_
  refine .run_bind (Handle.beside_settle ?_) fun _ => ?_
  · exact Handle.Act.only_bind Handle.beside_refreshNear fun _ _ =>
      Handle.Act.only_bind Handle.beside_refreshFar fun _ _ => Handle.beside_joinPeer
  · exact .run_bind (.run_lift (beside_record _ _)) fun _ => .run_pure _

/-- Binding a handle under the resolver of the system. -/
lemma seated_bind (hp : p ≠ .unix) (hsystem : (w.context scope).resolver = .system)
    (host : Option String) (service : String) (flags : Flags) :
    Opening.Seated p (w.context scope).config.family w.actions
      ((bind scope host service p flags).run w).2 := by
  refine seated_bind_beside (Opening.seated_bind hp hsystem host service) fun fd => ?_
  refine .run_bind (.run_lift (.aside fun _ => ⟨rfl, rfl⟩)) fun h => ?_
  refine .run_bind (Handle.beside_settle Handle.beside_refreshNear) fun _ => ?_
  exact .run_bind (.run_lift (beside_record _ _)) fun _ => .run_pure _

end Net

/-! ## Handles that are connected again -/

/-- An event opens no socket and connects and binds none, except that it may connect a descriptor to
an address of a family, if one is asked for. -/
def Event.Homing (fd : Descriptor) (family : Option Family) : Event → Prop
  | call (.connect other a) _ => other = fd ∧ a.HasFamily family
  | e => e.Beside

/-- An event that opens, connects and binds no socket does so. -/
lemma Event.Beside.homing {e : Event} (he : e.Beside) (fd : Descriptor) (family : Option Family) :
    e.Homing fd family := by
  cases e with
  | call c outcome =>
    cases c with
    | connect => exact absurd (by simp [Call.kind, CallKind.placing]) he
    | _ => exact he
  | tls | query | record | trace => trivial

namespace Handle

/-- What connecting a handle again does once it has left its group. No socket is opened, and none
connected or bound, unless the descriptor of the handle is asked for its address first; then it is
connected to addresses of the family that was told only. -/
inductive Homed (h : Handle) : List Event → Prop
  | unasked {es : List Event} (hes : ∀ e ∈ es, e.Beside) : Homed h es
  | asked {fd : Descriptor} (hfd : h.descriptor = some fd) (told : Except Int Address)
    {es : List Event} (hes : ∀ e ∈ es, e.Homing fd (told.toOption.bind Address.family?)) :
    Homed h (.call (.getsockname fd) told :: es)

variable {g : Handle} {scope : Scope}

/-- More may be done that opens, connects and binds no socket. -/
lemma Homed.later {es more : List Event} (h : g.Homed es) (hmore : ∀ e ∈ more, e.Beside) :
    g.Homed (es ++ more) := by
  cases h with
  | unasked hes => exact .unasked (List.forall_mem_append.2 ⟨hes, hmore⟩)
  | asked hfd told hes =>
    exact .asked hfd told (List.forall_mem_append.2 ⟨hes, fun e he => (hmore e he).homing _ _⟩)

/-- Leaving the group that was joined leaves the descriptor and the contexts, and does not fail. -/
lemma releaseGroup_spec (g : Handle) (w : World) :
    (releaseGroup.on g w).1.1 = .ok () ∧
      (releaseGroup.on g w).1.2.descriptor = g.descriptor ∧
      (∀ scope, (releaseGroup.on g w).2.context scope = w.context scope) ∧
      ∃ left, (∀ e ∈ left, e.Within Membership.calls) ∧
        (releaseGroup.on g w).2.actions = w.actions ++ left := by
  have hnothing : ∃ left : List Event, (∀ e ∈ left, e.Within Membership.calls) ∧
      w.actions = w.actions ++ left := ⟨[], List.forall_mem_nil _, (List.append_nil _).symm⟩
  obtain ⟨id, descriptor, protocol, flags, near, far, session, membership⟩ := g
  match membership, descriptor with
  | none, _ => exact ⟨rfl, rfl, fun _ => rfl, hnothing⟩
  | some m, none => exact ⟨rfl, rfl, fun _ => rfl, hnothing⟩
  | some m, some fd =>
    obtain ⟨left, hleft⟩ := since_leaveGroup id m w (.refl w)
    refine ⟨rfl, rfl, hleft.context_eq, _, List.forall_mem_singleton.2 ?_, hleft.actions_eq⟩
    simp [Event.Within, Call.kind, Membership.calls]

/-- Connecting a descriptor again under the resolver of the system.

**Proof sketch.** The descriptor is asked for its own address, whose family is what the query hints
at. The candidates are addresses of that family (`Settles.attempts`), and each attempt is one call
to connect to its address. -/
lemma homing_connectAgain {w : World} {fd : Descriptor} {p : Protocol} (hp : p ≠ .unix)
    (hsystem : (w.context scope).resolver = .system) (host service : String) :
    ∃ (told : Except Int Address) (es : List Event),
      (∀ e ∈ es, e.Homing fd (told.toOption.bind Address.family?)) ∧
        ((Opening.connectAgain scope fd host service p).run w).2.actions =
          w.actions ++ .call (.getsockname fd) told :: es := by
  obtain ⟨asked, es, hasked, hw, hsettles⟩ := Opening.tries_connectAgain hp fd host service w rfl
  rw [Opening.familyOf_eq] at hsettles
  rw [← (World.Since.leads_syscall (.getsockname fd) w (.refl w)).context_eq] at hsystem
  obtain ⟨v, hanswer⟩ := Opening.answers_resolve hsystem _
  have hattempts : Opening.Attempts (fun a _ es => ∀ e ∈ es, ∃ r, e = .call (.connect fd a) r) p
      (Except.toOption (w.kernel.perform (.getsockname fd)).1 |>.bind Address.family?) es := by
    refine hsettles.attempts hp hanswer fun c a kind es r hes hc e he => ?_
    obtain ⟨call, hcall, outcome, rfl⟩ := Opening.Calls.mem hes e he
    obtain rfl := List.mem_singleton.1 hcall
    exact ⟨outcome, by rw [hc.address_eq]⟩
  refine ⟨(w.kernel.perform (.getsockname fd)).1, asked ++ es, ?_, ?_⟩
  · refine List.forall_mem_append.2 ⟨fun e he => ?_, hattempts.forall_mem ?_⟩
    · exact ((hasked e he).beside (by decide)).homing _ _
    · intro a _ es ha hes e he
      obtain ⟨r, rfl⟩ := hes e he
      exact ⟨rfl, ha⟩
  · rw [hw, List.append_assoc, List.append_assoc]
    rfl

/-- All that was done since some actions is to leave a group and then what connecting a handle again
does. -/
def Rehomed (g : Handle) (as : List Event) (w : World) : Prop :=
  ∃ left es, (∀ e ∈ left, e.Within Membership.calls) ∧ g.Homed es ∧ w.actions = as ++ left ++ es

/-- More may be done that opens, connects and binds no socket. -/
lemma Rehomed.leads_beside {α : Type} {as : List Event} {x : Act α} {h : Handle}
    (hx : Only Event.Beside (x.on h)) :
    Leads (g.Rehomed as) (x.on h) fun _ => g.Rehomed as := by
  rintro w ⟨left, es, hleft, hes, hw⟩
  obtain ⟨more, hmore, hbeside, -⟩ := (hx w).actions_eq
  exact ⟨left, es ++ more, hleft, hes.later hbeside, by rw [hmore, hw, List.append_assoc]⟩

/-- Connecting a handle again under the resolver of the system, once it has left its group.

**Proof sketch.** By whether there is a descriptor. If there is, connecting it is homing
(`homing_connectAgain`), and asking for the ends and joining a group names no address to connect to.
-/
lemma rehomed_parted {h : Handle} (hh : h.descriptor = g.descriptor) {p : Protocol} (hp : p ≠ .unix)
    {as left : List Event} (hleft : ∀ e ∈ left, e.Within Membership.calls) {u : World}
    (hsystem : (u.context scope).resolver = .system) (hu : u.actions = as ++ left)
    (host service message : String) :
    Leads (fun w => w = u) ((do
      let fd ← owned
      Act.ofAttempt (Opening.connectAgain scope fd host service p)
      refreshNear
      refreshFar
      joinPeer
      record .debug message : Act Unit).on h) fun _ => g.Rehomed as := by
  cases hfd : g.descriptor with
  | none =>
    -- Without a descriptor there is nothing to ask about, and nothing to connect.
    obtain ⟨id, descriptor, protocol, flags, near, far, session, membership⟩ := h
    obtain rfl : descriptor = none := hh.trans hfd
    rintro _ rfl
    exact ⟨left, [], hleft, .unasked (List.forall_mem_nil _), hu.trans (List.append_nil _).symm⟩
  | some fd =>
    refine Act.leads_owned_bind (hh.trans hfd) ?_
    refine Act.leads_bind (R := fun _ => g.Rehomed as) (Act.leads_ofAttempt ?_)
      (fun _ _ => Rehomed.leads_beside ?_) fun _ _ _ hw => hw
    · rintro _ rfl
      obtain ⟨told, es, hes, hw⟩ := homing_connectAgain hp hsystem host service
      exact ⟨left, _, hleft, .asked hfd told hes, by rw [hw, hu]⟩
    · refine Act.only_bind beside_refreshNear fun _ _ => ?_
      refine Act.only_bind beside_refreshFar fun _ _ => ?_
      exact Act.only_bind beside_joinPeer fun _ _ => Net.beside_record _ _

/-- Connecting a handle again under the resolver of the system.

**Proof sketch.** An encrypted handle is refused before anything is asked. Any other one leaves its
group first, which changes neither its descriptor nor the contexts (`releaseGroup_spec`), and goes
on from there (`rehomed_parted`). -/
lemma rehomed_reconnect {w : World} (hp : g.protocol ≠ .unix)
    (hsystem : (w.context scope).resolver = .system) (host service : String) :
    Leads (fun v => v = w) ((reconnect scope host service).on g) fun _ => g.Rehomed w.actions := by
  refine Act.leads_get_bind ?_
  dsimp only
  split
  · refine Act.leads_throw_bind _ _ ?_
    rintro _ rfl
    exact ⟨[], [], List.forall_mem_nil _, .unasked (List.forall_mem_nil _), by simp⟩
  · rintro v rfl
    obtain ⟨hok, hdescriptor, hcontext, left, hleft, hactions⟩ := g.releaseGroup_spec v
    rw [Act.on_bind, hok]
    rw [← hcontext scope] at hsystem
    exact rehomed_parted hdescriptor hp hleft hsystem hactions host service _ _ rfl

end Handle

/-- **Sockets of the right kinds.** Where the resolver of the system is asked, and the transport is
not local, connecting and binding open sockets of the kinds of the transport, each of the family of
the address that it is connected or bound to; if a family is set, only addresses of that family are
tried. A handle that is connected again is connected to addresses of the family that the kernel told
of its descriptor. -/
theorem Net.seated_of_system (w : World) (scope : Scope)
    (hsystem : (w.context scope).resolver = .system) :
    (∀ (p : Protocol) (host service : String) (flags : Flags), p ≠ .unix →
      Opening.Seated p (w.context scope).config.family w.actions
        ((Net.connect scope host service p flags).run w).2) ∧
    (∀ (p : Protocol) (host : Option String) (service : String) (flags : Flags), p ≠ .unix →
      Opening.Seated p (w.context scope).config.family w.actions
        ((Net.bind scope host service p flags).run w).2) ∧
    ∀ (h : Handle) (host service : String), h.protocol ≠ .unix →
      h.Rehomed w.actions ((Handle.reconnect scope host service).on h w).2 :=
  ⟨fun _ host service flags hp => Net.seated_connect hp hsystem host service flags,
    fun _ host service flags hp => Net.seated_bind hp hsystem host service flags,
    fun _ host service hp => Handle.rehomed_reconnect hp hsystem host service w rfl⟩

/-- Where two sockets for the first address of the family that is set refuse, one of each kind, the
third is for the next address. -/
theorem Net.seated_third :
    ∃ w : World, (w.context .own).resolver = .system ∧
      (((Net.connect .own "db" "80" .unspecified {}).run w).1.toOption.map Handle.descriptor =
        some (some 103)) ∧
      Opening.Seated .unspecified (some .inet) w.actions
        ((Net.connect .own "db" "80" .unspecified {}).run w).2 ∧
      Opening.Seated .sctp (some .inet) w.actions
        ((Net.bind .own none "80" .sctp {}).run w).2 ∧
      (⟨1, some 100, .udp, {}, {}, {}, none, none⟩ : Handle).Rehomed w.actions
        ((Handle.reconnect .own "db" "80").on ⟨1, some 100, .udp, {}, {}, {}, none, none⟩ w).2 :=
  let w : World := {
    kernel := {
      sockets := [(100, ⟨.inet, .dgram, some (.inet ⟨10, 0, 0, 9⟩ 5000), none, [], false, none⟩)]
      nextDescriptor := 101
      hosts := [("db", .found [some (.v6 .unspecified), some (.v4 ⟨10, 0, 0, 1⟩),
        some (.v4 ⟨10, 0, 0, 2⟩)])]
      faults := Kernel.moreFaults (fun _ => []) [(.connect, [111, 111])] }
    own := { config := { family := some .inet } } }
  ⟨w, rfl, by decide +kernel,
    (Net.seated_of_system w .own rfl).1 .unspecified "db" "80" {} (by decide),
    (Net.seated_of_system w .own rfl).2.1 .sctp none "80" {} (by decide),
    (Net.seated_of_system w .own rfl).2.2 _ "db" "80" (by decide)⟩

end Sockets
