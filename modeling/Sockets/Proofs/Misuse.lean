import Sockets.Proofs.Failures
import Sockets.Proofs.NoPlaintext

/-!
# Misuse

Six requests of a handle may make no sense: what they ask for is nothing that a handle of its
transport, or in its state, can do. Such a request is refused, and a refusal is all that happens:
the world, the handle and what the caller brought along are what they were. No other failure is a
refusal, of these requests or of anything else that can be asked of a handle or a context.

## Main definitions

* `Sockets.Request` — the requests of a handle that may make no sense.
* `Sockets.Request.Senseless` — a request makes no sense to a handle.
* `Sockets.Request.Judged` — a request is refused if it makes no sense, and only then.

## Main results

* `Sockets.Request.judged` — requests of a handle that owns a descriptor are judged.
* `Sockets.Run.misuse_iff_senseless` — however the library is used, what makes no sense is refused,
  and nothing else is.
-/

set_option autoImplicit false

namespace Sockets

/-! ## Requests -/

/-- The requests of a handle that may make no sense. -/
inductive Request where
  | read (buffer : Bytes) (side : Option SideData) (flags : MessageFlags)
  | readVec (length : Nat) (side : Option SideData) (flags : MessageFlags)
  | write (data : Bytes) (side : Option SideData) (flags : MessageFlags)
  | setDestination (a : Address)
  | joinGroup (group : Address) (interface : Interface)
  | reconnect (scope : Scope) (host service : String)

namespace Request

/-- What becomes of a transfer: its failure, and the side data of the caller and the handle after
it. -/
def told {α : Type} (done : Transfer α) : Option Error × Option SideData × Handle :=
  (failure? done.result, done.side, done.handle)

/-- What becomes of an operation that changes a handle. -/
def changed (done : Except Error Unit × Handle) : Option Error × Option SideData × Handle :=
  (failure? done.1, none, done.2)

/-- A request of a handle: its failure, if it fails, and the side data of the caller and the handle
after it. -/
def on (h : Handle) : Request → Net (Option Error × Option SideData × Handle)
  | read buffer side flags => told <$> h.read buffer side flags
  | readVec length side flags => told <$> h.readVec length side flags
  | write data side flags => told <$> h.write data side flags
  | setDestination a => changed <$> (Handle.setDestination a).on h
  | joinGroup group interface => changed <$> (Handle.joinGroup group interface).on h
  | reconnect scope host service => changed <$> (Handle.reconnect scope host service).on h

/-- The side data that the caller brings along. -/
def side : Request → Option SideData
  | read _ side _ | readVec _ side _ | write _ side _ => side
  | setDestination _ | joinGroup .. | reconnect .. => none

/-- **A request makes no sense** to a handle, with what surrounds the library. For a buffer that
cannot be had nothing else is looked at. -/
def Senseless (s : Setting) (h : Handle) : Request → Prop
  | read _ side _ => h.Unreadable s.features side
  | readVec length side _ => s.reservable length = true ∧ h.Unreadable s.features side
  | write _ side _ => h.Unwritable s.features side
  | setDestination _ => h.protocol ≠ .udp
  | joinGroup .. => h.protocol ≠ .udp ∨ h.membership ≠ none
  | reconnect .. => h.flags.tls.enabled = true

/-- **A request is judged**: it is refused exactly if it makes no sense, and if it is refused
nothing else happens, to the world, to the handle or to what the caller brought along. -/
structure Judged (h : Handle) (w : World) (q : Request) : Prop where
  misuse_iff : (∃ e, (q.on h w).1.1 = some e ∧ e.isMisuse = true) ↔ q.Senseless w.toSetting h
  refused : ∀ e, (q.on h w).1.1 = some e → e.isMisuse = true →
    q.on h w = ((some e, q.side, h), w)

/-- A request is judged if what makes no sense is refused, and what makes sense fails for other
reasons only.

**Proof sketch.** By whether the request makes sense. If it does not, it is refused with a misuse
and nothing is done; if it does, it fails with no misuse. -/
lemma Judged.of_cases {h : Handle} {w : World} {q : Request}
    (hno : q.Senseless w.toSetting h →
      ∃ operation, q.on h w = ((some (.misuse h.protocol operation), q.side, h), w))
    (hyes : ¬ q.Senseless w.toSetting h → ∀ e, (q.on h w).1.1 = some e → e.isMisuse = false) :
    q.Judged h w := by
  by_cases hq : q.Senseless w.toSetting h
  · obtain ⟨operation, hrefused⟩ := hno hq
    refine ⟨⟨fun _ => hq, fun _ => ⟨_, congrArg (fun out => out.1.1) hrefused, rfl⟩⟩, ?_⟩
    intro e he _
    rw [hrefused] at he ⊢
    rw [← he]
  · have hsense {e : Error} (he : (q.on h w).1.1 = some e) : ¬ e.isMisuse = true :=
      Bool.not_eq_true _ ▸ hyes hq e he
    exact ⟨⟨fun ⟨_, he, hmisuse⟩ => absurd hmisuse (hsense he), fun h' => absurd h' hq⟩,
      fun e he hmisuse => absurd hmisuse (hsense he)⟩

end Request

/-! ## Transfers -/

namespace Handle

variable {α : Type} {h : Handle} {fd : Descriptor} {v : World} {side : Option SideData}
  {senseless : Prop} {out : Transfer α × World}

/-- A transfer that makes no sense is refused, and that is all. -/
lemma Goes.refused_of (hgoes : h.Goes fd v side senseless out) (hno : senseless) :
    ∃ operation, out = (h.refused side operation, v) := by
  cases hgoes with
  | refused operation => exact ⟨operation, rfl⟩
  | unreservable _ _ hyes | failed hyes | done hyes | denied hyes | used hyes =>
    exact absurd hno hyes

/-- A transfer that makes sense fails for other reasons. -/
lemma Goes.isMisuse_eq_false (hgoes : h.Goes fd v side senseless out) (hyes : ¬ senseless)
    {e : Error} (he : out.1.result = .error e) : e.isMisuse = false := by
  cases hgoes with
  | refused operation hno => exact absurd hno hyes
  | unreservable | failed | denied =>
    cases he
    rfl
  | done | used => exact nomatch he

end Handle

/-! ## Requests are judged -/

namespace Handle

variable {α : Type} {h : Handle} {w : World}

/-- An operation that refuses some handles fails with those, and does nothing else. -/
lemma Act.on_guard {c : Handle → Prop} [DecidablePred c] (hc : c h) (e : Handle → Error)
    (f : Handle → Act α) :
    (do let g ← get
        if c g then throw (e g)
        f g : Act α).on h w = ((.error (e h), h), w) := by
  show (if c h then _ else _ : Act α).on h w = _
  rw [if_pos hc]
  rfl

/-- An operation that refuses some handles goes on with the others. -/
lemma Act.on_guard_not {c : Handle → Prop} [DecidablePred c] (hc : ¬ c h) (e : Handle → Error)
    (f : Handle → Act α) :
    (do let g ← get
        if c g then throw (e g)
        f g : Act α).on h w = (f h).on h w := by
  show (if c h then _ else _ : Act α).on h w = _
  rw [if_neg hc]

/-- A handle that is not for datagrams refuses a destination. -/
lemma setDestination_of_ne (hp : h.protocol ≠ .udp) (a : Address) :
    (setDestination a).on h w = ((.error (.misuse h.protocol "set_dest"), h), w) :=
  Act.on_guard (c := fun g => g.protocol ≠ .udp) hp _ _

/-- A handle that is not for datagrams, or is in a group, refuses to join a group. -/
lemma joinGroup_of_ne (hno : h.protocol ≠ .udp ∨ h.flags.joined = true) (group : Address)
    (i : Interface) : ∃ operation,
      (joinGroup group i).on h w = ((.error (.misuse h.protocol operation), h), w) := by
  by_cases hp : h.protocol = .udp
  · refine ⟨"a second multicast join", ?_⟩
    refine (Act.on_guard_not (c := fun g => g.protocol ≠ .udp) (not_not.2 hp) _ _).trans ?_
    rw [if_pos (hno.resolve_left (not_not.2 hp))]
    rfl
  · exact ⟨"join_multicast", Act.on_guard (c := fun g => g.protocol ≠ .udp) hp _ _⟩

end Handle

namespace Request

variable {h : Handle} {fd : Descriptor} {w : World} {q : Request}

/-- A request to transfer data is judged by what becomes of the transfer. -/
lemma judged_of_goes {α : Type} {x : Net (Transfer α)} (hon : q.on h = told <$> x)
    (hgoes : h.Goes fd w q.side (q.Senseless w.toSetting h) (x w)) : q.Judged h w := by
  refine .of_cases (fun hq => ?_) fun hq e he => ?_
  · obtain ⟨operation, hrefused⟩ := hgoes.refused_of hq
    refine ⟨operation, ?_⟩
    rw [hon]
    exact congrArg (fun out => (told out.1, out.2)) hrefused
  · rw [hon] at he
    exact hgoes.isMisuse_eq_false hq (failure?_eq_some.1 he)

/-- A request to change a handle is judged if the operation is refused where it makes no sense, and
its failures are accounted for. -/
lemma judged_of_vocal {x : Handle.Act Unit} {senseless : Handle → Prop}
    (hon : q.on h = changed <$> x.on h) (hside : q.side = none) (hfd : h.descriptor = some fd)
    (hx : x.Vocal fd True senseless) (hs : senseless h ↔ q.Senseless w.toSetting h)
    (hno : senseless h →
      ∃ operation, x.on h w = ((.error (.misuse h.protocol operation), h), w)) :
    q.Judged h w := by
  refine .of_cases (fun hq => ?_) fun hq e he => ?_
  · obtain ⟨operation, hrefused⟩ := hno (hs.2 hq)
    refine ⟨operation, ?_⟩
    rw [hon, hside]
    exact congrArg (fun out => (changed out.1, out.2)) hrefused
  · rw [hon] at he
    refine Bool.eq_false_iff.2 fun hmisuse => hq (hs.1 ?_)
    exact (hx.heard h w e hfd (failure?_eq_some.1 he)).sense hmisuse

/-- **Requests are judged** of a handle that owns a descriptor and whose flags say whether it is in
a group.

**Proof sketch.** Transfers make no sense just where they are refused for that (`judged_of_goes`).
The other three requests are vocal, so that a misuse is answered where the request makes no sense,
and where it does it is not refused for that. -/
theorem judged (hfd : h.descriptor = some fd) (hwf : h.WellFormed) (w : World) (q : Request) :
    q.Judged h w := by
  cases q with
  | read buffer side flags => exact judged_of_goes rfl (Handle.goes_read hfd w buffer side flags)
  | readVec length side flags =>
    exact judged_of_goes rfl (Handle.goes_readVec hfd w length side flags)
  | write data side flags => exact judged_of_goes rfl (Handle.goes_write hfd w data side flags)
  | setDestination a =>
    exact judged_of_vocal rfl rfl hfd (Handle.vocal_setDestination fun _ => trivial) Iff.rfl
      fun hno => ⟨_, Handle.setDestination_of_ne hno a⟩
  | joinGroup group i =>
    have hjoined : h.flags.joined = true ↔ h.membership ≠ none :=
      hwf.joined_iff.trans Option.isSome_iff_ne_none
    exact judged_of_vocal rfl rfl hfd (Handle.vocal_joinGroup group i) (or_congr_right hjoined)
      fun hno => Handle.joinGroup_of_ne hno group i
  | reconnect scope host service =>
    exact judged_of_vocal rfl rfl hfd (Handle.vocal_reconnect scope host service) Iff.rfl
      fun hno => ⟨_, Handle.reconnect_of_enabled hno _ _ _⟩

end Request

/-! ## Steps -/

namespace Step

/-- The request that a step makes of the handle of a name, if it is one that may make no sense. -/
def request? : Step → Option (String × Request)
  | read name buffer side flags => some (name, .read buffer side flags)
  | readVec name length side flags => some (name, .readVec length side flags)
  | write name data side flags => some (name, .write data side flags)
  | setDestination name a => some (name, .setDestination a)
  | joinGroup name group interface => some (name, .joinGroup group interface)
  | reconnect name scope host service => some (name, .reconnect scope host service)
  | _ => none

/-- The builder of a step that makes a handle and has it join a group. -/
def joiner? : Step → Option Builder
  | build _ b _ => b.group.map fun _ => b
  | _ => none

end Step

namespace Run

variable {t : Table} {name : String}

/-- A step that transfers nothing, makes no such request and has no builder join a group makes
sense. -/
lemma not_demanding {s : Step} (hs : s.request? = none) (hb : s.joiner? = none) :
    ¬ s.Demanding := by
  cases s with
  | build as b last => exact not_not.2 (Option.map_eq_none_iff.1 hb)
  | reconnect | setDestination | joinGroup => exact nomatch hs
  | _ => exact id

/-- A step that makes a request of a handle fails as the request does. -/
lemma failure?_perform {s : Step} {q : Request} (hs : s.request? = some (name, q)) (w : World) :
    (perform t s w).1.1.failure? = (t.get? name).bind fun h => (q.on h w).1.1 := by
  cases s with
  | read | readVec | write | setDestination | joinGroup | reconnect =>
    cases hs
    dsimp only [perform, onHandle]
    cases t.get? name <;> rfl
  | _ => exact nomatch hs

/-- **Misuse is refused, and nothing else is.** However the library was used before, and whatever
the world is then: every request of a handle is refused exactly if it makes no sense, and then
nothing at all has happened. No step is refused but one that makes such a request, or one of a
builder that has its new handle join a group.

**Proof sketch.** What becomes of a transfer says where it is refused. A change of a handle begins
with a guard, and the rest of it is vocal, so its failures make sense; and so are those of every
step that neither transfers data nor changes a handle. -/
theorem misuse_iff_senseless (w : World) (ss : List Step) (v : World) :
    (∀ p ∈ ((start w).steps ss).table, ∀ q : Request, q.Judged p.2 v) ∧
      ∀ s e, (perform ((start w).steps ss).table s v).1.1.failure? = some e →
        e.isMisuse = true →
        (∃ p ∈ ((start w).steps ss).table, ∃ q, s.request? = some (p.1, q) ∧
          q.Senseless v.toSetting p.2) ∨ s.joiner? ≠ none := by
  have hheld := (held_steps w ss).2
  have hjudged : ∀ p ∈ ((start w).steps ss).table, ∀ q : Request, q.Judged p.2 v := by
    intro p hp q
    obtain ⟨fd, hfd, hwf, -⟩ := hheld p hp
    exact q.judged hfd hwf v
  refine ⟨hjudged, fun s e he hmisuse => ?_⟩
  -- A step has its builder join a group, or makes a request, or makes sense throughout.
  by_cases hb : s.joiner? = none
  · refine .inl ?_
    cases hs : s.request? with
    | none =>
      have hnone : s.transfers? = none := by cases s <;> first | rfl | exact nomatch hs
      have houtspoken := outspoken_perform
        (fun _ _ hget => (hheld _ (Table.mem_of_get?_eq_some hget)).imp fun _ h => h.1) hnone
      exact absurd ((houtspoken v e he).sense hmisuse) (not_demanding hs hb)
    | some request =>
      obtain ⟨name, q⟩ := request
      rw [failure?_perform hs] at he
      obtain ⟨h, hget, hfailed⟩ := Option.bind_eq_some_iff.1 he
      have hp := Table.mem_of_get?_eq_some hget
      exact ⟨(name, h), hp, q, rfl, ((hjudged _ hp q).misuse_iff.1 ⟨e, hfailed, hmisuse⟩)⟩
  · exact .inr hb

/-- A datagram that has nowhere to go is not written. -/
theorem misuse_iff_aimless :
    ∃ (ss : List Step) (s : Step) (e : Error),
      ∃ h : 0 < ((start {}).steps ss).table.length,
      (perform ((start {}).steps ss).table s {}).1.1.failure? = some e ∧ e.isMisuse = true ∧
      ((∀ q : Request, q.Judged (((start {}).steps ss).table[0]).2 {}) ∧
        ((∃ p ∈ ((start {}).steps ss).table, ∃ q, s.request? = some (p.1, q) ∧
          q.Senseless {} p.2) ∨ s.joiner? ≠ none)) :=
  ⟨[.bind "u" .own (some "127.0.0.1") "5000" .udp {}, .tell "u" .farHost],
    .write "u" [1, 2] (some (.datagram none)) .empty, .misuse .udp "write without a destination",
    by decide +kernel, by decide +kernel, rfl,
    fun q => (misuse_iff_senseless {} _ {}).1 _ (List.getElem_mem _) q,
    (misuse_iff_senseless {} _ {}).2 _ (.misuse .udp "write without a destination")
      (by decide +kernel) rfl⟩

end Run

end Sockets
