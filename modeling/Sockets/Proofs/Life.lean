import Sockets.Proofs.Onward

/-!
# The life of a descriptor

Of all that happens some events matter to a descriptor: it is opened, joins and leaves groups, gets
a session that is used and shut down, and is closed. Those events in their order are the life of
the descriptor, and a life has a shape: it begins and ends once, and what was taken up in between
has been given up when it ends.

## Main definitions

* `Sockets.Deed`, `Sockets.Event.deed?` — what an event does to a descriptor.
* `Sockets.World.life` — the deeds of a descriptor so far.
* `Sockets.Stage`, `Sockets.Stage.Step` — how far a life has come, and what may come next.
* `Sockets.Lived` — a life that has come to a stage, in which nothing was out of place.

## Main results

* `Sockets.Lived.bounds_eq` — a life begins once and ends once at most, in this order.
* `Sockets.Lived.groups_eq` — groups are joined and left in turns, and all are left at the end.
-/

set_option autoImplicit false

namespace Sockets

/-! ## Deeds -/

/-- What an event does to a descriptor. A group is left on the interface that the kernel picks, or
on some other one. -/
inductive Deed where
  | opened
  | joined (group : Ip)
  | left (group : Ip) (anyInterface : Bool)
  | secured
  | used
  | shut
  | closed
  deriving DecidableEq, Repr

namespace Deed

/-- Whether a deed is about a group. -/
def isMembership : Deed → Bool
  | joined _ | left .. => true
  | _ => false

/-- Whether a deed is at one end of a life. -/
def isBound : Deed → Bool
  | opened | closed => true
  | _ => false

/-- Whether a deed is about a group, or the end of everything. -/
def isGroupMatter : Deed → Bool
  | joined _ | left .. | closed => true
  | _ => false

end Deed

/-- What setting an option does: joining has to succeed, but leaving counts whether or not it
does. -/
def SocketOption.deed? (succeeded : Bool) : SocketOption → Option Deed
  | join4 group _ => if succeeded then some (.joined (.v4 group)) else none
  | join6 group _ => if succeeded then some (.joined (.v6 group)) else none
  | leave4 group interface => some (.left (.v4 group) (interface == .unspecified))
  | leave6 group index => some (.left (.v6 group) (index == 0))
  | reuseAddress | sctpInit .. | sctpEvents _ => none

/-- All that setting an option does to a descriptor is about groups. -/
lemma SocketOption.isMembership_of_deed? {option : SocketOption} {succeeded : Bool} {d : Deed}
    (h : option.deed? succeeded = some d) : d.isMembership = true := by
  cases option <;> cases succeeded <;> cases h <;> rfl

namespace TlsCall

/-- Whether a call asks a provider for a session. -/
def negotiates : TlsCall → Bool
  | client .. | server => true
  | read _ | write _ | shutdown => false

/-- What a call of a session or its provider does. A negotiation has to succeed. -/
def deed? (outcome : TlsOutcome) : TlsCall → Option Deed
  | client .. | server =>
    match outcome with
    | .secured _ => some .secured
    | _ => none
  | read _ | write _ => some .used
  | shutdown => some .shut

/-- A negotiation that succeeds secures its descriptor. -/
lemma deed?_secured {c : TlsCall} (hc : c.negotiates = true) (s : Tls.Session) :
    c.deed? (.secured s) = some .secured := by
  cases c <;> first | rfl | exact nomatch hc

/-- A negotiation that fails does nothing. -/
lemma deed?_failed {c : TlsCall} (hc : c.negotiates = true) : c.deed? .failed = none := by
  cases c <;> first | rfl | exact nomatch hc

end TlsCall

namespace Event

/-- The descriptors that an event opens. -/
def opens : Event → List Descriptor
  | call (.socket ..) (.ok fd) => [fd]
  | call (.socketpair ..) (.ok (a, b)) => [a, b]
  | call (.accept _) (.ok (fd, _)) => [fd]
  | _ => []

/-- The descriptor that an event does something to, and what it does. A descriptor is closed
whether or not closing it succeeds. -/
def target? : Event → Option (Descriptor × Deed)
  | call (.setsockopt fd option) outcome => (option.deed? outcome.isOk).map (fd, ·)
  | call (.close fd) _ => some (fd, .closed)
  | tls fd c outcome => (c.deed? outcome).map (fd, ·)
  | _ => none

/-- What an event does to a descriptor. -/
def deed? (fd : Descriptor) (e : Event) : Option Deed :=
  if fd ∈ e.opens then some .opened
  else match e.target? with
    | some (target, d) => if target = fd then some d else none
    | none => none

/-- An event that does nothing to any descriptor. -/
def Idle (e : Event) : Prop := e.opens = [] ∧ e.target? = none

/-- An idle event does nothing to a descriptor. -/
lemma Idle.deed?_eq {e : Event} (h : e.Idle) (fd : Descriptor) : e.deed? fd = none := by
  simp [deed?, h.1, h.2]

/-- What an event does that opens nothing. -/
lemma deed?_of_target {e : Event} {fd : Descriptor} {d : Deed} (ho : e.opens = [])
    (ht : e.target? = some (fd, d)) (other : Descriptor) :
    e.deed? other = if fd = other then some d else none := by
  simp [deed?, ho, ht]

/-- The kinds of system calls that do something to descriptors. -/
def active : List CallKind := [.socket, .socketpair, .accept, .setsockopt, .close]

/-- System calls of other kinds do nothing to descriptors. -/
lemma Within.idle {kinds : List CallKind} (h : ∀ k ∈ kinds, k ∉ active) {e : Event}
    (he : e.Within kinds) : e.Idle := by
  cases e with
  | call c outcome =>
    have hc : c.kind ∉ active := h _ he
    cases c <;> first
      | exact ⟨rfl, rfl⟩
      | simp [active, Call.kind] at hc
  | tls => exact he.elim
  | query | record | trace => exact ⟨rfl, rfl⟩

end Event

/-- The life of a descriptor so far: what was done to it, in order. -/
def World.life (w : World) (fd : Descriptor) : List Deed := w.journal.filterMap (Event.deed? fd)

/-! ## Stages -/

/-- What is held on an open descriptor: a group, and a session. -/
structure Holding where
  group : Option Ip := none
  session : Bool := false
  deriving DecidableEq, Repr

/-- How far the life of a descriptor has come. -/
inductive Stage where
  | unopened
  | live (k : Holding)
  | closed
  deriving DecidableEq, Repr

namespace Stage

/-- What is held on a descriptor, if it is open. -/
def holding? : Stage → Option Holding
  | live k => some k
  | unopened | closed => none

/-- What may be done to a descriptor at a stage, and the stage after it. One group is held at a
time, and one session in a life; a descriptor is closed when nothing is held any more. -/
inductive Step : Stage → Deed → Stage → Prop where
  | opened : Step unopened .opened (live {})
  | joined {k : Holding} (group : Ip) (h : k.group = none) :
      Step (live k) (.joined group) (live { k with group := some group })
  | left {k : Holding} {group : Ip} (h : k.group = some group) :
      Step (live k) (.left group true) (live { k with group := none })
  | secured {k : Holding} (h : k.session = false) :
      Step (live k) .secured (live { k with session := true })
  | used {k : Holding} (h : k.session = true) : Step (live k) .used (live k)
  | shut {k : Holding} (h : k.session = true) :
      Step (live k) .shut (live { k with session := false })
  | closed : Step (live {}) .closed closed

/-- A descriptor is still open after a deed, unless the deed was to close it. -/
lemma Step.isSome_holding? {k : Holding} {d : Deed} {t : Stage} (h : (live k).Step d t) :
    t.holding?.isSome ↔ d ≠ .closed := by
  cases h <;> simp [holding?]

end Stage

/-! ## Lives -/

/-- A life that has come to a stage, in which nothing was out of place. Where `stray` holds, groups
may also be joined and left behind the back of whoever holds the descriptor. -/
inductive Lived (stray : Prop) : List Deed → Stage → Prop where
  | nil : Lived stray [] .unopened
  | snoc {ds : List Deed} {d : Deed} {s t : Stage} (h : Lived stray ds s) (hd : s.Step d t) :
      Lived stray (ds ++ [d]) t
  | astray {ds : List Deed} {d : Deed} {s : Stage} (h : Lived stray ds s) (hs : stray)
      (hd : d.isMembership = true) : Lived stray (ds ++ [d]) s

/-- The ends of a life that has come to a stage. -/
def Stage.bounds : Stage → List Deed
  | .unopened => []
  | .live _ => [.opened]
  | .closed => [.opened, .closed]

/-- The groups that are joined at a stage and not yet left, or the end of the life. -/
def Stage.pending : Stage → List Deed
  | .unopened => []
  | .live k => (k.group.map Deed.joined).toList
  | .closed => [.closed]

/-- Each group joined, and left on the interface that the kernel picks. -/
def Deed.turns (groups : List Ip) : List Deed := groups.flatMap fun g => [joined g, left g true]

namespace Lived

variable {stray : Prop} {ds : List Deed} {s : Stage}

/-- **The ends of a life.** A life begins once and ends once at most, in this order.

**Proof sketch.** By induction on the life: each stage is reached by one deed, and only the first
and the last of these are ends. A deed gone astray is neither. -/
theorem bounds_eq (h : Lived stray ds s) : ds.filter Deed.isBound = s.bounds := by
  induction h with
  | nil => rfl
  | snoc _ hd ih =>
    rw [List.filter_append, ih]
    cases hd <;> rfl
  | @astray _ d _ _ _ hd ih =>
    rw [List.filter_append, ih]
    cases d <;> first | exact List.append_nil _ | exact nomatch hd

/-- **Groups in turns.** Groups are joined and left in turns, each on the interface that the kernel
picks; what is left over is the group held now, or the end of the life, by which nothing is held.

**Proof sketch.** Induction on the life. A group is joined where none is held, so it becomes what is
left over; the group that is left is the one left over, and makes one turn with it; and the end
comes where no group is held. Every other deed changes neither side. -/
theorem groups_eq (h : Lived False ds s) :
    ∃ groups, ds.filter Deed.isGroupMatter = Deed.turns groups ++ s.pending := by
  induction h with
  | nil => exact ⟨[], rfl⟩
  | astray _ hs => exact hs.elim
  | @snoc ds d s t _ hd ih =>
    obtain ⟨groups, hgroups⟩ := ih
    rw [List.filter_append, hgroups]
    cases hd with
    | opened => exact ⟨groups, by simp [Stage.pending, Deed.isGroupMatter]⟩
    | @joined k g hk =>
      refine ⟨groups, ?_⟩
      simp [Stage.pending, hk, Deed.isGroupMatter]
    | @left k g hk =>
      refine ⟨groups ++ [g], ?_⟩
      simp [Stage.pending, hk, Deed.isGroupMatter, Deed.turns]
    | secured | used | shut =>
      refine ⟨groups, ?_⟩
      simp [Stage.pending, Deed.isGroupMatter]
    | closed => exact ⟨groups, by simp [Stage.pending, Deed.isGroupMatter]⟩

end Lived

end Sockets
