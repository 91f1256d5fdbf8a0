import Sockets.Proofs.NewHandles
import Sockets.Proofs.SessionCalls
import Sockets.Proofs.Talks

/-!
# Complaints

An operation that fails has made a complaint before its caller learns of the failure, which is a
record of a severe level, unless it was asked for something that makes no sense. Operations are put
together so that this stays true: what complains when it fails may be followed by what complains
when it fails, and nothing that comes after a complaint takes it back.

Which operations may keep quiet when they fail, and which may have been asked for something that
makes no sense, is said along with it. So each operation is gone through once, and both what is
heard of its failures and what they say follow.

## Main definitions

* `Sockets.World.Complained` — a complaint was made on the way from one world to another.
* `Sockets.World.Accounted` — a failure is accounted for by what was done.
* `Sockets.Net.Vocal`, `Sockets.Handle.Act.Vocal` — operations whose failures are accounted for.

## Main results

* `Sockets.Handle.vocal_reconnect`, `Sockets.Handle.vocal_joinGroup`, `Sockets.Handle.vocal_close` —
  operations on handles are vocal.
* `Sockets.Net.vocal_connect`, `Sockets.Net.vocal_bind`, `Sockets.Net.vocal_accept`,
  `Sockets.Net.vocal_listen`, `Sockets.Net.vocal_socketpair` — opening handles is vocal, and may
  keep quiet only where a local socket is to be bound without a path.
-/

set_option autoImplicit false

namespace Sockets

open Net (Made Only)

/-! ## Complaints -/

/-- Whether an event is a record of a severe level. -/
def Event.isComplaint : Event → Bool
  | record _ .error _ | record _ .fatal _ => true
  | _ => false

/-- Events of any sort. -/
def Event.Any (_ : Event) : Prop := True

/-- The kinds of system calls that open a socket, or connect or bind one. -/
def CallKind.placing : List CallKind := [.socket, .socketpair, .accept, .connect, .bind]

/-- An event that opens no socket, and connects and binds none. -/
def Event.Beside : Event → Prop
  | call c _ => c.kind ∉ CallKind.placing
  | tls .. | query _ | record .. | trace _ => True

/-- System calls of kinds that open, connect and bind no socket do not. -/
lemma Event.Within.beside {kinds : List CallKind} (h : ∀ k ∈ kinds, k ∉ CallKind.placing)
    {e : Event} (he : e.Within kinds) : e.Beside := by
  cases e with
  | tls => exact he.elim
  | call c outcome => exact h _ he
  | query | record | trace => trivial

/-- Whether an event is a system call of one of some kinds, or no system call at all. -/
def Event.Among (kinds : List CallKind) : Event → Prop
  | call c _ => c.kind ∈ kinds
  | tls .. | query _ | record .. | trace _ => True

/-- Calls of sessions may come to system calls of some kinds. -/
lemma Event.Within.among {kinds : List CallKind} {e : Event} (he : e.Within kinds) :
    e.Among kinds := by
  cases e with
  | call => exact he
  | tls | query | record | trace => trivial

/-- More kinds of system calls are more events. -/
lemma Event.Among.mono {kinds more : List CallKind} {e : Event} (he : e.Among kinds)
    (h : kinds ⊆ more) : e.Among more := by
  cases e with
  | call => exact h he
  | tls | query | record | trace => trivial

/-- System calls of kinds that open, connect and bind no socket do not, nor do calls of sessions. -/
lemma Event.Among.beside {kinds : List CallKind} (h : ∀ k ∈ kinds, k ∉ CallKind.placing)
    {e : Event} (he : e.Among kinds) : e.Beside := by
  cases e with
  | call c outcome => exact h _ he
  | tls | query | record | trace => trivial

namespace World

variable {p : Event → Prop} {u v w : World}

/-- A complaint was made on the way from one world to another. -/
def Complained (v w : World) : Prop :=
  ∃ es, w.journal = v.journal ++ es ∧ ∃ e ∈ es, e.isComplaint = true

/-- A complaint stays made. -/
lemma Complained.onward (h : u.Complained v) (h' : v.Onward p w) : u.Complained w := by
  obtain ⟨es, hes, e, he, hcomplaint⟩ := h
  obtain ⟨more, hmore, -⟩ := h'.journal_eq
  refine ⟨es ++ more, by rw [hmore, hes, List.append_assoc], e, ?_, hcomplaint⟩
  exact List.mem_append_left _ he

/-- A complaint was made after something else. -/
lemma Onward.complained (h : u.Onward p v) (h' : v.Complained w) : u.Complained w := by
  obtain ⟨before, hbefore, -⟩ := h.journal_eq
  obtain ⟨es, hes, e, he, hcomplaint⟩ := h'
  refine ⟨before ++ es, by rw [hes, hbefore, List.append_assoc], e, ?_, hcomplaint⟩
  exact List.mem_append_right _ he

/-- **A failure is accounted for** by what was done on the way from one world to another: it says
that something makes no sense only where that may be so, and else a complaint was made, or it may be
kept quiet. -/
structure Accounted (quiet senseless : Prop) (e : Error) (v w : World) : Prop where
  sense : e.isMisuse = true → senseless
  complaint : e.isMisuse = false → quiet ∨ v.Complained w

/-- A complaint accounts for a failure. -/
lemma Complained.accounted {quiet senseless : Prop} {e : Error} (h : v.Complained w)
    (he : e.isMisuse = false) : v.Accounted quiet senseless e w :=
  ⟨fun hmisuse => Bool.noConfusion (he.symm.trans hmisuse), fun _ => .inr h⟩

/-- A failure stays accounted for. -/
lemma Accounted.onward {quiet senseless : Prop} {e : Error}
    (h : u.Accounted quiet senseless e v) (h' : v.Onward p w) : u.Accounted quiet senseless e w :=
  ⟨h.sense, fun he => (h.complaint he).imp_right fun hdone => hdone.onward h'⟩

/-- A failure after something else. -/
lemma Onward.accounted {quiet senseless : Prop} {e : Error} (h : u.Onward p v)
    (h' : v.Accounted quiet senseless e w) : u.Accounted quiet senseless e w :=
  ⟨h'.sense, fun he => (h'.complaint he).imp_right h.complained⟩

/-- A record of a severe level is a complaint. -/
lemma complained_record (w : World) {level : Level} (h : level = .error ∨ level = .fatal)
    (message : String) : w.Complained (Net.record level message w).2 := by
  refine ⟨[.record w.sink level message], rfl, _, List.mem_singleton_self _, ?_⟩
  obtain rfl | rfl := h <;> rfl

end World

namespace Net

variable {α β : Type} {quiet senseless : Prop}

/-- What adds events of some sort adds events. -/
lemma Only.any {p : Event → Prop} {x : Net α} (h : Only p x) : Only Event.Any x :=
  h.mono fun _ _ => trivial

/-- What takes system calls of kinds that open, connect and bind no socket does not. -/
lemma Only.beside {kinds : List CallKind} {x : Net α} (hx : Only (Event.Within kinds) x)
    (h : ∀ k ∈ kinds, k ∉ CallKind.placing) : Only Event.Beside x :=
  hx.mono fun _ => Event.Within.beside h

/-- Calls of sessions may come to system calls of some kinds, or of more. -/
lemma Only.among {kinds more : List CallKind} {x : Net α} (hx : Only (Event.Within kinds) x)
    (h : kinds ⊆ more) : Only (Event.Among more) x :=
  hx.mono fun _ he => (he.mono h).among

/-- A record opens, connects and binds no socket. -/
lemma beside_record (level : Level) (message : String) : Only Event.Beside (record level message) :=
  fun w => .single (.event (.note (.record w.sink level message) rfl) trivial)

/-- A system call adds an event. -/
lemma any_syscall (c : Call) : Only Event.Any (syscall c) :=
  fun _ => .single (.event (.call c) trivial)

/-- Closing a descriptor that belongs to no handle adds events. -/
lemma any_discard (fd : Descriptor) : Only Event.Any (discard fd) :=
  (made_discard fd (List.mem_singleton_self _)).only.any

/-- A record adds an event. -/
lemma any_record (level : Level) (message : String) : Only Event.Any (record level message) :=
  (beside_record level message).any

/-- **An operation is vocal**: when it fails, that is accounted for. -/
structure Vocal (quiet senseless : Prop) (x : Attempt Error α) : Prop where
  only : Only Event.Any x.run
  heard : ∀ w e, (x.run w).1 = .error e → w.Accounted quiet senseless e (x.run w).2

/-- One operation after another, in a world. -/
lemma run_bind_eq (x : Attempt Error α) (f : α → Attempt Error β) (w : World) :
    (x >>= f).run w = match (x.run w).1 with
      | .ok a => (f a).run (x.run w).2
      | .error e => (.error e, (x.run w).2) := by
  show (ExceptT.bindCont f (x.run w).1 : Net _) (x.run w).2 = _
  cases (x.run w).1 <;> rfl

/-- One operation after another that does not fail, in a world. -/
lemma run_lift_bind_eq {ε : Type} (x : Net α) (f : α → Attempt ε β) (w : World) :
    ((liftM x : Attempt ε α) >>= f).run w = (f (x w).1).run (x w).2 := rfl

namespace Vocal

variable {x : Attempt Error α} {f : α → Attempt Error β}

/-- To answer is not to fail. -/
lemma pure (a : α) : Vocal quiet senseless (Pure.pure a : Attempt Error α) :=
  ⟨.run_pure a, fun _ e he => nomatch (show Except.ok a = Except.error e from he)⟩

/-- To fail quietly, where that may be. -/
lemma quiet_throw {e : Error} (hq : quiet) (he : e.isMisuse = false) :
    Vocal quiet senseless (throw e : Attempt Error α) := by
  refine ⟨.run_throw e, ?_⟩
  rintro _ _ ⟨⟩
  exact ⟨fun hmisuse => Bool.noConfusion (he.symm.trans hmisuse), fun _ => .inl hq⟩

/-- One operation after another, which only some answers come to.

**Proof sketch.** Where the first operation fails, it accounts for that and the second is not run.
Where it answers, the second one goes on from there, and what accounts for a failure of it does so
from the start as well. -/
lemma bind_of {φ : α → Prop} (hx : Vocal quiet senseless x)
    (hyields : ∀ w a, (x.run w).1 = .ok a → φ a)
    (hf : ∀ a, φ a → Vocal quiet senseless (f a)) : Vocal quiet senseless (x >>= f) := by
  have hstep (w : World) : w.Onward Event.Any ((x >>= f).run w).2 ∧
      ∀ e, ((x >>= f).run w).1 = .error e →
        w.Accounted quiet senseless e ((x >>= f).run w).2 := by
    have honward := hx.only w
    have hheard := hx.heard w
    have hanswer := hyields w
    rw [run_bind_eq]
    generalize x.run w = out at honward hheard hanswer ⊢
    obtain ⟨e' | a, v⟩ := out
    · refine ⟨honward, fun e he => ?_⟩
      obtain rfl : e' = e := Except.error.inj he
      exact hheard e' rfl
    · have ha := hf a (hanswer a rfl)
      exact ⟨honward.trans (ha.only v), fun e he => honward.accounted (ha.heard v e he)⟩
  exact ⟨fun w => (hstep w).1, fun w => (hstep w).2⟩

/-- One operation after another. -/
lemma bind (hx : Vocal quiet senseless x) (hf : ∀ a, Vocal quiet senseless (f a)) :
    Vocal quiet senseless (x >>= f) :=
  hx.bind_of (φ := fun _ => True) (fun _ _ _ => trivial) fun a _ => hf a

/-- An operation after one that does not fail. -/
lemma lift_bind {x : Net α} (hx : Only Event.Any x) (hf : ∀ a, Vocal quiet senseless (f a)) :
    Vocal quiet senseless ((liftM x : Attempt Error α) >>= f) :=
  ⟨hx.run_lift.run_bind fun a => (hf a).only,
    fun w e he => (hx w).accounted ((hf _).heard _ e he)⟩

/-- To complain and fail, with nothing but some tidying in between. -/
lemma complain {level : Level} (hlevel : level = .error ∨ level = .fatal) (message : String)
    {tidy : Net Unit} (htidy : Only Event.Any tidy) {e : Error} (he : e.isMisuse = false) :
    Vocal quiet senseless (do Net.record level message; tidy; throw e : Attempt Error α) := by
  refine ⟨(any_record _ _).run_lift.run_bind fun _ => htidy.run_lift.run_bind fun _ =>
    .run_throw e, ?_⟩
  rintro w _ ⟨⟩
  exact ((w.complained_record hlevel message).onward (htidy _)).accounted he

/-- An operation whose failure is tidied up after, and passed on.

**Proof sketch.** Where the operation answers, what follows is vocal. Where it fails, it has
accounted for that, and tidying up afterwards takes nothing back. -/
lemma outcome_bind {tidy : Error → Net Unit} {f : Except Error α → Attempt Error β}
    (hx : Vocal quiet senseless x) (hok : ∀ a, Vocal quiet senseless (f (.ok a)))
    (htidy : ∀ e, Only Event.Any (tidy e)) (herror : ∀ e, f (.error e) = (do tidy e; throw e)) :
    Vocal quiet senseless ((liftM x.run : Attempt Error (Except Error α)) >>= f) := by
  constructor
  · refine hx.only.run_outcome (fun a => (hok a).only) fun e => ?_
    rw [herror]
    exact (htidy e).run_lift.run_bind fun _ => .run_throw e
  · intro w e he
    have honward := hx.only w
    have hheard := hx.heard w
    rw [run_lift_bind_eq] at he ⊢
    generalize x.run w = out at honward hheard he ⊢
    obtain ⟨e' | a, v⟩ := out
    · rw [herror] at he ⊢
      obtain rfl : e' = e := Except.error.inj he
      exact (hheard e' rfl).onward (htidy e' v)
    · exact honward.accounted ((hok a).heard v e he)

end Vocal

/-- To refuse with a complaint. -/
lemma vocal_refuse (message : String) {e : Error} (he : e.isMisuse = false) :
    Vocal quiet senseless (refuse (α := α) .error message e) := by
  refine ⟨(any_record _ _).run_lift.run_bind fun _ => .run_throw e, ?_⟩
  rintro w _ ⟨⟩
  exact (w.complained_record (.inl rfl) message).accounted he

/-- A system call that has to succeed. -/
lemma vocal_require (context : String) (c : Call) :
    Vocal quiet senseless (require context c) := by
  refine .lift_bind (any_syscall c) fun r => ?_
  cases r with
  | ok answer => exact .pure answer
  | error n => exact vocal_refuse _ rfl

end Net

open Net (Vocal vocal_refuse vocal_require any_syscall any_record any_discard)

variable {quiet senseless : Prop}

/-! ## Interfaces and groups -/

namespace Interface

/-- The index of an interface. -/
lemma vocal_indexOf (name : String) : Vocal quiet senseless (indexOf name) := by
  unfold indexOf
  dsimp only
  split
  · exact vocal_refuse _ rfl
  · refine .lift_bind (any_syscall _) fun r => ?_
    cases r with
    | error n => exact vocal_refuse _ rfl
    | ok index =>
      dsimp only
      split
      · exact vocal_refuse _ rfl
      · exact .pure _

/-- The name of an interface. -/
lemma vocal_nameOf (index : UInt32) : Vocal quiet senseless (nameOf index) := by
  refine .lift_bind (any_syscall _) fun r => ?_
  cases r with
  | error n => exact vocal_refuse _ rfl
  | ok names =>
    dsimp only
    split
    · exact .pure _
    · exact vocal_refuse _ rfl

/-- The address of an interface. -/
lemma vocal_addressOf (name : String) : Vocal quiet senseless (addressOf name) := by
  refine .lift_bind (any_syscall _) fun r => ?_
  cases r with
  | error n => exact vocal_refuse _ rfl
  | ok addresses =>
    dsimp only
    split
    · exact .pure _
    · exact vocal_refuse _ rfl

/-- What the kernel is told of an interface for groups of four octets. -/
lemma vocal_forIpv4 (i : Interface) : Vocal quiet senseless i.forIpv4 := by
  cases i with
  | any => exact .pure _
  | named name =>
    exact .bind (vocal_indexOf name) fun _ => .bind (vocal_addressOf name) fun _ => .pure _
  | numbered index =>
    exact .bind (vocal_nameOf index) fun _ => .bind (vocal_addressOf _) fun _ => .pure _

/-- What the kernel is told of an interface for groups of sixteen octets. -/
lemma vocal_forIpv6 (i : Interface) : Vocal quiet senseless i.forIpv6 := by
  cases i with
  | any => exact .pure _
  | named name => exact vocal_indexOf name
  | numbered index => exact .bind (vocal_nameOf index) fun _ => .pure _

end Interface

/-- Joining a group. -/
lemma Membership.vocal_join (fd : Descriptor) (group : Address) (i : Interface) :
    Vocal quiet senseless (Membership.join fd group i) := by
  have hrest (m : Membership) : Vocal quiet senseless
      (do Net.record .debug ("joined " ++ m.group.text ++ " via " ++ i.text)
          pure m : Attempt Error Membership) :=
    .lift_bind (any_record _ _) fun _ => .pure m
  unfold Membership.join
  dsimp only
  split
  · exact .bind (vocal_refuse _ rfl) hrest
  · exact .bind (.bind i.vocal_forIpv4 fun _ => .bind (vocal_require _ _) fun _ => .pure _) hrest
  · exact .bind (.bind i.vocal_forIpv6 fun _ => .bind (vocal_require _ _) fun _ => .pure _) hrest

/-! ## Opening descriptors -/

namespace Opening

/-- The candidates of a query. -/
lemma vocal_candidates (scope : Scope) (host : Option String) (service : String) (hints : Hints) :
    Vocal quiet senseless (candidates scope host service hints) := by
  refine .lift_bind (Net.made_resolve scope _).only.any fun r => ?_
  rcases r with e | (_ | ⟨c, rest⟩)
  · exact vocal_refuse _ rfl
  · exact vocal_refuse _ rfl
  · exact .pure _

/-- The failure of the last candidate. -/
lemma vocal_exhausted {α : Type} (operation : String) (host : Option String) (service : String)
    (last : Option Fault) :
    Vocal quiet senseless (exhausted (α := α) operation host service last) :=
  vocal_refuse _ rfl

/-- The address of a local socket. -/
lemma vocal_localAddress (path : String) : Vocal quiet senseless (localAddress path) := by
  unfold localAddress
  split
  · exact .pure _
  · exact vocal_refuse _ rfl

/-- Connecting a descriptor to a local socket. -/
lemma vocal_connectLocalTo (fd : Descriptor) (path : String) :
    Vocal quiet senseless (connectLocalTo fd path) :=
  .bind (vocal_localAddress path) fun _ => .bind (vocal_require _ _) fun _ =>
    .lift_bind (f := pure) (any_record _ _) .pure

/-- Connecting a fresh descriptor. -/
lemma vocal_connect (scope : Scope) (host service : String) (p : Protocol) :
    Vocal quiet senseless (connect scope host service p) := by
  unfold connect
  split
  · refine .bind (vocal_require _ _) fun fd => ?_
    exact .outcome_bind (vocal_connectLocalTo fd host) (fun _ => .pure _)
      (fun _ => any_discard fd) fun _ => rfl
  · refine .lift_bind (Net.only_context scope) fun c => ?_
    refine .bind (vocal_candidates _ _ _ _) fun found => ?_
    refine .lift_bind (made_connectFirst none found).only.any fun r => ?_
    cases r with
    | ok fd => exact .pure _
    | error last => exact vocal_exhausted _ _ _ _

/-- Binding a fresh descriptor; where that is to a local socket without a path it may keep quiet.

**Proof sketch.** A path is made an address, which may be refused, and the two calls complain for
themselves. The candidates are found, or not, with a record; and after the last failure among them
there is one more. -/
lemma vocal_bind (scope : Scope) (host : Option String) (service : String) (p : Protocol)
    (h : p = .unix → host = none → quiet) :
    Vocal quiet senseless (bind scope host service p) := by
  unfold bind
  split
  · rename_i hp
    cases host with
    | none => exact .quiet_throw (h hp rfl) rfl
    | some path =>
      refine .bind (vocal_localAddress path) fun address => .bind (vocal_require _ _) fun fd => ?_
      refine .lift_bind (any_syscall _) fun r => ?_
      cases r with
      | ok _ => exact .lift_bind (any_record _ _) fun _ => .pure _
      | error n => exact .complain (.inl rfl) _ (any_discard fd) rfl
  · refine .lift_bind (Net.only_context scope) fun c => ?_
    refine .bind (vocal_candidates _ _ _ _) fun found => ?_
    refine .lift_bind (made_bindFirst _ p none found).only.any fun r => ?_
    cases r with
    | ok fd => exact .pure _
    | error last => exact vocal_exhausted _ _ _ _

/-- Connecting a descriptor that is there already. -/
lemma vocal_connectAgain (scope : Scope) (fd : Descriptor) (host service : String)
    (p : Protocol) : Vocal quiet senseless (connectAgain scope fd host service p) := by
  unfold connectAgain
  split
  · exact vocal_connectLocalTo fd host
  · refine .lift_bind ?_ fun family => ?_
    · refine .bind (any_syscall _) fun r => ?_
      cases r <;> exact .pure _
    refine .bind (vocal_candidates _ _ _ _) fun found => ?_
    refine .lift_bind (made_connectFirstAgain fd none found).only.any fun r => ?_
    cases r with
    | ok _ => exact .pure _
    | error last => exact vocal_exhausted _ _ _ _

end Opening

/-! ## Operations on handles -/

namespace Handle

/-- **An operation on a handle is vocal** for handles that own a descriptor: they still own it after
it, and when it fails, that is accounted for; whether it may make no sense depends on the handle. -/
structure Act.Vocal {α : Type} (fd : Descriptor) (quiet : Prop) (senseless : Handle → Prop)
    (x : Act α) : Prop where
  only : ∀ g : Handle, g.descriptor = some fd → Only Event.Any (x.on g)
  keeps : ∀ g w, g.descriptor = some fd → (x.on g w).1.2.descriptor = some fd
  heard : ∀ g w e, g.descriptor = some fd → (x.on g w).1.1 = .error e →
    w.Accounted quiet (senseless g) e (x.on g w).2

namespace Act.Vocal

variable {α β : Type} {fd : Descriptor} {senseless : Handle → Prop} {x : Act α} {f : α → Act β}

/-- Fewer handles for which it may make no sense. -/
lemma weaken {more : Handle → Prop} (hx : Vocal fd quiet senseless x)
    (h : ∀ g, senseless g → more g) : Vocal fd quiet more x :=
  ⟨hx.only, hx.keeps, fun g w e hg he =>
    ⟨fun hmisuse => h g ((hx.heard g w e hg he).sense hmisuse), (hx.heard g w e hg he).complaint⟩⟩

/-- To answer is not to fail. -/
lemma pure (a : α) : Vocal fd quiet senseless (Pure.pure a : Act α) :=
  ⟨fun _ _ _ => .refl, fun _ _ h => h,
    fun _ _ e _ he => nomatch (show Except.ok a = Except.error e from he)⟩

/-- To fail without a word, where that may be. -/
lemma quiet_throw {e : Error} (hq : e.isMisuse = false → quiet)
    (hs : e.isMisuse = true → ∀ g, senseless g) :
    Vocal fd quiet senseless (throw e : Act α) := by
  refine ⟨fun _ _ _ => .refl, fun _ _ h => h, ?_⟩
  rintro g _ _ _ ⟨⟩
  exact ⟨fun hmisuse => hs hmisuse g, fun he => .inl (hq he)⟩

/-- What stands behind a failure is not done. -/
lemma throw_bind {e : Error} (hq : e.isMisuse = false → quiet)
    (hs : e.isMisuse = true → ∀ g, senseless g) : Vocal fd quiet senseless (throw e >>= f) := by
  refine ⟨fun _ _ _ => .refl, fun _ _ h => h, ?_⟩
  rintro g _ _ _ ⟨⟩
  exact ⟨fun hmisuse => hs hmisuse g, fun he => .inl (hq he)⟩

/-- One operation after another, which makes sense.

**Proof sketch.** As for operations without a handle (`bind_of`), with the handle that the first one
leaves, which owns the same descriptor. -/
lemma bind (hx : Vocal fd quiet senseless x) (hf : ∀ a, Vocal fd quiet (fun _ => False) (f a)) :
    Vocal fd quiet senseless (x >>= f) := by
  have hstep (g : Handle) (hg : g.descriptor = some fd) (w : World) :
      w.Onward Event.Any ((x >>= f).on g w).2 ∧ ((x >>= f).on g w).1.2.descriptor = some fd ∧
        ∀ e, ((x >>= f).on g w).1.1 = .error e →
          w.Accounted quiet (senseless g) e ((x >>= f).on g w).2 := by
    have honward := hx.only g hg w
    have hkeeps := hx.keeps g w hg
    have hheard := hx.heard g w
    rw [on_bind]
    generalize x.on g w = out at honward hkeeps hheard ⊢
    obtain ⟨⟨e' | a, h⟩, v⟩ := out
    · refine ⟨honward, hkeeps, fun e he => ?_⟩
      obtain rfl : e' = e := Except.error.inj he
      exact hheard e' hg rfl
    · have hlast : Vocal fd quiet (fun _ => senseless g) (f a) := (hf a).weaken fun _ => False.elim
      exact ⟨honward.trans (hlast.only h hkeeps v), hlast.keeps h v hkeeps,
        fun e he => honward.accounted (hlast.heard h v e hkeeps he)⟩
  exact ⟨fun g hg w => (hstep g hg w).1, fun g w hg => (hstep g hg w).2.1,
    fun g w e hg => (hstep g hg w).2.2 e⟩

/-- The handle at hand can be referred to. -/
lemma get_bind {f : Handle → Act α}
    (hf : ∀ g, g.descriptor = some fd → Vocal fd quiet (fun _ => senseless g) (f g)) :
    Vocal fd quiet senseless (get >>= f) :=
  ⟨fun g hg => (hf g hg).only g hg, fun g w hg => (hf g hg).keeps g w hg,
    fun g w e hg => (hf g hg).heard g w e hg⟩

/-- The descriptor is there. -/
lemma owned_bind {f : Descriptor → Act α} (hf : Vocal fd quiet senseless (f fd)) :
    Vocal fd quiet senseless (owned >>= f) := by
  have hon (g : Handle) (hg : g.descriptor = some fd) : (owned >>= f).on g = (f fd).on g := by
    funext w
    rw [on_bind, on_owned hg]
  refine ⟨fun g hg => ?_, fun g w hg => ?_, fun g w e hg he => ?_⟩
  · rw [hon g hg]
    exact hf.only g hg
  · rw [hon g hg]
    exact hf.keeps g w hg
  · rw [hon g hg] at he ⊢
    exact hf.heard g w e hg he

/-- A change of the handle that leaves the descriptor. -/
lemma modify {k : Handle → Handle} (hk : ∀ g, (k g).descriptor = g.descriptor) :
    Vocal fd quiet senseless (MonadState.modifyGet fun i => ((), k i) : Act Unit) :=
  ⟨fun _ _ _ => .refl, fun g _ hg => (hk g).trans hg,
    fun _ _ e _ he => nomatch (show Except.ok () = Except.error e from he)⟩

/-- An operation on the world that does not fail. -/
lemma ofNet {x : Net α} (hx : Only Event.Any x) : Vocal fd quiet senseless (Act.ofNet x) :=
  ⟨fun _ _ => hx, fun _ _ hg => hg,
    fun _ w e _ he => nomatch (show Except.ok (x w).1 = Except.error e from he)⟩

/-- An operation on the world that may fail. -/
lemma ofAttempt {x : Attempt Error α} (hx : Net.Vocal quiet False x) :
    Vocal fd quiet senseless (Act.ofAttempt x) := by
  refine ⟨fun _ _ => hx.only, fun _ _ hg => hg, fun _ w e _ he => ?_⟩
  have hheard := hx.heard w e he
  exact ⟨fun hmisuse => (hheard.sense hmisuse).elim, hheard.complaint⟩

/-- A failure after a complaint. -/
lemma complain_throw (message : String) {e : Error} (he : e.isMisuse = false) :
    Vocal fd quiet senseless (do record .error message; throw e : Act α) := by
  refine ⟨fun _ _ => any_record _ _, fun _ _ hg => hg, ?_⟩
  rintro _ w _ _ ⟨⟩
  exact (w.complained_record (.inl rfl) _).accounted he

end Act.Vocal

open Act (Vocal)

variable {fd : Descriptor} {senseless : Handle → Prop}

/-- A record about a handle. -/
lemma vocal_record (level : Level) (message : String) :
    Vocal fd quiet senseless (record level message) :=
  .get_bind fun _ _ => .ofNet (any_record _ _)

/-- Asking the kernel for an address. -/
lemma vocal_ask (name : String) (c : Descriptor → Call)
    (read : (fd : Descriptor) → (c fd).Answer → Address) :
    Vocal fd quiet senseless (ask name c read) := by
  refine .owned_bind (.bind (.ofNet (any_syscall _)) fun r => ?_)
  cases r with
  | ok answer => exact .pure _
  | error n => exact .complain_throw _ rfl

/-- Asking the kernel for the near address. -/
lemma vocal_refreshNear : Vocal fd quiet senseless refreshNear :=
  .bind (vocal_ask _ _ _) fun _ => .modify fun _ => rfl

/-- Putting the far address in place. -/
lemma vocal_setFar (a : Address) : Vocal fd quiet senseless (setFar a) := .modify fun _ => rfl

/-- Asking the kernel for the far address. -/
lemma vocal_refreshFar : Vocal fd quiet senseless refreshFar := .bind (vocal_ask _ _ _) vocal_setFar

/-- Joining a group and remembering the membership. -/
lemma vocal_join_bind (group : Address) (i : Interface) :
    Vocal fd quiet senseless (Act.ofAttempt (Membership.join fd group i) >>= recordMembership) :=
  .bind (.ofAttempt (Membership.vocal_join fd group i)) fun _ =>
    .bind (vocal_record _ _) fun _ => .modify fun _ => rfl

/-- Joining the group of the peer. -/
lemma vocal_joinPeer : Vocal fd quiet senseless joinPeer := by
  refine .get_bind fun h _ => ?_
  split
  · exact .pure _
  split
  · exact .pure _
  · exact .owned_bind (vocal_join_bind _ _)

/-- **Joining a group** is vocal.

**Proof sketch.** The two refusals are misuses, on handles for which the operation makes no sense.
Joining itself is vocal. -/
theorem vocal_joinGroup (group : Address) (i : Interface) : Vocal fd quiet
    (fun g => g.protocol ≠ .udp ∨ g.flags.joined = true) (joinGroup group i) := by
  refine .get_bind fun h _ => ?_
  dsimp only
  split
  · exact .throw_bind nofun fun _ _ => .inl ‹_›
  split
  · exact .throw_bind nofun fun _ _ => .inr ‹_›
  · exact .owned_bind (vocal_join_bind _ _)

/-- Leaving the group that was joined. -/
lemma vocal_releaseGroup : Vocal fd quiet senseless releaseGroup := by
  refine .get_bind fun h _ => ?_
  split
  · exact .pure _
  · dsimp only
    split
    · exact .bind (.ofNet (made_leaveGroup _ _).only.any) fun _ => .modify fun _ => rfl
    · exact .modify fun _ => rfl

/-- **Setting a destination** is vocal; one of no family that has any it may refuse quietly.

**Proof sketch.** The first refusal is a misuse, and the second is the one that may be quiet.
Storing the address does not fail. -/
theorem vocal_setDestination {a : Address} (h : a.ip? = none → quiet) :
    Vocal fd quiet (fun g => g.protocol ≠ .udp) (setDestination a) := by
  refine .get_bind fun g _ => ?_
  dsimp only
  split
  · exact .throw_bind nofun fun _ _ => ‹_›
  split
  · exact .throw_bind (fun _ => h ‹_›) nofun
  · exact .bind (vocal_record _ _) fun _ => vocal_setFar a

/-- **Connecting again** is vocal.

**Proof sketch.** The refusal is a misuse, on encrypted handles. Leaving, connecting, asking for the
ends and joining are vocal each. -/
theorem vocal_reconnect (scope : Scope) (host service : String) :
    Vocal fd quiet (fun g => g.flags.tls.enabled = true) (reconnect scope host service) := by
  refine .get_bind fun h _ => ?_
  dsimp only
  split
  · exact .throw_bind nofun fun _ _ => ‹_›
  · exact .bind vocal_releaseGroup fun _ => .owned_bind <|
      .bind (.ofAttempt (Opening.vocal_connectAgain scope fd host service _)) fun _ =>
      .bind vocal_refreshNear fun _ => .bind vocal_refreshFar fun _ =>
      .bind vocal_joinPeer fun _ => vocal_record _ _

/-! ## Tearing down -/

/-- The kinds of system calls that tearing down takes. -/
def parting : List CallKind := .close :: Membership.calls

/-- Leaving the group. -/
lemma among_partGroup (fd : Descriptor) (h : Handle) :
    Only (Event.Among parting) (partGroup fd h) := by
  unfold partGroup
  split
  · split
    · exact .bind ((made_leaveGroup _ _).only.among (by decide)) fun _ => .pure _
    · exact .pure _
  · exact .pure _

/-- Shutting the session down. -/
lemma among_partSession (fd : Descriptor) (h : Handle) :
    Only (Event.Among parting) (partSession fd h) := by
  have hrecord (level : Level) (message : String) :
      Only (Event.Among parting) (Net.record level message) :=
    Net.Only.among (.record level message) (List.nil_subset _)
  unfold partSession
  split
  · split
    · refine .bind (.bind (hrecord _ _) fun _ => ?_) fun _ => .pure _
      refine .bind (.note rfl trivial) fun _ => ?_
      split
      · exact .pure _
      · exact hrecord _ _
    · exact .pure _
  · exact .pure _

/-- Closing the descriptor is vocal. -/
lemma vocal_closeDescriptor {senseless : Prop} (fd : Descriptor) (h : Handle) :
    Net.Vocal quiet senseless (.mk (closeDescriptor fd h)) := by
  have hclose : Net.Vocal quiet senseless (do
      Net.record .debug (h.name ++ ": closing descriptor")
      Net.require "close" (.close fd) : Attempt Error Unit) :=
    .lift_bind (any_record _ _) fun _ => vocal_require _ _
  exact ⟨hclose.only, hclose.heard⟩

/-- Closing the descriptor takes that call. -/
lemma made_closeDescriptor (fd : Descriptor) (h : Handle) :
    Net.Made [.close] (closeDescriptor fd h) :=
  .bind (.record _ _) fun _ => Net.made_require _ (.close fd) (List.mem_singleton_self _)

/-- Tearing down ends as closing the descriptor does, after other things. -/
lemma teardown_eq {h : Handle} (hfd : h.descriptor = some fd) (w : World) :
    ∃ i v, w.Onward (Event.Among parting) v ∧ (h.teardown w).1.1 = (closeDescriptor fd i v).1 ∧
      (h.teardown w).2 = (closeDescriptor fd i v).2 := by
  unfold teardown
  rw [hfd]
  have hparted := among_partGroup fd { h with descriptor := none } w
  exact ⟨_, _, hparted.trans (among_partSession fd _ _), rfl, rfl⟩

/-- Tearing down. -/
lemma among_teardown (h : Handle) : Only (Event.Among parting) h.teardown := by
  intro w
  cases hfd : h.descriptor with
  | none =>
    unfold teardown
    rw [hfd]
    exact .refl
  | some fd =>
    obtain ⟨i, v, honward, -, hworld⟩ := teardown_eq hfd w
    rw [hworld]
    exact honward.trans ((made_closeDescriptor fd i).only.among (by decide) v)

/-- Dropping. -/
lemma among_drop (h : Handle) : Only (Event.Among parting) h.drop := by
  unfold drop
  split
  · exact .pure _
  · refine .bind (among_teardown h) ?_
    rintro ⟨e | _, _⟩
    · exact Net.Only.among (.record _ _) (List.nil_subset _)
    · exact .pure _

/-- Dropping opens, connects and binds no socket. -/
lemma beside_drop (h : Handle) : Only Event.Beside h.drop :=
  (among_drop h).mono fun _ he => he.beside (by decide)

/-- Closing. -/
lemma among_close (h : Handle) : Only (Event.Among parting) h.close :=
  .bind (among_teardown h) fun p => .bind (among_drop p.2) fun _ => .pure _

/-- **Closing** is vocal.

**Proof sketch.** Closing is closing the descriptor after a farewell (`teardown_eq`), and only the
first decides how it ends. What is done when the rest of the handle is dropped comes after the
complaint. -/
theorem vocal_close {senseless : Prop} {h : Handle} (hfd : h.descriptor = some fd) :
    Net.Vocal quiet senseless (.mk h.close) := by
  refine ⟨(among_close h).any, fun w e he => ?_⟩
  obtain ⟨i, v, honward, hstatus, hworld⟩ := teardown_eq hfd w
  have hfailed : (closeDescriptor fd i v).1 = .error e := hstatus.symm.trans he
  have hdone : w.Accounted quiet senseless e _ :=
    honward.accounted ((vocal_closeDescriptor fd i).heard v e hfailed)
  rw [ExceptT.run_mk, ← hworld] at hdone
  exact hdone.onward (among_drop _ _)

end Handle

/-! ## Opening handles -/

namespace Net

/-- Negotiating takes its kinds of system calls, and notes. -/
lemma Negotiates.among {fd : Descriptor} {c : TlsCall} {q : Tls.Provider} {v w : World}
    {answer : Except TlsError Tls.Session} (h : Negotiates fd c q v answer w) :
    v.Onward (Event.Among negotiating) w := by
  cases h with
  | failed hw => exact hw.mono fun _ => Event.Within.among
  | answered hu _ hw =>
    refine (hu.mono fun _ => Event.Within.among).trans (.trans ?_ (hw.mono fun _ he => ?_))
    · exact .single (.event (.note _ rfl) trivial)
    · exact (he.mono (List.nil_subset _)).among

/-- Negotiating as a client. -/
lemma among_negotiateClient (scope : Scope) (fd : Descriptor) (host : String) (strict : Bool) :
    Only (Event.Among negotiating) (negotiateClient scope fd host strict).run :=
  fun v => (negotiates_client scope fd host strict v).among

/-- Negotiating as a server. -/
lemma among_negotiateServer (scope : Scope) (fd : Descriptor) :
    Only (Event.Among negotiating) (negotiateServer scope fd).run :=
  fun v => (negotiates_server scope fd v).among

/-- A session for a new descriptor takes what negotiating takes, and closing if that fails.

**Proof sketch.** A session is negotiated for or not. After a failure there is a record, which is no
call, and the descriptor is closed. -/
lemma among_sessionFor (fd : Descriptor) (flags : Flags) (what : String)
    {negotiation : Attempt TlsError Tls.Session}
    (hn : Only (Event.Among negotiating) negotiation.run) :
    Only (Event.Among (.close :: negotiating)) (sessionFor fd flags what negotiation).run := by
  have hrecord (message : String) :
      Only (Event.Among (.close :: negotiating)) (record .error message) :=
    Only.among (.record _ _) (List.nil_subset _)
  have hdiscard : Only (Event.Among (.close :: negotiating)) (discard fd) :=
    (made_discard fd (List.mem_singleton_self _)).only.among (by decide)
  unfold sessionFor
  split
  · refine .run_bind (.run_lift (hn.mono fun _ he => he.mono (List.subset_cons_self _ _)))
      fun r => ?_
    cases r with
    | ok session => exact .run_pure _
    | error e =>
      exact .run_bind (.run_lift (hrecord _)) fun _ =>
        .run_bind (.run_lift hdiscard) fun _ => .run_throw _
  · exact .run_pure _

/-- A session for a new descriptor. -/
lemma vocal_sessionFor (fd : Descriptor) (flags : Flags) (what : String)
    {negotiation : Attempt TlsError Tls.Session} (hn : Only Event.Any negotiation.run) :
    Vocal quiet senseless (sessionFor fd flags what negotiation) := by
  unfold sessionFor
  split
  · refine .lift_bind hn fun r => ?_
    cases r with
    | ok session => exact .pure _
    | error e => exact .complain (.inl rfl) _ (any_discard fd) rfl
  · exact .pure _

variable {α β : Type} {fd : Descriptor} {h : Handle}

/-- What follows the making of a handle is done with a handle that owns its descriptor. -/
lemma create_bind_run (f : Handle → Attempt Error β) (p : Protocol) (flags : Flags)
    (session : Option Tls.Session) (w : World) :
    ∃ g v, g.descriptor = some fd ∧ w.Onward Event.Any v ∧
      ((liftM (Handle.create fd p flags session) : Attempt Error Handle) >>= f).run w =
        (f g).run v :=
  ⟨_, { w with nextId := w.nextId + 1 }, rfl, .single (.aside _ rfl rfl), rfl⟩

/-- An operation on a new handle. -/
lemma Vocal.create_bind {f : Handle → Attempt Error β} (p : Protocol) (flags : Flags)
    (session : Option Tls.Session)
    (hf : ∀ h, h.descriptor = some fd → Vocal quiet senseless (f h)) :
    Vocal quiet senseless
      ((liftM (Handle.create fd p flags session) : Attempt Error Handle) >>= f) := by
  refine ⟨fun w => ?_, fun w e he => ?_⟩ <;>
    obtain ⟨g, v, hg, honward, hrun⟩ := create_bind_run f p flags session w
  · rw [hrun]
    exact honward.trans ((hf g hg).only v)
  · rw [hrun] at he ⊢
    exact honward.accounted ((hf g hg).heard v e he)

/-- The operation on a new handle succeeds, or it fails and the handle is dropped. -/
lemma settle_cases (h : Handle) (x : Handle.Act α) (w : World) :
    (∃ a g v, x.on h w = ((.ok a, g), v) ∧ (h.settle x).run w = (.ok (a, g), v)) ∨
      ∃ e g v, x.on h w = ((.error e, g), v) ∧
        (h.settle x).run w = (.error e, (g.drop v).2) := by
  unfold Handle.settle
  rw [run_lift_bind_eq]
  obtain ⟨⟨e | a, g⟩, v⟩ := x.on h w
  · exact .inr ⟨e, g, v, rfl, rfl⟩
  · exact .inl ⟨a, g, v, rfl, rfl⟩

/-- An operation on a new handle, which is dropped if it fails.

**Proof sketch.** By how the operation ended (`settle_cases`). On failure the handle is dropped,
which comes after what accounts for it. -/
lemma vocal_settle {x : Handle.Act α} (hfd : h.descriptor = some fd)
    (hx : x.Vocal fd quiet fun _ => senseless) : Vocal quiet senseless (h.settle x) := by
  have hsettled (w : World) : w.Onward Event.Any ((h.settle x).run w).2 ∧
      ∀ e, ((h.settle x).run w).1 = .error e →
        w.Accounted quiet senseless e ((h.settle x).run w).2 := by
    have honward := hx.only h hfd w
    obtain ⟨a, g, v, hon, hrun⟩ | ⟨e', g, v, hon, hrun⟩ := settle_cases h x w <;>
      rw [hon] at honward <;> rw [hrun]
    · exact ⟨honward, fun e he => nomatch he⟩
    · have hheard := hx.heard h w e' hfd (by rw [hon])
      rw [hon] at hheard
      refine ⟨honward.trans ((Handle.among_drop g).any v), fun e he => ?_⟩
      obtain rfl : e' = e := Except.error.inj he
      exact hheard.onward (Handle.among_drop g v)
  exact ⟨fun w => (hsettled w).1, fun w => (hsettled w).2⟩

/-- **Connecting** is vocal.

**Proof sketch.** Opening a descriptor, getting a session for it and making the handle learn its
ends are vocal each, and the record in the end does not fail. -/
theorem vocal_connect (scope : Scope) (host service : String) (p : Protocol) (flags : Flags) :
    Vocal quiet senseless (connect scope host service p flags) := by
  refine .bind (Opening.vocal_connect _ _ _ _) fun fd => ?_
  refine .bind (vocal_sessionFor fd _ _ (among_negotiateClient _ _ _ _).any) fun session => ?_
  refine .create_bind _ _ _ fun h hfd => .bind (vocal_settle hfd ?_) fun _ => ?_
  · exact .bind Handle.vocal_refreshNear fun _ => .bind Handle.vocal_refreshFar fun _ =>
      Handle.vocal_joinPeer
  · exact .lift_bind (any_record _ _) fun _ => .pure _

/-- **Binding** is vocal; where that is to a local socket without a path it may keep quiet. -/
theorem vocal_bind (scope : Scope) (host : Option String) (service : String) (p : Protocol)
    (flags : Flags) (h : p = .unix → host = none → quiet) :
    Vocal quiet senseless (bind scope host service p flags) := by
  refine .bind (Opening.vocal_bind _ _ _ _ h) fun fd => ?_
  refine .create_bind _ _ _ fun h hfd => ?_
  refine .bind (vocal_settle hfd Handle.vocal_refreshNear) fun _ => ?_
  exact .lift_bind (any_record _ _) fun _ => .pure _

/-- **Letting a handle wait** for connections is vocal. -/
theorem vocal_listen (scope : Scope) (hfd : h.descriptor = some fd) :
    Vocal quiet senseless (listen scope h) := by
  refine .lift_bind (only_context scope) fun c => ?_
  rw [hfd]
  exact vocal_require _ _

/-- **Accepting** is vocal.

**Proof sketch.** The call, getting a session and making the handle learn its ends are vocal each.
-/
theorem vocal_accept (scope : Scope) (hfd : h.descriptor = some fd) :
    Vocal quiet senseless (accept scope h) := by
  unfold accept
  rw [hfd]
  refine .bind (vocal_require _ _) ?_
  rintro ⟨fd, peer⟩
  refine .bind (vocal_sessionFor fd _ _ (among_negotiateServer _ _).any) fun session => ?_
  refine .create_bind _ _ _ fun h hfd => .bind (vocal_settle hfd ?_) fun _ => ?_
  · exact .bind (Handle.vocal_setFar peer) fun _ => Handle.vocal_refreshNear
  · exact .lift_bind (any_record _ _) fun _ => .pure _

/-- **Making two connected handles** is vocal. -/
theorem vocal_socketpair : Vocal quiet senseless socketpair := by
  refine .bind (vocal_require _ _) ?_
  rintro ⟨a, b⟩
  refine .create_bind _ _ _ fun _ _ => .create_bind _ _ _ fun _ _ => ?_
  exact .lift_bind (any_record _ _) fun _ => .pure _

end Net

end Sockets
