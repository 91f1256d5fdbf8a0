import Mathlib.Logic.Relation
import Sockets.World

/-!
# What operations may do to the world

An operation changes the kernel by system calls only, and each of those is an event. So what an
operation may do is said by the events that it may add: the world after it is one that is reached
by system calls and notes of those events, apart from things that are neither kernel nor journal.

## Main definitions

* `Sockets.World.Adds` — one world is another after one event.
* `Sockets.World.Onward` — one world is reached from another by events of some sort.
* `Sockets.Net.Only` — an operation adds events of some sort only.
* `Sockets.Event.Within` — the sort of events that are no more than system calls of some kinds,
  besides records and queries.

## Main results

* `Sockets.World.Onward.journal_eq` — the journal only grows, by events of the sort.
* `Sockets.Net.Only.bind`, `Sockets.Net.Only.run_bind` — one operation after another.
-/

set_option autoImplicit false

namespace Sockets

/-! ## Events -/

namespace Event

/-- Whether an event is a system call. -/
def isCall : Event → Bool
  | call .. => true
  | _ => false

/-- Whether an event is a system call of one of some kinds, or a record, a trace or a query. -/
def Within (kinds : List CallKind) : Event → Prop
  | call c _ => c.kind ∈ kinds
  | tls .. => False
  | query _ | record .. | trace _ => True

/-- More kinds of system calls are more events. -/
lemma Within.mono {kinds more : List CallKind} (h : kinds ⊆ more) {e : Event}
    (he : e.Within kinds) : e.Within more := by
  cases e with
  | call c _ => exact h he
  | tls => exact he.elim
  | query | record | trace => trivial

end Event

/-! ## Worlds reached -/

namespace World

/-- One event is added: a system call with what comes of it in the kernel, or a note of something
that is no system call. -/
inductive Adds (w : World) : Event → World → Prop where
  | call (c : Call) : Adds w (.call c (w.kernel.perform c).1) (Net.syscall c w).2
  | note (e : Event) (he : e.isCall = false) : Adds w e (w.noting e)

/-- An event that is added is the last one of the journal. -/
lemma Adds.journal_eq {w v : World} {e : Event} (h : w.Adds e v) :
    v.journal = w.journal ++ [e] := by
  cases h <;> rfl

/-- One thing is done to the world: an event in `p`, or a change of what is neither kernel nor
journal. -/
inductive Move (p : Event → Prop) (w : World) : World → Prop where
  | event {e : Event} {v : World} (ha : w.Adds e v) (h : p e) : Move p w v
  | aside (v : World) (hk : v.kernel = w.kernel) (hj : v.journal = w.journal) : Move p w v

/-- Where more events are allowed, the same can be done. -/
lemma Move.mono {p q : Event → Prop} (hpq : ∀ e, p e → q e) {w v : World} (h : Move p w v) :
    Move q w v := by
  cases h with
  | event ha hp => exact .event ha (hpq _ hp)
  | aside _ hk hj => exact .aside _ hk hj

/-- A world is reached from another by events in `p`. -/
def Onward (p : Event → Prop) : World → World → Prop := Relation.ReflTransGen (Move p)

namespace Onward

variable {p q : Event → Prop} {u v w : World}

/-- Nothing has to be done to stay. -/
@[refl]
lemma refl : Onward p w w := Relation.ReflTransGen.refl

/-- One way after another. -/
lemma trans (huv : Onward p u v) (hvw : Onward p v w) : Onward p u w :=
  Relation.ReflTransGen.trans huv hvw

/-- A way of one thing. -/
lemma single (h : Move p u v) : Onward p u v := Relation.ReflTransGen.single h

/-- What holds after each thing that is done holds at the end. -/
lemma keeps {I : World → Prop} (hI : ∀ v w, Move p v w → I v → I w) (h : Onward p u w)
    (hu : I u) : I w := by
  induction h with
  | refl => exact hu
  | tail _ hm ih => exact hI _ _ hm ih

/-- Where more events are allowed, the same worlds are reached. -/
lemma mono (hpq : ∀ e, p e → q e) (h : Onward p u w) : Onward q u w :=
  h.keeps (I := Onward q u) (fun _ _ hm huv => huv.tail (hm.mono hpq)) .refl

/-- The journal only grows, by events in `p`. -/
theorem journal_eq (h : Onward p u w) :
    ∃ es, w.journal = u.journal ++ es ∧ ∀ e ∈ es, p e := by
  induction h with
  | refl => exact ⟨[], by simp, by simp⟩
  | tail _ hm ih =>
    obtain ⟨es, hes, hp⟩ := ih
    cases hm with
    | event ha he =>
      refine ⟨es ++ [_], by rw [ha.journal_eq, hes, List.append_assoc], ?_⟩
      simpa [or_imp, forall_and] using ⟨hp, he⟩
    | aside _ hk hj => exact ⟨es, hj.trans hes, hp⟩

end Onward

end World

/-! ## Operations -/

namespace Net

/-- An operation adds events in `p` only, whatever the world. -/
def Only {α : Type} (p : Event → Prop) (x : Net α) : Prop := ∀ w : World, w.Onward p (x w).2

namespace Only

variable {α β ε : Type} {p q : Event → Prop}

/-- To answer is to do nothing. -/
lemma pure (a : α) : Only p (Pure.pure a : Net α) := fun _ => .refl

/-- One operation after another. -/
lemma bind {x : Net α} {f : α → Net β} (hx : Only p x) (hf : ∀ a, Only p (f a)) :
    Only p (x >>= f) :=
  fun w => (hx w).trans (hf _ _)

/-- More events may be allowed. -/
lemma mono {x : Net α} (hx : Only p x) (hpq : ∀ e, p e → q e) : Only q x :=
  fun w => (hx w).mono hpq

/-- More kinds of system calls may be allowed. -/
lemma widen {x : Net α} {kinds more : List CallKind} (hx : Only (Event.Within kinds) x)
    (h : kinds ⊆ more) : Only (Event.Within more) x :=
  hx.mono fun _ => Event.Within.mono h

/-- To look at the world is to do nothing. -/
lemma get : Only p (MonadState.get : Net World) := fun _ => .refl

/-- A change of what is neither kernel nor journal. -/
lemma aside {x : Net α} (h : ∀ w, (x w).2.kernel = w.kernel ∧ (x w).2.journal = w.journal) :
    Only p x :=
  fun w => .single (.aside _ (h w).1 (h w).2)

/-- A note of an event that is not a system call. -/
lemma note {e : Event} (he : e.isCall = false) (h : p e) : Only p (Net.note e) :=
  fun _ => .single (.event (.note e he) h)

/-- A log record. -/
lemma record {kinds : List CallKind} (level : Level) (message : String) :
    Only (Event.Within kinds) (Net.record level message) :=
  fun w => .single (.event (.note (.record w.sink level message) rfl) trivial)

/-- A system call. -/
lemma syscall {kinds : List CallKind} (c : Call) (h : c.kind ∈ kinds) :
    Only (Event.Within kinds) (Net.syscall c) :=
  fun _ => .single (.event (.call c) h)

/-! ### Operations that may fail -/

/-- To answer, in an operation that may fail. -/
lemma run_pure (a : α) : Only p (Pure.pure a : Attempt ε α).run := fun _ => .refl

/-- To fail is to do nothing. -/
lemma run_throw (e : ε) : Only p (throw e : Attempt ε α).run := fun _ => .refl

/-- An operation that does not fail, as one that may. -/
lemma run_lift {x : Net α} (hx : Only p x) : Only p (liftM x : Attempt ε α).run := hx

/-- One operation that may fail after another. -/
lemma run_bind {x : Attempt ε α} {f : α → Attempt ε β} (hx : Only p x.run)
    (hf : ∀ a, Only p (f a).run) : Only p (x >>= f).run := by
  refine Only.bind (x := x.run) (f := fun r => (ExceptT.bindCont f r : Net _)) hx fun r => ?_
  cases r with
  | ok a => exact hf a
  | error e => exact .pure _

/-- One operation after another that may fail, by how that one ended. -/
lemma run_outcome {δ : Type} {x : Attempt ε α} {f : Except ε α → Attempt δ β}
    (hx : Only p x.run) (hok : ∀ a, Only p (f (.ok a)).run)
    (herror : ∀ e, Only p (f (.error e)).run) :
    Only p ((liftM x.run : Attempt δ (Except ε α)) >>= f).run := by
  refine run_bind (run_lift hx) fun r => ?_
  cases r with
  | ok a => exact hok a
  | error e => exact herror e

end Only

end Net

end Sockets
