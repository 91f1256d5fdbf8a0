import Sockets.Handle.Opening
import Sockets.Proofs.Onward

/-!
# What operations are made of

Most operations are made of a few simple ones: system calls, log records, queries to resolvers, and
looks at what the library keeps. What one of them is made of is said once. From there follows
whatever the simple ones have in common that passes from one operation to the next, as how far an
operation reaches, and what its answer cannot depend on.

## Main definitions

* `Sockets.Net.Made` — an operation is made of system calls of some kinds, and of what is no system
  call.

## Main results

* `Sockets.Net.Made.run_bind`, `Sockets.Net.Made.run_outcome` — one operation that may fail after
  another.
* `Sockets.Net.Made.only` — what is made of system calls of some kinds makes no others.
-/

set_option autoImplicit false

namespace Sockets

open Event (Within)

namespace Net

/-- An operation is made of system calls of some kinds, log records, queries to resolvers, and looks
at what surrounds the library, at contexts and at the services database. -/
inductive Made (kinds : List CallKind) : {α : Type} → Net α → Prop
  | pure {α : Type} (a : α) : Made kinds (Pure.pure a)
  | bind {α β : Type} {x : Net α} {f : α → Net β} (hx : Made kinds x) (hf : ∀ a, Made kinds (f a)) :
    Made kinds (x >>= f)
  | syscall (c : Call) (h : c.kind ∈ kinds) : Made kinds (Net.syscall c)
  | record (level : Level) (message : String) : Made kinds (Net.record level message)
  | query (q : Query) : Made kinds (Net.note (.query q))
  | setting : Made kinds Net.setting
  | context (scope : Scope) : Made kinds (Net.context scope)
  | takeAnswer (scope : Scope) (answers : List (Except ResolveError (List Candidate))) :
    Made kinds (Net.takeAnswer scope answers)
  | serviceTable : Made kinds Net.serviceTable

namespace Made

variable {α β ε : Type} {kinds more : List CallKind}

/-- More kinds of system calls may be allowed.

**Proof sketch.** By induction on what the operation is made of. -/
lemma widen {x : Net α} (hx : Made kinds x) (h : kinds ⊆ more) : Made more x := by
  induction hx with
  | pure a => exact .pure a
  | bind _ _ ihx ihf => exact .bind ihx ihf
  | syscall c hc => exact .syscall c (h hc)
  | record level message => exact .record level message
  | query q => exact .query q
  | setting => exact .setting
  | context scope => exact .context scope
  | takeAnswer scope answers => exact .takeAnswer scope answers
  | serviceTable => exact .serviceTable

/-- Something is made of the answer. -/
lemma map {x : Net α} (hx : Made kinds x) (f : α → β) : Made kinds (f <$> x) := by
  rw [map_eq_pure_bind]
  exact .bind hx fun _ => .pure _

/-! ### Operations that may fail -/

/-- To answer, in an operation that may fail. -/
lemma run_pure (a : α) : Made kinds (Pure.pure a : Attempt ε α).run :=
  .pure (Except.ok a : Except ε α)

/-- To fail is to do nothing. -/
lemma run_throw (e : ε) : Made kinds (throw e : Attempt ε α).run :=
  .pure (Except.error e : Except ε α)

/-- What stands behind a failure is not done. -/
lemma run_throw_bind (e : ε) (f : α → Attempt ε β) : Made kinds (throw e >>= f).run :=
  .pure (Except.error e : Except ε β)

/-- An operation that does not fail, as one that may. -/
lemma run_lift {x : Net α} (hx : Made kinds x) : Made kinds (liftM x : Attempt ε α).run :=
  .bind (f := fun a => Pure.pure (Except.ok a : Except ε α)) hx fun _ => .pure _

/-- An outcome that is there already. -/
lemma run_ofExcept (r : Except ε α) : Made kinds (liftM r : Attempt ε α).run := .pure r

/-- A failure put in other words. -/
lemma run_adapt {δ : Type} {x : Attempt ε α} (f : ε → δ) (hx : Made kinds x.run) :
    Made kinds (ExceptT.adapt f x).run :=
  hx.map (Except.mapError f)

/-- One operation that may fail after another. -/
lemma run_bind {x : Attempt ε α} {f : α → Attempt ε β} (hx : Made kinds x.run)
    (hf : ∀ a, Made kinds (f a).run) : Made kinds (x >>= f).run := by
  refine .bind (x := x.run) (f := fun r => (ExceptT.bindCont f r : Net _)) hx fun r => ?_
  cases r with
  | ok a => exact hf a
  | error e => exact .pure _

/-- One operation after another that may fail, by how that one ended. -/
lemma run_outcome {δ : Type} {x : Attempt ε α} {f : Except ε α → Attempt δ β}
    (hx : Made kinds x.run) (hok : ∀ a, Made kinds (f (.ok a)).run)
    (herror : ∀ e, Made kinds (f (.error e)).run) :
    Made kinds ((liftM x.run : Attempt δ (Except ε α)) >>= f).run := by
  refine run_bind (run_lift hx) fun r => ?_
  cases r with
  | ok a => exact hok a
  | error e => exact herror e

/-! ### How far operations reach -/

/-- The services database is read beside the kernel, and at most a record is made of that. -/
lemma only_serviceTable : Only (Within kinds) Net.serviceTable := by
  refine .bind .get fun w => ?_
  split
  · exact .pure _
  · split
    · exact .bind (.pure _) fun _ => .bind (.aside fun _ => ⟨rfl, rfl⟩) fun _ => .pure _
    · exact .bind (.record _ _) fun _ => .bind (.pure _) fun _ =>
        .bind (.aside fun _ => ⟨rfl, rfl⟩) fun _ => .pure _

/-- **What is made of system calls of some kinds makes no others.**

**Proof sketch.** By induction on what the operation is made of. System calls are of the kinds that
are allowed; everything else adds no event, or one that is no call. -/
theorem only {x : Net α} (hx : Made kinds x) : Only (Within kinds) x := by
  induction hx with
  | pure a => exact .pure a
  | bind _ _ ihx ihf => exact .bind ihx ihf
  | syscall c h => exact .syscall c h
  | record level message => exact .record level message
  | query q => exact .note rfl trivial
  | setting => exact .aside fun _ => ⟨rfl, rfl⟩
  | context scope => exact .aside fun _ => by cases scope <;> exact ⟨rfl, rfl⟩
  | takeAnswer scope answers => exact .aside fun _ => by cases scope <;> exact ⟨rfl, rfl⟩
  | serviceTable => exact only_serviceTable

end Made

end Net

end Sockets
