import Sockets.Proofs.Opening

/-!
# Footprints of opening

To connect or bind takes calls for sockets, on them, and for closing them again, beside the name
service, and nothing else. Among these calls are some that open descriptors. Like all descriptors
that are opened on the way from one world to another, these have numbers that were not handed out
before, one after the other.

## Main definitions

* `Sockets.Opening.calls` — the kinds of system calls that opening takes.

## Main results

* `Sockets.World.Onward.opens_eq` — the descriptors that are opened are new, each once.
* `Sockets.Opening.made_connect`, `Sockets.Opening.made_bind` — what opening takes.
-/

set_option autoImplicit false

namespace Sockets

open Event (Within)
open Net (Made Only)

/-! ## New descriptors -/

/-- **New descriptors.** On the way from one world to another the kernel hands out numbers one after
the other, each for one descriptor that is opened.

**Proof sketch.** By induction on the way. A system call opens descriptors with the numbers that
come next and moves on behind them (`World.Adds.follows`), and everything else opens none. -/
theorem World.Onward.opens_eq {p : Event → Prop} {u w : World} (h : u.Onward p w) :
    ∃ es, w.journal = u.journal ++ es ∧ (∀ e ∈ es, p e) ∧
      w.kernel.nextDescriptor = u.kernel.nextDescriptor + (es.flatMap Event.opens).length ∧
        es.flatMap Event.opens =
          List.range' u.kernel.nextDescriptor (es.flatMap Event.opens).length := by
  induction h with
  | refl => exact ⟨[], by simp, by simp, rfl, rfl⟩
  | @tail v w _ hm ih =>
    obtain ⟨es, hes, hp, hnext, hopens⟩ := ih
    cases hm with
    | aside _ hk hj => exact ⟨es, hj.trans hes, hp, by rw [hk, hnext], hopens⟩
    | @event e _ ha he =>
      obtain ⟨-, hn, ho⟩ := ha.follows
      have hlast : (es ++ [e]).flatMap Event.opens = es.flatMap Event.opens ++ e.opens := by simp
      refine ⟨es ++ [e], by rw [ha.journal_eq, hes, List.append_assoc], ?_, ?_, ?_⟩
      · simpa [or_imp, forall_and] using ⟨hp, he⟩
      · rw [hn, hnext, hlast, List.length_append, Nat.add_assoc]
      · rw [hlast, List.length_append, ← List.range'_append_1, ← hopens, ← hnext, ← ho]

/-! ## Opening -/

namespace Opening

/-- The kinds of system calls that opening a descriptor takes. -/
def calls : List CallKind := [.socket, .connect, .bind, .setsockopt, .close, .getaddrinfo]

/-- A descriptor of the kind that a candidate asks for takes one call. -/
lemma made_socketFor (c : Candidate) : Made calls (socketFor c) := by
  refine .bind (.syscall _ (by simp [calls, Call.kind])) fun r => ?_
  cases r <;> exact .pure _

/-- A descriptor for local streams takes one call. -/
lemma made_localSocket : Made calls localSocket.run :=
  Net.made_require _ _ (by simp [calls, Call.kind])

/-- What connecting to a local socket takes. -/
lemma made_connectLocal (path : String) : Made calls (connectLocal path).run := by
  refine .run_bind made_localSocket fun fd => ?_
  refine .run_outcome ((made_connectLocalTo fd path).widen (by decide)) (fun _ => .run_pure _)
    fun e => ?_
  exact .run_bind (.run_lift (Net.made_discard fd (by decide))) fun _ => .run_throw e

/-- What connecting to a candidate takes. -/
lemma made_connectTo (c : Candidate) : Made calls (connectTo c) := by
  refine .bind (made_socketFor c) fun r => ?_
  cases r with
  | error f => exact .pure _
  | ok fd =>
    refine .bind (.syscall _ (by simp [calls, Call.kind])) fun r => ?_
    cases r with
    | ok _ => exact .pure _
    | error n => exact .bind (Net.made_discard fd (by decide)) fun _ => .pure _

/-- What connecting to one of some candidates takes. -/
lemma made_connectFirst (last : Option Fault) (found : List Candidate) :
    Made calls (connectFirst last found) := by
  induction found generalizing last with
  | nil => exact .pure _
  | cons c rest ih =>
    refine .bind (made_connectTo c) fun r => ?_
    cases r with
    | ok fd => exact .bind (.record _ _) fun _ => .pure _
    | error f => exact .bind (.record _ _) fun _ => ih _

/-- What connecting takes. -/
theorem made_connect (scope : Scope) (host service : String) (p : Protocol) :
    Made calls (connect scope host service p).run := by
  unfold connect
  split
  · exact made_connectLocal host
  refine .run_bind (.run_lift (.context scope)) fun context => ?_
  refine .run_bind ((made_candidates _ _ _ _).widen (by decide)) fun found => ?_
  refine .run_bind (.run_lift (made_connectFirst none found)) fun r => ?_
  cases r with
  | ok fd => exact .run_pure _
  | error last => exact (made_exhausted _ _ _ _).widen (List.nil_subset _)

/-- What binding to a local socket takes. -/
lemma made_bindLocal (path : Option String) : Made calls (bindLocal path).run := by
  cases path with
  | none => exact .run_throw _
  | some path =>
    refine .run_bind ((made_localAddress path).widen (List.nil_subset _)) fun address => ?_
    refine .run_bind made_localSocket fun fd => ?_
    refine .run_bind (.run_lift (.syscall _ (by simp [calls, Call.kind]))) fun r => ?_
    cases r with
    | ok _ => exact .run_bind (.run_lift (.record _ _)) fun _ => .run_pure _
    | error n =>
      refine .run_bind (.run_lift (.record _ _)) fun _ => ?_
      exact .run_bind (.run_lift (Net.made_discard fd (by decide))) fun _ => .run_throw _

/-- What asking for reuse of the address takes. -/
lemma made_askReuse (fd : Descriptor) (c : Config) (target : String) :
    Made calls (askReuse fd c target) := by
  unfold askReuse
  split
  · refine .bind (.syscall _ (by simp [calls, Call.kind])) fun r => ?_
    cases r with
    | ok _ => exact .pure _
    | error n => exact .record _ _
  · exact .pure _

/-- What the options of SCTP take. -/
lemma made_setSctpOptions (fd : Descriptor) (c : SctpConfig) :
    Made calls (setSctpOptions fd c) := by
  refine .bind (.syscall _ (by simp [calls, Call.kind])) fun r => ?_
  cases r with
  | error n => exact .pure _
  | ok _ =>
    refine .bind (.syscall _ (by simp [calls, Call.kind])) fun r => ?_
    cases r <;> exact .pure _

/-- What giving up a candidate takes. -/
lemma made_giveUp (fd : Descriptor) (step : String) (f : Fault) :
    Made calls (giveUp fd step f) :=
  .bind (.record _ _) fun _ => .bind (Net.made_discard fd (by decide)) fun _ => .pure _

/-- What binding to a candidate takes.

**Proof sketch.** Along the function, with the last call stated once, since it is made with and
without options for messages. -/
lemma made_bindTo (c : Config) (p : Protocol) (candidate : Candidate) :
    Made calls (bindTo c p candidate) := by
  have hlast (fd : Descriptor) {f : Except Int Unit → Net (Except Fault Descriptor)}
      (hf : ∀ r, Made calls (f r)) :
      Made calls (Net.syscall (.bind fd candidate.address) >>= f) :=
    .bind (.syscall _ (by simp [calls, Call.kind])) hf
  refine .bind (made_socketFor candidate) fun r => ?_
  cases r with
  | error f => exact .bind (.record _ _) fun _ => .pure _
  | ok fd =>
    refine .bind (made_askReuse fd c _) fun _ => ?_
    dsimp only
    split
    case' isTrue => refine .bind (made_setSctpOptions fd c.sctp) fun r => ?_
    case' isFalse => refine .bind (.pure _) fun r => ?_
    all_goals
      cases r with
      | error f => exact made_giveUp fd _ _
      | ok _ =>
        refine hlast fd fun r => ?_
        cases r with
        | ok _ => exact .bind (.record _ _) fun _ => .pure _
        | error n => exact made_giveUp fd _ _

/-- What binding to one of some candidates takes. -/
lemma made_bindFirst (c : Config) (p : Protocol) (last : Option Fault) (found : List Candidate) :
    Made calls (bindFirst c p last found) := by
  induction found generalizing last with
  | nil => exact .pure _
  | cons candidate rest ih =>
    refine .bind (made_bindTo c p candidate) fun r => ?_
    cases r with
    | ok fd => exact .pure _
    | error f => exact ih _

/-- What binding takes. -/
theorem made_bind (scope : Scope) (host : Option String) (service : String) (p : Protocol) :
    Made calls (bind scope host service p).run := by
  unfold bind
  split
  · exact made_bindLocal host
  refine .run_bind (.run_lift (.context scope)) fun context => ?_
  refine .run_bind ((made_candidates _ _ _ _).widen (by decide)) fun found => ?_
  refine .run_bind (.run_lift (made_bindFirst _ p none found)) fun r => ?_
  cases r with
  | ok fd => exact .run_pure _
  | error last => exact (made_exhausted _ _ _ _).widen (List.nil_subset _)

end Opening

end Sockets
