import Mathlib.Data.List.Forall2
import Sockets.Proofs.Footprints
import Sockets.Proofs.TeardownOrder

/-!
# The order of candidates

Whatever the resolver answers and whatever fails, the candidates are tried in their order, one at a
time: the first one for which everything succeeds is the result, and nothing is done for those
behind it. Where a fresh descriptor is asked for, each trial opens its own, of the kind that the
candidate says, and one that fails closes it again before the next begins. When all have failed, the
failure is that of the last.

## Main definitions

* `Sockets.Opening.Calls` — calls that are made one after the other until one fails.
* `Sockets.Opening.Trial` — the trial of a candidate on a descriptor of its own.
* `Sockets.Opening.InTurn` — the trials of candidates, one after the other.
* `Sockets.Opening.Tries` — an operation tries the candidates of a query.

## Main results

* `Sockets.Opening.tries_candidates` — connecting, binding and connecting again do so.
-/

set_option autoImplicit false

namespace Sockets

open Net (Leads)

/-- What is done on the way from one world to another is more actions, and each descriptor that is
opened has a number that was not handed out before.

**Proof sketch.** What was done is known with its records (`opens_eq`). Records open nothing, so the
numbers are the same without them. -/
lemma World.Onward.actions_eq {p : Event → Prop} {u w : World} (h : u.Onward p w) :
    ∃ es, w.actions = u.actions ++ es ∧ (∀ e ∈ es, p e) ∧ es.flatMap Event.opens =
      List.range' u.kernel.nextDescriptor (es.flatMap Event.opens).length := by
  obtain ⟨es, hes, hp, -, hopens⟩ := h.opens_eq
  have hfilter : (es.filter fun e => !e.isRecord).flatMap Event.opens = es.flatMap Event.opens := by
    clear hes hp hopens
    induction es with
    | nil => rfl
    | cons e es ih => cases e <;> simp_all [Event.isRecord, Event.opens]
  refine ⟨es.filter fun e => !e.isRecord, ?_, fun e he => hp e (List.mem_filter.1 he).1, ?_⟩
  · rw [actions, hes, List.filter_append]
    rfl
  · rw [hfilter]
    exact hopens

/-- On the way from one world to another, each descriptor that is opened has a number that was not
handed out before. -/
def World.Numbers (u w : World) : Prop :=
  ∃ es, w.actions = u.actions ++ es ∧ es.flatMap Event.opens =
    List.range' u.kernel.nextDescriptor (es.flatMap Event.opens).length

/-- Numbers are handed out once on every way. -/
lemma World.Onward.numbers {p : Event → Prop} {u w : World} (h : u.Onward p w) : u.Numbers w := by
  obtain ⟨es, hes, -, hopens⟩ := h.actions_eq
  exact ⟨es, hes, hopens⟩

namespace Opening

variable {α : Type} {as : List Event}

/-! ## Trials -/

/-- Calls that are made one after the other until one fails, and with what fault it did. -/
inductive Calls : List Call → List Event → Option Fault → Prop
  | done : Calls [] [] none
  | failed (c : Call) (cs : List Call) (n : Int) :
    Calls (c :: cs) [.call c (.error n)] (some (.os n))
  | next {c : Call} {cs : List Call} {es : List Event} {f : Option Fault} (a : c.Answer)
    (h : Calls cs es f) : Calls (c :: cs) (.call c (.ok a) :: es) f

namespace Calls

variable {cs ds : List Call} {es fs : List Event} {f : Option Fault}

/-- More calls are made when all have succeeded. -/
lemma append (h : Calls cs es none) (h' : Calls ds fs f) : Calls (cs ++ ds) (es ++ fs) f := by
  generalize hn : (none : Option Fault) = r at h
  induction h with
  | done => exact h'
  | failed => exact nomatch hn
  | next a _ ih => exact .next a (ih hn)

/-- No more calls are made when one has failed. -/
lemma append_of_failed {e : Fault} (h : Calls cs es (some e)) (ds : List Call) :
    Calls (cs ++ ds) es (some e) := by
  generalize hn : some e = r at h
  induction h with
  | done => exact nomatch hn
  | failed c cs n => exact .failed c (cs ++ ds) n
  | next a _ ih => exact .next a (ih hn)

/-- Calls that are made until one fails are made. -/
lemma mem (h : Calls cs es f) :
    ∀ e ∈ es, ∃ c ∈ cs, ∃ outcome, e = .call c outcome := by
  induction h with
  | done => exact List.forall_mem_nil _
  | failed c cs n => exact List.forall_mem_singleton.2 ⟨c, List.mem_cons_self, _, rfl⟩
  | @next c cs es f a _ ih =>
    refine List.forall_mem_cons.2 ⟨⟨c, List.mem_cons_self, _, rfl⟩, fun e he => ?_⟩
    obtain ⟨d, hd, hde⟩ := ih e he
    exact ⟨d, List.mem_cons_of_mem _ hd, hde⟩

end Calls

/-- Calls that are all made, whatever becomes of them. -/
def Wishes : List Call → List Event → Prop := List.Forall₂ fun c e => ∃ outcome, e = .call c outcome

/-- Calls that are wished for are made. -/
lemma Wishes.mem {cs : List Call} {es : List Event} (h : Wishes cs es) :
    ∀ e ∈ es, ∃ c ∈ cs, ∃ outcome, e = .call c outcome := by
  induction h with
  | nil => exact List.forall_mem_nil _
  | @cons c e cs es hc _ ih =>
    refine List.forall_mem_cons.2 ⟨⟨c, List.mem_cons_self, hc⟩, fun e he => ?_⟩
    obtain ⟨d, hd, hde⟩ := ih e he
    exact ⟨d, List.mem_cons_of_mem _ hd, hde⟩

/-- The call for a descriptor of the kind that a candidate says. -/
def opening (c : Candidate) : Call := .socket c.family c.type (c.protocol.getD 0)

/-- The trial of a candidate on a descriptor of its own: some calls on it are wished for, others are
needed. If one of these fails the descriptor is closed, and the fault is that of the trial. -/
inductive Trial (wished needed : Descriptor → List Call) (c : Candidate) :
    List Event → Except Fault Descriptor → Prop
  | unopened (n : Int) : Trial wished needed c [.call (opening c) (.error n)] (.error (.os n))
  | failed {fd : Descriptor} {ws es : List Event} {f : Fault} (hw : Wishes (wished fd) ws)
    (h : Calls (needed fd) es (some f)) (closed : Except Int Unit) :
    Trial wished needed c
      ([.call (opening c) (.ok fd)] ++ ws ++ es ++ [.call (.close fd) closed]) (.error f)
  | done {fd : Descriptor} {ws es : List Event} (hw : Wishes (wished fd) ws)
    (h : Calls (needed fd) es none) :
    Trial wished needed c ([.call (opening c) (.ok fd)] ++ ws ++ es) (.ok fd)

/-- The trials of candidates, one after the other: those before some candidate fail, and that one
either succeeds, or is the last and fails too. -/
def InTurn (trial : Candidate → List Event → Except Fault α → Prop) (found : List Candidate)
    (es : List Event) (r : Except Fault α) : Prop :=
  ∃ before c after ess last, found = before ++ c :: after ∧
    List.Forall₂ (fun b es => ∃ f, trial b es (.error f)) before ess ∧
      trial c last r ∧ (r.isOk = false → after = []) ∧ es = ess.flatten ++ last

namespace InTurn

variable {trial : Candidate → List Event → Except Fault α → Prop} {c : Candidate}
  {found : List Candidate} {es fs : List Event}

/-- The first candidate succeeds. -/
lemma first {a : α} (h : trial c es (.ok a)) : InTurn trial (c :: found) es (.ok a) :=
  ⟨[], c, found, [], es, rfl, .nil, h, nofun, rfl⟩

/-- The only candidate fails. -/
lemma only {f : Fault} (h : trial c es (.error f)) : InTurn trial [c] es (.error f) :=
  ⟨[], c, [], [], es, rfl, .nil, h, fun _ => rfl, rfl⟩

/-- The first candidate fails, and the others are tried. -/
lemma later {f : Fault} {r : Except Fault α} (h : trial c es (.error f))
    (hr : InTurn trial found fs r) : InTurn trial (c :: found) (es ++ fs) r := by
  obtain ⟨before, d, after, ess, last, rfl, hbefore, hlast, hafter, rfl⟩ := hr
  refine ⟨c :: before, d, after, es :: ess, last, rfl, .cons ⟨f, h⟩ hbefore, hlast, hafter, ?_⟩
  rw [List.flatten_cons, List.append_assoc]

end InTurn

/-- What has been done since some actions is a trial, with the result at hand. -/
def Tried (trial : List Event → Except Fault α → Prop) (as : List Event) (r : Except Fault α)
    (w : World) : Prop :=
  ∃ es, trial es r ∧ w.actions = as ++ es

/-! ## One candidate -/

/-- The calls that are needed to connect. -/
def connecting (c : Candidate) (fd : Descriptor) : List Call := [.connect fd c.address]

/-- The calls that are wished for before binding. -/
def reusing (config : Config) (fd : Descriptor) : List Call :=
  if config.reuseAddress then [.setsockopt fd .reuseAddress] else []

/-- The options that a listener of SCTP needs. -/
def sctpOptions (config : SctpConfig) (fd : Descriptor) : List Call :=
  [.setsockopt fd (.sctpInit config.outStreams config.inStreams config.attempts config.timeout),
    .setsockopt fd (.sctpEvents eventMask)]

/-- The calls that are needed to bind. -/
def binding (config : Config) (p : Protocol) (c : Candidate) (fd : Descriptor) : List Call :=
  (if p = .sctp then sctpOptions config.sctp fd else []) ++ [.bind fd c.address]

/-- Asking for a descriptor is the call for one. -/
lemma acts_socketFor (c : Candidate) :
    Leads (fun w => w.actions = as) (socketFor c) fun r w => ∃ outcome : Except Int Descriptor,
      w.actions = as ++ [.call (opening c) outcome] ∧ r = outcome.mapError Fault.os := by
  refine .bind (World.acts_syscall _) fun outcome => ?_
  cases outcome with
  | ok fd => exact .pure _ fun w hw => ⟨.ok fd, hw, rfl⟩
  | error n => exact .pure _ fun w hw => ⟨.error n, hw, rfl⟩

/-- Closing a descriptor that belongs to no handle is one call. -/
lemma acts_discard (fd : Descriptor) :
    Leads (fun w => w.actions = as) (Net.discard fd) fun _ w =>
      ∃ closed, w.actions = as ++ [.call (.close fd) closed] :=
  .bind (World.acts_syscall _) fun closed => .pure () fun _ hw => ⟨closed, hw⟩

/-- A fresh descriptor is connected by a trial.

**Proof sketch.** The socket is opened or not, and then connected or not, which are the three ways a
trial can end; where it was opened and not connected it is closed. -/
lemma tried_connectTo (c : Candidate) :
    Leads (fun w => w.actions = as) (connectTo c)
      (Tried (Trial (fun _ => []) (connecting c) c) as) := by
  refine .bind (acts_socketFor c) fun r => .of_exists fun outcome => ?_
  cases outcome with
  | error n =>
    refine .assuming (fun _ hw => hw.2) ?_
    rintro rfl
    exact .pure _ fun w hw => ⟨_, .unopened n, hw.1⟩
  | ok fd =>
    refine .assuming (fun _ hw => hw.2) ?_
    rintro rfl
    refine .bind ((World.acts_syscall _).weaken (fun _ hw => hw.1) fun _ _ hw => hw) fun u => ?_
    cases u with
    | ok a =>
      have htrial : Trial (fun _ => []) (connecting c) c
          ([.call (opening c) (.ok fd)] ++ [] ++ [.call (.connect fd c.address) (.ok a)])
          (.ok fd) := .done .nil (.next a .done)
      exact .pure _ fun w hw => ⟨_, htrial, hw.trans (List.append_assoc ..)⟩
    | error n =>
      refine .bind (acts_discard fd) fun _ => .pure _ fun w ⟨closed, hw⟩ => ?_
      have htrial : Trial (fun _ => []) (connecting c) c ([.call (opening c) (.ok fd)] ++ [] ++
          [.call (.connect fd c.address) (.error n)] ++ [.call (.close fd) closed])
          (.error (.os n)) := by
        refine .failed ?_ (.failed _ _ n) closed
        exact .nil
      refine ⟨_, htrial, ?_⟩
      rw [hw, List.append_assoc, List.append_assoc]
      rfl

/-- Asking for reuse of the address is wished for. -/
lemma acts_askReuse (config : Config) (fd : Descriptor) (target : String) :
    Leads (fun w => w.actions = as) (askReuse fd config target) fun _ w =>
      ∃ ws, Wishes (reusing config fd) ws ∧ w.actions = as ++ ws := by
  unfold askReuse reusing
  split
  · refine .bind (World.acts_syscall _) fun outcome => ?_
    have hwish : Wishes [.setsockopt fd .reuseAddress]
        [.call (.setsockopt fd .reuseAddress) outcome] := .cons ⟨outcome, rfl⟩ .nil
    cases outcome with
    | ok a => exact .pure () fun w hw => ⟨_, hwish, hw⟩
    | error n =>
      exact (World.acts_record _ _).weaken (fun _ hw => hw) fun _ w hw => ⟨_, hwish, hw⟩
  · exact .pure () fun w hw => ⟨[], .nil, hw.trans (List.append_nil as).symm⟩

/-- How an operation ended, as a fault or none. -/
def faultOf (r : Except Fault Unit) : Option Fault :=
  match r with
  | .ok () => none
  | .error f => some f

/-- The options of SCTP are needed. -/
lemma acts_setSctpOptions (config : SctpConfig) (fd : Descriptor) :
    Leads (fun w => w.actions = as) (setSctpOptions fd config) fun r w =>
      ∃ es, Calls (sctpOptions config fd) es (faultOf r) ∧ w.actions = as ++ es := by
  refine .bind (World.acts_syscall _) fun first => ?_
  cases first with
  | error n => exact .pure _ fun w hw => ⟨_, .failed _ _ n, hw⟩
  | ok a =>
    refine .bind (World.acts_syscall _) fun second => ?_
    cases second with
    | error n =>
      exact .pure _ fun w hw => ⟨_, .next a (.failed _ _ n), hw.trans (List.append_assoc ..)⟩
    | ok b =>
      exact .pure _ fun w hw => ⟨_, .next a (.next b .done), hw.trans (List.append_assoc ..)⟩

/-- To give up a candidate is to close its descriptor. -/
lemma acts_giveUp (fd : Descriptor) (step : String) (f : Fault) :
    Leads (fun w => w.actions = as) (giveUp fd step f) fun r w =>
      r = .error f ∧ ∃ closed, w.actions = as ++ [.call (.close fd) closed] :=
  .bind (World.acts_record _ _) fun _ =>
    .bind (acts_discard fd) fun _ => .pure _ fun _ hw => ⟨rfl, hw⟩

section Bind

variable {config : Config} {p : Protocol} {c : Candidate} {fd : Descriptor} {ws es : List Event}
  {options : List Call}

/-- A trial of binding at which an option fails is given up. -/
lemma tried_giveUp (hws : Wishes (reusing config fd) ws)
    (hneeded : binding config p c fd = options ++ [.bind fd c.address]) {f : Fault}
    (hes : Calls options es (some f)) (step : String) :
    Leads (fun w => w.actions = as ++ [.call (opening c) (.ok fd)] ++ ws ++ es) (giveUp fd step f)
      (Tried (Trial (reusing config) (binding config p c) c) as) := by
  refine (acts_giveUp fd step f).weaken (fun _ hw => hw) ?_
  rintro _ w ⟨rfl, closed, hw⟩
  have hcalls : Calls (binding config p c fd) es (some f) := by
    rw [hneeded]
    exact hes.append_of_failed _
  refine ⟨_, .failed hws hcalls closed, ?_⟩
  simp only [hw, List.append_assoc]

/-- A trial of binding at which all options succeed is settled by the last call.

**Proof sketch.** The options were all set, so what is needed for binding is done up to the last
call. If that succeeds it is all done, and if not the descriptor is given up with the fault. -/
lemma tried_lastCall (hws : Wishes (reusing config fd) ws)
    (hneeded : binding config p c fd = options ++ [.bind fd c.address])
    (hes : Calls options es none) {f : Except Int Unit → Net (Except Fault Descriptor)}
    {message step : String} (hok : f (.ok ()) = do
      Net.record .debug message
      pure (.ok fd))
    (herror : ∀ n, f (.error n) = giveUp fd step (.os n)) :
    Leads (fun w => w.actions = as ++ [.call (opening c) (.ok fd)] ++ ws ++ es)
      (Net.syscall (.bind fd c.address) >>= f)
      (Tried (Trial (reusing config) (binding config p c) c) as) := by
  refine .bind (World.acts_syscall _) fun r => ?_
  cases r with
  | ok u =>
    have hcalls : Calls (binding config p c fd)
        (es ++ [.call (.bind fd c.address) (.ok u)]) none := by
      rw [hneeded]
      exact hes.append (.next u .done)
    rw [hok]
    refine .bind (World.acts_record _ _) fun _ => .pure _ fun w hw => ⟨_, .done hws hcalls, ?_⟩
    simp only [hw, List.append_assoc]
  | error n =>
    have hcalls : Calls (binding config p c fd)
        (es ++ [.call (.bind fd c.address) (.error n)]) (some (.os n)) := by
      rw [hneeded]
      exact hes.append (.failed _ _ n)
    rw [herror]
    refine (acts_giveUp fd step (.os n)).weaken (fun _ hw => hw) ?_
    rintro _ w ⟨rfl, closed, hw⟩
    refine ⟨_, .failed hws hcalls closed, ?_⟩
    simp only [hw, List.append_assoc]

/-- A fresh descriptor is bound by a trial.

**Proof sketch.** A socket that was opened is asked for options, whatever becomes of that. Then the
options for messages are set, for which the first failure gives the descriptor up, and the last call
settles the trial (`tried_lastCall`). Without such options there is only the last call. -/
lemma tried_bindTo (config : Config) (p : Protocol) (c : Candidate) :
    Leads (fun w => w.actions = as) (bindTo config p c)
      (Tried (Trial (reusing config) (binding config p c) c) as) := by
  refine .bind (acts_socketFor c) fun r => .of_exists fun outcome => ?_
  cases outcome with
  | error n =>
    refine .assuming (fun _ hw => hw.2) ?_
    rintro rfl
    exact .bind (R := fun _ w => w.actions = as ++ [.call (opening c) (.error n)])
      ((World.acts_record _ _).weaken (fun _ hw => hw.1) fun _ _ hw => hw) fun _ =>
        .pure _ fun w hw => ⟨_, .unopened n, hw⟩
  | ok fd =>
    refine .assuming (fun _ hw => hw.2) ?_
    rintro rfl
    refine .bind ((acts_askReuse config fd _).weaken (fun _ hw => hw.1) fun _ _ hw => hw)
      fun _ => ?_
    refine .of_exists fun ws => .of_and fun hws => ?_
    dsimp only
    split
    · rename_i hp
      have hneeded : binding config p c fd =
          sctpOptions config.sctp fd ++ [.bind fd c.address] := by
        rw [binding, if_pos hp]
      refine .bind (acts_setSctpOptions config.sctp fd) fun r => .of_exists fun es => .of_and ?_
      cases r with
      | error f => exact fun hes => tried_giveUp hws hneeded hes _
      | ok _ => exact fun hes => tried_lastCall hws hneeded hes rfl fun _ => rfl
    · rename_i hp
      have hneeded : binding config p c fd = [] ++ [.bind fd c.address] := by
        rw [binding, if_neg hp]
      refine .bind (R := fun r w => r = .ok () ∧
        w.actions = as ++ [.call (opening c) (.ok fd)] ++ ws ++ [])
        (.pure _ fun w hw => ⟨rfl, hw.trans (List.append_nil _).symm⟩) fun r => .of_and ?_
      rintro rfl
      exact tried_lastCall hws hneeded .done rfl fun _ => rfl

end Bind

/-! ## Candidates in turn -/

/-- Candidates were tried in turn, and this is how that ended. -/
def Ended (trial : Candidate → List Event → Except Fault α → Prop) (found : List Candidate)
    (as : List Event) (r : Except (Option Fault) α) (w : World) : Prop :=
  ∃ s, r = s.mapError some ∧ Tried (InTurn trial found) as s w

/-- When the first candidate has failed, the others are tried, or else its failure is the last. -/
lemma ended_of_failed {trial : Candidate → List Event → Except Fault α → Prop}
    {loop : Option Fault → List Candidate → Net (Except (Option Fault) α)} {c : Candidate}
    {rest : List Candidate} {es : List Event} {f : Fault}
    (hnil : ∀ last, loop last [] = pure (.error last)) (htrial : trial c es (.error f))
    (hrest : rest ≠ [] → ∀ bs, Leads (fun w => w.actions = bs) (loop (some f) rest)
      (Ended trial rest bs)) :
    Leads (fun w => w.actions = as ++ es) (loop (some f) rest) (Ended trial (c :: rest) as) := by
  cases rest with
  | nil =>
    rw [hnil]
    exact .pure _ fun w hw => ⟨.error f, rfl, es, .only htrial, hw⟩
  | cons d rest =>
    refine (hrest (List.cons_ne_nil d rest) (as ++ es)).weaken (fun _ hw => hw) ?_
    rintro _ w ⟨s, rfl, fs, hfs, hw⟩
    exact ⟨s, rfl, _, hfs.later htrial, hw.trans (List.append_assoc ..)⟩

/-- A fresh descriptor is connected by trials in turn.

**Proof sketch.** By induction on the candidates. A trial that succeeds is the last one; after one
that fails the rest is tried, or there is none (`ended_of_failed`). -/
lemma ended_connectFirst (last : Option Fault) {found : List Candidate} (hne : found ≠ []) :
    Leads (fun w => w.actions = as) (connectFirst last found)
      (Ended (fun c => Trial (fun _ => []) (connecting c) c) found as) := by
  induction found generalizing last as with
  | nil => exact absurd rfl hne
  | cons c rest ih =>
    refine .bind (tried_connectTo c) fun r => .of_exists fun es => .of_and fun htrial => ?_
    cases r with
    | ok fd =>
      exact .bind (World.acts_record _ _) fun _ =>
        .pure _ fun w hw => ⟨.ok fd, rfl, es, .first htrial, hw⟩
    | error f =>
      exact .bind (World.acts_record _ _) fun _ =>
        ended_of_failed (fun _ => rfl) htrial fun hrest bs => ih (some f) hrest

/-- A fresh descriptor is bound by trials in turn. -/
lemma ended_bindFirst (config : Config) (p : Protocol) (last : Option Fault)
    {found : List Candidate} (hne : found ≠ []) :
    Leads (fun w => w.actions = as) (bindFirst config p last found)
      (Ended (fun c => Trial (reusing config) (binding config p c) c) found as) := by
  induction found generalizing last as with
  | nil => exact absurd rfl hne
  | cons c rest ih =>
    refine .bind (tried_bindTo config p c) fun r => .of_exists fun es => .of_and fun htrial => ?_
    cases r with
    | ok fd => exact .pure _ fun w hw => ⟨.ok fd, rfl, es, .first htrial, hw⟩
    | error f => exact ended_of_failed (fun _ => rfl) htrial fun hrest bs => ih (some f) hrest

/-- The trial of a candidate on a descriptor that is there already: one call that connects it. -/
def Retrial (fd : Descriptor) (c : Candidate) (es : List Event) (r : Except Fault Unit) : Prop :=
  Calls (connecting c fd) es (faultOf r)

/-- A descriptor that is there already is connected by trials in turn.

**Proof sketch.** As for fresh descriptors (`ended_connectFirst`), where a trial is one call and
nothing is closed after it. -/
lemma ended_connectFirstAgain (fd : Descriptor) (last : Option Fault) {found : List Candidate}
    (hne : found ≠ []) :
    Leads (fun w => w.actions = as) (connectFirstAgain fd last found)
      (Ended (Retrial fd) found as) := by
  induction found generalizing last as with
  | nil => exact absurd rfl hne
  | cons c rest ih =>
    refine .bind (World.acts_syscall _) fun r => ?_
    cases r with
    | ok u =>
      have htrial : Retrial fd c [.call (.connect fd c.address) (.ok u)] (.ok ()) := .next u .done
      exact .bind (World.acts_record _ _) fun _ =>
        .pure _ fun w hw => ⟨.ok (), rfl, _, .first htrial, hw⟩
    | error n =>
      have htrial : Retrial fd c [.call (.connect fd c.address) (.error n)] (.error (.os n)) :=
        .failed _ _ n
      exact .bind (World.acts_record _ _) fun _ =>
        ended_of_failed (fun _ => rfl) htrial fun hrest bs => ih (some (.os n)) hrest

/-! ## Queries -/

/-- What an operation does about the answer to a query, and how it ends. Without a candidate it
fails and does nothing; otherwise it tries the candidates in turn, and when all have failed it fails
because of the last. -/
inductive Settles (operation : String) (host : Option String)
    (trial : Candidate → List Event → Except Fault α → Prop) :
    Except ResolveError (List Candidate) → List Event → Except Error α → Prop
  | unresolved (e : ResolveError) : Settles operation host trial (.error e) [] (.error (.address e))
  | empty : Settles operation host trial (.ok []) [] (.error (.address (.noName (target host))))
  | succeeded {found : List Candidate} {es : List Event} {a : α}
    (h : InTurn trial found es (.ok a)) : Settles operation host trial (.ok found) es (.ok a)
  | failed {found : List Candidate} {es : List Event} {f : Fault}
    (h : InTurn trial found es (.error f)) :
    Settles operation host trial (.ok found) es (.error (.system operation f))

/-- An operation tries the candidates in the answer to a query, after some actions. All that it does
besides is to ask for that answer, which takes the name service at most. -/
def Tries (operation : String) (host : Option String)
    (trial : Candidate → List Event → Except Fault α → Prop)
    (answer : Except ResolveError (List Candidate)) (as : List Event) (r : Except Error α)
    (w : World) : Prop :=
  ∃ asked es, (∀ e ∈ asked, e.Within [.getaddrinfo]) ∧ w.actions = as ++ asked ++ es ∧
    Settles operation host trial answer es r

/-- What asking for candidates makes of the answer to a query. -/
def accepted (host : Option String) :
    Except ResolveError (List Candidate) → Except Error (List Candidate)
  | .error e => .error (.address e)
  | .ok [] => .error (.address (.noName (target host)))
  | .ok found => .ok found

/-- Asking for candidates is asking the resolver, and records.

**Proof sketch.** The resolver is asked once. Its failure and an empty list are each recorded and
refused, and records are no actions. -/
lemma acts_candidates (scope : Scope) (host : Option String) (service : String) (hints : Hints)
    (v : World) : Leads (fun w => w = v) (candidates scope host service hints).run fun r w =>
      r = accepted host ((Net.resolve scope ⟨host, some service, hints⟩).run v).1 ∧
        w.actions = ((Net.resolve scope ⟨host, some service, hints⟩).run v).2.actions := by
  have hresolve : Leads (fun w => w = v) (Net.resolve scope ⟨host, some service, hints⟩).run
      fun r w => r = ((Net.resolve scope ⟨host, some service, hints⟩).run v).1 ∧
        w.actions = ((Net.resolve scope ⟨host, some service, hints⟩).run v).2.actions := by
    rintro w rfl
    exact ⟨rfl, rfl⟩
  refine .run_lift_bind hresolve fun r => .of_and fun hr => ?_
  rw [← hr]
  match r with
  | .error e =>
    exact .run_lift_bind (World.acts_record _ _) fun _ => .run_throw _ fun w hw => ⟨rfl, hw⟩
  | .ok [] =>
    exact .run_lift_bind (World.acts_record _ _) fun _ => .run_throw _ fun w hw => ⟨rfl, hw⟩
  | .ok (c :: rest) => exact .run_pure _ fun w hw => ⟨rfl, hw⟩

/-- Whatever is made of the candidates of a query in turn tries them.

**Proof sketch.** A query that fails, or that has no candidates, ends it before anything is opened.
Otherwise the candidates are tried up to where that ended (`hfirst`): a success is handed on, and a
failure, which is that of the last candidate, is recorded and handed on. -/
lemma tries_of_ended {operation : String} {scope : Scope} {host : Option String}
    {service : String} {hints : Hints} {v : World}
    {trial : Candidate → List Event → Except Fault α → Prop}
    {first : List Candidate → Net (Except (Option Fault) α)}
    {conclude : Except (Option Fault) α → Attempt Error α}
    (hfirst : ∀ found ≠ [], ∀ as, Leads (fun w => w.actions = as) (first found)
      (Ended trial found as)) (hok : ∀ a, conclude (.ok a) = pure a)
    (herror : ∀ last, conclude (.error last) = exhausted operation host service last) :
    Leads (fun w => w = v) (do
      let found ← candidates scope host service hints
      conclude (← first found) : Attempt Error α).run
      (Tries operation host trial ((Net.resolve scope ⟨host, some service, hints⟩).run v).1
        v.actions) := by
  obtain ⟨asked, hasked, hwithin, -⟩ :=
    ((Net.made_resolve scope ⟨host, some service, hints⟩).only v).actions_eq
  have hacts := acts_candidates scope host service hints v
  generalize ((Net.resolve scope ⟨host, some service, hints⟩).run v).1 = answer at hacts ⊢
  match answer, hacts with
  | .error e, hacts =>
    refine .run_bind hacts (fun found => .of_and nofun) ?_
    rintro _ w ⟨⟨⟩, hw⟩
    exact ⟨asked, [], hwithin, by rw [hw, List.append_nil]; exact hasked, .unresolved e⟩
  | .ok [], hacts =>
    refine .run_bind hacts (fun found => .of_and nofun) ?_
    rintro _ w ⟨⟨⟩, hw⟩
    exact ⟨asked, [], hwithin, by rw [hw, List.append_nil]; exact hasked, .empty⟩
  | .ok (c :: rest), hacts =>
    refine .run_bind hacts (fun found => .of_and fun hfound => ?_)
      fun e w hw => nomatch hw.1
    obtain rfl := Except.ok.inj hfound
    refine .run_lift_bind ((hfirst _ (List.cons_ne_nil c rest) _).weaken
      (fun w hw => hw.trans hasked) fun _ _ hw => hw) fun r => .of_exists fun s => .of_and ?_
    rintro rfl
    cases s with
    | ok a =>
      show Leads _ (conclude (.ok a)).run _
      rw [hok]
      refine .run_pure a fun w ⟨es, hes, hw⟩ => ?_
      exact ⟨asked, es, hwithin, hw, .succeeded hes⟩
    | error f =>
      refine .of_exists fun es => .of_and fun hes => ?_
      show Leads _ (conclude (.error (some f))).run _
      rw [herror]
      refine .run_lift_bind (World.acts_record _ _) fun _ => .run_throw _ fun w hw => ?_
      exact ⟨asked, es, hwithin, hw, .failed hes⟩

/-! ## Operations -/

variable {w : World} {scope : Scope} {p : Protocol}

/-- Looking the context up gives it, and is no action. -/
lemma leads_context : Leads (fun v => v = w) (Net.context scope) fun c v =>
    c = w.context scope ∧ v = (Net.context scope w).2 := by
  rintro v rfl
  exact ⟨rfl, rfl⟩

/-- Looking the context up is no action. -/
lemma actions_context (w : World) (scope : Scope) :
    (Net.context scope w).2.actions = w.actions := by
  cases scope <;> rfl

/-- Connecting a fresh descriptor tries the candidates. -/
lemma tries_connect (hp : p ≠ .unix) (host service : String) :
    Leads (fun v => v = w) (connect scope host service p).run
      (Tries "connect" (some host) (fun c => Trial (fun _ => []) (connecting c) c)
        ((Net.resolve scope ⟨some host, some service,
          .active p (w.context scope).config.family⟩).run (Net.context scope w).2).1
        w.actions) := by
  unfold connect
  rw [if_neg hp, ← actions_context w scope]
  refine .run_lift_bind leads_context fun c => .of_and ?_
  rintro rfl
  exact tries_of_ended (fun found hne as => ended_connectFirst none hne) (fun _ => rfl)
    fun _ => rfl

/-- Binding a fresh descriptor tries the candidates. -/
lemma tries_bind (hp : p ≠ .unix) (host : Option String) (service : String) :
    Leads (fun v => v = w) (bind scope host service p).run
      (Tries "bind" host (fun c => Trial (reusing (w.context scope).config)
          (binding (w.context scope).config p c) c)
        ((Net.resolve scope ⟨host, some service,
          .listening p (w.context scope).config.family⟩).run (Net.context scope w).2).1
        w.actions) := by
  unfold bind
  rw [if_neg hp, ← actions_context w scope]
  refine .run_lift_bind leads_context fun c => .of_and ?_
  rintro rfl
  exact tries_of_ended (fun found hne as => ended_bindFirst _ p none hne) (fun _ => rfl)
    fun _ => rfl

/-- Connecting a descriptor that is there already asks for its family and tries the candidates.

**Proof sketch.** The one action before the query is the call that asks for the family of the
descriptor. From there the candidates of that family are tried in turn (`tries_of_ended`). -/
lemma tries_connectAgain (hp : p ≠ .unix) (fd : Descriptor) (host service : String) :
    Leads (fun v => v = w) (connectAgain scope fd host service p).run
      (Tries "connect" (some host) (Retrial fd)
        ((Net.resolve scope ⟨some host, some service,
          .active p (familyOf fd w).1⟩).run (familyOf fd w).2).1
        (w.actions ++ [.call (.getsockname fd) (w.kernel.perform (.getsockname fd)).1])) := by
  have hfamily : Leads (fun v => v = w) (familyOf fd) fun family v =>
      family = (familyOf fd w).1 ∧ v = (familyOf fd w).2 := by
    rintro v rfl
    exact ⟨rfl, rfl⟩
  have hactions : (familyOf fd w).2.actions =
      w.actions ++ [.call (.getsockname fd) (w.kernel.perform (.getsockname fd)).1] := by
    have hworld : Leads (fun v => v = w) (familyOf fd) fun _ v =>
        v = (Net.syscall (.getsockname fd) w).2 := by
      refine .bind (R := fun _ v => v = (Net.syscall (.getsockname fd) w).2)
        (by rintro _ rfl; rfl) fun r => ?_
      cases r <;> exact .pure _ fun _ hv => hv
    rw [hworld w rfl]
    exact World.acts_syscall _ w rfl
  unfold connectAgain
  rw [if_neg hp, ← hactions]
  refine .run_lift_bind hfamily fun family => .of_and ?_
  rintro rfl
  exact tries_of_ended (fun found hne as => ended_connectFirstAgain fd none hne) (fun _ => rfl)
    fun _ => rfl

/-- **Candidates in turn.** Whatever the resolver answers and whatever fails, connecting and binding
try the candidates in turn, each on a descriptor of its own with a number that was not handed out
before; connecting a descriptor again tries them on that one, which it neither opens nor closes.
Without candidates nothing is opened, connected or bound.

**Proof sketch.** All three are queries whose candidates are tried in turn (`tries_connect`,
`tries_bind`, `tries_connectAgain`), which differ in what trying takes. That numbers are new follows
from what the kinds of calls are that connecting and binding make. -/
theorem tries_candidates (w : World) (scope : Scope) (p : Protocol) (hp : p ≠ .unix) :
    (∀ host service,
      Tries "connect" (some host) (fun c => Trial (fun _ => []) (connecting c) c)
        ((Net.resolve scope ⟨some host, some service,
          .active p (w.context scope).config.family⟩).run (Net.context scope w).2).1
        w.actions ((connect scope host service p).run w).1
        ((connect scope host service p).run w).2 ∧
      w.Numbers ((connect scope host service p).run w).2) ∧
    (∀ host service,
      Tries "bind" host (fun c => Trial (reusing (w.context scope).config)
          (binding (w.context scope).config p c) c)
        ((Net.resolve scope ⟨host, some service,
          .listening p (w.context scope).config.family⟩).run (Net.context scope w).2).1
        w.actions ((bind scope host service p).run w).1 ((bind scope host service p).run w).2 ∧
      w.Numbers ((bind scope host service p).run w).2) ∧
    ∀ fd host service,
      Tries "connect" (some host) (Retrial fd)
        ((Net.resolve scope ⟨some host, some service,
          .active p (familyOf fd w).1⟩).run (familyOf fd w).2).1
        (w.actions ++ [.call (.getsockname fd) (w.kernel.perform (.getsockname fd)).1])
        ((connectAgain scope fd host service p).run w).1
        ((connectAgain scope fd host service p).run w).2 ∧
      w.Onward (Event.Within [.connect, .getsockname, .getaddrinfo])
        ((connectAgain scope fd host service p).run w).2 :=
  ⟨fun host service => ⟨tries_connect hp host service w rfl,
      ((made_connect scope host service p).only w).numbers⟩,
    fun host service => ⟨tries_bind hp host service w rfl,
      ((made_bind scope host service p).only w).numbers⟩,
    fun fd host service => ⟨tries_connectAgain hp fd host service w rfl,
      (made_connectAgain scope fd host service p).only w⟩⟩

/-- Where the first of three candidates refuses, the second one is connected to, and the third is
left alone. -/
theorem tries_second :
    ∃ (w : World) (c d e : Candidate), Protocol.tcp ≠ .unix ∧
      ((connect .own "db" "80" .tcp).run w).1 = .ok 101 ∧
      Tries "connect" (some "db") (fun c => Trial (fun _ => []) (connecting c) c)
        (.ok [c, d, e]) w.actions (.ok 101) ((connect .own "db" "80" .tcp).run w).2 :=
  let candidate (d : UInt8) : Candidate := ⟨.inet, .stream, some 6, .inet ⟨10, 0, 0, d⟩ 80⟩
  let w : World := {
    kernel := { faults := Kernel.moreFaults (fun _ => []) [(.connect, [111])] }
    own := { resolver := .scripted [.ok [candidate 1, candidate 2, candidate 3]] } }
  ⟨w, candidate 1, candidate 2, candidate 3, by decide, rfl,
    ((tries_candidates w .own .tcp (by decide)).1 "db" "80").1⟩

end Opening

end Sockets
