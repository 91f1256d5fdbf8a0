import Mathlib.Data.List.Forall2
import Mathlib.Logic.Function.Basic
import Mathlib.Tactic.Lemma
import Sockets.Error

/-!
# Channels of messages

Between two ends there are two channels, one from each end to the other. A message that is written
at an end is put into the channel from there; what is read there comes out of the other one, message
by message, and is cut to what the reader has room for. This module says what comes of requests at
the two ends as long as every channel keeps to itself, and what this means for the messages: they
are read in the order they were written in, each once, and none is lost.

## Main definitions

* `Sockets.Channel.Request`, `Sockets.Channel.Deal` — what is wanted at an end, and what comes of
  it.
* `Sockets.Channel.replay` — what comes of requests in a channel of its own.
* `Sockets.Channel.Apart` — what is done at two ends is what two channels of their own do.
* `Sockets.Channel.Answers` — what may come of a request where some messages are pending.
* `Sockets.Channel.Orderly` — messages are read in order, each once.

## Main results

* `Sockets.Channel.conservation` — what goes into a channel comes out of it or is left in it.
* `Sockets.Channel.Apart.orderly` — where channels keep to themselves, they are in order.
-/

set_option autoImplicit false

namespace Sockets

namespace Channel

/-! ## Requests -/

/-- An end of a pair. -/
inductive End where
  | first
  | second
  deriving DecidableEq

/-- The end across. -/
def End.other : End → End
  | first => second
  | second => first

/-- The end across from the one across is the one at hand. -/
@[simp] lemma End.other_other (e : End) : e.other.other = e := by
  cases e <;> rfl

/-- Ends are across from different ends. -/
lemma End.other_injective : Function.Injective End.other :=
  Function.LeftInverse.injective End.other_other

/-- What is done with a channel: a message is put into it; or the first one is got out of it, or in
a peek left there, with at most so many octets, and maybe with the count of all of them. -/
inductive Action where
  | put (message : Bytes)
  | get (length : Nat) (peek whole : Bool)
  deriving DecidableEq

/-- What a request is answered with: how many octets were put, or what octets were got, with a
count. -/
inductive Reply where
  | count (n : Nat)
  | octets (n : Nat) (bs : Bytes)

/-- The count that goes with the octets of a message: that of those that there is room for, or of
all of them. -/
def told (length : Nat) (whole : Bool) (m : Bytes) : Nat :=
  if whole then m.length else (m.take length).length

/-- A request: at which end, for what, and why it cannot be granted, whatever is pending. -/
structure Request where
  place : End
  action : Action
  hindrance : Option Error

/-- A request and how it ended. -/
structure Deal where
  request : Request
  result : Except Error Reply

/-- The end from which the channel of a request leads. -/
def Request.source (r : Request) : End :=
  match r.action with
  | .put _ => r.place
  | .get .. => r.place.other

/-- How a request ends where some messages are pending, and what is pending then. -/
def Request.answer (r : Request) (pending : List Bytes) : Except Error Reply × List Bytes :=
  match r.hindrance, r.action, pending with
  | some e, _, _ => (.error e, pending)
  | none, .put m, _ => (.ok (.count m.length), pending ++ [m])
  | none, .get .., [] => (.error (.system "recv" (.os 11)), [])
  | none, .get length peek whole, m :: rest =>
    (.ok (.octets (told length whole m) (m.take length)), if peek then m :: rest else rest)

/-- A request that is hindered fails because of that, and leaves what is pending. -/
lemma Request.answer_of_hindered {r : Request} {err : Error} (h : r.hindrance = some err)
    (pending : List Bytes) : r.answer pending = (.error err, pending) := by
  obtain ⟨place, action, hindrance⟩ := r
  obtain rfl : hindrance = some err := h
  rfl

/-- What comes of requests in a channel of its own. -/
def replay : List Bytes → List Request → List Deal
  | _, [] => []
  | pending, r :: rs => ⟨r, (r.answer pending).1⟩ :: replay (r.answer pending).2 rs

/-- What is pending after requests in a channel of its own. -/
def rest : List Bytes → List Request → List Bytes
  | pending, [] => pending
  | pending, r :: rs => rest (r.answer pending).2 rs

variable {pending : List Bytes} {rs : List Request} {ds : List Deal} {e : End}

/-- What comes of some requests after others. -/
lemma replay_append (pending : List Bytes) (rs rs' : List Request) :
    replay pending (rs ++ rs') = replay pending rs ++ replay (rest pending rs) rs' := by
  induction rs generalizing pending with
  | nil => rfl
  | cons r rs ih => rw [List.cons_append, replay, ih, replay, rest, List.cons_append]

/-- Replayed requests are the requests. -/
@[simp] lemma map_request_replay (pending : List Bytes) (rs : List Request) :
    (replay pending rs).map Deal.request = rs := by
  induction rs generalizing pending with
  | nil => rfl
  | cons r rs ih => rw [replay, List.map_cons, ih]

/-- There is a deal for each request. -/
@[simp] lemma length_replay (pending : List Bytes) (rs : List Request) :
    (replay pending rs).length = rs.length := by
  rw [← List.length_map, map_request_replay]

/-! ## Messages -/

/-- The message that was put into a channel. -/
def Deal.sent? (d : Deal) : Option Bytes :=
  match d.request.action, d.result with
  | .put m, .ok _ => some m
  | _, _ => none

/-- How much was to be got out of a channel, and what was; a peek gets nothing out. -/
def Deal.taken? (d : Deal) : Option (Nat × Bytes) :=
  match d.request.action, d.result with
  | .get length false _, .ok (.octets _ bs) => some (length, bs)
  | _, _ => none

/-- The deals in the channel from an end. -/
def along (e : End) (ds : List Deal) : List Deal := ds.filter fun d => d.request.source = e

/-- The messages that were put into the channel from an end. -/
def sent (e : End) (ds : List Deal) : List Bytes := (along e ds).filterMap Deal.sent?

/-- What was got out of the channel from an end, with how much was to be got. -/
def taken (e : End) (ds : List Deal) : List (Nat × Bytes) := (along e ds).filterMap Deal.taken?

/-- The messages in the channel from an end that have not been got out of it. -/
def waiting (e : End) (ds : List Deal) : List Bytes := (sent e ds).drop (taken e ds).length

/-- A deal in a channel is the first one there. -/
lemma along_cons_of_eq {d : Deal} (h : d.request.source = e) (ds : List Deal) :
    along e (d :: ds) = d :: along e ds :=
  List.filter_cons_of_pos (decide_eq_true h)

/-- A deal in one channel is none in the other. -/
lemma along_cons_of_ne {d : Deal} (h : d.request.source ≠ e) (ds : List Deal) :
    along e (d :: ds) = along e ds :=
  List.filter_cons_of_neg (by simpa using h)

/-- Messages are put into a channel one after the other. -/
lemma sent_append (e : End) (ds ds' : List Deal) :
    sent e (ds ++ ds') = sent e ds ++ sent e ds' := by
  rw [sent, along, List.filter_append, List.filterMap_append]
  rfl

/-- Messages are got out of a channel one after the other. -/
lemma taken_append (e : End) (ds ds' : List Deal) :
    taken e (ds ++ ds') = taken e ds ++ taken e ds' := by
  rw [taken, along, List.filter_append, List.filterMap_append]
  rfl

/-- A deal puts a message into the channel from an end if it is one there that puts one. -/
lemma sent_eq_nil {d : Deal} (h : d.sent? = none) (e : End) : sent e [d] = [] := by
  rw [sent, along, List.filter_cons]
  split <;> simp [h]

/-- A deal gets a message out of the channel from an end if it is one there that gets one. -/
lemma taken_eq_nil {d : Deal} (h : d.taken? = none) (e : End) : taken e [d] = [] := by
  rw [taken, along, List.filter_cons]
  split <;> simp [h]

/-- What was got is a message, cut to what was to be got. -/
def Cut (got : Nat × Bytes) (m : Bytes) : Prop := got.2 = m.take got.1

/-- What fails puts nothing into a channel and gets nothing out of it. -/
lemma moves_nothing_of_error (r : Request) (err : Error) :
    Deal.sent? ⟨r, .error err⟩ = none ∧ Deal.taken? ⟨r, .error err⟩ = none := by
  obtain ⟨place, action, hindrance⟩ := r
  rcases action with m | ⟨length, _ | _, whole⟩ <;> exact ⟨rfl, rfl⟩

/-- What a request puts into a channel, gets out of it and leaves in it.

**Proof sketch.** A request that is hindered, or that finds nothing, moves nothing. One that puts a
message in has it added at the end, and one that takes a message takes the first, cut to its length;
a peek takes none. -/
lemma answer_conserves (r : Request) (pending : List Bytes) :
    ∃ front, pending ++ (Deal.sent? ⟨r, (r.answer pending).1⟩).toList =
        front ++ (r.answer pending).2 ∧
      List.Forall₂ Cut (Deal.taken? ⟨r, (r.answer pending).1⟩).toList front := by
  have hfailed {err : Error} (h : r.answer pending = (.error err, pending)) :
      ∃ front, pending ++ (Deal.sent? ⟨r, (r.answer pending).1⟩).toList =
          front ++ (r.answer pending).2 ∧
        List.Forall₂ Cut (Deal.taken? ⟨r, (r.answer pending).1⟩).toList front := by
    obtain ⟨hsent, htaken⟩ := moves_nothing_of_error r err
    rw [h, hsent, htaken]
    exact ⟨[], List.append_nil _, .nil⟩
  obtain ⟨place, action, hindrance⟩ := r
  cases hindrance with
  | some err => exact hfailed rfl
  | none => cases action with
    | put m => exact ⟨[], by simp [Request.answer, Deal.sent?], .nil⟩
    | get length peek whole => cases pending with
      | nil => exact hfailed rfl
      | cons m rest => cases peek with
        | true => exact ⟨[], by simp [Request.answer, Deal.sent?], .nil⟩
        | false => exact ⟨[m], by simp [Request.answer, Deal.sent?], .cons rfl .nil⟩

/-- **What goes into a channel** comes out of it, message by message and cut, or is left in it.

**Proof sketch.** Induction on the requests, with any messages pending. The first request adds at
most one message behind those that are pending and gets at most one out in front of them; the others
do the same with what is pending then. -/
theorem conservation (pending : List Bytes) (rs : List Request) :
    ∃ front, pending ++ (replay pending rs).filterMap Deal.sent? = front ++ rest pending rs ∧
      List.Forall₂ Cut ((replay pending rs).filterMap Deal.taken?) front := by
  have hcons {α : Type} (f : Deal → Option α) (d : Deal) (ds : List Deal) :
      (d :: ds).filterMap f = (f d).toList ++ ds.filterMap f := by
    rw [List.filterMap_cons]
    cases f d <;> rfl
  induction rs generalizing pending with
  | nil => exact ⟨[], by simp [replay, rest], .nil⟩
  | cons r rs ih =>
    obtain ⟨front, hfirst, hcut⟩ := answer_conserves r pending
    obtain ⟨front', hrest, hcut'⟩ := ih (r.answer pending).2
    refine ⟨front ++ front', ?_, ?_⟩
    · rw [replay, rest, hcons, ← List.append_assoc, hfirst, List.append_assoc, hrest,
        List.append_assoc]
    · rw [replay, hcons]
      exact List.rel_append hcut hcut'

/-! ## Two channels -/

/-- What is done at two ends is what two channels do, each of its own. -/
def Apart (ds : List Deal) : Prop :=
  ∀ e, along e ds = replay [] ((along e ds).map Deal.request)

section Step

variable {pendings : End → List Bytes} {r : Request}

/-- A request changes what is pending in its channel only. -/
def Request.leaves (r : Request) (pendings : End → List Bytes) : End → List Bytes :=
  Function.update pendings r.source (r.answer (pendings r.source)).2

/-- What is done in two channels of their own from a request on. -/
lemma along_cons_eq_replay
    (h : ∀ e, along e ds = replay (r.leaves pendings e) ((along e ds).map Deal.request)) (e : End) :
    along e (⟨r, (r.answer (pendings r.source)).1⟩ :: ds) = replay (pendings e)
      ((along e (⟨r, (r.answer (pendings r.source)).1⟩ :: ds)).map Deal.request) := by
  by_cases he : r.source = e
  · subst he
    have hrest := h r.source
    rw [Request.leaves, Function.update_self] at hrest
    rw [along_cons_of_eq (d := ⟨r, _⟩) rfl, List.map_cons, replay, ← hrest]
  · rw [along_cons_of_ne (d := ⟨r, _⟩) he]
    have hrest := h e
    rwa [Request.leaves, Function.update_of_ne (Ne.symm he)] at hrest

/-- What is left in two channels of their own after a request and others. -/
lemma rest_along_cons (e : End) (result : Except Error Reply) :
    rest (pendings e) ((along e (⟨r, result⟩ :: ds)).map Deal.request) =
      rest (r.leaves pendings e) ((along e ds).map Deal.request) := by
  by_cases he : r.source = e
  · subst he
    rw [along_cons_of_eq (d := ⟨r, _⟩) rfl, List.map_cons, rest, Request.leaves,
      Function.update_self]
  · rw [along_cons_of_ne (d := ⟨r, _⟩) he, Request.leaves, Function.update_of_ne (Ne.symm he)]

end Step

namespace Apart

/-- The messages that wait are what is left in the channel, and those that were got out of it are
the ones before them. -/
lemma exists_front (h : Apart ds) (e : End) :
    ∃ front, sent e ds = front ++ rest [] ((along e ds).map Deal.request) ∧
      List.Forall₂ Cut (taken e ds) front := by
  obtain ⟨front, hfront, hcut⟩ := conservation [] ((along e ds).map Deal.request)
  rw [← h e, List.nil_append] at hfront
  rw [← h e] at hcut
  exact ⟨front, hfront, hcut⟩

/-- The messages that wait are what is left in the channel. -/
lemma waiting_eq (h : Apart ds) (e : End) :
    waiting e ds = rest [] ((along e ds).map Deal.request) := by
  obtain ⟨front, hfront, hcut⟩ := h.exists_front e
  rw [waiting, hfront, hcut.length_eq, List.drop_left]

/-- Where no message is got out of a channel, those that are put into it wait behind the others. -/
lemma waiting_append (h : Apart ds) {ds' : List Deal} (htaken : taken e ds' = []) :
    waiting e (ds ++ ds') = waiting e ds ++ sent e ds' := by
  obtain ⟨front, hfront, hcut⟩ := h.exists_front e
  have hle : (taken e ds).length ≤ (sent e ds).length := by
    rw [hfront, hcut.length_eq, List.length_append]
    exact Nat.le_add_right _ _
  rw [waiting, sent_append, taken_append, htaken, List.append_nil,
    List.drop_append_of_le_length hle, waiting]

/-- What is done in a channel before some deal and at it. -/
lemma along_append_cons (ds : List Deal) (d : Deal) (after : List Deal) :
    along d.request.source (ds ++ d :: after) =
      along d.request.source ds ++ d :: along d.request.source after := by
  simp [along]

/-- What was done first at two ends is what two channels of their own do. -/
lemma of_append {after : List Deal} (h : Apart (ds ++ after)) : Apart ds := by
  intro e
  have hsplit := h e
  rw [along, List.filter_append, List.map_append, replay_append] at hsplit
  exact (List.append_inj hsplit (by simp)).1

/-- A request is answered from the messages that wait in its channel. -/
lemma result_eq {d : Deal} {after : List Deal} (h : Apart (ds ++ d :: after)) :
    d.result = (d.request.answer (waiting d.request.source ds)).1 := by
  have hsplit := h d.request.source
  rw [along_append_cons, List.map_append, replay_append, List.map_cons, replay] at hsplit
  have hd := (List.cons.inj (List.append_inj hsplit (by simp)).2).1
  rw [h.of_append.waiting_eq]
  exact congrArg Deal.result hd

end Apart

/-- What may come of a request where some messages are pending. -/
inductive Answers (pending : List Bytes) : Deal → Prop
  /-- What is written is written as a whole. -/
  | written {place : End} {m : Bytes} :
    Answers pending ⟨⟨place, .put m, none⟩, .ok (.count m.length)⟩
  /-- What is read is the first message that is pending, cut to the room there is for it. -/
  | read {place : End} {length : Nat} {peek whole : Bool} {m : Bytes} {rest : List Bytes}
    (hpending : pending = m :: rest) : Answers pending
      ⟨⟨place, .get length peek whole, none⟩, .ok (.octets (told length whole m) (m.take length))⟩
  /-- Where nothing is pending, waiting for it is what fails. -/
  | nothing {place : End} {length : Nat} {peek whole : Bool} {err : Error}
    (hpending : pending = []) (herr : err.isTimeout = true) :
    Answers pending ⟨⟨place, .get length peek whole, none⟩, .error err⟩
  /-- What is hindered fails because of that. -/
  | hindered {place : End} {action : Action} {err : Error} :
    Answers pending ⟨⟨place, action, some err⟩, .error err⟩

/-- What is read is a message that is pending first, cut. -/
lemma Answers.exists_cons {place : End} {length n : Nat} {peek whole : Bool}
    {hindrance : Option Error} {bs : Bytes}
    (h : Answers pending ⟨⟨place, .get length peek whole, hindrance⟩, .ok (.octets n bs)⟩) :
    ∃ m rest, pending = m :: rest ∧ n = told length whole m ∧ bs = m.take length := by
  cases h with
  | read hpending => exact ⟨_, _, hpending, rfl, rfl⟩

/-- A request is answered as it may be. -/
lemma answers_answer (r : Request) (pending : List Bytes) :
    Answers pending ⟨r, (r.answer pending).1⟩ := by
  obtain ⟨place, action, hindrance⟩ := r
  cases hindrance with
  | some err => exact .hindered
  | none => cases action with
    | put m => exact .written
    | get length peek whole => cases pending with
      | nil => exact .nothing rfl rfl
      | cons m rest => exact .read rfl

/-- Whether a deal moves a message: one was written, or was read and not left there. -/
def Deal.moves (d : Deal) : Bool := d.sent?.isSome || d.taken?.isSome

/-- Messages are written and read at two ends in order, and each once. -/
structure Orderly (ds : List Deal) : Prop where
  /-- What is read are the messages that were written across, from the first on, one for each
  read. -/
  in_order : ∀ e, List.Forall₂ Cut (taken e ds) ((sent e ds).take (taken e ds).length)
  /-- Every request is answered from the messages that wait in its channel. -/
  answered : ∀ before d after, ds = before ++ d :: after →
    Answers (waiting d.request.source before) d
  /-- A peek gives what the next read of as much will give. -/
  peeked : ∀ before between after place length peek whole whole' h h' n n' bs bs',
    ds = before ++ ⟨⟨place, .get length true whole, h⟩, .ok (.octets n bs)⟩ ::
      (between ++ ⟨⟨place, .get length peek whole', h'⟩, .ok (.octets n' bs')⟩ :: after) →
    taken place.other between = [] → bs' = bs ∧ (whole' = whole → n' = n)
  /-- What fails, and what peeks, leaves the messages that wait. -/
  left_alone : ∀ before d after, ds = before ++ d :: after → d.moves = false →
    ∀ e, waiting e (before ++ [d]) = waiting e before

namespace Apart

/-- Every request is answered from the messages that wait in its channel. -/
lemma answers {d : Deal} {after : List Deal} (h : Apart (ds ++ d :: after)) :
    Answers (waiting d.request.source ds) d := by
  have hanswer := answers_answer d.request (waiting d.request.source ds)
  rwa [← h.result_eq] at hanswer

/-- What a peek gives is still what comes first in the channel when it is read for.

**Proof sketch.** The peek found a message in front of what waited (`exists_cons`), and took none.
Nothing was taken since then either, so it is still in front when it is read for, and both readers
got its beginning. -/
lemma eq_of_peek {between after : List Deal} {place : End} {length n n' : Nat}
    {peek whole whole' : Bool} {hindrance hindrance' : Option Error} {bs bs' : Bytes}
    (h : Apart (ds ++ ⟨⟨place, .get length true whole, hindrance⟩, .ok (.octets n bs)⟩ ::
      (between ++ ⟨⟨place, .get length peek whole', hindrance'⟩, .ok (.octets n' bs')⟩ :: after)))
    (htaken : taken place.other between = []) : bs' = bs ∧ (whole' = whole → n' = n) := by
  obtain ⟨m, rest, hm, rfl, rfl⟩ := h.answers.exists_cons
  rw [List.append_cons, ← List.append_assoc, List.append_assoc ds] at h
  obtain ⟨m', rest', hm', rfl, rfl⟩ := h.answers.exists_cons
  have hnone : taken place.other ([⟨⟨place, .get length true whole, hindrance⟩,
      .ok (.octets (told length whole m) (m.take length))⟩] ++ between) = [] := by
    rw [taken_append, taken_eq_nil rfl, htaken, List.append_nil]
  have hfirst : waiting place.other ds = m :: rest := hm
  have hlater : waiting place.other (ds ++ ([_] ++ between)) = m' :: rest' := hm'
  rw [h.of_append.of_append.waiting_append hnone, hfirst, List.cons_append] at hlater
  obtain rfl := (List.cons.inj hlater).1
  exact ⟨rfl, fun hwhole => by rw [hwhole]⟩

/-- **Where channels keep to themselves** they are in order.

**Proof sketch.** What was taken in a direction is the front of what was sent in it, each message
cut (`exists_front`). What a read answers is settled by what waits (`answers`), two reads of the
same message after a peek agree (`eq_of_peek`), and what moves nothing leaves what waits. -/
theorem orderly (h : Apart ds) : Orderly ds := by
  refine ⟨fun e => ?_, ?_, ?_, ?_⟩
  · obtain ⟨front, hfront, hcut⟩ := h.exists_front e
    rw [hfront, hcut.length_eq, List.take_left]
    exact hcut
  · rintro before d after rfl
    exact h.answers
  · rintro before between after place length peek whole whole' hindrance hindrance' n n' bs bs' rfl
      htaken
    exact h.eq_of_peek htaken
  · intro before d after hds hmoves e
    rw [Deal.moves, Bool.or_eq_false_iff] at hmoves
    have hsent : d.sent? = none := by simpa using hmoves.1
    have htaken : d.taken? = none := by simpa using hmoves.2
    rw [waiting, sent_append, taken_append, sent_eq_nil hsent, taken_eq_nil htaken, List.append_nil,
      List.append_nil, waiting]

end Apart

end Channel

end Sockets
