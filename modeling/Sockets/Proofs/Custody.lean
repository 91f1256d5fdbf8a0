import Mathlib.Data.List.Nodup
import Mathlib.Logic.Function.Basic
import Mathlib.Logic.Relation
import Sockets.Proofs.Providers

/-!
# Custody of sessions

A session is granted on a descriptor that was never spoken about, it is used while the handle that
owns the descriptor has it, and parting with the descriptor is what ends it. This module says so of
handles and descriptors in the abstract: how custody of sessions turns, and what holds of every
descriptor whatever turns it takes.

## Main definitions

* `Sockets.Custody` — what was said, what handles own, and what was granted.
* `Sockets.Custody.Turn` — how custody turns, one thing at a time.
* `Sockets.Tls.Session.Serves` — a session answers some calls, and what is left of it.
* `Sockets.Custody.Standing` — what was said on a descriptor, by whether a session was granted on it
  and whether its owner still has it.

## Main results

* `Sockets.Custody.Sound.turns` — every descriptor keeps its standing.
* `Sockets.Custody.Turns.granted_eq`, `Sockets.Custody.Turns.silent` — what is granted all along,
  and which descriptors are left alone.
-/

set_option autoImplicit false

namespace Sockets

/-! ## What was said on a descriptor -/

/-- What was said on a descriptor: the calls and how they ended. -/
def Dealing.talk (ds : List Dealing) (fd : Descriptor) : List (TlsCall × TlsOutcome) :=
  ds.filterMap fun d => if d.on = fd then some (d.call, d.outcome) else none

namespace Dealing

variable {ds es : List Dealing} {fd other : Descriptor}

/-- What was said on a descriptor, and then more of it. -/
lemma talk_append : talk (ds ++ es) fd = talk ds fd ++ talk es fd := List.filterMap_append

/-- What was said on other descriptors was not said on this one. -/
lemma talk_eq_nil (h : ∀ d ∈ ds, d.on ≠ fd) : talk ds fd = [] :=
  List.filterMap_eq_nil_iff.2 fun d hd => if_neg (h d hd)

/-- One thing more was said on a descriptor. -/
lemma talk_snoc_self (c : TlsCall) (outcome : TlsOutcome) :
    talk (ds ++ [⟨fd, c, outcome⟩]) fd = talk ds fd ++ [(c, outcome)] := by
  rw [talk_append]
  simp [talk]

/-- One thing more was said on another descriptor. -/
lemma talk_snoc_of_ne (h : fd ≠ other) (c : TlsCall) (outcome : TlsOutcome) :
    talk (ds ++ [⟨fd, c, outcome⟩]) other = talk ds other := by
  rw [talk_append]
  simp [talk, h]

end Dealing

/-- A session answers some calls one after the other, and another one is left of it. -/
inductive Tls.Session.Serves (g : Tls.Session) : List (TlsCall × TlsOutcome) → Tls.Session → Prop
  | nil : Serves g [] g
  | snoc {calls : List (TlsCall × TlsOutcome)} {s t : Tls.Session} {c : TlsCall}
      {answer : Except TlsError Nat} (h : Serves g calls s) (hu : s.Answers c answer t) :
      Serves g (calls ++ [(c, .ofCount answer)]) t

/-! ## Custody -/

/-- What was said to sessions and providers, the descriptors that handles own, each with the session
that its handle has, and the sessions that were granted. -/
structure Custody where
  said : List Dealing
  owned : Descriptor → Option (Option Tls.Session)
  granted : List (Descriptor × Tls.Session)

namespace Custody

open Dealing (talk)
open Handle (lastWords)

variable {q : Tls.Provider} {new : Descriptor → Prop} {a b : Custody} {fd : Descriptor}

/-- The custody with a descriptor that a handle takes, and the session that it got. -/
def take (a : Custody) (fd : Descriptor) (session : Option Tls.Session) (ds : List Dealing) :
    Custody :=
  ⟨a.said ++ ds, Function.update a.owned fd (some session),
    a.granted ++ (session.map (fd, ·)).toList⟩

/-- The custody with one thing more said on a descriptor, whose handle has some session then. -/
def speak (a : Custody) (fd : Descriptor) (c : TlsCall) (outcome : TlsOutcome)
    (session : Tls.Session) : Custody :=
  ⟨a.said ++ [⟨fd, c, outcome⟩], Function.update a.owned fd (some (some session)), a.granted⟩

/-- The custody without a descriptor that a handle parts with. -/
def part (a : Custody) (fd : Descriptor) (session : Option Tls.Session) : Custody :=
  ⟨a.said ++ lastWords fd session, Function.update a.owned fd none, a.granted⟩

/-- How custody turns, where some provider is asked and some descriptors are new: a handle takes a
new descriptor with the session that the provider gave for it, or there was none to be had for it; a
handle uses its session; or it parts with its descriptor, and says the last words. -/
inductive Turn (q : Tls.Provider) (new : Descriptor → Prop) (a : Custody) : Custody → Prop
  | taken {fd : Descriptor} {session : Option Tls.Session} {ds : List Dealing} (hn : new fd)
      (ho : a.owned fd = none) (ht : talk a.said fd = []) (hg : q.Gave fd session ds) :
      Turn q new a (a.take fd session ds)
  | refused {fd : Descriptor} {c : TlsCall} (hn : new fd) (ho : a.owned fd = none)
      (ht : talk a.said fd = []) (hc : c.negotiates = true) :
      Turn q new a { a with said := a.said ++ [⟨fd, c, .failed⟩] }
  | used {fd : Descriptor} {s t : Tls.Session} {c : TlsCall} {answer : Except TlsError Nat}
      (ho : a.owned fd = some (some s)) (hu : s.Answers c answer t) :
      Turn q new a (a.speak fd c (.ofCount answer) t)
  | parted {fd : Descriptor} {session : Option Tls.Session} (ho : a.owned fd = some session) :
      Turn q new a (a.part fd session)

/-- A handle takes a new descriptor without a session. -/
lemma Turn.opened (hn : new fd) (ho : a.owned fd = none) (ht : talk a.said fd = []) :
    Turn q new a { a with owned := Function.update a.owned fd (some none) } := by
  simpa [take] using Turn.taken (q := q) hn ho ht .nothing

/-- Custody turns any number of times. -/
abbrev Turns (q : Tls.Provider) (new : Descriptor → Prop) : Custody → Custody → Prop :=
  Relation.ReflTransGen (Turn q new)

/-! ## Standings -/

/-- What was said on a descriptor, by the sessions granted and what the owner has: nothing, where no
session was granted; a negotiation that failed; a negotiation and calls that the session granted
served, where the owner has what is left of it; or these and its shutdown, where there is no owner
any more. -/
inductive Standing (granted : List (Descriptor × Tls.Session)) (fd : Descriptor) :
    Option (Option Tls.Session) → List (TlsCall × TlsOutcome) → Prop
  | silent {o : Option (Option Tls.Session)} (ho : ∀ s, o ≠ some (some s))
      (hg : ∀ g, (fd, g) ∉ granted) : Standing granted fd o []
  | refused {c : TlsCall} (hc : c.negotiates = true) (hg : ∀ g, (fd, g) ∉ granted) :
      Standing granted fd none [(c, .failed)]
  | held {c : TlsCall} {g s : Tls.Session} {calls : List (TlsCall × TlsOutcome)}
      (hc : c.negotiates = true) (hg : (fd, g) ∈ granted) (hs : g.Serves calls s) :
      Standing granted fd (some (some s)) ((c, .secured g) :: calls)
  | retired {c : TlsCall} {g s : Tls.Session} {calls : List (TlsCall × TlsOutcome)}
      (hc : c.negotiates = true) (hg : (fd, g) ∈ granted) (hs : g.Serves calls s) :
      Standing granted fd none
        ((c, .secured g) :: calls ++ [(.shutdown, .ofUnit s.takeShutdown.1)])

/-- Custody is sound: no descriptor has been granted two sessions, and each is in good standing. -/
structure Sound (a : Custody) : Prop where
  nodup : (a.granted.map Prod.fst).Nodup
  standing : ∀ fd, Standing a.granted fd (a.owned fd) (talk a.said fd)

namespace Standing

variable {granted : List (Descriptor × Tls.Session)} {o : Option (Option Tls.Session)}
  {calls : List (TlsCall × TlsOutcome)}

/-- A descriptor on which nothing was said was granted no session. -/
lemma not_granted (h : Standing granted fd o []) : ∀ g, (fd, g) ∉ granted := by
  generalize ht : ([] : List (TlsCall × TlsOutcome)) = calls at h
  cases h with
  | silent _ hg => exact hg
  | refused | held | retired => exact nomatch ht

/-- A grant on another descriptor makes no difference. -/
lemma grant_other {other : Descriptor} {g : Tls.Session} (hne : other ≠ fd)
    (h : Standing granted fd o calls) : Standing (granted ++ [(other, g)]) fd o calls := by
  have hiff (k : Tls.Session) : (fd, k) ∈ granted ++ [(other, g)] ↔ (fd, k) ∈ granted := by
    simp [hne.symm]
  cases h with
  | silent ho hg => exact .silent ho fun k hk => hg k ((hiff k).1 hk)
  | refused hc hg => exact .refused hc fun k hk => hg k ((hiff k).1 hk)
  | held hc hg hs => exact .held hc ((hiff _).2 hg) hs
  | retired hc hg hs => exact .retired hc ((hiff _).2 hg) hs

end Standing

namespace Sound

/-- Custody is sound after a descriptor was taken.

**Proof sketch.** Nothing was said on the descriptor, so no session was granted on it. Without a
session that stays so. With one, it is granted once and held with nothing said but the call that
gave it, and what is said on other descriptors is what it was. -/
lemma take (ha : a.Sound) {session : Option Tls.Session} {ds : List Dealing}
    (ht : talk a.said fd = []) (hg : q.Gave fd session ds) : (a.take fd session ds).Sound := by
  have hfree : ∀ g, (fd, g) ∉ a.granted := by
    have hfd := ha.standing fd
    rw [ht] at hfd
    exact hfd.not_granted
  cases hg with
  | nothing =>
    refine ⟨by simpa [Custody.take] using ha.nodup, fun other => ?_⟩
    simp only [Custody.take, List.append_nil, Option.map_none, Option.toList_none]
    by_cases hne : other = fd
    · subst hne
      rw [Function.update_self, ht]
      exact .silent (by simp) hfree
    · rw [Function.update_of_ne hne]
      exact ha.standing other
  | @session g c hq hc =>
    constructor
    · simp only [Custody.take, Option.map_some, Option.toList_some, List.map_append, List.map_cons,
        List.map_nil]
      refine List.nodup_append.2 ⟨ha.nodup, List.nodup_singleton _, ?_⟩
      rintro _ hmem _ hfd rfl
      obtain ⟨⟨_, k⟩, hk, rfl⟩ := List.mem_map.1 hmem
      obtain rfl := List.mem_singleton.1 hfd
      exact hfree k hk
    · intro other
      simp only [Custody.take, Option.map_some, Option.toList_some]
      by_cases hne : other = fd
      · subst hne
        rw [Function.update_self, Dealing.talk_snoc_self, ht]
        exact .held hc (by simp) .nil
      · rw [Function.update_of_ne hne, Dealing.talk_snoc_of_ne (Ne.symm hne)]
        exact (ha.standing other).grant_other (Ne.symm hne)

/-- Custody is sound after there was no session to be had.

**Proof sketch.** Nothing was said on the descriptor before, so what is said now is the failed
negotiation only. Other descriptors are not concerned. -/
lemma refuse (ha : a.Sound) {c : TlsCall} (ho : a.owned fd = none) (ht : talk a.said fd = [])
    (hc : c.negotiates = true) : Sound { a with said := a.said ++ [⟨fd, c, .failed⟩] } := by
  refine ⟨ha.nodup, fun other => ?_⟩
  have hother := ha.standing other
  by_cases hne : other = fd
  · subst hne
    rw [ht] at hother
    simp only [Dealing.talk_snoc_self, ht, ho, List.nil_append]
    exact .refused hc hother.not_granted
  · simp only [Dealing.talk_snoc_of_ne (Ne.symm hne)]
    exact hother

/-- Custody is sound after a session was used.

**Proof sketch.** The session is held on the descriptor, and goes on with one more answer. Other
descriptors are not concerned. -/
lemma speak (ha : a.Sound) {s t : Tls.Session} {c : TlsCall} {answer : Except TlsError Nat}
    (ho : a.owned fd = some (some s)) (hu : s.Answers c answer t) :
    (a.speak fd c (.ofCount answer) t).Sound := by
  refine ⟨ha.nodup, fun other => ?_⟩
  have hother := ha.standing other
  simp only [Custody.speak]
  by_cases hne : other = fd
  · subst hne
    rw [Function.update_self, Dealing.talk_snoc_self]
    rw [ho] at hother
    generalize talk a.said other = calls at hother
    cases hother with
    | silent ho' => exact absurd rfl (ho' s)
    | held hc hg hs => exact .held hc hg (hs.snoc hu)
  · rw [Function.update_of_ne hne, Dealing.talk_snoc_of_ne (Ne.symm hne)]
    exact hother

/-- Custody is sound after a handle parted with its descriptor.

**Proof sketch.** By whether there is a session. Without one the descriptor is silent, and stays so.
With one the last words retire it, after what was said in its life. What other descriptors say and
own is the same before and after. -/
lemma part (ha : a.Sound) {session : Option Tls.Session} (ho : a.owned fd = some session) :
    (a.part fd session).Sound := by
  refine ⟨ha.nodup, fun other => ?_⟩
  have hother := ha.standing other
  cases session with
  | none =>
    simp only [Custody.part, lastWords, Option.map_none, Option.toList_none, List.append_nil]
    by_cases hne : other = fd
    · subst hne
      rw [Function.update_self]
      rw [ho] at hother
      generalize talk a.said other = calls at hother ⊢
      cases hother with
      | silent _ hg => exact .silent (by simp) hg
    · rw [Function.update_of_ne hne]
      exact hother
  | some s =>
    simp only [Custody.part, lastWords, Option.map_some, Option.toList_some]
    by_cases hne : other = fd
    · subst hne
      rw [Function.update_self, Dealing.talk_snoc_self]
      rw [ho] at hother
      generalize talk a.said other = calls at hother ⊢
      cases hother with
      | silent ho' => exact absurd rfl (ho' s)
      | held hc hg hs => exact .retired hc hg hs
    · rw [Function.update_of_ne hne, Dealing.talk_snoc_of_ne (Ne.symm hne)]
      exact hother

/-- Custody stays sound in a turn. -/
theorem turn (ha : a.Sound) (h : Turn q new a b) : b.Sound := by
  cases h with
  | taken _ _ ht hg => exact ha.take ht hg
  | refused _ ho ht hc => exact ha.refuse ho ht hc
  | used ho hu => exact ha.speak ho hu
  | parted ho => exact ha.part ho

/-- **Custody stays sound** whatever turns it takes. -/
theorem turns (ha : a.Sound) (h : Turns q new a b) : b.Sound := by
  induction h with
  | refl => exact ha
  | tail _ ht ih => exact ih.turn ht

end Sound

/-! ## Turns and what was said -/

/-- The session that is granted where a provider is called. -/
def grant? (d : Dealing) : Option (Descriptor × Tls.Session) :=
  match d.call.negotiates, d.outcome with
  | true, .secured g => some (d.on, g)
  | _, _ => none

/-- Calls that ask for no session are granted none. -/
lemma filterMap_grant? {ds : List Dealing} (h : ∀ d ∈ ds, d.call.negotiates = false) :
    ds.filterMap grant? = [] :=
  List.filterMap_eq_nil_iff.2 fun d hd => by simp [grant?, h d hd]

/-- What is granted in a turn is what comes of calling the provider.

**Proof sketch.** By cases on the turn. Only taking a session calls the provider with success, and
what it gets is the grant; a failed negotiation, a use and the last words grant nothing. -/
lemma Turn.granted_eq (h : Turn q new a b) : ∃ ds, b.said = a.said ++ ds ∧
    b.granted = a.granted ++ ds.filterMap grant? := by
  cases h with
  | @taken fd session ds _ _ _ hg =>
    refine ⟨ds, rfl, ?_⟩
    cases hg with
    | nothing => rfl
    | session _ hc => simp [take, grant?, hc]
  | @refused fd c _ _ _ _ => exact ⟨[⟨fd, c, .failed⟩], rfl, by simp [grant?]⟩
  | @used fd s t c answer _ hu =>
    refine ⟨[⟨fd, c, .ofCount answer⟩], rfl, ?_⟩
    cases hu <;> simp [speak, grant?, TlsCall.negotiates]
  | @parted fd session _ =>
    refine ⟨lastWords fd session, rfl, ?_⟩
    cases session <;> simp [part, lastWords, grant?, TlsCall.negotiates]

/-- **Grants.** What is granted all along is what comes of calling the provider.

**Proof sketch.** By induction on the turns, of which each grants what its own calls to the provider
gave. -/
theorem Turns.granted_eq (h : Turns q new a b) : ∃ ds, b.said = a.said ++ ds ∧
    b.granted = a.granted ++ ds.filterMap grant? := by
  induction h with
  | refl => exact ⟨[], by simp, by simp⟩
  | tail _ ht ih =>
    obtain ⟨ds, hds, hg⟩ := ih
    obtain ⟨es, hes, hg'⟩ := ht.granted_eq
    exact ⟨ds ++ es, by rw [hes, hds, List.append_assoc],
      by rw [hg', hg, List.filterMap_append, List.append_assoc]⟩

/-- A turn leaves a descriptor alone that is neither new nor owned, and on which nothing was
said.

**Proof sketch.** By cases on the turn. A descriptor that is taken or refused is new, and one that
is used or parted with is owned, so that it is another one; and what is said on another one is not
said on this. -/
lemma Turn.silent (h : Turn q new a b) (hn : ¬ new fd) (ho : a.owned fd = none)
    (ht : talk a.said fd = []) : b.owned fd = none ∧ talk b.said fd = [] := by
  have hof {other : Descriptor} {session : Option Tls.Session}
      (hother : a.owned other = some session) : fd ≠ other := by
    rintro rfl
    exact nomatch ho.symm.trans hother
  cases h with
  | @taken other session ds hnew _ _ hg =>
    have hne : fd ≠ other := fun heq => hn (heq ▸ hnew)
    refine ⟨(Function.update_of_ne hne ..).trans ho, ?_⟩
    cases hg with
    | nothing => simpa [take] using ht
    | session => exact (Dealing.talk_snoc_of_ne hne.symm ..).trans ht
  | @refused other c hnew =>
    have hne : fd ≠ other := fun heq => hn (heq ▸ hnew)
    exact ⟨ho, (Dealing.talk_snoc_of_ne hne.symm ..).trans ht⟩
  | @used other s t c answer hother =>
    have hne := hof hother
    exact ⟨(Function.update_of_ne hne ..).trans ho, (Dealing.talk_snoc_of_ne hne.symm ..).trans ht⟩
  | @parted other session hother =>
    have hne := hof hother
    refine ⟨(Function.update_of_ne hne ..).trans ho, ?_⟩
    cases session with
    | none => simpa [part, Handle.lastWords] using ht
    | some s => exact (Dealing.talk_snoc_of_ne hne.symm ..).trans ht

/-- Turns leave a descriptor alone that is neither new nor owned, and on which nothing was said. -/
lemma Turns.silent (h : Turns q new a b) (hn : ¬ new fd) (ho : a.owned fd = none)
    (ht : talk a.said fd = []) : b.owned fd = none ∧ talk b.said fd = [] := by
  induction h with
  | refl => exact ⟨ho, ht⟩
  | tail _ hturn ih => exact hturn.silent hn ih.1 ih.2

end Custody

end Sockets
