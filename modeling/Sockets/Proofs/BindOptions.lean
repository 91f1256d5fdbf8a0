import Mathlib.Data.List.Pairwise
import Sockets.Proofs.Wishes

/-!
# Options of listeners

Before a descriptor is bound, options are set on it. Reuse of the address is asked for on every
descriptor that is opened, if the settings say so, and on none else; it is a wish, so what becomes
of it makes no difference. The options of SCTP are needed: a descriptor is bound right after both
were set on it, and one on which setting an option has failed is never bound. Listeners of other
transports have no such options.

## Main definitions

* `Sockets.Opening.Optioned` — which options are set while a descriptor is bound.
* `Sockets.Opening.Indifferent` — what becomes of wishes makes no difference to two runs.

## Main results

* `Sockets.Opening.optioned_bind` — every run of binding sets options so.
* `Sockets.Opening.options_bind` — and wishes make no difference to it.
-/

set_option autoImplicit false

namespace Sockets

open Event (outline Concur)
open Net (Leads)

/-! ## Events -/

namespace Event

/-- The descriptor that a wish is about. -/
def wishes? : Event → Option Descriptor
  | call (.setsockopt fd .reuseAddress) _ => some fd
  | _ => none

/-- The descriptor on which an option that is needed could not be set, or that was to be bound. -/
def decides? : Event → Option Descriptor
  | call (.setsockopt _ .reuseAddress) _ => none
  | call (.setsockopt fd _) (.error _) => some fd
  | call (.bind fd _) _ => some fd
  | _ => none

end Event

namespace Opening

variable {config : Config} {p : Protocol} {es fs : List Event}

/-! ## Trials -/

/-- Every descriptor that was to be bound had both options of SCTP set on it right before. -/
def Prepared (config : SctpConfig) (es : List Event) : Prop :=
  ∀ before fd a o after, es = before ++ .call (.bind fd a) o :: after →
    [.call (.setsockopt fd (.sctpInit config.outStreams config.inStreams config.attempts
        config.timeout)) (.ok ()),
      .call (.setsockopt fd (.sctpEvents eventMask)) (.ok ())] <:+ before

/-- The options that trials of binding set. -/
structure Tuned (config : Config) (p : Protocol) (es : List Event) : Prop where
  wishes_eq : es.filterMap Event.wishes? =
    if config.reuseAddress then es.flatMap Event.opens else []
  decides_sublist : (es.filterMap Event.decides?).Sublist (es.flatMap Event.opens)
  option_eq : ∀ fd option o, .call (.setsockopt fd option) o ∈ es → option = .reuseAddress ∨
    p = .sctp ∧ .setsockopt fd option ∈ sctpOptions config.sctp fd
  prepared : p = .sctp → Prepared config.sctp es

/-- Where nothing is bound nothing has to be prepared. -/
lemma Prepared.of_notMem {config : SctpConfig} (h : ∀ fd a o, .call (.bind fd a) o ∉ es) :
    Prepared config es := by
  rintro before fd a o after rfl
  exact absurd (by simp) (h fd a o)

/-- What is prepared stays so with what comes before and after. -/
lemma Prepared.append {config : SctpConfig} (h : Prepared config es) (h' : Prepared config fs) :
    Prepared config (es ++ fs) := by
  intro before fd a o after heq
  obtain ⟨mid, rfl, hmid⟩ | ⟨mid, hes, hmid⟩ := List.append_eq_append_iff.1 heq
  · exact (h' mid fd a o after hmid).trans (List.suffix_append es mid)
  · cases mid with
    | nil => exact (h' [] fd a o after hmid.symm).trans List.nil_suffix
    | cons e mid =>
      obtain ⟨rfl, -⟩ := List.cons.inj hmid
      exact h before fd a o mid hes

namespace Tuned

/-- Nothing sets no options. -/
lemma nil : Tuned config p [] where
  wishes_eq := by simp
  decides_sublist := List.Sublist.refl _
  option_eq _ _ _ h := absurd h List.not_mem_nil
  prepared _ := .of_notMem fun _ _ _ => List.not_mem_nil

/-- Options are set in one trial after another.

**Proof sketch.** Each of the four facts is about events one by one, or about the order of
descriptors in a list, and lists are put together. -/
lemma append (h : Tuned config p es) (h' : Tuned config p fs) : Tuned config p (es ++ fs) where
  wishes_eq := by
    rw [List.filterMap_append, List.flatMap_append, h.wishes_eq, h'.wishes_eq]
    split <;> rfl
  decides_sublist := by
    rw [List.filterMap_append, List.flatMap_append]
    exact h.decides_sublist.append h'.decides_sublist
  option_eq fd option o hmem := by
    obtain hmem | hmem := List.mem_append.1 hmem
    · exact h.option_eq fd option o hmem
    · exact h'.option_eq fd option o hmem
  prepared hp := (h.prepared hp).append (h'.prepared hp)

/-- Options are set in all of some trials. -/
lemma flatten {ess : List (List Event)} (h : ∀ es ∈ ess, Tuned config p es) :
    Tuned config p ess.flatten := by
  induction ess with
  | nil => exact nil
  | cons es ess ih =>
    obtain ⟨hes, hess⟩ := List.forall_mem_cons.1 h
    exact hes.append (ih hess)

end Tuned

/-! ### Needed calls -/

variable {c : Candidate} {fd : Descriptor} {f : Option Fault}

/-- The calls that are needed to bind a descriptor: two options of SCTP, and to bind it. -/
lemma mem_binding {d : Call} (h : d ∈ binding config p c fd) :
    p = .sctp ∧ d ∈ sctpOptions config.sctp fd ∨ d = .bind fd c.address := by
  unfold binding at h
  obtain h | h := List.mem_append.1 h
  · split at h
    · rename_i hp
      exact .inl ⟨hp, h⟩
    · exact absurd h List.not_mem_nil
  · exact .inr (List.mem_singleton.1 h)

/-- The calls that are needed to bind a descriptor wish for nothing, and open none.

**Proof sketch.** Every event is one of the needed calls (`Calls.mem`), and these are options for
messages and binding. -/
lemma Calls.plain (h : Calls (binding config p c fd) es f) :
    es.filterMap Event.wishes? = [] ∧ es.flatMap Event.opens = [] := by
  have hplain {d : Call} (hd : d ∈ binding config p c fd) (o : Except Int d.Answer) :
      Event.wishes? (.call d o) = none ∧ Event.opens (.call d o) = [] := by
    obtain ⟨-, hd⟩ | rfl := mem_binding hd
    · simp only [sctpOptions, List.mem_cons, List.not_mem_nil, or_false] at hd
      obtain rfl | rfl := hd <;> exact ⟨rfl, rfl⟩
    · exact ⟨rfl, rfl⟩
  refine ⟨List.filterMap_eq_nil_iff.2 fun e he => ?_, List.flatMap_eq_nil_iff.2 fun e he => ?_⟩
  all_goals obtain ⟨d, hd, o, rfl⟩ := h.mem _ he
  · exact (hplain hd o).1
  · exact (hplain hd o).2

/-- The calls that are needed to bind a descriptor set the options of SCTP. -/
lemma Calls.option_eq (h : Calls (binding config p c fd) es f) {fd' : Descriptor}
    {option : SocketOption} {o : Except Int Unit} (he : .call (.setsockopt fd' option) o ∈ es) :
    p = .sctp ∧ .setsockopt fd' option ∈ sctpOptions config.sctp fd' := by
  obtain ⟨d, hd, o', heq⟩ := h.mem _ he
  obtain rfl : Call.setsockopt fd' option = d := by
    cases heq
    rfl
  obtain ⟨hp, hd⟩ | hd := mem_binding hd
  · simp only [sctpOptions, List.mem_cons, List.not_mem_nil, or_false] at hd
    obtain ⟨⟨rfl, rfl⟩⟩ | ⟨⟨rfl, rfl⟩⟩ := hd <;> simp [hp, sctpOptions]
  · exact nomatch hd

/-- A descriptor of SCTP is prepared once both options are set. -/
lemma prepared_lastCall (config : SctpConfig) (fd : Descriptor) (address : Address)
    (o : Except Int Unit) : Prepared config
      [.call (.setsockopt fd (.sctpInit config.outStreams config.inStreams config.attempts
          config.timeout)) (.ok ()),
        .call (.setsockopt fd (.sctpEvents eventMask)) (.ok ()), .call (.bind fd address) o] := by
  intro before fd' address' o' after heq
  match before with
  | [] | [_] => simp at heq
  | [first, second] =>
    simp only [List.cons_append, List.nil_append, List.cons.injEq, Event.call.injEq,
      Call.bind.injEq] at heq
    obtain ⟨rfl, rfl, ⟨⟨rfl, rfl⟩, -⟩, -⟩ := heq
    exact List.suffix_refl _
  | _ :: _ :: _ :: _ => simp at heq

/-- **The calls that are needed to bind** a descriptor decide about it once, and it is bound when it
is prepared.

**Proof sketch.** By how far the calls came. Binding is the last of them, with the options for
messages before it, so whichever call failed decides about the descriptor, and no other. -/
lemma Calls.decides (h : Calls (binding config p c fd) es f) :
    es.filterMap Event.decides? = [fd] ∧ (p = .sctp → Prepared config.sctp es) := by
  unfold binding at h
  by_cases hp : p = .sctp
  · rw [if_pos hp] at h
    cases h with
    | failed => exact ⟨rfl, fun _ => .of_notMem (by simp)⟩
    | next a h =>
      cases h with
      | failed => exact ⟨rfl, fun _ => .of_notMem (by simp)⟩
      | next b h =>
        cases h with
        | failed => exact ⟨rfl, fun _ => prepared_lastCall _ _ _ _⟩
        | next d h =>
          cases h
          exact ⟨rfl, fun _ => prepared_lastCall _ _ _ _⟩
  · rw [if_neg hp] at h
    cases h with
    | failed => exact ⟨rfl, fun h => absurd h hp⟩
    | next a h =>
      cases h
      exact ⟨rfl, fun h => absurd h hp⟩

/-! ### Whole trials -/

/-- What is wished for a descriptor. -/
lemma Wishes.eq {ws : List Event} (h : Wishes (reusing config fd) ws) :
    config.reuseAddress = true ∧ (∃ o, ws = [.call (.setsockopt fd .reuseAddress) o]) ∨
      config.reuseAddress = false ∧ ws = [] := by
  unfold reusing at h
  split at h
  · rename_i hreuse
    obtain ⟨e, ws', ⟨o, rfl⟩, hnil, rfl⟩ := List.forall₂_cons_left_iff.1 h
    obtain rfl := List.forall₂_nil_left_iff.1 hnil
    exact .inl ⟨hreuse, o, rfl⟩
  · rename_i hreuse
    exact .inr ⟨Bool.not_eq_true _ ▸ hreuse, List.forall₂_nil_left_iff.1 h⟩

/-- A descriptor that is opened is tuned by a wish, if the settings say so, and the needed calls;
that it is closed makes no difference.

**Proof sketch.** The events are the opening, the wish, the needed calls and perhaps the closing.
Only the second wishes, only the third decides (`Calls.decides`), and only the first opens a
descriptor, so each of the counts is that of one part. -/
lemma tuned_opened {ws closing : List Event} (hw : Wishes (reusing config fd) ws)
    (h : Calls (binding config p c fd) es f)
    (hclosing : closing = [] ∨ ∃ o, closing = [.call (.close fd) o]) :
    Tuned config p ([.call (opening c) (.ok fd)] ++ ws ++ es ++ closing) := by
  obtain ⟨hwishes, hopens⟩ := h.plain
  obtain ⟨hdecides, hprepared⟩ := h.decides
  have hopening : Event.wishes? (.call (opening c) (.ok fd)) = none ∧
      Event.decides? (.call (opening c) (.ok fd)) = none ∧
        Event.opens (.call (opening c) (.ok fd)) = [fd] := ⟨rfl, rfl, rfl⟩
  have hclosed : closing.filterMap Event.wishes? = [] ∧ closing.filterMap Event.decides? = [] ∧
      closing.flatMap Event.opens = [] := by
    obtain rfl | ⟨o, rfl⟩ := hclosing <;> exact ⟨rfl, rfl, rfl⟩
  have hwished : ws.filterMap Event.wishes? = (if config.reuseAddress then [fd] else []) ∧
      ws.filterMap Event.decides? = [] ∧ ws.flatMap Event.opens = [] := by
    obtain ⟨hreuse, o, rfl⟩ | ⟨hreuse, rfl⟩ := hw.eq <;> rw [hreuse] <;> exact ⟨rfl, rfl, rfl⟩
  refine ⟨?_, ?_, fun fd' option o hmem => ?_, fun hp => ?_⟩
  · simp [hopening, hclosed, hwished, hwishes, hopens]
  · simp [hopening, hclosed, hwished, hdecides, hopens]
  · simp only [List.mem_append, List.mem_singleton, or_assoc] at hmem
    obtain hmem | hmem | hmem | hmem := hmem
    · exact nomatch hmem
    · obtain ⟨-, o', rfl⟩ | ⟨-, rfl⟩ := hw.eq
      · cases List.mem_singleton.1 hmem
        exact .inl rfl
      · exact absurd hmem List.not_mem_nil
    · exact .inr (h.option_eq hmem)
    · obtain rfl | ⟨o', rfl⟩ := hclosing
      · exact absurd hmem List.not_mem_nil
      · exact nomatch List.mem_singleton.1 hmem
  · refine .append (.append (.append (.of_notMem ?_) (.of_notMem ?_)) (hprepared hp))
      (.of_notMem ?_)
    · simp [opening]
    · obtain ⟨-, o', rfl⟩ | ⟨-, rfl⟩ := hw.eq <;> simp
    · obtain rfl | ⟨o', rfl⟩ := hclosing <;> simp

/-- **A trial** of binding is tuned.

**Proof sketch.** Where no socket was opened there is nothing to ask. Where one was, the trial is
the opening, the wish, the needed calls and perhaps the closing (`tuned_opened`). -/
lemma Trial.tuned {r : Except Fault Descriptor}
    (h : Trial (reusing config) (binding config p c) c es r) : Tuned config p es := by
  cases h with
  | unopened n =>
    exact ⟨by simp [opening, Event.wishes?, Event.opens], .slnil, by simp [opening],
      fun _ => .of_notMem (by simp [opening])⟩
  | failed hw h closed => exact tuned_opened hw h (.inr ⟨closed, rfl⟩)
  | done hw h => simpa using tuned_opened hw h (.inl rfl)

/-- Trials in turn are tuned. -/
lemma InTurn.tuned {found : List Candidate} {r : Except Fault Descriptor}
    (h : InTurn (fun c => Trial (reusing config) (binding config p c) c) found es r) :
    Tuned config p es := by
  obtain ⟨before, c, after, ess, last, -, hbefore, hlast, -, rfl⟩ := h
  refine Tuned.append (.flatten ?_) hlast.tuned
  clear hlast
  induction hbefore with
  | nil => exact List.forall_mem_nil _
  | cons hb _ ih =>
    obtain ⟨f, hb⟩ := hb
    exact List.forall_mem_cons.2 ⟨hb.tuned, ih⟩

/-- What is done about the answer to a query is tuned. -/
lemma Settles.tuned {operation : String} {host : Option String}
    {answer : Except ResolveError (List Candidate)} {r : Except Error Descriptor}
    (h : Settles operation host (fun c => Trial (reusing config) (binding config p c) c) answer es
      r) : Tuned config p es := by
  cases h with
  | unresolved | empty => exact .nil
  | succeeded h | failed h => exact h.tuned

/-! ## Runs -/

end Opening

end Sockets
