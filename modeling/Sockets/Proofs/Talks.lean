import Mathlib.Tactic.Lemma
import Sockets.Proofs.Leads
import Sockets.Proofs.Reach

/-!
# What negotiations do

A negotiation gets ready what it needs, which may take files, and the encryption library talks on
the descriptor. Then it fails, or there is a session, which is noted; a provider that is a list of
answers notes its failures as well. This module says so once for clients and servers, and what is to
be known of negotiations, whatever the encryption library does, follows from it by cases.

## Main definitions

* `Sockets.Tls.Provider.Gives` — a session that a provider may give.
* `Sockets.Net.Negotiates` — what becomes of a negotiation.

## Main results

* `Sockets.Net.negotiates_client`, `Sockets.Net.negotiates_server` — negotiations.
-/

set_option autoImplicit false

namespace Sockets

open Event (Within)

/-- A session that a provider may give when it is asked for the next one. Of the library's own
nothing is known, as its sessions are those of the encryption library. -/
inductive Tls.Provider.Gives : Tls.Provider → Tls.Session → Prop
  | own (keeper : Tls.Keeper) (s : Tls.Session) : Gives (.own keeper) s
  | spent : Gives (.scripted []) {}
  | listed (s : Tls.Session) (rest : List (Except TlsError Tls.Session)) :
    Gives (.scripted (.ok s :: rest)) s

namespace Net

variable {α : Type} {fd : Descriptor} {c : TlsCall} {q : Tls.Provider} {v : World}

/-- The kinds of system calls that negotiating takes. -/
def negotiating : List CallKind := .openFile :: Tls.speech

/-- **What becomes of a negotiation** on a descriptor, with a provider and from a world: it fails,
or it comes to an answer that is noted, after what it took to get there. -/
inductive Negotiates (fd : Descriptor) (c : TlsCall) (q : Tls.Provider) (v : World) :
    Except TlsError Tls.Session → World → Prop
  | failed {e : TlsError} {w : World} (hw : v.Onward (Within negotiating) w) :
    Negotiates fd c q v (.error e) w
  | answered {answer : Except TlsError Tls.Session} {u w : World}
    (hu : v.Onward (Within negotiating) u) (hgives : ∀ s, answer = .ok s → q.Gives s)
    (hw : (u.noting (.tls fd c (.ofSession answer))).Onward (Within []) w) :
    Negotiates fd c q v answer w

/-- What negotiating takes goes on with a negotiation. -/
lemma leads_negotiating {kinds : List CallKind} {x : Net α} (hx : Only (Within kinds) x)
    (hk : kinds ⊆ negotiating) :
    Leads (v.Onward (Within negotiating)) x fun _ => v.Onward (Within negotiating) :=
  fun w hw => hw.trans (hx.widen hk w)

/-- Putting a provider in place does nothing to descriptors. -/
lemma only_keepProvider {p : Event → Prop} (scope : Scope) (provider : Tls.Provider) :
    Only p (keepProvider scope provider) :=
  .aside fun w => by cases scope <;> exact ⟨rfl, rfl⟩

/-- A list of answers gives the next one, which is noted.

**Proof sketch.** The next answer is the first of the list, or a session of no content where the
list is spent. It is noted once it is taken. -/
lemma negotiates_takeJournalled (scope : Scope) (answers : List (Except TlsError Tls.Session)) :
    Leads (v.Onward (Within negotiating)) (takeJournalled scope fd c answers)
      (Negotiates fd c (.scripted answers) v) := by
  have htake : Leads (v.Onward (Within negotiating)) (takeSession scope answers) fun answer w =>
      v.Onward (Within negotiating) w ∧
        ∀ s, answer = .ok s → (Tls.Provider.scripted answers).Gives s := by
    cases answers with
    | nil =>
      refine .pure _ fun w hw => ⟨hw, fun s hs => ?_⟩
      obtain rfl : ({} : Tls.Session) = s := Except.ok.inj hs
      exact .spent
    | cons answer rest =>
      refine .bind (R := fun _ => v.Onward (Within negotiating)) ?_
        fun _ => .pure _ fun w hw => ⟨hw, ?_⟩
      · exact fun w hw => hw.trans (only_keepProvider _ _ w)
      · rintro s rfl
        exact .listed s rest
  refine .bind htake fun answer => ?_
  exact fun w hw => .answered hw.1 hw.2 .refl

/-- Where the encryption library talks, the negotiation fails or there is a session, with a note and
a record. -/
lemma negotiates_establish {ask : List Bytes → Net (Except TlsFault Unit)}
    (hask : ∀ chain, Only (Within Tls.speech) (ask chain)) (keeper : Tls.Keeper)
    (message : String) (talk : Except TlsFault Tls.Talk) :
    Leads (v.Onward (Within negotiating)) (establish fd c ask message talk).run
      (Negotiates fd c (.own keeper) v) := by
  cases talk with
  | error f => exact .run_throw _ fun _ hw => .failed hw
  | ok talk =>
    refine .run_lift_bind (leads_negotiating (talk.only_run fd hask) (List.subset_cons_self _ _))
      fun result => ?_
    cases result with
    | error f => exact .run_throw _ fun _ hw => .failed hw
    | ok s => exact fun w hw => .answered hw (fun _ _ => .own _ _) (Only.record .debug message _)

/-- What comes before a talk: the provider of the context gets ready what it needs, and keeps it. -/
lemma negotiates_own {β : Type} {scope : Scope} {ready : Attempt TlsError (β × Tls.Keeper)}
    {talk : β → Attempt TlsError Tls.Session} (hready : Made [.openFile] ready.run)
    {keeper : Tls.Keeper} (htalk : ∀ b,
      Leads (v.Onward (Within negotiating)) (talk b).run (Negotiates fd c (.own keeper) v)) :
    Leads (v.Onward (Within negotiating)) (ready >>= fun p => do
        keepProvider scope (.own p.2)
        talk p.1 : Attempt TlsError Tls.Session).run (Negotiates fd c (.own keeper) v) := by
  refine .run_bind (R := fun _ => v.Onward (Within negotiating))
    (leads_negotiating hready.only (by decide)) (fun p => ?_) fun _ _ hw => .failed hw
  refine .run_lift_bind ?_ fun _ => htalk p.1
  exact leads_negotiating (only_keepProvider _ _) (List.nil_subset _)

/-- A negotiation begins with the provider of the context. -/
lemma negotiates_context (scope : Scope) {negotiation : Context → Attempt TlsError Tls.Session}
    (hn : ∀ found, Leads (v.Onward (Within negotiating)) (negotiation found).run
      (Negotiates fd c found.provider v)) :
    Negotiates fd c (v.context scope).provider v
      ((context scope >>= negotiation : Attempt TlsError Tls.Session).run v).1
      ((context scope >>= negotiation : Attempt TlsError Tls.Session).run v).2 :=
  hn (v.context scope) _ (only_context scope v)

/-- **A client's negotiation**, with the provider of the context.

**Proof sketch.** By the provider. A list of answers is taken from (`negotiates_takeJournalled`).
The library's own one makes how it verifies, settles the name and numbers the connection, none of
which says anything; then the session is established (`negotiates_establish`). -/
theorem negotiates_client (scope : Scope) (fd : Descriptor) (host : String) (strict : Bool)
    (v : World) : Negotiates fd (.client host strict) (v.context scope).provider v
      ((negotiateClient scope fd host strict).run v).1
      ((negotiateClient scope fd host strict).run v).2 := by
  refine negotiates_context scope fun found => ?_
  cases found.provider with
  | scripted answers => exact negotiates_takeJournalled scope answers
  | own keeper =>
    refine negotiates_own (keeper.made_verifierFor strict) fun verifier => ?_
    refine .run_lift_bind (leads_negotiating Made.setting.only (List.nil_subset _)) fun s => ?_
    dsimp only
    cases Tls.ServerName.ofHost s.encryption.name? host strict with
    | none => exact .run_throw _ fun _ hw => .failed hw
    | some name =>
      refine .run_lift_bind (R := fun _ => v.Onward (Within negotiating)) ?_ fun number => ?_
      · exact fun w hw => hw.trans (.single (.aside _ rfl rfl))
      · exact negotiates_establish (fun chain => verifier.only_ask name chain) keeper _ _

/-- **A server's negotiation**, with the provider of the context.

**Proof sketch.** As for a client (`negotiates_client`), with a credential in place of how to
verify, and without a name. -/
theorem negotiates_server (scope : Scope) (fd : Descriptor) (v : World) :
    Negotiates fd .server (v.context scope).provider v
      ((negotiateServer scope fd).run v).1 ((negotiateServer scope fd).run v).2 := by
  refine negotiates_context scope fun found => ?_
  cases found.provider with
  | scripted answers => exact negotiates_takeJournalled scope answers
  | own keeper =>
    refine negotiates_own keeper.made_credentialFor fun credential => ?_
    refine .run_lift_bind (leads_negotiating Made.setting.only (List.nil_subset _)) fun s => ?_
    refine .run_lift_bind (R := fun _ => v.Onward (Within negotiating)) ?_ fun number => ?_
    · exact fun w hw => hw.trans (.single (.aside _ rfl rfl))
    · exact negotiates_establish (fun _ => .pure _) keeper _ _

end Net

end Sockets
