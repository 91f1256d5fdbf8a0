import Sockets.Proofs.SessionCalls
import Sockets.Proofs.Talks

/-!
# Providers of contexts

A context keeps its provider while candidates are looked up and descriptors opened, so a negotiation
is answered by the provider that the context had beforehand, and with the encryption library that
there was. That is so of whatever is made of simple operations.

## Main definitions

* `Sockets.World.Backed` — the provider of a context.
* `Sockets.World.SameBacking` — what negotiations go by is the same in two worlds.
* `Sockets.Tls.Provider.Gave` — a session that a descriptor got from it, if it got one.

## Main results

* `Sockets.Net.Made.keeps` — what is made of simple operations leaves what negotiations go by.
-/

set_option autoImplicit false

namespace Sockets

open Net (Leads)

/-- A session that a descriptor got from a provider, if it got one, and what was said for that. -/
inductive Tls.Provider.Gave (q : Tls.Provider) (fd : Descriptor) :
    Option Tls.Session → List Dealing → Prop
  | nothing : Gave q fd none []
  | session {g : Tls.Session} {c : TlsCall} (hq : q.Gives g) (hc : c.negotiates = true) :
      Gave q fd (some g) [⟨fd, c, .secured g⟩]

/-- The provider of a context. -/
def World.Backed (scope : Scope) (q : Tls.Provider) (w : World) : Prop :=
  (w.context scope).provider = q

variable {α : Type} {scope : Scope} {q : Tls.Provider} {kinds : List CallKind} {x : Net α}

open World (Backed)

/-- What surrounds the library, and the providers of contexts, are the same in both worlds. -/
structure World.SameBacking (v w : World) : Prop where
  setting_eq : w.toSetting = v.toSetting
  provider_eq : ∀ scope, (w.context scope).provider = (v.context scope).provider

namespace World.SameBacking

/-- The context found may be put in place, with everything but its provider changed. -/
lemma withContext (w : World) (other : Scope) {c : Context}
    (hc : c.provider = (w.context other).provider) : w.SameBacking (w.withContext other c) := by
  refine ⟨by cases other <;> rfl, fun scope => ?_⟩
  cases scope <;> cases other <;> first | exact hc | rfl

/-- The services database may be read. -/
lemma leads_serviceTable (w : World) : Leads (· = w) Net.serviceTable fun _ => w.SameBacking := by
  refine .bind (R := fun found v => found = w ∧ v = w) ?_ fun found => .of_and ?_
  · rintro _ rfl
    exact ⟨rfl, rfl⟩
  rintro rfl
  cases found.services with
  | read table => exact .pure table fun v hv => hv ▸ ⟨rfl, fun _ => rfl⟩
  | unread content =>
    dsimp only
    cases ServiceBook.table content <;>
    · rintro _ rfl
      exact ⟨rfl, fun scope => by cases scope <;> rfl⟩

end World.SameBacking

/-- **What is made of simple operations keeps** whatever only depends on what surrounds the library
and on the providers of contexts.

**Proof sketch.** By induction on what the operation is made of. Each piece leaves what surrounds
the library and the providers of contexts; reading the services database is the one that changes
something, but not of these. -/
theorem Net.Made.keeps {I : World → Prop} (hI : ∀ v w : World, v.SameBacking w → I v → I w)
    (hx : Made kinds x) : Leads I x fun _ => I := by
  induction hx with
  | pure a => exact .pure a fun _ hw => hw
  | bind _ _ ihx ihf => exact .bind ihx ihf
  | syscall | record | query | setting =>
    exact fun w hw => hI w _ ⟨rfl, fun scope => by cases scope <;> rfl⟩ hw
  | context other | takeAnswer other => exact fun w hw => hI w _ (.withContext w other rfl) hw
  | serviceTable => exact fun w hw => hI w _ (.leads_serviceTable w w rfl) hw

/-- It leaves the provider of every context. -/
theorem Net.Made.backed (hx : Made kinds x) : Leads (Backed scope q) x fun _ => Backed scope q :=
  hx.keeps fun _ _ hsame hv => (hsame.provider_eq scope).trans hv

/-- It leaves what surrounds the library. -/
theorem Net.Made.toSetting_eq (hx : Made kinds x) (w : World) :
    (x w).2.toSetting = w.toSetting :=
  hx.keeps (I := fun v => v.toSetting = w.toSetting) (fun _ _ hsame hv => hsame.setting_eq.trans hv)
    w rfl

end Sockets
