import Mathlib.Tactic.Lemma
import Sockets.Handle.Teardown

/-!
# What operations lead to

An operation is a function of the world, so what it does can be said in one way for all of them:
from every world where one thing holds it leads to an answer and a world where another holds. This
module has the rules by which such statements about parts of an operation are put together, for
operations on the world, for those that may fail, and for those on a handle.

## Main definitions

* `Sockets.Net.Leads` — what an operation leads to.

## Main results

* `Sockets.Net.Leads.bind`, `Sockets.Net.Leads.run_bind`, `Sockets.Handle.Act.leads_bind` — one
  operation after another.
* `Sockets.Net.Leads.settle` — an operation on a new handle, which is dropped if that fails.
-/

set_option autoImplicit false

namespace Sockets

/-! ## Operations on the world -/

namespace Net

/-- From every world where `P` holds, `x` leads to an answer and a world where `Q` holds. -/
def Leads {α : Type} (P : World → Prop) (x : Net α) (Q : α → World → Prop) : Prop :=
  ∀ w, P w → Q (x w).1 (x w).2

namespace Leads

variable {α β ε : Type} {P : World → Prop}

/-- To answer is to leave the world as it is. -/
lemma pure {Q : α → World → Prop} (a : α) (h : ∀ w, P w → Q a w) :
    Leads P (Pure.pure a : Net α) Q := h

/-- One operation after another. -/
lemma bind {R : α → World → Prop} {Q : β → World → Prop} {x : Net α} {f : α → Net β}
    (hx : Leads P x R) (hf : ∀ a, Leads (R a) (f a) Q) : Leads P (x >>= f) Q :=
  fun w hw => hf _ _ (hx w hw)

/-- More may be asked of the world before, and less of the one after. -/
lemma weaken {P' : World → Prop} {Q Q' : α → World → Prop} {x : Net α} (h : Leads P x Q)
    (hP : ∀ w, P' w → P w) (hQ : ∀ a w, Q a w → Q' a w) : Leads P' x Q' :=
  fun w hw => hQ _ _ (h w (hP w hw))

/-- What does not depend on the world can be assumed beforehand. -/
lemma of_and {φ : Prop} {Q : α → World → Prop} {x : Net α} (h : φ → Leads P x Q) :
    Leads (fun w => φ ∧ P w) x Q :=
  fun w hw => h hw.1 w hw.2

/-- What there is beforehand can be named. -/
lemma of_exists {ι : Type} {R : ι → World → Prop} {Q : α → World → Prop} {x : Net α}
    (h : ∀ i, Leads (R i) x Q) : Leads (fun w => ∃ i, R i w) x Q :=
  fun w ⟨i, hw⟩ => h i w hw

/-- What follows in every world beforehand can be assumed. -/
lemma assuming {φ : Prop} {Q : α → World → Prop} {x : Net α} (hφ : ∀ w, P w → φ)
    (h : φ → Leads P x Q) : Leads P x Q :=
  fun w hw => h (hφ w hw) w hw

/-! ### Operations that may fail -/

/-- To answer, in an operation that may fail. -/
lemma run_pure {Q : Except ε α → World → Prop} (a : α) (h : ∀ w, P w → Q (.ok a) w) :
    Leads P (Pure.pure a : Attempt ε α).run Q := h

/-- To fail is to leave the world as it is. -/
lemma run_throw {Q : Except ε α → World → Prop} (e : ε) (h : ∀ w, P w → Q (.error e) w) :
    Leads P (throw e : Attempt ε α).run Q := h

/-- One operation after another that does not fail; when it fails, that is the end. -/
lemma run_bind {R : Except ε α → World → Prop} {Q : Except ε β → World → Prop}
    {x : Attempt ε α} {f : α → Attempt ε β} (hx : Leads P x.run R)
    (hok : ∀ a, Leads (R (.ok a)) (f a).run Q)
    (herror : ∀ e w, R (.error e) w → Q (.error e) w) : Leads P (x >>= f).run Q := by
  refine Leads.bind (x := x.run) (f := fun r => (ExceptT.bindCont f r : Net _)) hx fun r => ?_
  cases r with
  | ok a => exact hok a
  | error e => exact herror e

/-- What stands behind a failure is not done. -/
lemma run_throw_bind {Q : Except ε β → World → Prop} {f : α → Attempt ε β} (e : ε)
    (h : ∀ w, P w → Q (.error e) w) : Leads P (throw e >>= f).run Q := h

/-- A failure put in other words. -/
lemma run_adapt {δ : Type} {Q : Except δ α → World → Prop} {x : Attempt ε α} (f : ε → δ)
    (hx : Leads P x.run fun r => Q (r.mapError f)) : Leads P (ExceptT.adapt f x).run Q := hx

/-- An operation that may fail after one that does not. -/
lemma run_lift_bind {R : α → World → Prop} {Q : Except ε β → World → Prop} {x : Net α}
    {f : α → Attempt ε β} (hx : Leads P x R) (hf : ∀ a, Leads (R a) (f a).run Q) :
    Leads P ((liftM x : Attempt ε α) >>= f).run Q :=
  hx.bind hf

end Leads

end Net

/-! ## Operations on a handle -/

namespace Handle.Act

open Net (Leads)

variable {α β : Type} {P : World → Prop} {g : Handle}

/-- One operation after another, on a handle in a world. -/
lemma on_bind (x : Act α) (f : α → Act β) (h : Handle) (w : World) :
    (x >>= f).on h w =
      match (x.on h w).1.1 with
      | .ok a => (f a).on (x.on h w).1.2 (x.on h w).2
      | .error e => ((.error e, (x.on h w).1.2), (x.on h w).2) := by
  show ((ExceptT.bindCont f (x.on h w).1.1 : StateT Handle Net _) (x.on h w).1.2) (x.on h w).2 = _
  cases (x.on h w).1.1 <;> rfl

/-- To answer is to leave the handle and the world as they are. -/
lemma leads_pure {Q : Except Error α × Handle → World → Prop} (a : α)
    (h : ∀ w, P w → Q (.ok a, g) w) : Leads P ((pure a : Act α).on g) Q := h

/-- To fail is to leave the handle and the world as they are. -/
lemma leads_throw {Q : Except Error α × Handle → World → Prop} (e : Error)
    (h : ∀ w, P w → Q (.error e, g) w) : Leads P ((throw e : Act α).on g) Q := h

/-- One operation after another that does not fail; when it fails, that is the end. -/
lemma leads_bind {R : Except Error α × Handle → World → Prop}
    {Q : Except Error β × Handle → World → Prop} {x : Act α} {f : α → Act β}
    (hx : Leads P (x.on g) R) (hok : ∀ a h, Leads (R (.ok a, h)) ((f a).on h) Q)
    (herror : ∀ e h w, R (.error e, h) w → Q (.error e, h) w) :
    Leads P ((x >>= f).on g) Q := by
  intro w hw
  have hR := hx w hw
  rw [on_bind]
  generalize x.on g w = out at hR ⊢
  obtain ⟨⟨r, h⟩, v⟩ := out
  cases r with
  | ok a => exact hok a h v hR
  | error e => exact herror e h v hR

/-- The handle at hand can be referred to from here on. -/
lemma leads_get_bind {Q : Except Error α × Handle → World → Prop} {f : Handle → Act α}
    (hf : Leads P ((f g).on g) Q) : Leads P ((get >>= f).on g) Q := hf

/-- What stands behind a failure is not done. -/
lemma leads_throw_bind {Q : Except Error β × Handle → World → Prop} (e : Error) (f : α → Act β)
    (h : ∀ w, P w → Q (.error e, g) w) : Leads P ((throw e >>= f).on g) Q := h

/-- A change of the handle leaves the world as it is. -/
lemma leads_modify {Q : Except Error Unit × Handle → World → Prop} (f : Handle → Handle)
    (h : ∀ w, P w → Q (.ok (), f g) w) : Leads P ((modify f : Act Unit).on g) Q := h

/-- An operation after a change of the handle. -/
lemma leads_modify_bind {Q : Except Error α × Handle → World → Prop} {f : Handle → Handle}
    {k : Unit → Act α} (hk : Leads P ((k ()).on (f g)) Q) :
    Leads P (((modify f : Act Unit) >>= k).on g) Q := hk

/-- An operation on the world leaves the handle as it is. -/
lemma leads_ofNet {Q : Except Error α × Handle → World → Prop} {x : Net α}
    (hx : Leads P x fun a => Q (.ok a, g)) : Leads P ((Act.ofNet x).on g) Q := hx

/-- An operation after one on the world. -/
lemma leads_ofNet_bind {R : α → World → Prop} {Q : Except Error β × Handle → World → Prop}
    {x : Net α} {f : α → Act β} (hx : Leads P x R) (hf : ∀ a, Leads (R a) ((f a).on g) Q) :
    Leads P ((Act.ofNet x >>= f).on g) Q :=
  hx.bind hf

/-- An operation after a log record about the handle. -/
lemma leads_record_bind {R : World → Prop} {Q : Except Error α × Handle → World → Prop}
    {level : Level} {message : String} {f : Unit → Act α}
    (hx : Leads P (Net.record level (g.name ++ ": " ++ message)) fun _ => R)
    (hf : Leads R ((f ()).on g) Q) : Leads P ((record level message >>= f).on g) Q :=
  hx.bind fun _ => hf

/-- An operation on the world that may fail leaves the handle as it is. -/
lemma leads_ofAttempt {Q : Except Error α × Handle → World → Prop} {x : Attempt Error α}
    (hx : Leads P x.run fun r => Q (r, g)) : Leads P ((Act.ofAttempt x).on g) Q := hx

/-- The descriptor of a handle that has one. -/
lemma on_owned {fd : Descriptor} (hfd : g.descriptor = some fd) (w : World) :
    owned.on g w = ((.ok fd, g), w) := by
  obtain ⟨id, descriptor, protocol, flags, near, far, session, membership⟩ := g
  obtain rfl : descriptor = some fd := hfd
  rfl

/-- The descriptor of a handle that has one can be referred to from here on. -/
lemma leads_owned_bind {Q : Except Error α × Handle → World → Prop} {f : Descriptor → Act α}
    {fd : Descriptor} (hfd : g.descriptor = some fd) (hf : Leads P ((f fd).on g) Q) :
    Leads P ((owned >>= f).on g) Q := by
  intro w hw
  rw [on_bind, on_owned hfd]
  exact hf w hw

end Handle.Act

/-- An operation on a new handle: it leads to where the operation does, and if that fails, to where
dropping the handle does. -/
lemma Net.Leads.settle {α : Type} {P : World → Prop} {g : Handle} {x : Handle.Act α}
    {R : Except Error α × Handle → World → Prop}
    {Q : Except Error (α × Handle) → World → Prop} (hx : Net.Leads P (x.on g) R)
    (hok : ∀ a h w, R (.ok a, h) w → Q (.ok (a, h)) w)
    (herror : ∀ e h, Net.Leads (R (.error e, h)) h.drop fun _ => Q (.error e)) :
    Net.Leads P (g.settle x).run Q := by
  refine .run_lift_bind hx fun p => ?_
  obtain ⟨r, h⟩ := p
  cases r with
  | ok a => exact .run_pure _ fun w hw => hok a h w hw
  | error e => exact .run_lift_bind (herror e h) fun _ => .run_throw e fun _ hw => hw

end Sockets
