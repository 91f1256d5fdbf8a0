import Sockets.Proofs.Composition
import Sockets.Proofs.Leads

/-!
# Operations side by side

What an operation does may depend on less than what it is given. That is said by two runs of it side
by side: from worlds and handles that differ in what has no part in it, they give the same answer
and lead to worlds and handles that differ in no more than that.

Two such differences matter here. Handles may differ in what they remember of the ends of their
connection, provided that each remembers rightly. And worlds may differ in the events so far, since
no operation reads the journal that it writes.

## Main definitions

* `Sockets.Net.Alike` — two operations run alike, from related worlds to related worlds.
* `Sockets.Net.Steady` — a relation between worlds that the things operations are made of keep.
* `Sockets.World.Agrees` — two worlds are the same apart from their journals.
* `Sockets.Handle.Alike` — two handles are the same apart from what they remember, rightly.

## Main results

* `Sockets.Net.Alike.bind`, `Sockets.Handle.Act.Alike.bind` — what is put together from operations
  that run alike runs alike.
* `Sockets.Net.steady_eq`, `Sockets.World.steady_agrees` — to be one world, and to be the same apart
  from the journal, are steady relations.
* `Sockets.Net.Made.alike` — an operation runs alike in worlds that are in a steady relation.
-/

set_option autoImplicit false

namespace Sockets

/-! ## Rules -/

namespace Net

/-- From worlds related by `I`, two operations lead to worlds that are, and their answers are
related by `R`. -/
def Alike {α β : Type} (I : World → World → Prop) (R : α → β → Prop) (x : Net α) (y : Net β) :
    Prop :=
  ∀ v w, I v w → R (x v).1 (y w).1 ∧ I (x v).2 (y w).2

namespace Alike

variable {α β γ δ ε : Type} {I : World → World → Prop} {R : α → β → Prop}

/-- To answer is to leave the worlds as they are. -/
lemma pure {a : α} {b : β} (h : R a b) : Alike I R (Pure.pure a : Net α) (Pure.pure b) :=
  fun _ _ hI => ⟨h, hI⟩

/-- One operation after another. -/
lemma bind {S : γ → δ → Prop} {x : Net α} {y : Net β} {f : α → Net γ} {g : β → Net δ}
    (hx : Alike I R x y) (hf : ∀ a b, R a b → Alike I S (f a) (g b)) :
    Alike I S (x >>= f) (y >>= g) :=
  fun v w hI => hf _ _ (hx v w hI).1 _ _ (hx v w hI).2

/-- One operation after another that gives the same answer in both. -/
lemma bind_same {S : γ → δ → Prop} {x y : Net α} {f : α → Net γ} {g : α → Net δ}
    (hx : Alike I Eq x y) (hf : ∀ a, Alike I S (f a) (g a)) : Alike I S (x >>= f) (y >>= g) := by
  refine hx.bind fun a b hab => ?_
  subst hab
  exact hf a

/-- An operation in one world is itself. -/
lemma self (x : Net α) : Alike Eq Eq x x := by
  rintro v w rfl
  exact ⟨rfl, rfl⟩

/-! ### Operations that may fail -/

/-- One operation after another that ends in the same way in both. -/
lemma run_bind {S : Except ε γ → Except ε δ → Prop} {x y : Attempt ε α} {f : α → Attempt ε γ}
    {g : α → Attempt ε δ} (hx : Alike I Eq x.run y.run)
    (hf : ∀ a, Alike I S (f a).run (g a).run) (herror : ∀ e, S (.error e) (.error e)) :
    Alike I S (x >>= f).run (y >>= g).run := by
  refine bind_same (x := x.run) (f := fun r => (ExceptT.bindCont f r : Net _))
    (g := fun r => (ExceptT.bindCont g r : Net _)) hx fun r => ?_
  cases r with
  | ok a => exact hf a
  | error e => exact .pure (herror e)

/-- An operation that may fail after one that does not, with related answers. -/
lemma run_lift_bind_of {S : Except ε γ → Except ε δ → Prop} {x : Net α} {y : Net β}
    {f : α → Attempt ε γ} {g : β → Attempt ε δ} (hx : Alike I R x y)
    (hf : ∀ a b, R a b → Alike I S (f a).run (g b).run) :
    Alike I S ((liftM x : Attempt ε α) >>= f).run ((liftM y : Attempt ε β) >>= g).run :=
  hx.bind hf

/-- An operation that may fail after one that does not. -/
lemma run_lift_bind {S : Except ε γ → Except ε δ → Prop} {x y : Net α} {f : α → Attempt ε γ}
    {g : α → Attempt ε δ} (hx : Alike I Eq x y) (hf : ∀ a, Alike I S (f a).run (g a).run) :
    Alike I S ((liftM x : Attempt ε α) >>= f).run ((liftM y : Attempt ε α) >>= g).run :=
  bind_same hx hf

end Alike

end Net

/-! ## Handles that remember -/

namespace Endpoint

/-- The end of which nothing is remembered. -/
def forgotten (e : Endpoint) : Endpoint := { address := e.address }

/-- An end of which nothing is remembered is faithful. -/
lemma faithful_forgotten (e : Endpoint) : e.forgotten.Faithful := by
  constructor <;> simp [forgotten]

/-- Asking for the host text leaves the end apart from what is remembered. -/
@[simp] lemma forgotten_host (e : Endpoint) : e.host.2.forgotten = e.forgotten := by
  unfold host
  split <;> rfl

/-- Asking for the port leaves the end apart from what is remembered. -/
@[simp] lemma forgotten_port (e : Endpoint) : e.port.2.forgotten = e.forgotten := by
  unfold port
  split <;> rfl

end Endpoint

namespace Handle

/-- The handle that remembers nothing of the ends of its connection. -/
def bare (h : Handle) : Handle := { h with near := h.near.forgotten, far := h.far.forgotten }

/-- What a handle remembers of the ends of its connection is right. -/
def Faithful (h : Handle) : Prop := h.near.Faithful ∧ h.far.Faithful

/-- Two handles are the same apart from what they remember, and each remembers rightly. -/
structure Alike (g h : Handle) : Prop where
  bare_eq : g.bare = h.bare
  left : g.Faithful
  right : h.Faithful

variable {g h : Handle}

/-- A handle is alike to itself if it remembers rightly. -/
lemma Faithful.alike (hg : g.Faithful) : g.Alike g := ⟨rfl, hg, hg⟩

/-- A handle that remembers rightly is alike to the one that remembers nothing. -/
lemma Faithful.alike_bare (hg : g.Faithful) : g.Alike g.bare :=
  ⟨rfl, hg, g.near.faithful_forgotten, g.far.faithful_forgotten⟩

namespace Alike

/-- What comes from the parts of a handle that are not remembered is the same for both. -/
lemma congr {β : Type} (hgh : g.Alike h) (f : Handle → β) (hf : ∀ i : Handle, f i.bare = f i) :
    f g = f h := by
  rw [← hf g, hgh.bare_eq, hf h]

/-- Handles stay alike in a change that has no part in what they remember. -/
lemma change (hgh : g.Alike h) {f : Handle → Handle} (hf : ∀ i : Handle, (f i).bare = f i.bare)
    (hfaithful : ∀ i : Handle, i.Faithful → (f i).Faithful) : (f g).Alike (f h) :=
  ⟨by rw [hf, hf, hgh.bare_eq], hfaithful g hgh.left, hfaithful h hgh.right⟩

/-- Handles stay alike when both get the same near address. -/
lemma near (hgh : g.Alike h) (a : Address) :
    Handle.Alike { g with near := .ofAddress a } { h with near := .ofAddress a } :=
  hgh.change (f := fun i => { i with near := .ofAddress a }) (fun _ => rfl)
    fun _ hi => ⟨Endpoint.faithful_ofAddress a, hi.2⟩

/-- Handles stay alike when both get the same far address. -/
lemma far (hgh : g.Alike h) (a : Address) :
    Handle.Alike { g with far := .ofAddress a } { h with far := .ofAddress a } :=
  hgh.change (f := fun i => { i with far := .ofAddress a }) (fun _ => rfl)
    fun _ hi => ⟨hi.1, Endpoint.faithful_ofAddress a⟩

end Alike

/-! ### Operations on handles -/

namespace Act

variable {α β : Type} {I : World → World → Prop}

/-- On handles that are alike, in related worlds, two operations end in the same way, and lead to
handles that are alike and to related worlds. -/
def Alike (I : World → World → Prop) (x y : Act α) : Prop :=
  ∀ g h, g.Alike h → Net.Alike I (fun p q => p.1 = q.1 ∧ p.2.Alike q.2) (x.on g) (y.on h)

namespace Alike

/-- To answer is to leave the handles as they are. -/
lemma pure (a : α) : Alike I (Pure.pure a : Act α) (Pure.pure a) :=
  fun _ _ hgh => Net.Alike.pure ⟨rfl, hgh⟩

/-- To fail is to leave the handles as they are. -/
lemma throw (e : Error) : Alike I (MonadExcept.throw e : Act α) (MonadExcept.throw e) :=
  fun _ _ hgh => Net.Alike.pure ⟨rfl, hgh⟩

/-- One operation after another.

**Proof sketch.** The first operations answer the same and lead to handles that look alike. A
failure ends both; an answer is what both go on with. -/
lemma bind {x y : Act α} {f k : α → Act β} (hx : Alike I x y) (hf : ∀ a, Alike I (f a) (k a)) :
    Alike I (x >>= f) (y >>= k) := by
  intro g h hgh v w hI
  obtain ⟨⟨hr, hgh'⟩, hI'⟩ := hx g h hgh v w hI
  rw [on_bind, on_bind]
  generalize x.on g v = out at hr hgh' hI' ⊢
  generalize y.on h w = out' at hr hgh' hI' ⊢
  obtain ⟨⟨r, g'⟩, v'⟩ := out
  obtain ⟨⟨r', h'⟩, w'⟩ := out'
  obtain rfl : r = r' := hr
  cases r with
  | ok a => exact hf a g' h' hgh' v' w' hI'
  | error e => exact ⟨⟨rfl, hgh'⟩, hI'⟩

/-- The handle at hand can be referred to, for what it does not remember. -/
lemma get_bind {f : Handle → Act α} (hbare : ∀ g, f g.bare = f g) (hf : ∀ g, Alike I (f g) (f g)) :
    Alike I (get >>= f) (get >>= f) := by
  intro g h hgh
  have hfg : f g = f h := hgh.congr f hbare
  show Net.Alike I _ ((f g).on g) ((f h).on h)
  rw [hfg]
  exact hf h g h hgh

/-- What stands behind a failure is not done. -/
lemma throw_bind (e : Error) (f k : α → Act β) :
    Alike I (MonadExcept.throw e >>= f) (MonadExcept.throw e >>= k) :=
  fun _ _ hgh => Net.Alike.pure ⟨rfl, hgh⟩

/-- A change of the handles that keeps them alike. -/
lemma modify {f : Handle → Handle} (hf : ∀ g h, g.Alike h → (f g).Alike (f h)) :
    Alike I (MonadState.modifyGet (fun i => ((), f i)) : Act Unit)
      (MonadState.modifyGet fun i => ((), f i)) :=
  fun g h hgh => Net.Alike.pure ⟨rfl, hf g h hgh⟩

/-- An operation on the world leaves the handles as they are. -/
lemma ofNet {x y : Net α} (hx : Net.Alike I Eq x y) : Alike I (Act.ofNet x) (Act.ofNet y) :=
  fun _ _ hgh v w hI => ⟨⟨congrArg Except.ok (hx v w hI).1, hgh⟩, (hx v w hI).2⟩

/-- An operation on the world that may fail leaves the handles as they are. -/
lemma ofAttempt {x y : Attempt Error α} (hx : Net.Alike I Eq x.run y.run) :
    Alike I (Act.ofAttempt x) (Act.ofAttempt y) :=
  fun _ _ hgh v w hI => ⟨⟨(hx v w hI).1, hgh⟩, (hx v w hI).2⟩

/-- The descriptor is not what handles remember. -/
lemma owned : Alike I Handle.owned Handle.owned := by
  refine get_bind (fun _ => rfl) fun g => ?_
  cases g.descriptor with
  | some fd => exact .pure fd
  | none => exact .throw _

end Alike

end Act

end Handle

/-! ## Worlds with other journals -/

namespace Net

/-- A relation between worlds is kept by the things that operations are made of, which give the same
answers in related worlds. -/
structure Steady (I : World → World → Prop) : Prop where
  call : ∀ c, Alike I Eq (syscall c) (syscall c)
  record : ∀ level message, Alike I Eq (record level message) (record level message)
  query : ∀ q, Alike I Eq (note (.query q)) (note (.query q))
  setting : Alike I Eq setting setting
  context : ∀ scope, Alike I Eq (context scope) (context scope)
  takeAnswer : ∀ scope answers, Alike I Eq (takeAnswer scope answers) (takeAnswer scope answers)
  serviceTable : Alike I Eq serviceTable serviceTable

/-- To be one world is a steady relation. -/
lemma steady_eq : Steady Eq :=
  ⟨fun _ => .self _, fun _ _ => .self _, fun _ => .self _, .self _, fun _ => .self _,
    fun _ _ => .self _, .self _⟩

/-- **What operations are made of decides how they run**: in worlds that are in a steady relation
an operation gives the same answer.

**Proof sketch.** By induction on what the operation is made of. The relation is steady, so it is
kept by each of the pieces, and each answers the same. -/
theorem Made.alike {α : Type} {I : World → World → Prop} (hI : Steady I) {kinds : List CallKind}
    {x : Net α} (hx : Made kinds x) : Alike I Eq x x := by
  induction hx with
  | pure a => exact .pure rfl
  | bind _ _ ihx ihf => exact .bind_same ihx ihf
  | syscall c _ => exact hI.call c
  | record level message => exact hI.record level message
  | query q => exact hI.query q
  | setting => exact hI.setting
  | context scope => exact hI.context scope
  | takeAnswer scope answers => exact hI.takeAnswer scope answers
  | serviceTable => exact hI.serviceTable

end Net

/-- Two worlds are the same apart from their journals. -/
def World.Agrees (v w : World) : Prop := ∃ es, w = { v with journal := es }

namespace World.Agrees

variable {u v w : World}

/-- A world agrees with itself. -/
@[refl]
lemma refl (w : World) : w.Agrees w := ⟨w.journal, rfl⟩

/-- Worlds agree with each other. -/
@[symm]
lemma symm (h : v.Agrees w) : w.Agrees v := by
  obtain ⟨es, rfl⟩ := h
  exact ⟨v.journal, rfl⟩

/-- Worlds that agree with the same one agree. -/
lemma trans (h : u.Agrees v) (h' : v.Agrees w) : u.Agrees w := by
  obtain ⟨es, rfl⟩ := h
  obtain ⟨es', rfl⟩ := h'
  exact ⟨es', rfl⟩

/-- A record makes no difference but to the journal. -/
lemma record (h : v.Agrees w) (level : Level) (message : String) :
    v.Agrees (Net.record level message w).2 :=
  h.trans ⟨_, rfl⟩

end World.Agrees

/-- To be the same apart from the journal is a steady relation.

**Proof sketch.** No operation looks at the journal, so each answers the same and adds the same
events. Reading the database of services is the one operation that looks at what the world has. -/
theorem World.steady_agrees : Net.Steady Agrees where
  call := by
    rintro c v _ ⟨es, rfl⟩
    exact ⟨rfl, _, rfl⟩
  record := by
    rintro level message v _ ⟨es, rfl⟩
    exact ⟨rfl, _, rfl⟩
  query := by
    rintro q v _ ⟨es, rfl⟩
    exact ⟨rfl, _, rfl⟩
  setting := by
    rintro v _ ⟨es, rfl⟩
    exact ⟨rfl, _, rfl⟩
  context := by
    rintro scope v _ ⟨es, rfl⟩
    cases scope <;> exact ⟨rfl, _, rfl⟩
  takeAnswer := by
    rintro scope answers v _ ⟨es, rfl⟩
    cases scope <;> exact ⟨rfl, _, rfl⟩
  serviceTable := by
    rintro v _ ⟨es, rfl⟩
    obtain ⟨setting, kernel, journal, nextId, nextConnection, services, sink, own, shared⟩ := v
    cases services with
    | read table => exact ⟨rfl, _, rfl⟩
    | unread content =>
      simp only [Net.serviceTable, bind, StateT.bind, get, getThe, MonadStateOf.get, StateT.get,
        pure]
      cases ServiceBook.table content with
      | ok table => exact ⟨rfl, _, rfl⟩
      | error e => exact ⟨rfl, _, rfl⟩

end Sockets
