import Sockets.Proofs.Accounts
import Sockets.Proofs.NewHandles
import Sockets.Run.Step

/-!
# Steps and the accounts

Whatever a step of a run does, the handles that are alive after it account for the books. This
module shows that for every step, together with what becomes of the handles that are alive, and
from that what holds all along a run.

## Main definitions

* `Sockets.Step.names`, `Sockets.Step.shape`, `Sockets.Step.ends` — the handles that a step makes,
  and those whose life it ends.
* `Sockets.Advanced` — how a step leaves the books and the table.
* `Sockets.Run.start`, `Sockets.Run.Sane` — where runs start, and what holds all along.

## Main results

* `Sockets.Run.leads_perform` — what a step preserves.
* `Sockets.Run.Sane.steps` — what a run preserves.
* `Sockets.Run.Sane.goes_on` — a handle goes on until its life is ended.
-/

set_option autoImplicit false

namespace Sockets

open Net (Leads)

/-! ## What steps do to handles -/

/-- A reply says that a handle could not be made. -/
def Reply.isFailure : Reply → Bool
  | failed _ => true
  | _ => false

namespace Step

/-- A step that joins or leaves a group on the descriptor of a handle, behind the back of the
handle. -/
def isRaw : Step → Bool
  | joinRaw .. | leaveRaw .. => true
  | _ => false

/-- The names that a step with some reply gives to handles that it makes. -/
def names : Step → Reply → List String
  | connect as .., .opened | bind as .., .opened | build as .., .opened | accept as .., .opened =>
    [as]
  | socketpair first second, .paired _ => [first, second]
  | _, _ => []

/-- The shape of the handles that a step makes, where some are alive before it. -/
def shape (t : Table) : Step → Handle → Prop
  | connect _ _ _ _ p flags, h => h.Connected p flags.tls
  | bind _ _ _ _ p flags, h => h.Bound p flags.tls
  | build _ b (.connect ..), h => h.Connected b.protocol b.flags.tls
  | build _ b (.bind ..), h | build _ b (.listen ..), h => b.Receiving h
  | accept _ _ name, h => ∃ l, (name, l) ∈ t ∧ h.Connected l.protocol l.flags.tls ∧
      h.flags.joined = false
  | socketpair .., h => h.Paired
  | _, _ => False

/-- A step with some reply ends the life of the handle of a name: it is closed or dropped, or a new
handle gets its name. -/
def ends (name : String) (s : Step) (reply : Reply) : Prop :=
  s = .close name ∨ s = .drop name ∨ name ∈ s.names reply

/-- A step that fails to make a handle gives no names. -/
@[simp] lemma names_failed (s : Step) (e : Error) : s.names (.failed e) = [] := by
  cases s <;> rfl

/-- A step on a handle that there is not gives no names. -/
@[simp] lemma names_unknownName (s : Step) : s.names .unknownName = [] := by
  cases s <;> rfl

/-- A step that operates on a handle gives no names. -/
@[simp] lemma names_ended (s : Step) (result : Except Error Unit) :
    s.names (.ended result) = [] := by
  cases s <;> rfl

end Step

/-- How a step leaves the books and the table: the handles still account for the books, which a
failure to make a handle leaves as they were, a handle that was made has the shape that the step
gives it, and one whose life was not ended goes on under its name. -/
structure Advanced (stray : Prop) (H : Holdings) (t : Table) (s : Step) (out : Reply × Table)
    (w : World) : Prop where
  accounts : ∃ H', Books stray w H' ∧ Accounted H' out.2 ∧ (out.1.isFailure = true → H' = H)
  made : ∀ name ∈ s.names out.1, ∃ h, (name, h) ∈ out.2 ∧ s.shape t h
  goes_on : ∀ p ∈ t, ¬ s.ends p.1 out.1 → ∃ h, (p.1, h) ∈ out.2 ∧ p.2.Same h

namespace Run

variable {α : Type} {stray : Prop} {H K : Holdings} {t : Table} {name : String} {g h : Handle}
  {fd : Descriptor} {s : Step} {reply : Reply} {w : World}

/-! ## Storing handles -/

/-- A handle of the table is tended as it is. -/
lemma tended_of_mem (hA : Accounted H t) (hg : (name, g) ∈ t) (hfd : g.descriptor = some fd)
    (hw : Books stray w K) (hK : K fd = H fd) : Handle.Tended stray K fd g g w := by
  obtain ⟨fd', hfd', hwf, hH⟩ := hA.held _ hg
  obtain rfl := Option.some.inj (hfd.symm.trans hfd')
  refine ⟨hfd, hwf, .refl g, ?_⟩
  rwa [Function.update_eq_self_iff.2 (hK.trans hH).symm]

/-- Storing a new handle under a name, where there is more on the books than the table accounts for:
the handle that had the name is off the books then, and the new one is in the table.

**Proof sketch.** If nothing has the name there is nothing to drop. If a handle has it, that is torn
down, which takes its descriptor off the books (`Handle.leads_drop`). It is not the new descriptor,
on which nothing was held before. -/
lemma leads_store (hA : Accounted H t) (hnone : H fd = none) (hfd : h.descriptor = some fd)
    (hwf : h.WellFormed) (hK : ∀ fd', (H fd').isSome = true → K fd' = H fd') :
    Leads (fun w => Books stray w K) (store t name h) fun u w =>
      u = t.insert name h ∧ ∃ o : Option Descriptor, (∀ fd', o = some fd' → (H fd').isSome = true) ∧
        Accounted (Function.update (H.release o) fd (some h.holding)) (t.insert name h) ∧
          Books stray w (K.release o) := by
  unfold store
  cases hg : t.get? name with
  | none =>
    refine .bind (.pure _ fun _ hw => hw) fun _ => .pure _ fun w hw => ⟨rfl, none, nofun, ?_, hw⟩
    exact hA.insert (fun p hp => Table.ne_of_get?_eq_none hA.sorted hg hp) hnone hfd hwf
  | some g =>
    have hmem := (Table.get?_eq_some_iff hA.sorted).1 hg
    obtain ⟨old, hold, -, hH⟩ := hA.held _ hmem
    have hsome : (H old).isSome = true := by rw [hH]; rfl
    refine .bind (R := fun _ w => Books stray w (Function.update K old none)) ?_
      fun _ => .pure _ fun w hw => ⟨rfl, some old, ?_, ?_, hw⟩
    · exact fun w hw => Handle.leads_drop w (tended_of_mem hA hmem hold hw (hK old hsome))
    · rintro _ ⟨⟩
      exact hsome
    · have hne : fd ≠ old := (H.ne_of_isSome hsome hnone).symm
      exact hA.replace hmem hold (by rw [Function.update_of_ne hne, hnone]) hfd hwf

/-- Storing a new handle under a name, where the table accounts for the rest of the books. -/
lemma leads_storeNew (hA : Accounted H t) (hnone : H fd = none) (hfd : h.descriptor = some fd)
    (hwf : h.WellFormed) :
    Leads (fun w => Books stray w (Function.update H fd (some h.holding))) (store t name h)
      fun u w => u = t.insert name h ∧ ∃ H', Accounted H' (t.insert name h) ∧ Books stray w H' := by
  refine (leads_store hA hnone hfd hwf fun fd' hfd' => ?_).weaken (fun _ hw => hw) ?_
  · exact Function.update_of_ne (H.ne_of_isSome hfd' hnone) ..
  · rintro u w ⟨rfl, o, ho, hA', hw⟩
    rw [H.release_update fun heq => H.ne_of_isSome (ho fd heq) hnone rfl] at hw
    exact ⟨rfl, _, hA', hw⟩

/-! ## Parts of steps -/

/-- A step that leaves the books and the table. -/
lemma advanced_self (hA : Accounted H t) (hB : Books stray w H) (hs : s.names reply = []) :
    Advanced stray H t s (reply, t) w :=
  ⟨⟨H, hB, hA, fun _ => rfl⟩, by simp [hs], fun p hp _ => ⟨p.2, hp, .refl p.2⟩⟩

/-- A step after which the handle of a name goes on as another one. -/
lemma advanced_change (hA : Accounted H t) (hg : (name, g) ∈ t) (hfd : g.descriptor = some fd)
    (hh : Handle.Tended stray H fd g h w) (hr : reply.isFailure = false)
    (hs : s.names reply = []) :
    Advanced stray H t s (reply, t.insert name h) w := by
  refine ⟨⟨_, hh.books, hA.change hg hfd hh.descriptor_eq hh.wellFormed, ?_⟩, by simp [hs],
    fun p hp _ => ?_⟩
  · simp [hr]
  by_cases hname : p.1 = name
  · subst hname
    obtain rfl : p.2 = g := hA.sorted.eq_of_mem hp hg
    exact ⟨h, (Table.mem_insert hA.sorted).2 (.inl rfl), hh.same⟩
  · exact ⟨p.2, (Table.mem_insert hA.sorted).2 (.inr ⟨hp, hname⟩), .refl p.2⟩

/-- A step that ends the life of the handle of a name. -/
lemma advanced_erase (hA : Accounted H t) (hg : (name, g) ∈ t) (hfd : g.descriptor = some fd)
    (hB : Books stray w (Function.update H fd none)) (hr : reply.isFailure = false)
    (he : s.ends name reply) (hs : s.names reply = []) :
    Advanced stray H t s (reply, t.erase name) w := by
  refine ⟨⟨_, hB, hA.erase hg hfd, by simp [hr]⟩, by simp [hs], fun p hp hne => ?_⟩
  refine ⟨p.2, Table.mem_erase.2 ⟨hp, ?_⟩, .refl p.2⟩
  rintro rfl
  exact hne he

/-- What may be done with a handle on the books may be done with the handle of a name. -/
lemma leads_tended {x : Net α} {Q : α → World → Prop} (hA : Accounted H t) (hg : (name, g) ∈ t)
    (hfd : g.descriptor = some fd) (hx : Leads (Handle.Tended stray H fd g g) x Q) :
    Leads (fun w => Books stray w H) x Q :=
  hx.weaken (fun _ hw => tended_of_mem hA hg hfd hw rfl) fun _ _ hw => hw

/-- A step on the handle of a name. -/
lemma leads_onHandle {f : Handle → Net (Reply × Table)} (hA : Accounted H t)
    (hf : ∀ g fd, (name, g) ∈ t → g.descriptor = some fd →
      Leads (fun w => Books stray w H) (f g) (Advanced stray H t s)) :
    Leads (fun w => Books stray w H) (onHandle t name f) (Advanced stray H t s) := by
  unfold onHandle
  cases hg : t.get? name with
  | none => exact .pure _ fun w hw => advanced_self hA hw s.names_unknownName
  | some g =>
    have hmem := (Table.get?_eq_some_iff hA.sorted).1 hg
    obtain ⟨fd, hfd, -, -⟩ := hA.held _ hmem
    exact hf g fd hmem hfd

/-- A step that operates on the handle of a name. -/
lemma leads_change {x : Handle.Act Unit} (hA : Accounted H t) (hg : (name, g) ∈ t)
    (hfd : g.descriptor = some fd) (hx : Leads (Handle.Tended stray H fd g g) (x.on g)
      fun q w => Handle.Tended stray H fd g q.2 w) :
    Leads (fun w => Books stray w H) (change t name g x) (Advanced stray H t s) := by
  refine .bind (leads_tended hA hg hfd hx) fun q => ?_
  obtain ⟨result, h⟩ := q
  exact .pure _ fun w hw => advanced_change hA hg hfd hw rfl (s.names_ended _)

/-- A step that transfers data on the handle of a name. -/
lemma leads_transfer {x : Net (Transfer α)} {reply : Transfer α → Reply} (hA : Accounted H t)
    (hg : (name, g) ∈ t) (hfd : g.descriptor = some fd)
    (hx : Leads (Handle.Tended stray H fd g g) x fun d w => Handle.Tended stray H fd g d.handle w)
    (hr : ∀ d, (reply d).isFailure = false) (hs : ∀ d, s.names (reply d) = []) :
    Leads (fun w => Books stray w H) (transfer t name x reply) (Advanced stray H t s) :=
  .bind (leads_tended hA hg hfd hx) fun d =>
    .pure _ fun _ hw => advanced_change hA hg hfd hw (hr d) (hs d)

/-- A step that leaves the books and the table. -/
lemma leads_aside {x : Net α} {reply : α → Reply} (hA : Accounted H t)
    (hx : Leads (fun w => Books stray w H) x fun _ w => Books stray w H)
    (hs : ∀ a, s.names (reply a) = []) :
    Leads (fun w => Books stray w H) (do let a ← x; pure (reply a, t))
      (Advanced stray H t s) :=
  .bind hx fun a => .pure _ fun _ hw => advanced_self hA hw (hs a)

/-- A step that opens a handle under a name.

**Proof sketch.** A failure leaves the books and the table. A handle that was made is on a
descriptor that was not on the books, and storing it under the name makes the table account for it;
the other handles are the same, but for one that had the name. -/
lemma leads_openAs {x : Attempt Error Handle} (hA : Accounted H t)
    (hx : Leads (fun w => Books stray w H) x.run (Handle.Made stray H (s.shape t)))
    (hs : s.names .opened = [name]) :
    Leads (fun w => Books stray w H) (openAs t name x) (Advanced stray H t s) := by
  refine .bind hx fun r => ?_
  cases r with
  | error e => exact .pure _ fun w hw => advanced_self hA hw (s.names_failed e)
  | ok h =>
    refine .of_and fun hshape => .of_exists fun fd => .of_and fun hnone => ?_
    refine .assuming (φ := h.descriptor = some fd ∧ h.WellFormed)
      (fun w hw => ⟨hw.descriptor_eq, hw.wellFormed⟩) fun ⟨hfd, hwf⟩ => ?_
    refine .bind ((leads_storeNew hA hnone hfd hwf).weaken (fun w hw => hw.books)
      fun _ _ hw => hw) fun u => .of_and ?_
    rintro rfl
    refine .pure _ fun w ⟨H', hA', hw⟩ => ⟨⟨H', hw, hA', by simp [Reply.isFailure]⟩, ?_,
      fun p hp hne => ?_⟩
    · simp only [hs, List.forall_mem_singleton]
      exact ⟨h, (Table.mem_insert hA.sorted).2 (.inl rfl), hshape⟩
    · refine ⟨p.2, (Table.mem_insert hA.sorted).2 (.inr ⟨hp, ?_⟩), .refl p.2⟩
      rintro rfl
      exact hne (.inr (.inr (by simp [hs])))

/-- A step that opens a pair of handles under two names.

**Proof sketch.** The two handles are stored one after the other. While the first is stored the
books are ahead of the table by the second descriptor, so storing is done on books with more on them
than the table accounts for (`leads_store`). If the names are the same, the first handle is dropped
when the second is stored. -/
lemma leads_openPair {first second : String} (hA : Accounted H t)
    (hs : s = .socketpair first second) :
    Leads (fun w => Books stray w H) (openPair t first second) (Advanced stray H t s) := by
  subst hs
  refine .bind Net.leads_socketpair fun r => ?_
  cases r with
  | error e => exact .pure _ fun w hw => advanced_self hA hw rfl
  | ok q =>
    obtain ⟨g, h⟩ := q
    refine .of_and fun ⟨hgshape, hhshape⟩ => .of_exists fun a => .of_exists fun b => .of_and ?_
    rintro ⟨hab, ha, hb⟩
    refine .assuming (φ := (g.descriptor = some a ∧ g.WellFormed) ∧
      (h.descriptor = some b ∧ h.WellFormed)) (fun w hw => ?_) ?_
    · exact ⟨⟨hw.1.descriptor_eq, hw.1.wellFormed⟩, hw.2.descriptor_eq, hw.2.wellFormed⟩
    rintro ⟨⟨hga, hgwf⟩, hhb, hhwf⟩
    -- The second descriptor is on the books while the first handle is stored.
    refine .bind ((leads_store (K := Function.update (Function.update H b (some h.holding)) a
      (some g.holding)) hA ha hga hgwf fun fd' hfd' => ?_).weaken
      (fun w hw => hw.1.books) fun _ _ hw => hw) fun u => .of_and ?_
    · rw [Function.update_of_ne, Function.update_of_ne]
      · exact H.ne_of_isSome hfd' hb
      · exact H.ne_of_isSome hfd' ha
    rintro rfl
    refine .of_exists fun o => .of_and fun ho => .of_and fun hA' => ?_
    have hoa : o ≠ some a := fun heq => H.ne_of_isSome (ho a heq) ha rfl
    have hob : o ≠ some b := fun heq => H.ne_of_isSome (ho b heq) hb rfl
    rw [Holdings.release_update _ hoa, Holdings.release_update _ hob, Function.update_comm hab.symm]
    refine .bind (leads_storeNew hA' ?_ hhb hhwf) fun u => .of_and ?_
    · rw [Function.update_of_ne hab.symm]
      exact H.release_eq_none hb o
    rintro rfl
    refine .pure _ fun w ⟨H', hA'', hw⟩ => ⟨⟨H', hw, hA'', by simp [Reply.isFailure]⟩,
      fun name hname => ?_, fun p hp hne => ?_⟩
    · by_cases hsecond : name = second
      · subst hsecond
        exact ⟨h, (Table.mem_insert hA'.sorted).2 (.inl rfl), hhshape⟩
      · obtain rfl : name = first := by simpa [Step.names, hsecond] using hname
        refine ⟨g, (Table.mem_insert hA'.sorted).2 (.inr ⟨?_, hsecond⟩), hgshape⟩
        exact (Table.mem_insert hA.sorted).2 (.inl rfl)
    · have hnames : p.1 ≠ first ∧ p.1 ≠ second := by
        simpa [Step.ends, Step.names, not_or] using hne
      refine ⟨p.2, ?_, .refl p.2⟩
      rw [Table.mem_insert hA'.sorted, Table.mem_insert hA.sorted]
      exact .inr ⟨.inr ⟨hp, hnames.1⟩, hnames.2⟩

/-! ## Steps -/

/-- Something that happens in the kernel and is not a system call leaves the books. -/
lemma leads_happen {f : Kernel → Kernel} (hd : ∀ k, (f k).descriptors = k.descriptors)
    (hn : ∀ k, (f k).nextDescriptor = k.nextDescriptor) :
    Leads (fun w => Books stray w H) (happen f) fun _ w => Books stray w H :=
  fun _ hw => hw.aside rfl (hd _) (hn _)

/-- Something that happens to the descriptor of a handle leaves the books. -/
lemma leads_happenOn {f : Kernel → Descriptor → Kernel}
    (hd : ∀ k fd, (f k fd).descriptors = k.descriptors)
    (hn : ∀ k fd, (f k fd).nextDescriptor = k.nextDescriptor) :
    Leads (fun w => Books stray w H) (happenOn h f) fun _ w => Books stray w H := by
  unfold happenOn
  split
  · exact leads_happen (fun k => hd k _) fun k => hn k _
  · exact .pure _ fun _ hw => hw

/-- An operation on the descriptor of a handle. -/
lemma leads_onDescriptor {f : Descriptor → Attempt Error α}
    (hf : ∀ fd, Leads (fun w => Books stray w H) (f fd).run fun _ w => Books stray w H) :
    Leads (fun w => Books stray w H) (onDescriptor h f) fun _ w => Books stray w H := by
  unfold onDescriptor
  split
  · exact hf _
  · exact .pure _ fun _ hw => hw

/-- The last step of a builder makes a handle of the shape for it, or leaves the books. -/
lemma leads_lastStep (as : String) (b : Builder) (last : BuilderEnd) :
    Leads (fun w => Books stray w H) (lastStep b last).run
      (Handle.Made stray H (Step.shape t (.build as b last))) := by
  cases last with
  | connect host service => exact b.leads_connect host service
  | bind host service => exact b.leads_bind host service
  | listen host service => exact b.leads_listen host service

/-- **Every step** keeps the accounts, whatever fails on the way. Groups may go astray only where it
joins or leaves one behind the back of a handle.

**Proof sketch.** By cases on the step. Those that open handles store what is made; those that
change a handle tend it (`leads_change`), transfers and questions among them; closing and dropping
take it out; and what is left does nothing that the books keep. Only the calls behind the back of a
handle need that groups may go astray. -/
theorem leads_perform (hA : Accounted H t) (s : Step) (hs : s.isRaw = true → stray) :
    Leads (fun w => Books stray w H) (perform t s) (Advanced stray H t s) := by
  cases s with
  | connect as scope host service p flags =>
    exact leads_openAs hA (Net.leads_connect scope host service p flags) rfl
  | bind as scope host service p flags =>
    exact leads_openAs hA (Net.leads_bind scope host service p flags) rfl
  | build as b last => exact leads_openAs hA (leads_lastStep as b last) rfl
  | accept as scope name =>
    refine leads_onHandle hA fun l fd hl _ => leads_openAs hA ?_ rfl
    refine (Net.leads_accept scope l).weaken (fun _ hw => hw) fun r w hw => ?_
    cases r with
    | error e => exact hw
    | ok h => exact ⟨⟨l, hl, hw.1⟩, hw.2⟩
  | socketpair first second => exact leads_openPair hA rfl
  | reconnect name scope host service =>
    exact leads_onHandle hA fun g fd hg hfd =>
      leads_change hA hg hfd (Handle.leads_reconnect scope host service)
  | setDestination name a =>
    exact leads_onHandle hA fun g fd hg hfd =>
      leads_change hA hg hfd (Handle.leads_setDestination a)
  | joinGroup name group interface =>
    exact leads_onHandle hA fun g fd hg hfd =>
      leads_change hA hg hfd (Handle.leads_joinGroup group interface)
  | listen name scope =>
    exact leads_onHandle hA fun g fd hg hfd =>
      leads_aside hA (Books.leads_within (Net.made_listen scope g).only (by decide)) fun _ => rfl
  | close name =>
    refine leads_onHandle hA fun g fd hg hfd =>
      .bind (leads_tended hA hg hfd Handle.leads_close) fun _ => .pure _ fun w hw => ?_
    exact advanced_erase hA hg hfd hw rfl (.inl rfl) rfl
  | drop name =>
    refine leads_onHandle hA fun g fd hg hfd =>
      .bind (leads_tended hA hg hfd Handle.leads_drop) fun _ => .pure _ fun w hw => ?_
    exact advanced_erase hA hg hfd hw rfl (.inr (.inl rfl)) rfl
  | info name =>
    refine leads_onHandle hA fun g fd hg hfd => leads_tended hA hg hfd (.pure _ fun w hw => ?_)
    exact advanced_change hA hg hfd (hw.moved _ _) rfl rfl
  | tell name q =>
    refine leads_onHandle hA fun g fd hg hfd => leads_tended hA hg hfd (.pure _ fun w hw => ?_)
    obtain ⟨near, far, hmoved⟩ := g.exists_moved_tell q
    rw [hmoved]
    exact advanced_change hA hg hfd (hw.moved near far) rfl rfl
  | read name buffer side flags =>
    exact leads_onHandle hA fun g fd hg hfd =>
      leads_transfer hA hg hfd (Handle.leads_read buffer side flags) (fun _ => rfl) fun _ => rfl
  | readVec name length side flags =>
    exact leads_onHandle hA fun g fd hg hfd =>
      leads_transfer hA hg hfd (Handle.leads_readVec length side flags) (fun _ => rfl)
        fun _ => rfl
  | write name data side flags =>
    exact leads_onHandle hA fun g fd hg hfd =>
      leads_transfer hA hg hfd (Handle.leads_write data side flags) (fun _ => rfl) fun _ => rfl
  | joinRaw name group interface =>
    exact leads_onHandle hA fun g fd hg hfd => leads_aside hA (leads_onDescriptor fun fd =>
      Membership.leads_join_astray (hs rfl) group interface) fun _ => rfl
  | leaveRaw name group =>
    exact leads_onHandle hA fun g fd hg hfd => leads_aside hA (leads_onDescriptor fun fd =>
      Membership.leads_leave_astray (hs rfl) group) fun _ => rfl
  | compare first second =>
    exact leads_onHandle hA fun g fd hg hfd =>
      leads_onHandle hA fun g' fd' hg' hfd' => .pure _ fun _ hw => advanced_self hA hw rfl
  | feed name item =>
    exact leads_onHandle hA fun g fd hg hfd => leads_aside hA
      (leads_happenOn (fun k fd => k.descriptors_feed fd item) fun _ _ => rfl) fun _ => rfl
  | finish name =>
    exact leads_onHandle hA fun g fd hg hfd => leads_aside hA
      (leads_happenOn (fun k fd => k.descriptors_finish fd) fun _ _ => rfl) fun _ => rfl
  | script s =>
    exact leads_aside hA (leads_happen (fun k => k.descriptors_amend s) fun _ => rfl) fun _ => rfl

/-! ## Runs -/

/-- Where a run starts in a world: nothing is open and nothing has happened yet. -/
def start (w : World) : Run :=
  ⟨{ w with kernel := { w.kernel with sockets := [] }, journal := [] }, []⟩

/-- What holds all along a run: the handles that are alive account for the books. -/
def Sane (stray : Prop) (r : Run) : Prop :=
  ∃ H, Books stray r.world H ∧ Accounted H r.table

/-- A run starts sanely. -/
lemma sane_start (w : World) : (start w).Sane stray :=
  ⟨_, .start rfl rfl, .nil⟩

/-- What a step leads to. -/
lemma advanced_step {r : Run} (hB : Books stray r.world H) (hA : Accounted H r.table) (s : Step)
    (hs : s.isRaw = true → stray) :
    Advanced stray H r.table s ((r.step s).1, (r.step s).2.table) (r.step s).2.world :=
  leads_perform hA s hs r.world hB

/-- A run stays sane in a step. -/
lemma Sane.step {r : Run} (hr : r.Sane stray) (s : Step) (hs : s.isRaw = true → stray) :
    (r.step s).2.Sane stray := by
  obtain ⟨H, hB, hA⟩ := hr
  obtain ⟨H', hB', hA', -⟩ := (advanced_step hB hA s hs).accounts
  exact ⟨H', hB', hA'⟩

/-- **A run stays sane** all along.

**Proof sketch.** By induction on the steps, with the accounts after each of them (`leads_perform`)
as the invariant. -/
theorem Sane.steps {r : Run} (hr : r.Sane stray) (ss : List Step)
    (hs : ∀ s ∈ ss, s.isRaw = true → stray) : (r.steps ss).Sane stray := by
  induction ss generalizing r with
  | nil => exact hr
  | cons s ss ih =>
    rw [List.forall_mem_cons] at hs
    exact ih (hr.step s hs.1) hs.2

/-- No step of some further ones ends the life of the handle of a name. -/
def Spares (name : String) (r : Run) : List Step → Prop
  | [] => True
  | s :: rest => ¬ s.ends name (r.step s).1 ∧ Spares name (r.step s).2 rest

/-- **A handle goes on** under its name as long as no step ends its life.

**Proof sketch.** By induction on the steps. A step that does not end the life of the handle leaves
one of the same kind under its name, and being of the same kind is transitive. -/
theorem Sane.goes_on {r : Run} (hr : r.Sane True) {name : String} {g : Handle}
    (hg : (name, g) ∈ r.table) {ss : List Step} (hs : Spares name r ss) :
    ∃ h, (name, h) ∈ (r.steps ss).table ∧ g.Same h := by
  induction ss generalizing r g with
  | nil => exact ⟨g, hg, .refl g⟩
  | cons s ss ih =>
    obtain ⟨H, hB, hA⟩ := hr
    obtain ⟨h, hh, hgh⟩ := (advanced_step hB hA s fun _ => trivial).goes_on _ hg hs.1
    obtain ⟨i, hi, hhi⟩ := ih (Sane.step ⟨H, hB, hA⟩ s fun _ => trivial) hh hs.2
    exact ⟨i, hi, hgh.trans hhi⟩

end Run

end Sockets
