import Sockets.Proofs.Advance
import Sockets.Proofs.Lookalikes

/-!
# What handles remember cannot be seen

A handle works the host text and the port of an end out when it is first asked for them, and
remembers them until the end gets another address. Nobody can see that: whatever was done before,
and in whatever order questions and steps come, a handle answers what its addresses give now, as one
would that remembers nothing, and no question changes anything that comes after it.

## Main definitions

* `Sockets.Run.replies` — the replies to some steps.
* `Sockets.Run.repliesAfresh`, `Sockets.Run.stepsAfresh` — the same with handles that remember
  nothing.
* `Sockets.Run.Candid` — nothing that handles remember could be seen in some steps, or can be later.

## Main results

* `Sockets.Run.held_steps` — whatever steps there were, handles are in order.
* `Sockets.Run.memories_unseen` — whatever steps there are, nothing that handles remember can be
  seen.
-/

set_option autoImplicit false

namespace Sockets

/-! ## Replies -/

/-- Whether a step only asks a handle something. -/
def Step.isQuestion : Step → Bool
  | info _ | tell .. => true
  | _ => false

/-- The table with handles that remember nothing of their ends. -/
def Table.forgetful (t : Table) : Table := t.map fun p => (p.1, p.2.bare)

namespace Run

/-- The replies to some steps. -/
def replies (r : Run) : List Step → List Reply
  | [] => []
  | s :: rest => (r.step s).1 :: replies (r.step s).2 rest

/-- The run with handles that remember nothing of their ends. -/
def forgetful (r : Run) : Run := { r with table := r.table.forgetful }

/-- The reply to a step with handles that work everything that they are asked about their ends out
from the addresses that these have then. -/
def replyAfresh (r : Run) : Step → Reply
  | .info name => (r.table.get? name).elim .unknownName fun h => .info h.infoNow
  | .tell name q => (r.table.get? name).elim .unknownName fun h => .told (h.tellNow q)
  | s => (r.step s).1

/-- The replies to some steps with handles that remember nothing from one step to the next. -/
def repliesAfresh (r : Run) : List Step → List Reply
  | [] => []
  | s :: rest => r.replyAfresh s :: repliesAfresh (r.step s).2.forgetful rest

/-- The run after some steps with handles that remember nothing from one step to the next. -/
def stepsAfresh (r : Run) : List Step → Run
  | [] => r
  | s :: rest => stepsAfresh (r.step s).2.forgetful rest

/-- Nothing that handles remember could be seen in some steps of a run, or can be seen later. -/
structure Candid (r : Run) (ss : List Step) : Prop where
  /-- Every handle answers every question from the addresses that it has now. -/
  now : ∀ p ∈ (r.steps ss).table,
    (∀ q, (p.2.tell q).1 = p.2.tellNow q) ∧ p.2.info.1 = p.2.infoNow
  /-- What replies told about ends was what their addresses gave. -/
  rendered : ∀ reply ∈ r.replies ss, reply.Rendered
  /-- All replies were those of handles that remember nothing. -/
  afresh : r.replies ss = r.repliesAfresh ss ∧
    (r.steps ss).forgetful = (r.stepsAfresh ss).forgetful
  /-- A question makes no difference to what comes after it. -/
  unmoved : ∀ s : Step, s.isQuestion = true → ∀ more,
    ((r.steps ss).step s).2.replies more = (r.steps ss).replies more ∧
      (((r.steps ss).step s).2.steps more).forgetful = ((r.steps ss).steps more).forgetful

end Run

/-! ## Tables -/

namespace Table.Alike

variable {t u : Table}

/-- In a table that looks like another one every handle remembers rightly. -/
lemma faithful (htu : t.Alike u) : ∀ p ∈ t, p.2.Faithful := by
  intro p hp
  induction htu with
  | nil => exact nomatch hp
  | cons hpq _ ih =>
    rcases List.mem_cons.1 hp with rfl | hp
    · exact hpq.2.left
    · exact ih hp

/-- A table still looks like another one after one of its handles has only remembered more.

**Proof sketch.** By induction on the tables. The handle under the name is the one that was there,
as names are in order, and with a new memory it still looks like its counterpart. -/
lemma insert_left (htu : t.Alike u) (ht : t.Sorted) {name : String} {g h : Handle}
    (hg : (name, g) ∈ t) (hbare : h.bare = g.bare) (hh : h.Faithful) :
    (t.insert name h).Alike u := by
  induction htu with
  | nil => exact nomatch hg
  | @cons p q t u hpq htu ih =>
    obtain ⟨n, g'⟩ := p
    obtain ⟨m, i⟩ := q
    obtain ⟨rfl, hgi⟩ := hpq
    rcases List.mem_cons.1 hg with heq | hg
    · obtain ⟨rfl, rfl⟩ := Prod.mk.inj heq
      rw [Table.insert, if_pos rfl]
      exact .cons ⟨rfl, hbare.trans hgi.bare_eq, hh, hgi.right⟩ htu
    · have hlt : n < name := ht.lt_of_mem hg
      rw [Table.insert, if_neg (Table.ne_of_before hlt), if_neg (String.lt_asymm hlt)]
      exact .cons ⟨rfl, hgi⟩ (ih ht.tail hg)

/-- A table still looks like another one that forgets. -/
lemma forgetful_right (htu : t.Alike u) : t.Alike u.forgetful := by
  refine List.forall₂_map_right_iff.2 (htu.imp ?_)
  rintro ⟨n, g⟩ ⟨_, h⟩ ⟨rfl, hgh⟩
  exact ⟨rfl, hgh.bare_eq, hgh.left, hgh.right.alike_bare.right⟩

/-- Tables that look alike are the same when they forget. -/
lemma forgetful_eq (htu : t.Alike u) : t.forgetful = u.forgetful := by
  rw [← List.forall₂_eq_eq_eq]
  refine List.forall₂_map_left_iff.2 (List.forall₂_map_right_iff.2 (htu.imp ?_))
  rintro ⟨n, g⟩ ⟨_, h⟩ ⟨rfl, hgh⟩
  rw [hgh.bare_eq]

end Table.Alike

/-! ## Runs -/

namespace Run.Alike

variable {r s : Run}

/-- Runs that look alike are the same when they forget. -/
lemma forgetful_eq (hrs : r.Alike s) : r.forgetful = s.forgetful := by
  unfold forgetful
  rw [hrs.world, hrs.table.forgetful_eq]

/-- A run still looks like another one that forgets. -/
lemma forgetful_right (hrs : r.Alike s) : r.Alike s.forgetful :=
  ⟨hrs.world, hrs.table.forgetful_right⟩

/-- Steps of runs that look alike have the same replies, which tell what addresses give, and lead to
runs that look alike. -/
lemma steps (hrs : r.Alike s) (ss : List Step) :
    r.replies ss = s.replies ss ∧ (∀ reply ∈ r.replies ss, reply.Rendered) ∧
      (r.steps ss).Alike (s.steps ss) := by
  induction ss generalizing r s with
  | nil => exact ⟨rfl, List.forall_mem_nil _, hrs⟩
  | cons x ss ih =>
    obtain ⟨hreply, hrendered, hrs'⟩ := hrs.step x
    obtain ⟨hreplies, hrest, hrs''⟩ := ih hrs'
    exact ⟨congrArg₂ List.cons hreply hreplies, List.forall_mem_cons.2 ⟨hrendered, hrest⟩, hrs''⟩

/-- What handles are asked, they answer as they would if they remembered nothing.

**Proof sketch.** The tables have handles that look alike under a name, or none. Such handles answer
a question alike, and the second has nothing in its memory but what its addresses give, so that its
answer is that of a handle that remembers nothing. -/
lemma replyAfresh_eq (hrs : r.Alike s) (x : Step) : (r.step x).1 = s.replyAfresh x := by
  cases x with
  | info name =>
    have hget := hrs.table.get? name
    simp only [replyAfresh, Run.step, perform, onHandle]
    generalize r.table.get? name = a at hget ⊢
    generalize s.table.get? name = b at hget ⊢
    cases hget with
    | none => rfl
    | some hgh => exact congrArg Reply.info (hgh.info.1.trans (Handle.info_eq hgh.right))
  | tell name q =>
    have hget := hrs.table.get? name
    simp only [replyAfresh, Run.step, perform, onHandle]
    generalize r.table.get? name = a at hget ⊢
    generalize s.table.get? name = b at hget ⊢
    cases hget with
    | none => rfl
    | some hgh => exact congrArg Reply.told ((hgh.tell q).1.trans (Handle.tell_eq hgh.right q))
  | _ => exact (hrs.step _).1

/-- Steps have the same replies as those with handles that remember nothing, and lead to runs that
look alike. -/
lemma stepsAfresh (hrs : r.Alike s) (ss : List Step) :
    r.replies ss = s.repliesAfresh ss ∧ (r.steps ss).Alike (s.stepsAfresh ss) := by
  induction ss generalizing r s with
  | nil => exact ⟨rfl, hrs⟩
  | cons x ss ih =>
    obtain ⟨hreplies, hrs'⟩ := ih (hrs.step x).2.2.forgetful_right
    exact ⟨congrArg₂ List.cons (hrs.replyAfresh_eq x) hreplies, hrs'⟩

/-- A question is answered by a handle, which at most remembers more after it. -/
lemma exists_question {x : Step} (hx : x.isQuestion = true) :
    ∃ (name : String) (f : Handle → Reply × Handle),
      (∀ t, perform t x = onHandle t name fun g => pure ((f g).1, t.insert name (f g).2)) ∧
        ∀ g : Handle, g.Faithful → (f g).2.bare = g.bare ∧ (f g).2.Faithful := by
  cases x with
  | info name =>
    refine ⟨name, fun g => (.info g.info.1, g.info.2), fun _ => rfl, fun g hg => ?_⟩
    obtain ⟨-, -, halike⟩ := hg.alike.info
    exact ⟨by simp [Handle.info_snd], halike.left⟩
  | tell name q =>
    exact ⟨name, fun g => (.told (g.tell q).1, (g.tell q).2), fun _ => rfl,
      fun g hg => ⟨g.bare_tell q, hg.tell q⟩⟩
  | _ => exact nomatch hx

/-- A run still looks like another one after a question. -/
lemma question_left (hrs : r.Alike s) (hr : r.table.Sorted) {x : Step}
    (hx : x.isQuestion = true) : (r.step x).2.Alike s := by
  obtain ⟨name, f, hperform, hf⟩ := exists_question hx
  simp only [Run.step, hperform, onHandle]
  cases hg : r.table.get? name with
  | none => exact hrs
  | some g =>
    have hmem := (Table.get?_eq_some_iff hr).1 hg
    obtain ⟨hbare, hfaithful⟩ := hf g (hrs.table.faithful _ hmem)
    exact ⟨hrs.world, hrs.table.insert_left hr hmem hbare hfaithful⟩

end Run.Alike

namespace Run

/-- Where a run starts there is no handle. -/
lemma alike_start (w : World) : (start w).Alike (start w) := ⟨rfl, .nil⟩

/-- Whatever steps there were, the table is sorted, and every handle owns a descriptor, is
well-formed and remembers rightly. -/
theorem held_steps (w : World) (ss : List Step) :
    ((start w).steps ss).table.Sorted ∧ ∀ p ∈ ((start w).steps ss).table,
      ∃ fd, p.2.descriptor = some fd ∧ p.2.WellFormed ∧ p.2.Faithful := by
  have hsane : ((start w).steps ss).Sane True :=
    (sane_start w).steps _ fun _ _ _ => trivial
  obtain ⟨H, -, hA⟩ := hsane
  refine ⟨hA.sorted, fun p hp => ?_⟩
  obtain ⟨fd, hfd, hwf, -⟩ := hA.held p hp
  exact ⟨fd, hfd, hwf, ((alike_start w).steps ss).2.2.table.faithful p hp⟩

/-- **What handles remember cannot be seen.** However steps and questions follow each other from
where a run starts, every handle answers what its addresses give now, all replies so far were those
of handles that remember nothing, and no question makes a difference to what comes after it.

**Proof sketch.** The run and the one in which handles forget look alike from the start, and steps
keep them so. In tables that look alike every handle remembers rightly, so its answers are those of
its addresses. A question leaves tables that look alike with those before it, so what comes after it
cannot tell. -/
theorem memories_unseen (w : World) (ss : List Step) : (start w).Candid ss := by
  obtain ⟨-, hrendered, hr⟩ := (alike_start w).steps ss
  obtain ⟨hafresh, hrs⟩ := (alike_start w).stepsAfresh ss
  refine ⟨fun p hp => ?_, hrendered, ⟨hafresh, hrs.forgetful_eq⟩, ?_⟩
  · have hp' := hr.table.faithful p hp
    exact ⟨Handle.tell_eq hp', Handle.info_eq hp'⟩
  · intro s hs more
    obtain ⟨hreplies, -, hlast⟩ := (hr.question_left (held_steps w ss).1 hs).steps more
    exact ⟨hreplies, hlast.forgetful_eq⟩

/-- A handle that has told its destination tells the new one when it got another. -/
example : (((start {}).replies [.bind "u" .own (some "127.0.0.1") "5000" .udp {},
    .tell "u" .farHost, .setDestination "u" (.inet ⟨10, 0, 0, 1⟩ 7000), .tell "u" .farHost,
    .reconnect "u" .own "10.0.0.2" "6000", .tell "u" .farHost]).filterMap fun
      | .told a => some a
      | _ => none) = [.host none, .host (some "10.0.0.1"), .host (some "10.0.0.2")] := by
  decide +kernel

end Run

end Sockets
