import Sockets.Proofs.SessionSteps

/-!
# The ledger of sessions

Every session that a provider gives is given for one descriptor, which was just opened, and is used
on that descriptor alone: it is read from and written to while the handle that has it is alive, and
when the descriptor is about to be closed it is shut down, once, whether its handle is closed,
dropped, replaced or never came to be. Where there is no session to be had, the descriptor is closed
and nothing comes of it.

## Main definitions

* `Sockets.World.talk`, `Sockets.World.course` — what was said on a descriptor, and what was done to
  it.
* `Sockets.World.InUse`, `Sockets.World.Retired`, `Sockets.World.Refused` — how it may stand between
  a session and its descriptor.
* `Sockets.Run.grants` — the sessions that providers gave in the steps of a run.
* `Sockets.Run.Attended` — all of them are in use or retired.
* `Sockets.Run.Negotiated` — what asking for a session comes to in a step.

## Main results

* `Sockets.Lived.course_eq`, `Sockets.World.deeds_eq` — what was done to a descriptor, by what was
  said on it.
* `Sockets.Run.finish_eq_steps` — dropping the handles that are left is a step for each.
* `Sockets.Run.attended_steps` — the ledger of sessions.
-/

set_option autoImplicit false

namespace Sockets

open Dealing (talk)

/-! ## What was said, and what was done -/

/-- Whether a deed is about a session. -/
def Deed.isSession : Deed → Bool
  | secured | used | shut => true
  | _ => false

/-- What a deed does to groups it does not do to sessions. -/
lemma Deed.isSession_of_isMembership {d : Deed} (h : d.isMembership = true) :
    d.isSession = false := by
  cases d <;> simp_all [isMembership, isSession]

/-- What is done by some calls of a session or its provider. -/
def TlsCall.deeds (calls : List (TlsCall × TlsOutcome)) : List Deed :=
  calls.filterMap fun p => p.1.deed? p.2

namespace TlsCall

variable {c : TlsCall} {calls : List (TlsCall × TlsOutcome)}

/-- A negotiation secures the descriptor. -/
lemma deeds_secured (hc : c.negotiates = true) (g : Tls.Session) :
    deeds ((c, .secured g) :: calls) = .secured :: deeds calls :=
  List.filterMap_cons_some (deed?_secured hc g)

/-- A negotiation that fails does nothing. -/
lemma deeds_failed (hc : c.negotiates = true) : deeds [(c, .failed)] = [] :=
  List.filterMap_cons_none (deed?_failed hc)

end TlsCall

/-- Calls that a session serves use it. -/
lemma Tls.Session.Serves.deeds_eq {g s : Tls.Session} {calls : List (TlsCall × TlsOutcome)}
    (h : g.Serves calls s) : TlsCall.deeds calls = List.replicate calls.length .used := by
  induction h with
  | nil => rfl
  | snoc _ hu ih =>
    rw [TlsCall.deeds, List.filterMap_append, ← TlsCall.deeds, ih, List.length_append,
      List.length_singleton, List.replicate_succ']
    cases hu <;> rfl

namespace World

/-- What was said on a descriptor so far. -/
def talk (w : World) (fd : Descriptor) : List (TlsCall × TlsOutcome) := Dealing.talk w.dealings fd

/-- The course that a descriptor took so far: what was done to it, apart from groups. -/
def course (w : World) (fd : Descriptor) : List Deed :=
  (w.life fd).filter fun d => !d.isMembership

end World

/-- A call of a session or its provider does nothing that is not about sessions. -/
lemma TlsCall.isSession_of_deed? {c : TlsCall} {outcome : TlsOutcome} {d : Deed}
    (h : c.deed? outcome = some d) : d.isSession = true := by
  cases c with
  | client | server =>
    cases outcome with
    | secured s =>
      obtain rfl := Option.some.inj h
      rfl
    | done | moved | failed => exact nomatch h
  | read | write | shutdown =>
    obtain rfl := Option.some.inj h
    rfl

/-- A system call does nothing to sessions. -/
lemma Event.isSession_of_call {c : Call} {outcome : Except Int c.Answer} {fd : Descriptor}
    {d : Deed} (h : (call c outcome).target? = some (fd, d)) : d.isSession = false := by
  cases c with
  | setsockopt on option =>
    obtain ⟨d', hd, heq⟩ := Option.map_eq_some_iff.1 h
    obtain ⟨-, rfl⟩ := Prod.mk.inj heq
    exact Deed.isSession_of_isMembership (SocketOption.isMembership_of_deed? hd)
  | close on =>
    obtain ⟨-, rfl⟩ := Prod.mk.inj (Option.some.inj h)
    rfl
  | _ => exact absurd h.symm (Option.some_ne_none _)

/-- What an event does to a descriptor in the matter of sessions is done by calls of them.

**Proof sketch.** By cases on the event. A call to a session is a deed on its descriptor just if it
is one at all, and that is a deed about sessions. A system call may be a deed, but not one about
sessions; nothing else is a deed. -/
lemma Event.session_deed?_eq (e : Event) (fd : Descriptor) :
    (e.deed? fd).filter Deed.isSession = (e.dealing?.bind fun d =>
      if d.on = fd then some (d.call, d.outcome) else none).bind fun p => p.1.deed? p.2 := by
  cases e with
  | tls other c outcome =>
    cases hc : c.deed? outcome with
    | none => by_cases hfd : other = fd <;> simp [deed?, opens, target?, dealing?, hc, hfd]
    | some d =>
      have hd := TlsCall.isSession_of_deed? hc
      by_cases hfd : other = fd <;> simp [deed?, opens, target?, dealing?, hc, hfd, hd]
  | call c outcome =>
    unfold deed?
    split
    · rfl
    · cases ht : (Event.call c outcome).target? with
      | none => rfl
      | some p =>
        have hd := isSession_of_call ht
        by_cases hfd : p.1 = fd <;> simp [hfd, hd, dealing?]
  | query | record | trace => rfl

/-- **Deeds by calls.** What was done to a descriptor in the matter of sessions was done by what was
said on it. -/
theorem World.deeds_eq (w : World) (fd : Descriptor) :
    (w.life fd).filter Deed.isSession = TlsCall.deeds (w.talk fd) := by
  simp only [life, TlsCall.deeds, talk, Dealing.talk, dealings, List.filter_filterMap,
    List.filterMap_filterMap, Event.session_deed?_eq]

/-- The course to a stage, with what was done in the matter of sessions. -/
def Stage.course (sessions : List Deed) : Stage → List Deed
  | .unopened => []
  | .live _ => .opened :: sessions
  | .closed => .opened :: (sessions ++ [.closed])

/-- **The course of a life.** A life begins, goes on with what is done in the matter of sessions,
and ends, apart from groups.

**Proof sketch.** By induction on the life. A deed about groups is dropped on both sides. Opening
comes first, before any deed that is not about groups, so that nothing stands before it; every other
deed is added at the end of both sides. -/
theorem Lived.course_eq {stray : Prop} {ds : List Deed} {s : Stage} (h : Lived stray ds s) :
    (ds.filter fun d => !d.isMembership) = s.course (ds.filter Deed.isSession) := by
  induction h with
  | nil => rfl
  | @astray ds d s _ _ hd ih =>
    rw [List.filter_append, List.filter_append, ih]
    simp [hd, Deed.isSession_of_isMembership hd]
  | @snoc ds d s t _ hd ih =>
    rw [List.filter_append, List.filter_append, ih]
    cases hd with
    | opened =>
      -- Before, nothing was done that is not about groups.
      have hnone : ds.filter Deed.isSession = [] := by
        refine List.filter_eq_nil_iff.2 fun d hd => ?_
        have hgroup := List.filter_eq_nil_iff.1 ih d hd
        cases d <;> first | exact Bool.false_ne_true | exact absurd rfl hgroup
      simp [hnone, Stage.course, Deed.isMembership, Deed.isSession]
    | joined | left | secured | used | shut | closed =>
      simp [Stage.course, Deed.isMembership, Deed.isSession, List.filter_cons]

/-! ## Sessions and descriptors -/

namespace World

/-- A session is in use on a descriptor, and some other one is left of it: it was negotiated there
after the descriptor was opened, and since then all that was said there are calls that it served. -/
def InUse (w : World) (fd : Descriptor) (g s : Tls.Session) : Prop :=
  ∃ c calls, c.negotiates = true ∧ g.Serves calls s ∧ w.talk fd = (c, .secured g) :: calls ∧
    w.course fd = .opened :: .secured :: List.replicate calls.length .used

/-- A session was in use on a descriptor, was shut down then, once, and then the descriptor was
closed. -/
def Retired (w : World) (fd : Descriptor) (g : Tls.Session) : Prop :=
  ∃ c calls s, c.negotiates = true ∧ g.Serves calls s ∧
    w.talk fd = (c, .secured g) :: calls ++ [(.shutdown, .ofUnit s.takeShutdown.1)] ∧
      w.course fd = .opened :: .secured :: (List.replicate calls.length .used ++ [.shut, .closed])

/-- There was no session to be had for a descriptor, and it was closed. -/
def Refused (w : World) (fd : Descriptor) : Prop :=
  ∃ c, c.negotiates = true ∧ w.talk fd = [(c, .failed)] ∧ w.course fd = [.opened, .closed]

end World

namespace Entrusted

variable {stray : Prop} {H : Holdings} {O : Descriptor → Option (Option Tls.Session)} {w : World}
  {t : Table} {fd : Descriptor}

/-- The course of a descriptor that is owned has not ended. -/
lemma course_of_owned (hE : Entrusted stray H O w t) {session : Option Tls.Session}
    (ho : O fd = some session) : w.course fd = .opened :: TlsCall.deeds (w.talk fd) := by
  obtain ⟨⟨name, g⟩, hg, hfd, -⟩ := (hE.owns fd session).1 ho
  obtain ⟨s, hlived, hs, -⟩ := hE.books.lived fd
  rw [hE.accounted.holding_eq hg hfd] at hs
  rw [World.course, hlived.course_eq, World.deeds_eq]
  cases s with
  | live => rfl
  | unopened | closed => exact nomatch hs

/-- The course of a descriptor that was opened and is not on the books has ended.

**Proof sketch.** The books do not have the descriptor, so its life is unopened or closed, and it
was opened. The course of a closed life ends with closing (`Lived.course_eq`). -/
lemma course_of_closed (hE : Entrusted stray H O w t) (hnone : H fd = none)
    (hopened : .opened ∈ w.life fd) :
    w.course fd = .opened :: (TlsCall.deeds (w.talk fd) ++ [.closed]) := by
  obtain ⟨s, hlived, hs, -⟩ := hE.books.lived fd
  rw [hnone] at hs
  rw [World.course, hlived.course_eq, World.deeds_eq]
  cases s with
  | live => exact nomatch hs
  | closed => rfl
  | unopened =>
    have hmem : Deed.opened ∈ (w.life fd).filter fun d => !d.isMembership :=
      List.mem_filter.2 ⟨hopened, rfl⟩
    rw [hlived.course_eq] at hmem
    exact nomatch hmem

/-- The course of a descriptor that no handle owns has ended, if something was said on it. -/
lemma course_of_free (hE : Entrusted stray H O w t) (ho : O fd = none) (ht : w.talk fd ≠ []) :
    w.course fd = .opened :: (TlsCall.deeds (w.talk fd) ++ [.closed]) := by
  refine hE.course_of_closed ?_ (Decidable.byContradiction fun hno => ht (hE.silent fd hno))
  rw [← Option.not_isSome_iff_eq_none]
  intro hsome
  obtain ⟨⟨name, g⟩, hg, hfd⟩ := hE.accounted.owner fd hsome
  rw [hE.owns.eq_some hg hfd] at ho
  exact nomatch ho

variable {c : TlsCall} {g s : Tls.Session} {calls : List (TlsCall × TlsOutcome)}

/-- A session that serves calls while a handle owns its descriptor is in use. -/
lemma inUse (hE : Entrusted stray H O w t) (ho : O fd = some (some s))
    (ht : w.talk fd = (c, .secured g) :: calls) (hc : c.negotiates = true) (hs : g.Serves calls s) :
    w.InUse fd g s := by
  refine ⟨c, calls, hc, hs, ht, ?_⟩
  rw [hE.course_of_owned ho, ht, TlsCall.deeds_secured hc, hs.deeds_eq]

/-- A session that was shut down after it served calls, and whose descriptor no handle owns, is
retired. -/
lemma retired (hE : Entrusted stray H O w t) (ho : O fd = none)
    (ht : w.talk fd = (c, .secured g) :: calls ++ [(.shutdown, .ofUnit s.takeShutdown.1)])
    (hc : c.negotiates = true) (hs : g.Serves calls s) : w.Retired fd g := by
  refine ⟨c, calls, s, hc, hs, ht, ?_⟩
  have hdeeds : TlsCall.deeds (calls ++ [(.shutdown, .ofUnit s.takeShutdown.1)]) =
      List.replicate calls.length .used ++ [.shut] := by
    rw [← hs.deeds_eq]
    exact List.filterMap_append
  rw [hE.course_of_free ho (by simp [ht]), ht, List.cons_append, TlsCall.deeds_secured hc, hdeeds]
  simp

/-- A descriptor on which a negotiation failed, and that no handle owns, was refused a session. -/
lemma refused (hE : Entrusted stray H O w t) (ho : O fd = none)
    (ht : w.talk fd = [(c, .failed)]) (hc : c.negotiates = true) : w.Refused fd := by
  refine ⟨c, hc, ht, ?_⟩
  rw [hE.course_of_free ho (by simp [ht]), ht, TlsCall.deeds_failed hc]
  rfl

end Entrusted

/-! ## Runs -/

namespace Run

/-- What was said to sessions and their providers in a step. -/
def said (r : Run) (s : Step) : List Dealing :=
  (r.step s).2.world.dealings.drop r.world.dealings.length

/-- The sessions that a provider gave in a step, each with the descriptor that it was negotiated
on. -/
def granted (r : Run) (s : Step) : List (Descriptor × Tls.Session) :=
  (r.said s).filterMap Custody.grant?

/-- The sessions that providers gave in some steps. -/
def grants (r : Run) : List Step → List (Descriptor × Tls.Session)
  | [] => []
  | s :: rest => r.granted s ++ grants (r.step s).2 rest

/-- The sessions that were given are attended to: each was given for a descriptor of its own, and is
in use there, by the handle that owns the descriptor, or retired; the handles have no other ones;
and on other descriptors nothing was said, or they were refused a session. -/
structure Attended (r : Run) (G : List (Descriptor × Tls.Session)) : Prop where
  nodup : (G.map Prod.fst).Nodup
  of_handle : ∀ p ∈ r.table, ∀ fd s, p.2.descriptor = some fd → p.2.session = some s →
    ∃ g, (fd, g) ∈ G ∧ r.world.InUse fd g s
  of_granted : ∀ fd g, (fd, g) ∈ G →
    (∃ p ∈ r.table, ∃ s, p.2.descriptor = some fd ∧ p.2.session = some s ∧
      r.world.InUse fd g s) ∨ r.world.Retired fd g
  of_ungranted : ∀ fd, (∀ g, (fd, g) ∉ G) → r.world.talk fd = [] ∨ r.world.Refused fd

/-- A step asked for a session and got one that its provider may give: it was negotiated before
anything else was said, and all that was said after it is to shut sessions down. -/
def Obtains (r : Run) (s : Step) : Prop :=
  ∃ fd c g ds, (c.negotiates = true ∧ (s.provider r.world).Gives g) ∧
    r.said s = ⟨fd, c, .secured g⟩ :: ds ∧ (∀ d ∈ ds, d.call = .shutdown) ∧
      r.granted s = [(fd, g)]

/-- A step asked for a session and there was none: it failed and left the table, no session was
called, no descriptor asked for an address, and every descriptor that it opened was closed. -/
structure Lacks (r : Run) (s : Step) : Prop where
  failed : ∃ e, (r.step s).1 = .failed e
  table_eq : (r.step s).2.table = r.table
  granted_eq : r.granted s = []
  said_eq : r.said s = [] ∨ ∃ fd c, c.negotiates = true ∧ r.said s = [⟨fd, c, .failed⟩]
  preparing : ∃ es, (r.step s).2.world.journal = r.world.journal ++ es ∧ ∀ e ∈ es, e.Preparing
  course_eq : ∀ fd, r.world.Opens (r.step s).2.world fd →
    (r.step s).2.world.course fd = [.opened, .closed]

/-- What asking for a session comes to in a step: one that asks gets it or lacks it, and one that
does not ask for any gets none. -/
structure Negotiated (r : Run) (s : Step) : Prop where
  of_encrypts : s.Encrypts r.table → r.Obtains s ∨ r.Lacks s
  of_not_encrypts : ¬ s.Encrypts r.table →
    (∀ d ∈ r.said s, d.call.negotiates = false) ∧ r.granted s = []

variable {r : Run} {s : Step} {G : List (Descriptor × Tls.Session)} {ds : List Dealing}

/-- What was told in a step is what was said in it. -/
lemma said_eq (h : r.world.Told ds (r.step s).2.world) : r.said s = ds := by
  rw [said, h.dealings_eq, List.drop_left]

/-- A step is some turns of custody. -/
lemma tracked_step {H : Holdings} {O : Descriptor → Option (Option Tls.Session)} {stray : Prop}
    (hE : Entrusted stray H O r.world r.table) (s : Step) :
    Tracked (s.provider r.world) (s.Encrypts r.table) r.world O G
      ((r.step s).1, (r.step s).2.table) (r.step s).2.world :=
  tracked_perform hE s r.world rfl

/-! ## What holds all along -/

/-- What holds all along a run in which some sessions were given: they are in sound custody of the
handles that are alive. -/
def Orderly (r : Run) (G : List (Descriptor × Tls.Session)) : Prop :=
  ∃ H O, Entrusted True H O r.world r.table ∧ Custody.Sound ⟨r.world.dealings, O, G⟩

/-- A run starts in order. -/
lemma orderly_start (w : World) : (start w).Orderly [] := by
  refine ⟨_, _, ⟨.start rfl rfl, .nil, .nil, fun _ _ => rfl⟩, .nil, fun fd => ?_⟩
  exact .silent nofun nofun

/-- Custody stays sound in a step, and the books are left as they were if it fails to make a
handle.

**Proof sketch.** Of the books and the table the step is known to advance them, and of custody to
take turns (`tracked_step`), which keep it sound. What is granted in the turns is what was said to
providers (`granted_eq`), and a descriptor that is still unopened has stayed silent. -/
lemma entrusted_step {H : Holdings} {O : Descriptor → Option (Option Tls.Session)}
    (hE : Entrusted True H O r.world r.table) (hS : Custody.Sound ⟨r.world.dealings, O, G⟩)
    (s : Step) : ∃ H' O', Entrusted True H' O' (r.step s).2.world (r.step s).2.table ∧
      Custody.Sound ⟨(r.step s).2.world.dealings, O', G ++ r.granted s⟩ ∧
        ((r.step s).1.isFailure = true → H' = H) := by
  obtain ⟨H', hB', hA', hH'⟩ := (advanced_step hE.books hE.accounted s fun _ => trivial).accounts
  obtain ⟨⟨ds, htold, -⟩, O', G', hO', hturns⟩ := tracked_step (G := G) hE s
  have hsound := hS.turns hturns
  obtain ⟨es, hes, hG'⟩ := hturns.granted_eq
  obtain rfl : es = ds := List.append_cancel_left (hes.symm.trans htold.dealings_eq)
  obtain rfl : G' = G ++ r.granted s := by rw [granted, said_eq htold]; exact hG'
  refine ⟨H', O', ⟨hB', hA', hO', fun fd hno => ?_⟩, hsound, hH'⟩
  have hno' : .opened ∉ r.world.life fd := by
    obtain ⟨more, hmore⟩ := htold.exists_life_eq fd
    rw [hmore] at hno
    exact fun hmem => hno (List.mem_append_left _ hmem)
  have hnone := hE.owns.eq_none hE.accounted (hE.books.eq_none_of_not_opened hno')
  exact (hturns.silent (fun hopens => hno hopens.2) hnone (hE.silent fd hno')).2

/-- **A run stays in order** all along.

**Proof sketch.** By induction on the steps, with the run and the grants so far generalised. One
step keeps the run in order with what is granted in it (`entrusted_step`), and the rest goes on from
there. -/
theorem Orderly.steps (hr : r.Orderly G) (ss : List Step) :
    (r.steps ss).Orderly (G ++ r.grants ss) := by
  induction ss generalizing r G with
  | nil =>
    rw [grants, List.append_nil]
    exact hr
  | cons s ss ih =>
    obtain ⟨H, O, hE, hS⟩ := hr
    obtain ⟨H', O', hE', hS', -⟩ := entrusted_step hE hS s
    rw [grants, ← List.append_assoc]
    exact ih ⟨H', O', hE', hS'⟩

/-- In a run that is in order the sessions are attended to.

**Proof sketch.** The standing of a descriptor says what was said on it. That a handle owns it, or
that none does, says whether it is closed; and what was said on it is what was done to it in the
matter of sessions. -/
theorem Orderly.attended (hr : r.Orderly G) : r.Attended G := by
  obtain ⟨H, O, hE, hS⟩ := hr
  have hunique {fd : Descriptor} {g g' : Tls.Session} (hg : (fd, g) ∈ G) (hg' : (fd, g') ∈ G) :
      g = g' :=
    (Prod.mk.inj (List.inj_on_of_nodup_map hS.nodup hg hg' rfl)).2
  have hstanding (fd : Descriptor) : Custody.Standing G fd (O fd) (r.world.talk fd) :=
    hS.standing fd
  refine ⟨hS.nodup, fun p hp fd s hfd hs => ?_, fun fd g hg => ?_, fun fd hfree => ?_⟩
  · have ho : O fd = some (some s) := hs ▸ hE.owns.eq_some hp hfd
    have hst := hstanding fd
    generalize ht : r.world.talk fd = calls at hst
    rw [ho] at hst
    cases hst with
    | silent hfree => exact absurd rfl (hfree s)
    | held hc hg hserves => exact ⟨_, hg, hE.inUse ho ht hc hserves⟩
  · have hst := hstanding fd
    generalize ht : r.world.talk fd = calls at hst
    generalize ho : O fd = o at hst
    cases hst with
    | silent _ hfree | refused _ hfree => exact absurd hg (hfree g)
    | @held c g' s calls hc hg' hserves =>
      obtain rfl := hunique hg hg'
      obtain ⟨p, hp, hfd, hs⟩ := (hE.owns fd (some s)).1 ho
      exact .inl ⟨p, hp, s, hfd, hs, hE.inUse ho ht hc hserves⟩
    | retired hc hg' hserves =>
      obtain rfl := hunique hg hg'
      exact .inr (hE.retired ho ht hc hserves)
  · have hst := hstanding fd
    generalize ht : r.world.talk fd = calls at hst
    generalize ho : O fd = o at hst
    cases hst with
    | silent => exact .inl rfl
    | refused hc => exact .inr (hE.refused ho ht hc)
    | held _ hg | retired _ hg => exact absurd hg (hfree _)

/-- Where there was no session to be had in a step, every descriptor that it opened was closed.

**Proof sketch.** The step failed, so it kept the holdings. What was said in it is nothing, or one
negotiation that failed, so it granted nothing. A descriptor that it opened was fresh and silent
before, and is closed after it, with no deed about sessions in between. -/
lemma lacks_of_denied {H : Holdings} {O : Descriptor → Option (Option Tls.Session)} {e : Error}
    (hE : Entrusted True H O r.world r.table) (hS : Custody.Sound ⟨r.world.dealings, O, G⟩)
    (hreply : (r.step s).1 = .failed e) (htable : (r.step s).2.table = r.table)
    (hw : r.world.Denied (r.step s).2.world) : r.Lacks s := by
  obtain ⟨H', O', hE', -, hH'⟩ := entrusted_step hE hS s
  obtain rfl := hH' (by rw [hreply]; rfl)
  have hsaid : r.said s = [] ∨ ∃ fd c, c.negotiates = true ∧ r.said s = [⟨fd, c, .failed⟩] := by
    rcases hw.told with hnil | ⟨fd, c, hc, -, htold⟩
    · exact .inl (said_eq hnil)
    · exact .inr ⟨fd, c, hc, said_eq htold⟩
  refine ⟨⟨e, hreply⟩, htable, ?_, hsaid, hw.onward.journal_eq, fun fd ho => ?_⟩
  · rcases hsaid with hnil | ⟨fd, c, -, hone⟩
    · rw [granted, hnil, List.filterMap_nil]
    · rw [granted, hone]
      simp [Custody.grant?]
  · obtain ⟨hnone, -, hsilent⟩ := hE.fresh ho
    have hnothing : TlsCall.deeds ((r.step s).2.world.talk fd) = [] := by
      obtain ⟨⟨ds, htold, -⟩, -⟩ := tracked_step (G := G) hE s
      rw [World.talk, htold.dealings_eq, Dealing.talk_append, hsilent, List.nil_append,
        ← said_eq htold]
      rcases hsaid with hnil | ⟨other, c, hc, hone⟩
      · rw [hnil]
        rfl
      · rw [hone]
        by_cases hother : other = fd
        · simpa [talk, hother] using TlsCall.deeds_failed hc
        · rw [Dealing.talk_eq_nil (by simpa using hother)]
          rfl
    rw [hE'.course_of_closed hnone ho.2, hnothing]
    rfl

/-- In a run that is in order every step that asks for a session gets it or lacks it.

**Proof sketch.** A step that asks for a session settles it (`settled_perform`): either it is
refused, and then the step lacks one (`lacks_of_denied`), or it is secured, and then the first thing
said is the grant and nothing after it is one. Every other step says nothing that grants
(`tracked_step`). -/
theorem Orderly.negotiated (hr : r.Orderly G) (s : Step) : r.Negotiated s := by
  obtain ⟨H, O, hE, hS⟩ := hr
  constructor
  · intro hs
    have hsettles : Settles (s.provider r.world) r.world r.table
        ((r.step s).1, (r.step s).2.table) (r.step s).2.world :=
      settled_perform hE s hs r.world rfl
    generalize hout : ((r.step s).1, (r.step s).2.table) = out at hsettles
    cases hsettles with
    | refused hw =>
      obtain ⟨hreply, htable⟩ := Prod.mk.inj hout
      exact .inr (lacks_of_denied hE hS hreply htable hw)
    | @secured _ _ fd c g ds hq hc hw hds =>
      have hrest : ds.filterMap Custody.grant? = [] :=
        Custody.filterMap_grant? fun d hd => by rw [hds d hd]; rfl
      refine .inl ⟨fd, c, g, ds, ⟨hc, hq⟩, said_eq hw, hds, ?_⟩
      rw [granted, said_eq hw]
      simp [Custody.grant?, hc, hrest]
  · intro hs
    obtain ⟨⟨ds, htold, hquiet⟩, -⟩ := tracked_step (G := G) hE s
    rw [granted, said_eq htold]
    exact ⟨hquiet hs, Custody.filterMap_grant? (hquiet hs)⟩

/-! ## The end of a run -/

/-- Dropping the handles that are left is a step for each of them.

**Proof sketch.** By induction on the table. The name of its first entry finds that entry, and
taking it out leaves the rest, since later names are other ones. -/
theorem finish_eq_steps {r : Run} (ht : r.table.Sorted) :
    r.finish = r.steps ((r.table.map Prod.fst).map .drop) := by
  obtain ⟨w, t⟩ := r
  induction t generalizing w with
  | nil => rfl
  | cons p t ih =>
    have hfound : Table.get? (p :: t) p.1 = some p.2 :=
      (Table.get?_eq_some_iff ht).2 List.mem_cons_self
    have herase : Table.erase (p :: t) p.1 = t := by
      rw [Table.erase, List.filter_cons_of_neg (by simp), List.filter_eq_self]
      intro q hq
      simpa using (Table.ne_of_before (ht.lt_of_mem hq)).symm
    have hstep : ((⟨w, p :: t⟩ : Run).step (.drop p.1)).2 = ⟨(p.2.drop w).2, t⟩ := by
      simp only [step, perform, onHandle, hfound, herase]
      rfl
    show (⟨(p.2.drop w).2, t⟩ : Run).finish = _
    rw [ih _ ht.tail, List.map_cons, List.map_cons, steps, hstep]

/-- No session is given where handles are dropped. -/
lemma Orderly.grants_drop (hr : r.Orderly G) (names : List String) :
    r.grants (names.map .drop) = [] := by
  induction names generalizing r G with
  | nil => rfl
  | cons name names ih =>
    have hnone := ((hr.negotiated (.drop name)).of_not_encrypts id).2
    rw [List.map_cons, grants, hnone, List.nil_append]
    exact ih (hr.steps [.drop name])

/-- A run is in order at its end. -/
lemma Orderly.finish (hr : r.Orderly G) : r.finish.Orderly G := by
  obtain ⟨H, O, hE, hS⟩ := hr
  have hend := Orderly.steps ⟨H, O, hE, hS⟩ ((r.table.map Prod.fst).map .drop)
  rwa [Orderly.grants_drop ⟨H, O, hE, hS⟩, List.append_nil,
    ← finish_eq_steps hE.accounted.sorted] at hend

/-- **Session ledger.** After every step of every run, whatever failed in it, the sessions that
providers gave are attended to, and so they are when the handles that are left have been dropped;
and whatever step comes next, it gets the session that it asks for, or comes to nothing.

**Proof sketch.** A run is in order at its start and stays in order (`Orderly.steps`). From custody
that is sound, what was granted is attended to; dropping the handles that are left is some more
steps (`finish_eq_steps`), which grant nothing; and the next step gets what it asks for or lacks it
(`Orderly.negotiated`). -/
theorem attended_steps (w : World) (ss : List Step) :
    ((start w).steps ss).Attended ((start w).grants ss) ∧
      ((start w).steps ss).finish.Attended ((start w).grants ss) ∧
        ∀ s, ((start w).steps ss).Negotiated s :=
  have horderly : ((start w).steps ss).Orderly ((start w).grants ss) := (orderly_start w).steps ss
  ⟨horderly.attended, horderly.finish.attended, horderly.negotiated⟩

/-- A session is in use and read from, another one was shut down as no handle came of it, and for a
third there is none to be had. -/
theorem attended_after_unwinding :
    ∃ r : Run, ∃ G, ∃ next : Step, (r.table.length = 1 ∧ G.map Prod.fst = [100, 101] ∧
      (r.step next).1.isFailure = true ∧ (r.said next).map (fun d => d.outcome.text) = ["error"]) ∧
        (r.Attended G ∧ r.finish.Attended G) ∧ (r.Obtains next ∨ r.Lacks next) :=
  have hrun := attended_steps
    { own := {
        provider := .scripted
          [.ok { reads := [fun _ => .ok (.ofData [1, 2, 3])] }, .ok {},
            .error (.handshake (.os 104))] } }
    [.connect "a" .own "10.0.0.1" "5000" .udp { tls := .strict },
      .read "a" [0, 0, 0, 0] none .empty,
      .script { faults := [(.getsockname, [105])] },
      .connect "b" .own "10.0.0.1" "5000" .udp { tls := .strict }]
  ⟨_, _, .connect "b" .own "10.0.0.1" "5000" .udp { tls := .strict }, by decide +kernel,
    ⟨hrun.1, hrun.2.1⟩, (hrun.2.2 _).of_encrypts rfl⟩

end Run

end Sockets
