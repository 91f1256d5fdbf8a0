import Sockets.Proofs.PeerNames
import Sockets.Proofs.PlainTransfers
import Sockets.Proofs.SessionSteps

/-!
# Destinations of datagrams

Where a datagram goes that is given no destination is a matter of what was done before: it goes to
the address that was stored last, be it the peer that the kernel named when the handle was connected
or connected again, or a destination that was set. This module writes down from the steps of a run
what is stored for which descriptor, and shows that every handle has the far address that was stored
last for its descriptor, whatever failed on the way and whatever else was done with addresses.

## Main definitions

* `Sockets.Run.stores` — the addresses that steps store, each with its descriptor, in their order.
* `Sockets.Stored.latest` — the one that was stored last for a descriptor.
* `Sockets.Aligned` — the handles of a table have the far addresses that were stored last.
* `Sockets.Handle.Directed` — where a handle sends datagrams, and what leaves that.

## Main results

* `Sockets.Run.aligned_perform`, `Sockets.Run.aligned_steps` — every step keeps handles aligned, and
  so does a run.
* `Sockets.Run.directed_by_latest` — however the library is used, datagrams without a destination of
  their own go to the address that was stored last.
-/

set_option autoImplicit false

namespace Sockets

open Net (Leads Only)
open World (Named Told)

/-! ## Stored addresses -/

namespace Stored

variable {fd : Descriptor} {as bs : List (Descriptor × Address)}

/-- The address that was stored last for a descriptor. -/
def latest (fd : Descriptor) (as : List (Descriptor × Address)) : Option Address :=
  as.reverse.lookup fd

/-- What was stored later counts. -/
lemma latest_append : latest fd (as ++ bs) = (latest fd bs).or (latest fd as) := by
  rw [latest, List.reverse_append, List.lookup_append]
  rfl

/-- Where nothing was stored for a descriptor. -/
lemma latest_eq_none (h : ∀ e ∈ as, e.1 ≠ fd) : latest fd as = none := by
  refine List.lookup_eq_none_iff.2 fun e he => ?_
  simpa using (h e (List.mem_reverse.1 he)).symm

/-- Where all was stored for one descriptor. -/
lemma latest_map (addresses : List Address) :
    latest fd (addresses.map (Prod.mk fd)) = addresses.getLast? := by
  rw [latest, ← List.map_reverse, List.getLast?_eq_head?_reverse]
  cases addresses.reverse with
  | nil => rfl
  | cons a rest => exact List.lookup_cons_self

end Stored

open Stored (latest)

/-- The address that a step with some reply chose, with the descriptor that it chose it for. -/
def Step.chosen (t : Table) : Step → Reply → List (Descriptor × Address)
  | setDestination name a, .ended (.ok _) =>
    (((t.get? name).bind Handle.descriptor).map fun fd => (fd, a)).toList
  | _, _ => []

namespace Run

/-- The addresses that a step stores: the peers that are named in it, and one that it chooses. -/
def stored (r : Run) (s : Step) : List (Descriptor × Address) :=
  ((r.step s).2.world.journal.drop r.world.journal.length).filterMap Event.naming? ++
    s.chosen r.table (r.step s).1

/-- The addresses that some steps store, in their order. -/
def stores (r : Run) : List Step → List (Descriptor × Address)
  | [] => []
  | s :: rest => r.stored s ++ (r.step s).2.stores rest

end Run

/-! ## Tables -/

/-- **The handles of a table are aligned** in a world with what was stored: each has the far address
that was stored last for its descriptor; and nothing was stored for a descriptor that was not
opened. -/
structure Aligned (as : List (Descriptor × Address)) (w : World) (t : Table) : Prop where
  opened_mem : ∀ e ∈ as, .opened ∈ w.life e.1
  far_eq : ∀ p ∈ t, ∀ fd, p.2.descriptor = some fd → p.2.far.address = latest fd as

namespace Aligned

variable {u v w : World} {t : Table} {as bs : List (Descriptor × Address)} {name : String}
  {h : Handle} {fd : Descriptor}

/-- Nothing was stored for a descriptor that was not opened. -/
lemma latest_eq_none (ht : Aligned as w t) (hnew : .opened ∉ w.life fd) : latest fd as = none :=
  Stored.latest_eq_none fun e he heq => hnew (heq ▸ ht.opened_mem e he)

/-- Handles stay aligned in later worlds. -/
lemma later (ht : Aligned as v t) (hw : v.Named bs w) : Aligned as w t :=
  ⟨fun e he => hw.opened_mem (ht.opened_mem e he), ht.far_eq⟩

/-- Fewer handles are aligned. -/
lemma erase (ht : Aligned as w t) (name : String) : Aligned as w (t.erase name) :=
  ⟨ht.opened_mem, fun p hp => ht.far_eq p (Table.mem_erase.1 hp).1⟩

/-- A handle that has the far address that was stored last may be stored. -/
lemma insert (ht : Aligned as w t) (hsorted : t.Sorted) (hfd : h.descriptor = some fd)
    (hfar : h.far.address = latest fd as) : Aligned as w (t.insert name h) := by
  refine ⟨ht.opened_mem, fun p hp fd' hfd' => ?_⟩
  rcases (Table.mem_insert hsorted).1 hp with rfl | ⟨hp, -⟩
  · obtain rfl := Option.some.inj (hfd.symm.trans hfd')
    exact hfar
  · exact ht.far_eq p hp fd' hfd'

/-- What is stored for descriptors that no handle owns leaves the handles aligned. -/
lemma append (ht : Aligned as w t) (hopened : ∀ e ∈ bs, .opened ∈ w.life e.1)
    (hother : ∀ e ∈ bs, ∀ p ∈ t, p.2.descriptor ≠ some e.1) : Aligned (as ++ bs) w t := by
  refine ⟨List.forall_mem_append.2 ⟨ht.opened_mem, hopened⟩, fun p hp fd hfd => ?_⟩
  rw [Stored.latest_append, Stored.latest_eq_none fun e he heq => hother e he p hp (heq ▸ hfd)]
  exact ht.far_eq p hp fd hfd

/-- A handle that has the far address that was stored last may be stored in place of the one that
what was stored is for. -/
lemma store (ht : Aligned as w t) (hsorted : t.Sorted) (hopened : .opened ∈ w.life fd)
    (hbs : ∀ e ∈ bs, e.1 = fd) (hother : ∀ p ∈ t, p.1 ≠ name → p.2.descriptor ≠ some fd)
    (hfd : h.descriptor = some fd) (hfar : h.far.address = latest fd (as ++ bs)) :
    Aligned (as ++ bs) w (t.insert name h) := by
  have herase : Aligned (as ++ bs) w (t.erase name) :=
    (ht.erase name).append (fun e he => hbs e he ▸ hopened) fun e he p hp =>
      hbs e he ▸ hother p (Table.mem_erase.1 hp).1 (Table.mem_erase.1 hp).2
  refine ⟨herase.opened_mem, fun p hp fd' hfd' => ?_⟩
  rcases (Table.mem_insert hsorted).1 hp with rfl | ⟨hp, hne⟩
  · obtain rfl := Option.some.inj (hfd.symm.trans hfd')
    exact hfar
  · exact herase.far_eq p (Table.mem_erase.2 ⟨hp, hne⟩) fd' hfd'

end Aligned

/-! ## Steps -/

/-- A step leaves handles aligned with what was stored before and with the peers that are named in
it. -/
def Keeps (as : List (Descriptor × Address)) (u : World) (t : Table) (w : World) : Prop :=
  ∃ bs, u.Named bs w ∧ Aligned (as ++ bs) w t

namespace Run

variable {α : Type} {stray : Prop} {H : Holdings} {u v w : World} {t : Table}
  {as : List (Descriptor × Address)} {name : String} {g h : Handle} {fd : Descriptor}

/-- A step in which nobody is named. -/
lemma keeps_of_named (ht : Aligned as u t) (hw : u.Named [] w) : Keeps as u t w :=
  ⟨[], hw, by rw [List.append_nil]; exact ht.later hw⟩

/-- A step in which a handle that aims is stored in place of the one that owned its descriptor. -/
lemma keeps_store (ht : Aligned as u t) (hsorted : t.Sorted)
    (hother : ∀ p ∈ t, p.1 ≠ name → p.2.descriptor ≠ some fd)
    (hw : h.Aims u fd (latest fd as) w) : Keeps as u (t.insert name h) w := by
  obtain ⟨addresses, hnamed, hfar⟩ := hw.far_eq
  refine ⟨_, hnamed, (ht.later hnamed).store hsorted hw.opened_mem (fun e he => ?_) hother
    hw.descriptor_eq ?_⟩
  · obtain ⟨a, -, rfl⟩ := List.mem_map.1 he
    rfl
  · rw [Stored.latest_append, Stored.latest_map]
    exact hfar

/-- A step on the handle of a name. -/
lemma keeps_onHandle {Q : Reply × Table → World → Prop} {f : Handle → Net (Reply × Table)}
    (hA : Accounted H t) (hnone : Q (.unknownName, t) u)
    (hf : ∀ g fd, t.get? name = some g → (name, g) ∈ t → g.descriptor = some fd →
      Leads (fun w => w = u) (f g) Q) :
    Leads (fun w => w = u) (onHandle t name f) Q := by
  unfold onHandle
  cases hg : t.get? name with
  | none => exact .pure _ fun w hw => hw ▸ hnone
  | some g =>
    have hmem := (Table.get?_eq_some_iff hA.sorted).1 hg
    obtain ⟨fd, hfd, -, -⟩ := hA.held _ hmem
    exact hf g fd hg hmem hfd

/-- The descriptor of a handle in the table was opened. -/
lemma opened_of_mem (hB : Books stray u H) (hA : Accounted H t) (hg : (name, g) ∈ t)
    (hfd : g.descriptor = some fd) : .opened ∈ u.life fd :=
  hB.opened_mem (by rw [hA.holding_eq hg hfd]; rfl)

/-- A handle of the table aims at what was stored last for it. -/
lemma aims_of_mem (hB : Books stray u H) (hA : Accounted H t) (ht : Aligned as u t)
    (hg : (name, g) ∈ t) (hfd : g.descriptor = some fd) (w : World) (hw : w = u) :
    g.Aims u fd (latest fd as) w := by
  subst hw
  exact .self hfd (opened_of_mem hB hA hg hfd) (.of_journal_eq rfl) (ht.far_eq _ hg fd hfd)

/-- A step after which the handle of a name goes on as one that aims. -/
lemma keeps_change (hA : Accounted H t) (ht : Aligned as u t) (hg : (name, g) ∈ t)
    (hfd : g.descriptor = some fd) (hw : h.Aims u fd (latest fd as) w) :
    Keeps as u (t.insert name h) w :=
  keeps_store ht hA.sorted (fun p hp hne heq =>
    hne (hA.apart p hp _ hg (heq.trans hfd.symm))) hw

/-- Telling what there is to know of a handle leaves its far address. -/
lemma far_info (h : Handle) : h.info.2.far.address = h.far.address := by
  simp [Handle.info, Handle.endInfo]

/-- An answer leaves the far address. -/
lemma far_tell (h : Handle) (q : Handle.Question) :
    (h.tell q).2.far.address = h.far.address := by
  cases q <;> simp [Handle.tell]

/-- What an operation that opens a handle begins with. -/
lemma unaimed_self (hB : Books stray u H) (w : World) (hw : w = u) : Net.Unaimed stray u H w := by
  subst hw
  exact .self hB

/-- Storing a handle does to the world what dropping the one that had the name does. -/
lemma leads_storing {P : World → Prop} (hdrop : ∀ g : Handle, Leads P g.drop fun _ => P) :
    Leads P (store t name h) fun t' w => t' = t.insert name h ∧ P w := by
  refine .bind (R := fun _ => P) ?_ fun _ => .pure _ fun _ hw => ⟨rfl, hw⟩
  cases t.get? name with
  | none => exact .pure _ fun _ hw => hw
  | some g => exact hdrop g

/-- A step that opens a handle under a name.

**Proof sketch.** A new handle has a descriptor that was never opened before, so that nothing was
stored for it and no handle of the table has it. It aims at nothing, and stays so while the handle
that had its name is dropped. -/
lemma keeps_openAs {x : Attempt Error Handle} (hB : Books stray u H) (hA : Accounted H t)
    (ht : Aligned as u t) (hx : Leads (Net.Unaimed stray u H) x.run (Net.Aimed u)) :
    Leads (fun w => w = u) (openAs t name x) fun out => Keeps as u out.2 := by
  have hother {fd : Descriptor} (hnew : .opened ∉ u.life fd) (p : String × Handle) (hp : p ∈ t) :
      p.2.descriptor ≠ some fd :=
    fun hfd => hnew (opened_of_mem hB hA hp hfd)
  refine .bind (hx.weaken (unaimed_self hB) fun _ _ hw => hw) fun r => ?_
  cases r with
  | error e =>
    refine .pure _ fun w ⟨bs, hnamed, hbs⟩ => ⟨bs, hnamed, ?_⟩
    exact (ht.later hnamed).append (fun e he => (hbs e he).2) fun e he => hother (hbs e he).1
  | ok h =>
    refine .of_exists fun fd => .of_and fun hnew => ?_
    refine .bind (leads_storing (P := h.Aims u fd none) fun g =>
      Handle.Aims.leads_among (Handle.among_drop g) (by decide)) fun t' => .of_and ?_
    rintro rfl
    refine .pure _ fun w hw => keeps_store ht hA.sorted (fun p hp _ => hother hnew p hp) ?_
    rwa [ht.latest_eq_none hnew]

/-- A step that opens a pair of handles under two names.

**Proof sketch.** A pair is made on two new descriptors, for which nothing was stored, and its
handles know no peer. Handles that are dropped for them name no address. -/
lemma keeps_openPair {first second : String} (hB : Books stray u H) (hA : Accounted H t)
    (ht : Aligned as u t) :
    Leads (fun w => w = u) (openPair t first second) fun out => Keeps as u out.2 := by
  have hdrop (g : Handle) : Leads (u.Named []) g.drop fun _ => u.Named [] := fun w hw =>
    hw.trans_nil (.of_only (Handle.among_drop g) (by decide) w)
  have hpair : Leads (fun w => w = u) Net.socketpair.run fun r w => u.Named [] w ∧
      ∀ g h, r = .ok (g, h) → ∃ a b, (g.descriptor = some a ∧ h.descriptor = some b) ∧
        (g.far.address = latest a as ∧ h.far.address = latest b as) := by
    rintro w rfl
    refine ⟨.of_only (Net.only_socketpair.among (List.Subset.refl _)) (by decide) w,
      fun g h hr => ?_⟩
    have hfar := Net.leads_socketpair w hB
    have hopens := Net.told_socketpair hB w ⟨⟨.refl, .of_journal_eq rfl⟩, hB⟩
    rw [hr] at hfar
    obtain ⟨-, a, b, hab, -, ha, hb⟩ := hopens.2 g h hr
    refine ⟨a, b, hab, ?_⟩
    rw [ht.latest_eq_none ha.1, ht.latest_eq_none hb.1]
    exact ⟨hfar.1.1.far_unknown, hfar.1.2.far_unknown⟩
  refine .bind hpair fun r => ?_
  cases r with
  | error e => exact .pure _ fun w hw => keeps_of_named ht hw.1
  | ok q =>
    obtain ⟨g, h⟩ := q
    refine .assuming (fun _ hw => hw.2 g h rfl) fun ⟨a, b, ⟨hga, hhb⟩, hgfar, hhfar⟩ => ?_
    refine .weaken (P := u.Named []) ?_ (fun _ hw => hw.1) fun _ _ hw => hw
    refine .bind (leads_storing hdrop) fun t' => .of_and ?_
    rintro rfl
    refine .bind (leads_storing hdrop) fun t' => .of_and ?_
    rintro rfl
    refine .pure _ fun w hw => ⟨[], hw, ?_⟩
    rw [List.append_nil]
    exact ((ht.later hw).insert hA.sorted hga hgfar).insert (hA.sorted.insert first _) hhb hhfar

/-- A step that operates on the handle of a name. -/
lemma keeps_act {x : Handle.Act Unit} (hB : Books stray u H) (hA : Accounted H t)
    (ht : Aligned as u t) (hg : (name, g) ∈ t) (hfd : g.descriptor = some fd)
    (hx : Leads (g.Aims u fd (latest fd as)) (x.on g) fun p => p.2.Aims u fd (latest fd as)) :
    Leads (fun w => w = u) (change t name g x) fun out => Keeps as u out.2 := by
  refine .bind (hx.weaken (aims_of_mem hB hA ht hg hfd) fun _ _ hw => hw) fun p => ?_
  exact .pure _ fun w hw => keeps_change hA ht hg hfd hw

/-- A step that transfers data on the handle of a name. -/
lemma keeps_transfer {x : Net (Transfer α)} {reply : Transfer α → Reply} (hB : Books stray u H)
    (hA : Accounted H t) (ht : Aligned as u t) (hg : (name, g) ∈ t)
    (hfd : g.descriptor = some fd) (hx : g.Transfers fd x) :
    Leads (fun w => w = u) (transfer t name x reply) fun out => Keeps as u out.2 := by
  have haims : Leads (fun w => w = u) x fun d => d.handle.Aims u fd (latest fd as) := by
    intro w hw
    obtain ⟨side, senseless, hgoes⟩ := hx w
    exact hgoes.aims (aims_of_mem hB hA ht hg hfd w hw)
  exact .bind haims fun d => .pure _ fun w hw => keeps_change hA ht hg hfd hw

/-- A step in which nobody is asked, and after which there are no other handles than before. -/
lemma keeps_among {x : Net α} {reply : α → Reply} {t' : Table} {kinds : List CallKind}
    (ht : Aligned as u t') (hx : Only (Event.Among kinds) x)
    (hkinds : ∀ k ∈ kinds, k ∉ CallKind.naming) :
    Leads (fun w => w = u) (do let a ← x; pure (reply a, t')) fun out => Keeps as u out.2 := by
  rintro w rfl
  exact keeps_of_named ht (.of_only hx hkinds w)

/-- A step in which something happens in the kernel that is no system call. -/
lemma keeps_happen {x : Net Unit} {reply : Reply} (ht : Aligned as u t)
    (hx : ∀ w, (x w).2.journal = w.journal) :
    Leads (fun w => w = u) (do x; pure (reply, t)) fun out => Keeps as u out.2 := by
  rintro w rfl
  exact keeps_of_named ht (.of_journal_eq (hx w))

/-- What happens to the descriptor of a handle is no event. -/
lemma journal_happenOn (f : Kernel → Descriptor → Kernel) (w : World) :
    (happenOn h f w).2.journal = w.journal := by
  unfold happenOn
  cases h.descriptor <;> rfl

/-- What is done to the descriptor of a handle. -/
lemma among_onDescriptor {f : Descriptor → Attempt Error α} {kinds : List CallKind}
    (hf : ∀ fd, Only (Event.Within kinds) (f fd).run) :
    Only (Event.Among kinds) (onDescriptor h f) := by
  unfold onDescriptor
  cases h.descriptor with
  | none => exact .pure _
  | some fd => exact (hf fd).among (List.Subset.refl _)

end Run

/-- Setting a destination stores it and makes a record of that, or is refused and does nothing.

**Proof sketch.** The operation with its checks written out is the function as it stands. Each check
is decided by its condition. -/
lemma Handle.setDestination_on (h : Handle) (a : Address) (w : World) :
    (setDestination a).on h w =
      if h.protocol ≠ .udp then ((.error (.misuse h.protocol "set_dest"), h), w)
      else if a.ip? = none then ((.error .family, h), w)
      else ((.ok (), { h with far := .ofAddress a }),
        w.noting (.record w.sink .debug (h.name ++ ": " ++ ("destination " ++ a.describe)))) := by
  have hrun : (setDestination a).on h = Act.on (do
      if h.protocol ≠ .udp then throw (.misuse h.protocol "set_dest")
      if a.ip? = none then throw .family
      record .debug ("destination " ++ a.describe)
      setFar a) h := rfl
  rw [hrun]
  by_cases hp : h.protocol ≠ .udp
  · rw [if_pos hp, if_pos hp]
    rfl
  by_cases hip : a.ip? = none
  · rw [if_neg hp, if_neg hp, if_pos hip, if_pos hip]
    rfl
  · rw [if_neg hp, if_neg hp, if_neg hip, if_neg hip]
    rfl

namespace Run

variable {stray : Prop} {H : Holdings} {u : World} {t : Table}
  {as : List (Descriptor × Address)} {name : String} {g : Handle} {fd : Descriptor}

/-- How a step leaves the handles: aligned with what was stored before and in the step. -/
def Aligns (as : List (Descriptor × Address)) (u : World) (t : Table) (s : Step)
    (out : Reply × Table) (w : World) : Prop :=
  ∃ bs, u.Named bs w ∧ Aligned (as ++ (bs ++ s.chosen t out.1)) w out.2

/-- A step that chooses no address. -/
lemma aligns_of_keeps {s : Step} {x : Net (Reply × Table)}
    (hs : ∀ reply, s.chosen t reply = [])
    (hx : Leads (fun w => w = u) x fun out => Keeps as u out.2) :
    Leads (fun w => w = u) x (Aligns as u t s) := by
  refine hx.weaken (fun _ hw => hw) fun out w ⟨bs, hnamed, hw⟩ => ⟨bs, hnamed, ?_⟩
  rwa [hs, List.append_nil]

/-- A step that sets a destination.

**Proof sketch.** What the operation does is known in full (`Handle.setDestination_on`). A refusal
leaves the handle and chooses nothing. On success the step chooses the address for the descriptor of
the handle, which no other handle has, and this is the address that the handle now knows. -/
lemma aligns_setDestination (hB : Books stray u H) (hA : Accounted H t) (ht : Aligned as u t)
    (name : String) (a : Address) :
    Leads (fun w => w = u) (perform t (.setDestination name a))
      (Aligns as u t (.setDestination name a)) := by
  refine keeps_onHandle hA ⟨[], .of_journal_eq rfl, by simpa [Step.chosen] using ht⟩
    fun g fd hget hg hfd => ?_
  rintro w rfl
  have hdone : change t name g (Handle.setDestination a) w =
      let out := (Handle.setDestination a).on g w
      ((.ended out.1.1, t.insert name out.1.2), out.2) := rfl
  rw [hdone, Handle.setDestination_on]
  -- A refusal chooses nothing and leaves the handle.
  have hrefused (e : Error) : Aligns as w t (.setDestination name a)
      (.ended (.error e), t.insert name g) w := by
    obtain ⟨bs, hnamed, hw⟩ := keeps_change hA ht hg hfd (aims_of_mem hB hA ht hg hfd w rfl)
    refine ⟨bs, hnamed, ?_⟩
    rwa [show Step.chosen t (.setDestination name a) (.ended (.error e)) = [] from rfl,
      List.append_nil]
  split
  · exact hrefused _
  split
  · exact hrefused _
  have hnamed {message : String} : w.Named [] (w.noting (.record w.sink .debug message)) :=
    ⟨_, rfl, rfl⟩
  refine ⟨[], hnamed, (ht.later hnamed).store hA.sorted
    (hnamed.opened_mem (opened_of_mem hB hA hg hfd)) ?_ (fun p hp hne heq => ?_) hfd ?_⟩
  · simp [Step.chosen, hget, hfd]
  · exact hne (hA.apart p hp _ hg (heq.trans hfd.symm))
  · rw [Stored.latest_append]
    simp [Step.chosen, hget, hfd, latest, Endpoint.ofAddress]

/-- **Every step** leaves the handles aligned with what was stored before it and in it.

**Proof sketch.** One case for each step. Those that open a handle are unaimed (`keeps_openAs`),
those that change one keep what it aims at or store what they learned (`keeps_act`), and transfers
and the rest name no address that is stored. Only setting a destination chooses one
(`aligns_setDestination`). -/
theorem aligned_perform (hB : Books stray u H) (hA : Accounted H t) (ht : Aligned as u t)
    (s : Step) : Leads (fun w => w = u) (perform t s) (Aligns as u t s) := by
  have hnone : Keeps as u t u := keeps_of_named ht (.of_journal_eq rfl)
  cases s with
  | connect as scope host service p flags =>
    exact aligns_of_keeps (fun _ => rfl) (keeps_openAs hB hA ht (Net.aimed_connect hB _ _ _ _))
  | bind as scope host service p flags =>
    exact aligns_of_keeps (fun _ => rfl) (keeps_openAs hB hA ht (Net.aimed_bind hB _ _ _ _))
  | build as b last =>
    refine aligns_of_keeps (fun _ => rfl) (keeps_openAs hB hA ht ?_)
    cases last with
    | connect host service => exact b.aimed_connect hB _ _
    | bind host service => exact b.aimed_bind hB _ _
    | listen host service => exact b.aimed_listen hB _ _
  | accept as scope name =>
    exact aligns_of_keeps (fun _ => rfl) (keeps_onHandle hA hnone fun l fd _ _ _ =>
      keeps_openAs hB hA ht (Net.aimed_accept hB l))
  | socketpair first second => exact aligns_of_keeps (fun _ => rfl) (keeps_openPair hB hA ht)
  | reconnect name scope host service =>
    exact aligns_of_keeps (fun _ => rfl) (keeps_onHandle hA hnone fun g fd _ hg hfd =>
      keeps_act hB hA ht hg hfd (Handle.aims_reconnect _ _ _))
  | setDestination name a => exact aligns_setDestination hB hA ht name a
  | joinGroup name group interface =>
    exact aligns_of_keeps (fun _ => rfl) (keeps_onHandle hA hnone fun g fd _ hg hfd =>
      keeps_act hB hA ht hg hfd (Handle.Aims.frame.leads_joinGroup _ _))
  | listen name scope =>
    exact aligns_of_keeps (fun _ => rfl) (keeps_onHandle hA hnone fun g fd _ hg hfd =>
      keeps_among ht ((Net.made_listen scope g).only.among (List.Subset.refl _)) (by decide))
  | close name =>
    exact aligns_of_keeps (fun _ => rfl) (keeps_onHandle hA hnone fun g fd _ hg hfd =>
      keeps_among (ht.erase name) (Handle.among_close g) (by decide))
  | drop name =>
    exact aligns_of_keeps (fun _ => rfl) (keeps_onHandle hA hnone fun g fd _ hg hfd =>
      keeps_among (ht.erase name) (Handle.among_drop g) (by decide))
  | info name =>
    refine aligns_of_keeps (fun _ => rfl) (keeps_onHandle hA hnone fun g fd _ hg hfd => ?_)
    exact .pure _ fun w hw => keeps_change hA ht hg hfd
      ((aims_of_mem hB hA ht hg hfd w hw).congr rfl (far_info g))
  | tell name q =>
    refine aligns_of_keeps (fun _ => rfl) (keeps_onHandle hA hnone fun g fd _ hg hfd => ?_)
    exact .pure _ fun w hw => keeps_change hA ht hg hfd
      ((aims_of_mem hB hA ht hg hfd w hw).congr (by cases q <;> rfl) (far_tell g q))
  | read name buffer side flags =>
    exact aligns_of_keeps (fun _ => rfl) (keeps_onHandle hA hnone fun g fd _ hg hfd =>
      keeps_transfer hB hA ht hg hfd (Handle.transfers_read hfd _ _ _))
  | readVec name length side flags =>
    exact aligns_of_keeps (fun _ => rfl) (keeps_onHandle hA hnone fun g fd _ hg hfd =>
      keeps_transfer hB hA ht hg hfd (Handle.transfers_readVec hfd _ _ _))
  | write name data side flags =>
    exact aligns_of_keeps (fun _ => rfl) (keeps_onHandle hA hnone fun g fd _ hg hfd =>
      keeps_transfer hB hA ht hg hfd (Handle.transfers_write hfd _ _ _))
  | joinRaw name group interface =>
    exact aligns_of_keeps (fun _ => rfl) (keeps_onHandle hA hnone fun g fd _ hg hfd =>
      keeps_among ht (among_onDescriptor fun fd => (Membership.made_join fd _ _).only) (by decide))
  | leaveRaw name group =>
    exact aligns_of_keeps (fun _ => rfl) (keeps_onHandle hA hnone fun g fd _ hg hfd =>
      keeps_among ht (among_onDescriptor fun fd => (Membership.made_leave fd _).only) (by decide))
  | compare first second =>
    exact aligns_of_keeps (fun _ => rfl) (keeps_onHandle hA hnone fun _ _ _ _ _ =>
      keeps_onHandle hA hnone fun _ _ _ _ _ => .pure _ fun w hw => hw ▸ hnone)
  | feed name item | finish name =>
    exact aligns_of_keeps (fun _ => rfl) (keeps_onHandle hA hnone fun g fd _ hg hfd =>
      keeps_happen ht (journal_happenOn _))
  | script s => exact aligns_of_keeps (fun _ => rfl) (keeps_happen ht fun _ => rfl)

/-! ## Runs -/

/-- **A run** leaves the handles aligned with what was stored before it and in it.

**Proof sketch.** By induction on the steps. What is stored in a step is what its events name and
what it chooses, and one step leaves the handles aligned with that (`aligned_perform`). -/
theorem aligned_steps {r : Run} (hr : r.Sane True) (ht : Aligned as r.world r.table)
    (ss : List Step) :
    Aligned (as ++ r.stores ss) (r.steps ss).world (r.steps ss).table := by
  induction ss generalizing r as with
  | nil => exact (List.append_nil as).symm ▸ ht
  | cons s ss ih =>
    obtain ⟨H, hB, hA⟩ := id hr
    obtain ⟨bs, ⟨es, hes, hbs⟩, haligned⟩ := aligned_perform hB hA ht s r.world rfl
    have hstored : r.stored s = bs ++ s.chosen r.table (r.step s).1 := by
      have hjournal : (r.step s).2.world.journal = r.world.journal ++ es := hes
      rw [stored, hjournal, List.drop_left, hbs]
    have hnow : Aligned (as ++ r.stored s) (r.step s).2.world (r.step s).2.table :=
      hstored ▸ haligned
    have hlater := ih (hr.step s fun _ => trivial) hnow
    rwa [List.append_assoc] at hlater

/-- Whatever steps there were, every handle has the far address that was stored last for its
descriptor. -/
theorem aligned_start (w : World) (ss : List Step) :
    Aligned ((start w).stores ss) ((start w).steps ss).world ((start w).steps ss).table := by
  have hstart : Aligned [] (start w).world (start w).table :=
    ⟨List.forall_mem_nil _, List.forall_mem_nil _⟩
  exact aligned_steps (sane_start w) hstart ss

end Run

/-! ## Where handles send datagrams -/

namespace Handle

variable {h : Handle} {fd : Descriptor} {v : World} {side : Option SideData} {data : Bytes}
  {flags : MessageFlags}

/-- **Where a handle sends datagrams**, in a world in which some address is stored for it or none
is: a datagram that is written without a destination goes to the stored address in one call, or is
refused if none is stored; one that has a destination goes there. Transfers and joining a group
leave the handle's far address, a destination that is set is stored and one that is refused is not,
and of the peers that are named while the handle is connected again the last is stored. -/
structure Directed (h : Handle) (fd : Descriptor) (stored : Option Address) (v : World) :
    Prop where
  write_stored : ∀ a, stored = some a → ∀ side ∈ [none, some (.datagram none)], ∀ data flags,
    h.Carried side v (.sendto fd data flags a) (fun n : Nat => (n, side))
      (h.write data side flags v)
  write_nowhere : stored = none → ∀ side ∈ [none, some (.datagram none)], ∀ data flags,
    h.write data side flags v = (h.refused side "write without a destination", v)
  write_named : ∀ a data flags,
    h.Carried (some (.datagram (some a))) v (.sendto fd data flags a)
      (fun n : Nat => (n, some (.datagram (some a))))
      (h.write data (some (.datagram (some a))) flags v)
  write_headed : ∀ header data flags, h.write data (some (.sctp header)) flags v =
    (h.refused (some (.sctp header)) "write with an SCTP header", v)
  handle_write : ∀ data side flags, (h.write data side flags v).1.handle = h
  handle_read : ∀ buffer side flags, (h.read buffer side flags v).1.handle = h
  handle_readVec : ∀ length side flags, (h.readVec length side flags v).1.handle = h
  far_joinGroup : ∀ group interface, ((joinGroup group interface).on h v).1.2.far = h.far
  setDestination_of_ip : ∀ a : Address, a.ip? ≠ none → ∃ message,
    (setDestination a).on h v =
      ((.ok (), { h with far := .ofAddress a }), v.noting (.record v.sink .debug message))
  setDestination_of_none : ∀ a : Address, a.ip? = none →
    (setDestination a).on h v = ((.error .family, h), v)
  reconnect : ∀ scope host service, ∃ as : List Address,
    v.Named (as.map (Prod.mk fd)) ((reconnect scope host service).on h v).2 ∧
      ((reconnect scope host service).on h v).1.2.far.address = as.getLast?.or stored

/-- A transfer that was one system call leaves the handle. -/
lemma Carried.handle_eq {α : Type} {c : Call} {got : c.Answer → α × Option SideData}
    {out : Transfer α × World} (hcarried : h.Carried side v c got out) : out.1.handle = h := by
  cases hcarried <;> rfl

/-- A read without encryption leaves the handle. -/
lemma ReadsPlain.handle_eq {buffer : Bytes} {out : Transfer Reading × World}
    (hreads : h.ReadsPlain fd v buffer side flags out) : out.1.handle = h := by
  cases hreads with
  | refused => rfl
  | datagram _ _ hcarried | message _ _ hcarried | stream _ hcarried => exact hcarried.handle_eq

/-- A write without encryption leaves the handle. -/
lemma WritesPlain.handle_eq {out : Transfer Nat × World}
    (hwrites : h.WritesPlain fd v data side flags out) : out.1.handle = h := by
  cases hwrites with
  | refused => rfl
  | datagram _ _ hcarried | message _ _ hcarried | stream _ hcarried => exact hcarried.handle_eq

/-- Reading into a new buffer leaves the handle. -/
lemma Plain.handle_readVec (hplain : h.Plain fd v) (length : Nat) :
    (h.readVec length side flags v).1.handle = h := by
  cases hl : v.reservable length with
  | true =>
    rw [hplain.readVec_of_reservable length hl]
    exact (hplain.read (zeroed length) side flags).handle_eq
  | false =>
    obtain ⟨message, hread⟩ := hplain.readVec_of_unreservable length hl side flags
    rw [hread]

/-- Joining a group leaves the far address. -/
lemma far_joinGroup (hfd : h.descriptor = some fd) (group : Address) (interface : Interface)
    (v : World) : ((joinGroup group interface).on h v).1.2.far = h.far := by
  have hframe : Frame fd fun i _ => i.descriptor = some fd ∧ i.far = h.far :=
    ⟨fun _ _ hi => hi.1, fun _ _ _ _ hi => hi, fun _ _ _ hi => hi, fun _ _ _ _ _ hi => hi⟩
  exact (hframe.leads_joinGroup group interface v ⟨hfd, rfl⟩).2

/-- A handle for datagrams that sends them unencrypted to where it knows, in one call. -/
lemma carried_writeDatagram {peer : Address} (htls : h.flags.tls.enabled = false)
    (hfd : h.descriptor = some fd) (hp : h.protocol = .udp)
    (hpeer : h.destination? side = .ok peer) (data : Bytes) (flags : MessageFlags) :
    h.Carried side v (.sendto fd data flags peer) (fun n : Nat => (n, side))
      (h.write data side flags v) := by
  rw [write_eq_writePlain htls hfd]
  unfold writePlain writeDatagram
  rw [hp, hpeer]
  exact carried_call (.sendto fd data flags peer) (fun _ => rfl) fun _ => ⟨_, rfl⟩

/-- A handle for datagrams refuses to send where it does not know. -/
lemma write_of_destination?_eq_error {operation : String} (htls : h.flags.tls.enabled = false)
    (hfd : h.descriptor = some fd) (hp : h.protocol = .udp)
    (hpeer : h.destination? side = .error operation) (data : Bytes) (flags : MessageFlags) :
    h.write data side flags v = (h.refused side operation, v) := by
  rw [write_eq_writePlain htls hfd]
  unfold writePlain writeDatagram
  rw [hp, hpeer]
  rfl

/-- Where a datagram goes that is written without a destination. -/
lemma destination?_eq_of_mem (hside : side ∈ [none, some (.datagram none)]) :
    h.destination? side = match h.far.address with
      | some a => .ok a
      | none => .error "write without a destination" := by
  obtain rfl | rfl : side = none ∨ side = some (.datagram none) := by simpa using hside
  all_goals rfl

/-- **A handle for datagrams without encryption is directed** by its far address.

**Proof sketch.** Each clause is about one operation. Writing goes to the destination that its side
names, for which the far address stands where it names none (`destination?_eq_of_mem`); reading and
joining a group leave the far address; and what connecting again leaves is what it stored last
(`aims_reconnect`). -/
theorem directed_of_far (htls : h.flags.tls.enabled = false) (hfd : h.descriptor = some fd)
    (hp : h.protocol = .udp) (hopened : .opened ∈ v.life fd) :
    h.Directed fd h.far.address v where
  write_stored a ha side hside data flags :=
    carried_writeDatagram htls hfd hp (by rw [destination?_eq_of_mem hside, ha]) data flags
  write_nowhere hnone side hside data flags :=
    write_of_destination?_eq_error htls hfd hp (by rw [destination?_eq_of_mem hside, hnone])
      data flags
  write_named a data flags := carried_writeDatagram htls hfd hp rfl data flags
  write_headed header data flags := write_of_destination?_eq_error htls hfd hp rfl data flags
  handle_write data side flags :=
    ((plain_of_not_enabled htls hfd v).write data side flags).handle_eq
  handle_read buffer side flags :=
    ((plain_of_not_enabled htls hfd v).read buffer side flags).handle_eq
  handle_readVec length side flags := (plain_of_not_enabled htls hfd v).handle_readVec length
  far_joinGroup group interface := Handle.far_joinGroup hfd group interface v
  setDestination_of_ip a ha := by
    rw [setDestination_on, if_neg (not_not.2 hp), if_neg ha]
    exact ⟨_, rfl⟩
  setDestination_of_none a ha := by
    rw [setDestination_on, if_neg (not_not.2 hp), if_pos ha]
  reconnect scope host service :=
    (aims_reconnect scope host service v (.self hfd hopened (.of_journal_eq rfl) rfl)).far_eq

end Handle

namespace Run

/-- **Datagrams go to the address that was stored last.** However the library was used, a handle for
datagrams without encryption is directed by the address that was stored last for its descriptor, by
a kernel that named its peer or by a caller who set a destination, or by none if none was.

**Proof sketch.** What is stored is written down from the steps. Each step keeps the handles aligned
with that: it either leaves the far address of a handle, or names a peer for the descriptor of one,
or chooses one. So the far address of a handle is the one that was stored last, and a datagram goes
there if it is given no destination. -/
theorem directed_by_latest (w : World) (ss : List Step) :
    ∀ p ∈ ((start w).steps ss).table, p.2.flags.tls.enabled = false → p.2.protocol = .udp →
      ∃ fd, p.2.descriptor = some fd ∧
        p.2.Directed fd (latest fd ((start w).stores ss)) ((start w).steps ss).world := by
  intro p hp htls hudp
  obtain ⟨fd, hfd, -, -⟩ := (held_steps w ss).2 p hp
  obtain ⟨H, hB, hA⟩ := (sane_start w).steps ss fun _ _ _ => trivial
  have hopened := opened_of_mem hB hA hp hfd
  refine ⟨fd, hfd, ?_⟩
  rw [← (aligned_start w ss).far_eq p hp fd hfd]
  exact Handle.directed_of_far htls hfd hudp hopened

/-- A socket that was bound and had its destination set is directed by that. -/
theorem directed_by_chosen :
    ∃ ss : List Step, ∃ h : 0 < ((start {}).steps ss).table.length,
      (((start {}).steps ss).table[0]).2.flags.tls.enabled = false ∧
        (((start {}).steps ss).table[0]).2.protocol = .udp ∧
        ∃ fd, (((start {}).steps ss).table[0]).2.descriptor = some fd ∧
          (((start {}).steps ss).table[0]).2.Directed fd
            (latest fd ((start {}).stores ss)) ((start {}).steps ss).world :=
  ⟨[.bind "u" .own (some "127.0.0.1") "5000" .udp {},
      .setDestination "u" (.inet ⟨10, 0, 0, 1⟩ 7000)], by decide +kernel,
    by decide +kernel, by decide +kernel,
    directed_by_latest {} _ _ (List.getElem_mem _) (by decide +kernel) (by decide +kernel)⟩

end Run

end Sockets
