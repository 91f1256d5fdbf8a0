import Sockets.Proofs.Custody
import Sockets.Proofs.Negotiation

/-!
# Steps and custody

Whatever a step of a run does, it does it by turns of custody: what the handles of the table own and
have after it is what the turns lead to. This module shows that for every step.

## Main definitions

* `Sockets.Table.Owns` — the descriptors that the handles of a table own, and their sessions.
* `Sockets.Entrusted` — a table and what is known of its sessions.
* `Sockets.Step.Encrypts`, `Sockets.Step.provider` — whether a step asks a provider for a session,
  and which.
* `Sockets.Tracked` — a step takes turns of custody.

## Main results

* `Sockets.Run.tracked_perform` — every step does.
* `Sockets.Run.settled_perform` — one that asks for a session gets it or fails.
-/

set_option autoImplicit false

namespace Sockets

open Dealing (talk)
open Handle (lastWords)
open Net (Leads)
open World (Told Backed)

/-! ## Tables and what their handles own -/

/-- What the handles of a table own: their descriptors, each with the session that its handle
has. -/
def Table.Owns (t : Table) (O : Descriptor → Option (Option Tls.Session)) : Prop :=
  ∀ fd session, O fd = some session ↔
    ∃ p ∈ t, p.2.descriptor = some fd ∧ p.2.session = session

namespace Table.Owns

variable {H : Holdings} {O : Descriptor → Option (Option Tls.Session)} {t : Table} {name : String}
  {g h : Handle} {fd old : Descriptor}

/-- No handles own anything. -/
lemma nil : Table.Owns [] fun _ => none := by
  intro fd session
  simp

/-- What a handle of the table has. -/
lemma eq_some (hO : t.Owns O) (hg : (name, g) ∈ t) (hfd : g.descriptor = some fd) :
    O fd = some g.session :=
  (hO fd g.session).2 ⟨_, hg, hfd, rfl⟩

/-- What is not on the books is not owned. -/
lemma eq_none (hO : t.Owns O) (hA : Accounted H t) (hnone : H fd = none) : O fd = none := by
  cases hfd : O fd with
  | none => rfl
  | some session =>
    obtain ⟨⟨name, g⟩, hg, hgfd, -⟩ := (hO fd session).1 hfd
    rw [hA.holding_eq hg hgfd] at hnone
    exact nomatch hnone

/-- Two tables with the same handles own the same. -/
lemma congr {u : Table} (hO : t.Owns O) (hmem : ∀ p, p ∈ u ↔ p ∈ t) : u.Owns O := by
  intro fd session
  rw [hO fd session]
  simp only [hmem]

/-- Where a handle is taken out, its descriptor is not owned any more.

**Proof sketch.** For the descriptor that is taken out: another entry of the table with it would be
the same entry, as entries are apart in their descriptors. For any other: the entries with it are
those of before, none of which has the name that is gone. -/
lemma erase (hO : t.Owns O) (hA : Accounted H t) (hg : (name, g) ∈ t)
    (hfd : g.descriptor = some fd) : (t.erase name).Owns (Function.update O fd none) := by
  intro other session
  by_cases hne : other = fd
  · subst hne
    rw [Function.update_self]
    refine ⟨nofun, ?_⟩
    rintro ⟨p, hp, hpfd, -⟩
    obtain ⟨hp, hname⟩ := Table.mem_erase.1 hp
    exact absurd (hA.apart p hp _ hg (hpfd.trans hfd.symm)) hname
  · rw [Function.update_of_ne hne, hO other session]
    refine exists_congr fun p => ?_
    rw [Table.mem_erase, and_assoc]
    refine and_congr_right fun hp => ⟨fun hpfd => ⟨?_, hpfd⟩, fun hpfd => hpfd.2⟩
    rintro rfl
    obtain rfl : g = p.2 := hA.sorted.eq_of_mem hg hp
    exact hne (Option.some.inj (hpfd.1.symm.trans hfd))

/-- Where a handle is stored under a name that nothing has, its descriptor is owned too.

**Proof sketch.** For the new descriptor: it was not owned, so the new entry is the only one with
it. For any other: the new entry does not have it, and the others are still there since the name is
new. -/
lemma insert (hO : t.Owns O) (ht : t.Sorted) (hname : ∀ p ∈ t, p.1 ≠ name) (hnone : O fd = none)
    (hfd : h.descriptor = some fd) :
    (t.insert name h).Owns (Function.update O fd (some h.session)) := by
  intro other session
  simp only [Table.mem_insert ht]
  by_cases hne : other = fd
  · subst hne
    rw [Function.update_self]
    constructor
    · intro hs
      exact ⟨(name, h), .inl rfl, hfd, Option.some.inj hs⟩
    · rintro ⟨p, rfl | ⟨hp, -⟩, hpfd, rfl⟩
      · rfl
      · rw [hO.eq_some hp hpfd] at hnone
        exact nomatch hnone
  · rw [Function.update_of_ne hne, hO other session]
    constructor
    · rintro ⟨p, hp, hpfd⟩
      exact ⟨p, .inr ⟨hp, hname p hp⟩, hpfd⟩
    · rintro ⟨p, rfl | ⟨hp, -⟩, hpfd⟩
      · exact absurd (Option.some.inj (hpfd.1.symm.trans hfd)) hne
      · exact ⟨p, hp, hpfd⟩

/-- Where a handle takes the name of another, the descriptor of that one is not owned any more.

**Proof sketch.** Replacing a handle is taking it out and storing the new one, which `erase` and
`insert` are about; the new descriptor is another one, as it was not owned. -/
lemma replace (hO : t.Owns O) (hA : Accounted H t) (hg : (name, g) ∈ t)
    (hold : g.descriptor = some old) (hnone : O fd = none) (hfd : h.descriptor = some fd) :
    (t.insert name h).Owns
      (Function.update (Function.update O fd (some h.session)) old none) := by
  have hne : fd ≠ old := by
    rintro rfl
    rw [hO.eq_some hg hold] at hnone
    exact nomatch hnone
  have herase := hA.erase hg hold
  rw [Function.update_comm hne]
  refine ((hO.erase hA hg hold).insert herase.sorted (fun p hp => (Table.mem_erase.1 hp).2) ?_
    hfd).congr fun p => ?_
  · rw [Function.update_of_ne hne, hnone]
  · rw [Table.mem_insert hA.sorted, Table.mem_insert herase.sorted, Table.mem_erase, and_assoc,
      and_self]

/-- Where the handle of a name goes on as another one with the same descriptor, that one's session
is the one on the descriptor. -/
lemma change (hO : t.Owns O) (hA : Accounted H t) (hg : (name, g) ∈ t)
    (hgfd : g.descriptor = some fd) (hfd : h.descriptor = some fd) :
    (t.insert name h).Owns (Function.update O fd (some h.session)) := by
  have herase := hA.erase hg hgfd
  have hinsert := (hO.erase hA hg hgfd).insert herase.sorted
    (fun p hp => (Table.mem_erase.1 hp).2) (Function.update_self ..) hfd
  rw [Function.update_idem] at hinsert
  refine hinsert.congr fun p => ?_
  rw [Table.mem_insert hA.sorted, Table.mem_insert herase.sorted, Table.mem_erase, and_assoc,
    and_self]

/-- What is not owned before a handle is stored, and not by that handle, is not owned after it. -/
lemma eq_none_of_insert {P : Descriptor → Option (Option Tls.Session)} (hO : t.Owns O)
    (hP : (t.insert name h).Owns P) (ht : t.Sorted) (hnone : O fd = none)
    (hfd : h.descriptor ≠ some fd) : P fd = none := by
  cases hsome : P fd with
  | none => rfl
  | some session =>
    obtain ⟨p, hp, hpfd, -⟩ := (hP fd session).1 hsome
    rcases (Table.mem_insert ht).1 hp with rfl | ⟨hp, -⟩
    · exact absurd hpfd hfd
    · rw [hO.eq_some hp hpfd] at hnone
      exact nomatch hnone

end Table.Owns

/-- Where a new handle is stored, the table goes on accounting for some books. -/
lemma Accounted.store {H : Holdings} {t : Table} {h : Handle} {fd : Descriptor}
    (hA : Accounted H t) (name : String) (hnone : H fd = none) (hfd : h.descriptor = some fd)
    (hwf : h.WellFormed) : ∃ H', Accounted H' (t.insert name h) := by
  cases hg : t.get? name with
  | none =>
    exact ⟨_, hA.insert (fun p hp => Table.ne_of_get?_eq_none hA.sorted hg hp) hnone hfd hwf⟩
  | some g =>
    have hmem := (Table.get?_eq_some_iff hA.sorted).1 hg
    obtain ⟨old, hold, -, -⟩ := hA.held _ hmem
    exact ⟨_, hA.replace hmem hold (H.release_eq_none hnone (some old)) hfd hwf⟩

/-! ## What steps do -/

namespace Step

/-- A step asks a provider for a session: it opens an encrypted connection, or accepts one. -/
def Encrypts (t : Table) : Step → Prop
  | connect _ _ _ _ _ flags => flags.tls.enabled = true
  | build _ b (.connect ..) => b.flags.tls.enabled = true
  | accept _ _ name => ∃ l, t.get? name = some l ∧ l.flags.tls.enabled = true
  | _ => False

/-- The context whose provider a step may ask for a session. -/
def scope? : Step → Option Scope
  | connect _ scope .. | accept _ scope _ => some scope
  | build _ b (.connect ..) => some b.scope
  | _ => none

/-- The provider that a step may ask for a session. -/
def provider (s : Step) (w : World) : Tls.Provider :=
  (s.scope?.map fun scope => (w.context scope).provider).getD (.own {})

end Step

/-- A table with the books that its handles account for, what they own, and what was said so far:
nothing on a descriptor that was never opened. -/
structure Entrusted (stray : Prop) (H : Holdings) (O : Descriptor → Option (Option Tls.Session))
    (w : World) (t : Table) : Prop where
  books : Books stray w H
  accounted : Accounted H t
  owns : t.Owns O
  silent : ∀ fd, .opened ∉ w.life fd → talk w.dealings fd = []

/-- A descriptor that is opened on the way was neither owned nor spoken on. -/
lemma Entrusted.fresh {stray : Prop} {H : Holdings} {O : Descriptor → Option (Option Tls.Session)}
    {u w : World} {t : Table} (hE : Entrusted stray H O u t) {fd : Descriptor}
    (ho : u.Opens w fd) : H fd = none ∧ O fd = none ∧ talk u.dealings fd = [] := by
  have hnone := hE.books.eq_none_of_not_opened ho.1
  exact ⟨hnone, hE.owns.eq_none hE.accounted hnone, hE.silent fd ho.1⟩

/-- A step takes turns of custody, to what the handles that are alive after it own; and providers
are asked only if the step encrypts. -/
structure Tracked (q : Tls.Provider) (encrypts : Prop) (u : World)
    (O : Descriptor → Option (Option Tls.Session)) (G : List (Descriptor × Tls.Session))
    (out : Reply × Table) (w : World) : Prop where
  told : ∃ ds, u.Told ds w ∧ (¬ encrypts → ∀ d ∈ ds, d.call.negotiates = false)
  turns : ∃ O' G', out.2.Owns O' ∧
    Custody.Turns q (u.Opens w) ⟨u.dealings, O, G⟩ ⟨w.dealings, O', G'⟩

namespace Tracked

variable {q : Tls.Provider} {encrypts : Prop} {u w : World}
  {O : Descriptor → Option (Option Tls.Session)} {G : List (Descriptor × Tls.Session)}
  {out : Reply × Table} {ds : List Dealing}

/-- A step that takes some turns, by what was said in them. -/
lemma of_turns {b : Custody} (hw : u.Told ds w)
    (hd : ¬ encrypts → ∀ d ∈ ds, d.call.negotiates = false)
    (ht : Custody.Turns q (u.Opens w) ⟨u.dealings, O, G⟩ b) (hs : b.said = u.dealings ++ ds)
    (hO : out.2.Owns b.owned) : Tracked q encrypts u O G out w := by
  refine ⟨⟨ds, hw, hd⟩, b.owned, b.granted, hO, ?_⟩
  rw [hw.dealings_eq, ← hs]
  exact ht

/-- A step in which nothing is said to sessions, and nothing changes hands. -/
lemma of_silent (hw : u.Told [] w) (hO : out.2.Owns O) : Tracked q encrypts u O G out w :=
  of_turns hw (by simp) .refl (by simp) hO

end Tracked

/-- Last words are shutting a session down. -/
lemma Handle.call_of_mem_lastWords {fd : Descriptor} {session : Option Tls.Session} {d : Dealing}
    (hd : d ∈ lastWords fd session) : d.call = .shutdown ∧ d.on = fd := by
  cases session with
  | none => exact nomatch hd
  | some s =>
    obtain rfl := List.mem_singleton.1 hd
    exact ⟨rfl, rfl⟩

/-- Where a descriptor got no session, nothing was negotiated for it, nor in shutting others
down. -/
lemma Tls.Provider.Gave.negotiates_eq_false {q : Tls.Provider} {fd : Descriptor}
    {session : Option Tls.Session} {ds es : List Dealing} (hg : q.Gave fd session ds)
    (hs : session.isSome = false) (hes : ∀ d ∈ es, d.call = .shutdown) :
    ∀ d ∈ ds ++ es, d.call.negotiates = false := by
  cases hg with
  | session => exact nomatch hs
  | nothing =>
    intro d hd
    rw [hes d hd]
    rfl

namespace Run

variable {α : Type} {stray encrypts : Prop} {H : Holdings}
  {O : Descriptor → Option (Option Tls.Session)} {G : List (Descriptor × Tls.Session)}
  {q : Tls.Provider} {u v : World} {t : Table} {name : String} {g h : Handle} {fd : Descriptor}

/-! ## Parts of steps -/

/-- What storing a new handle does, where the table owned something before: it parts with the
descriptor of the handle that had the name, if there was one. -/
def Stored (O : Descriptor → Option (Option Tls.Session)) (fd : Descriptor)
    (session : Option Tls.Session) (v : World) (t : Table) (w : World) : Prop :=
  ∃ ds O', v.Told ds w ∧ (∀ d ∈ ds, d.call = .shutdown ∧ O d.on ≠ none) ∧ t.Owns O' ∧
    ∀ q new said G, Custody.Turns q new ⟨said, Function.update O fd (some session), G⟩
      ⟨said ++ ds, O', G⟩

/-- Storing a new handle under a name parts with the handle that had the name.

**Proof sketch.** By whether the name is taken. If it is not, the handle is stored and nothing is
said (`Table.Owns.insert`). If it is, the handle that had it is dropped with the last words to its
session (`told_drop`), which is parting with its descriptor, and the new one stands in its place. -/
lemma stored_store (hA : Accounted H t) (hO : t.Owns O) (hnone : O fd = none)
    (hfd : h.descriptor = some fd) :
    Leads (fun w => w = v) (store t name h) fun t' w =>
      t' = t.insert name h ∧ Stored O fd h.session v t' w := by
  unfold store
  cases hg : t.get? name with
  | none =>
    refine .bind (R := fun _ w => w = v) (fun _ hw => hw) fun _ => .pure _ ?_
    rintro w rfl
    have hinsert := hO.insert hA.sorted (fun p hp => Table.ne_of_get?_eq_none hA.sorted hg hp)
      hnone hfd
    refine ⟨rfl, [], _, .of_journal_eq rfl, by simp, hinsert, fun q new said G => ?_⟩
    rw [List.append_nil]
  | some g =>
    have hmem := (Table.get?_eq_some_iff hA.sorted).1 hg
    obtain ⟨old, hold, hwf, -⟩ := hA.held _ hmem
    have hsome : O old = some g.session := hO.eq_some hmem hold
    have hne : old ≠ fd := by
      rintro rfl
      rw [hsome] at hnone
      exact nomatch hnone
    have hreplace := hO.replace hA hmem hold hnone hfd
    refine .bind (R := fun _ => v.Told (lastWords old g.session)) ?_
      fun _ => .pure _ fun w hw => ⟨rfl, _, _, hw, fun d hd => ?_, hreplace, fun q new said G => ?_⟩
    · rintro w rfl
      have hnothing : w.Told [] w := .of_journal_eq rfl
      exact Handle.told_drop hold hwf.enabled_of_session w hnothing
    · obtain ⟨hcall, rfl⟩ := Handle.call_of_mem_lastWords hd
      exact ⟨hcall, by rw [hsome]; exact Option.some_ne_none _⟩
    · refine .single (.parted ?_)
      show Function.update O fd (some h.session) old = some g.session
      rw [Function.update_of_ne hne, hsome]

/-- Where a handle could not be made, its descriptor was parted with, if there was one.

**Proof sketch.** By how making the handle failed. Either nothing was said at all; or there was no
session to be had, which is the turn that refuses; or the handle was unwound, and then its
descriptor is taken and parted with in two turns, which leaves what is owned as it was. -/
lemma tracked_failed {e : Error} {encrypted : Bool} {w : World} (hE : Entrusted stray H O u t)
    (hw : Net.Arranged u q encrypted (.error e) w) (he : encrypted = true → encrypts) :
    Tracked q encrypts u O G (.failed e, t) w := by
  cases hw with
  | poised hw => exact .of_silent hw.told hE.owns
  | denied henc hw =>
    rcases hw.told with hnil | ⟨fd, c, hc, ho, htold⟩
    · exact .of_silent hnil hE.owns
    · obtain ⟨-, hnone, hsilent⟩ := hE.fresh ho
      exact .of_turns htold (fun hne => absurd (he henc) hne)
        (.single (.refused ho hnone hsilent hc)) rfl hE.owns
  | @unwound _ fd session ds _ hs hg ho htold =>
    obtain ⟨-, hnone, hsilent⟩ := hE.fresh ho
    have htaken : Custody.Turn q (u.Opens w) ⟨u.dealings, O, G⟩
        (Custody.take ⟨u.dealings, O, G⟩ fd session ds) := .taken ho hnone hsilent hg
    have hparted : Custody.Turn q (u.Opens w) (Custody.take ⟨u.dealings, O, G⟩ fd session ds)
        ((Custody.take ⟨u.dealings, O, G⟩ fd session ds).part fd session) :=
      .parted (Function.update_self ..)
    refine .of_turns htold (fun hne => ?_) (.tail (.single htaken) hparted)
      (List.append_assoc ..) ?_
    · have hplain : session.isSome = false :=
        Bool.eq_false_iff.2 fun hsome => hne (he (hs.symm.trans hsome))
      exact hg.negotiates_eq_false hplain fun d hd => (Handle.call_of_mem_lastWords hd).1
    · show t.Owns (Function.update (Function.update O fd (some session)) fd none)
      rw [Function.update_idem, Function.update_eq_self_iff.2 hnone.symm]
      exact hE.owns

/-- Where a handle was made, its descriptor is taken before it is stored.

**Proof sketch.** The new handle is on a fresh descriptor, which is taken with what was said on it.
Storing it then parts with the handle that had its name, if there was one (`stored_store`). -/
lemma tracked_stored {encrypted : Bool} (hE : Entrusted stray H O u t)
    (hv : h.Equipped u q encrypted v) (he : encrypted = true → encrypts) :
    Leads (fun w => w = v) (do let t' ← store t name h; pure (.opened, t'))
      (Tracked q encrypts u O G) := by
  obtain ⟨fd, ds, hfd, hg, ho, htold⟩ := hv.exists_gave
  obtain ⟨-, hnone, hsilent⟩ := hE.fresh ho
  refine .bind (stored_store hE.accounted hE.owns hnone hfd) fun t' => .of_and ?_
  rintro rfl
  refine .pure _ fun w ⟨es, O', htold', hes, hO', hparts⟩ => ?_
  have htaken : Custody.Turn q (u.Opens w) ⟨u.dealings, O, G⟩
      (Custody.take ⟨u.dealings, O, G⟩ fd h.session ds) :=
    .taken (ho.trans htold') hnone hsilent hg
  refine .of_turns (htold.trans htold') (fun hne => ?_) (.head htaken (hparts ..))
    (List.append_assoc ..) hO'
  have hplain : h.session.isSome = false :=
    Bool.eq_false_iff.2 fun hsome => hne (he (hv.encrypted_eq.symm.trans hsome))
  exact hg.negotiates_eq_false hplain fun d hd => (hes d hd).1

/-- A step that opens a handle under a name. -/
lemma tracked_openAs {x : Attempt Error Handle} {encrypted : Bool} (hE : Entrusted stray H O u t)
    (hx : Leads (fun w => w = u) x.run (Net.Arranged u q encrypted))
    (he : encrypted = true → encrypts) :
    Leads (fun w => w = u) (openAs t name x) (Tracked q encrypts u O G) := by
  refine .bind hx fun r => ?_
  cases r with
  | error e => exact .pure _ fun w hw => tracked_failed hE hw he
  | ok h =>
    intro v hv
    cases hv with
    | made hv => exact tracked_stored hE hv he v rfl

/-- A step that opens a pair of handles under two names.

**Proof sketch.** Both handles are made without a session (`told_socketpair`), so each is taken in a
turn of its own. Storing each of them may part with a handle that had the name. The second name may
be the first, so that storing the second parts with the first: what is known of the second
descriptor is carried over that. -/
lemma tracked_openPair {first second : String} (hE : Entrusted stray H O u t) :
    Leads (fun w => w = u) (openPair t first second) (Tracked q encrypts u O G) := by
  have hstart (w : World) (hw : w = u) : u.Poised w ∧ Books stray w H := by
    subst hw
    exact ⟨⟨.refl, .of_journal_eq rfl⟩, hE.books⟩
  refine .bind ((Net.told_socketpair hE.books).weaken hstart fun _ _ hw => hw) fun r => ?_
  cases r with
  | error e => exact .pure _ fun w hw => .of_silent hw.1 hE.owns
  | ok p =>
    obtain ⟨g, h⟩ := p
    rintro v ⟨htold, hmade⟩
    obtain ⟨⟨⟨hgs, hgwf⟩, hhs, -⟩, a, b, ⟨hga, hhb⟩, hab, hoa, hob⟩ := hmade g h rfl
    obtain ⟨hHa, hna, hsa⟩ := hE.fresh hoa
    obtain ⟨-, hnb, hsb⟩ := hE.fresh hob
    obtain ⟨H', hA'⟩ := hE.accounted.store first hHa hga hgwf
    refine ((stored_store (v := v) hE.accounted hE.owns hna hga).bind
      (Q := Tracked q encrypts u O G) fun t' => .of_and ?_) v rfl
    rintro rfl
    rintro w ⟨ds, O', htoldw, hds, hO', hparts⟩
    -- The second handle is stored beside the first one, or in its place.
    have hnb' : O' b = none :=
      hE.owns.eq_none_of_insert hO' hE.accounted.sorted hnb fun heq =>
        hab (Option.some.inj (hga.symm.trans heq))
    have hsb' : talk (u.dealings ++ ds) b = [] := by
      rw [Dealing.talk_append, hsb, List.nil_append]
      refine Dealing.talk_eq_nil fun d hd heq => (hds d hd).2 ?_
      rw [heq, hnb]
    refine ((stored_store (v := w) hA' hO' hnb' hhb).bind
      (Q := Tracked q encrypts u O G) fun t' => .of_and ?_) w rfl
    rintro rfl
    refine .pure _ fun x ⟨es, O'', htoldx, hes, hO'', hparts'⟩ => ?_
    have hopens (fd : Descriptor) (ho : u.Opens v fd) : u.Opens x fd :=
      (ho.trans htoldw).trans htoldx
    have hfirst : Custody.Turn q (u.Opens x) ⟨u.dealings, O, G⟩
        ⟨u.dealings, Function.update O a (some none), G⟩ := .opened (hopens a hoa) hna hsa
    have hsecond : Custody.Turn q (u.Opens x) ⟨u.dealings ++ ds, O', G⟩
        ⟨u.dealings ++ ds, Function.update O' b (some none), G⟩ := .opened (hopens b hob) hnb' hsb'
    have hturns := hparts q (u.Opens x) u.dealings G
    have hturns' := hparts' q (u.Opens x) (u.dealings ++ ds) G
    rw [hgs] at hturns
    rw [hhs] at hturns'
    refine .of_turns ((htold.trans htoldw).trans htoldx) (fun _ d hd => ?_)
      ((Relation.ReflTransGen.head hfirst hturns).trans (.head hsecond hturns'))
      (List.append_assoc ..) hO''
    rcases List.mem_append.1 hd with hd | hd
    · rw [(hds d (by simpa using hd)).1]
      rfl
    · rw [(hes d hd).1]
      rfl

/-- A step that operates on the handle of a name, and says nothing to its session. -/
lemma tracked_change {x : Handle.Act Unit} (hE : Entrusted stray H O u t) (hg : (name, g) ∈ t)
    (hfd : g.descriptor = some fd)
    (hx : Leads (Handle.Quiet u [] fd g g) (x.on g) fun p => Handle.Quiet u [] fd g p.2) :
    Leads (fun w => w = u) (change t name g x) (Tracked q encrypts u O G) := by
  have hstart (w : World) (hw : w = u) : Handle.Quiet u [] fd g g w :=
    .self (.of_journal_eq (by rw [hw])) hfd
  refine .bind (hx.weaken hstart fun _ _ hw => hw) fun p => .pure _ fun w hw => ?_
  refine .of_silent hw.told ?_
  have hchange := hE.owns.change hE.accounted hg hfd hw.descriptor_eq
  rwa [show p.2.session = g.session from hw.session_eq,
    Function.update_eq_self_iff.2 (hE.owns.eq_some hg hfd).symm] at hchange

/-- A step that transfers data on the handle of a name.

**Proof sketch.** A transfer is silent or is one call to the session of the handle (`Goes.spoke`).
The first changes nothing that is owned, and the second is the turn that uses the session. -/
lemma tracked_transfer {x : Net (Transfer α)} {reply : Transfer α → Reply}
    (hE : Entrusted stray H O u t) (hg : (name, g) ∈ t) (hfd : g.descriptor = some fd)
    (hx : g.Transfers fd x) :
    Leads (fun w => w = u) (transfer t name x reply) (Tracked q encrypts u O G) := by
  have hspoke : Leads (fun w => w = u) x fun d => Handle.Spoke u fd g d.handle := by
    rintro w rfl
    obtain ⟨side, senseless, hgoes⟩ := hx w
    exact hgoes.spoke (.of_journal_eq rfl)
  have hsome := hE.owns.eq_some hg hfd
  refine .bind hspoke fun d => .pure _ fun w hw => ?_
  have hchange {i : Handle} (hi : i.descriptor = some fd) :=
    hE.owns.change hE.accounted hg hfd hi
  generalize d.handle = i at hw
  cases hw with
  | silent hw =>
    refine .of_silent hw ?_
    have hsame := hchange hfd
    rwa [Function.update_eq_self_iff.2 hsome.symm] at hsame
  | @used s t c answer _ hs hu hw =>
    rw [hs] at hsome
    refine .of_turns hw (fun _ d hd => ?_) (.single (.used hsome hu)) rfl (hchange hfd)
    obtain rfl := List.mem_singleton.1 hd
    cases hu <;> rfl

/-- A step that asks the handle of a name, which at most remembers more after it. -/
lemma tracked_answer {reply : Reply} (hE : Entrusted stray H O u t) (hg : (name, g) ∈ t)
    (hfd : g.descriptor = some fd) (hh : h.descriptor = some fd) (hs : h.session = g.session) :
    Leads (fun w => w = u) (pure (reply, t.insert name h)) (Tracked q encrypts u O G) := by
  refine .pure _ fun w hw => .of_silent (.of_journal_eq (by rw [hw])) ?_
  have hchange := hE.owns.change hE.accounted hg hfd hh
  rwa [hs, Function.update_eq_self_iff.2 (hE.owns.eq_some hg hfd).symm] at hchange

/-- A step that parts with the handle of a name. -/
lemma tracked_erase {x : Net α} {reply : α → Reply} (hE : Entrusted stray H O u t)
    (hg : (name, g) ∈ t) (hfd : g.descriptor = some fd)
    (hx : Leads (u.Told []) x fun _ => u.Told (lastWords fd g.session)) :
    Leads (fun w => w = u) (do let a ← x; pure (reply a, t.erase name))
      (Tracked q encrypts u O G) := by
  have hstart (w : World) (hw : w = u) : u.Told [] w := .of_journal_eq (by rw [hw])
  refine .bind (hx.weaken hstart fun _ _ hw => hw) fun a => .pure _ fun w hw => ?_
  refine .of_turns hw (fun _ d hd => ?_) (.single (.parted (hE.owns.eq_some hg hfd))) rfl
    (hE.owns.erase hE.accounted hg hfd)
  rw [(Handle.call_of_mem_lastWords hd).1]
  rfl

/-- A step that leaves the table, and says nothing to sessions. -/
lemma tracked_aside {x : Net α} {reply : α → Reply} (hE : Entrusted stray H O u t)
    (hx : Leads (u.Told []) x fun _ => u.Told []) :
    Leads (fun w => w = u) (do let a ← x; pure (reply a, t)) (Tracked q encrypts u O G) := by
  have hstart (w : World) (hw : w = u) : u.Told [] w := .of_journal_eq (by rw [hw])
  exact .bind (hx.weaken hstart fun _ _ hw => hw) fun a => .pure _ fun w hw =>
    .of_silent hw hE.owns

/-- A step on the handle of a name. -/
lemma tracked_onHandle {f : Handle → Net (Reply × Table)} (hE : Entrusted stray H O u t)
    (hf : ∀ g fd, t.get? name = some g → (name, g) ∈ t → g.descriptor = some fd →
      Leads (fun w => w = u) (f g) (Tracked q encrypts u O G)) :
    Leads (fun w => w = u) (onHandle t name f) (Tracked q encrypts u O G) := by
  unfold onHandle
  cases hg : t.get? name with
  | none => exact .pure _ fun w hw => .of_silent (.of_journal_eq (by rw [hw])) hE.owns
  | some g =>
    have hmem := (Table.get?_eq_some_iff hE.accounted.sorted).1 hg
    obtain ⟨fd, hfd, -, -⟩ := hE.accounted.held _ hmem
    exact hf g fd hg hmem hfd

/-- Something that happens in the kernel says nothing to sessions. -/
lemma told_happenOn {f : Kernel → Descriptor → Kernel} {ds : List Dealing} :
    Leads (u.Told ds) (happenOn h f) fun _ => u.Told ds := by
  unfold happenOn
  split
  · exact Told.leads_aside fun _ => rfl
  · exact .pure _ fun _ hw => hw

/-- An operation on the descriptor of a handle says nothing to sessions. -/
lemma told_onDescriptor {f : Descriptor → Attempt Error α} {kinds : List CallKind}
    {ds : List Dealing} (hf : ∀ fd, Net.Only (Event.Within kinds) (f fd).run) :
    Leads (u.Told ds) (onDescriptor h f) fun _ => u.Told ds := by
  unfold onDescriptor
  split
  · exact Told.leads_within (hf _)
  · exact .pure _ fun _ hw => hw

/-! ## Steps -/

/-- What an operation that opens a handle begins with. -/
lemma begins (hE : Entrusted stray H O u t) (scope : Scope) (w : World) (hw : w = u) :
    (u.Poised w ∧ Books stray w H) ∧ w.Backed scope (u.context scope).provider := by
  subst hw
  exact ⟨⟨⟨.refl, .of_journal_eq rfl⟩, hE.books⟩, rfl⟩

/-- The last step of a builder deals with sessions as it should. -/
lemma arranged_lastStep (hE : Entrusted stray H O u t) (as : String) (b : Builder)
    (last : BuilderEnd) : ∃ encrypted,
      (encrypted = true ↔ (Step.build as b last).Encrypts t) ∧
        Leads (fun w => w = u) (lastStep b last).run
          (Net.Arranged u ((Step.build as b last).provider u) encrypted) := by
  cases last with
  | connect host service =>
    exact ⟨_, .rfl, (b.arranged_connect hE.books host service).weaken (begins hE b.scope)
      fun _ _ hw => hw⟩
  | bind host service =>
    exact ⟨false, ⟨nofun, False.elim⟩, (b.arranged_bind hE.books host service).weaken
      (fun w hw => (begins hE b.scope w hw).1) fun _ _ hw => hw⟩
  | listen host service =>
    exact ⟨false, ⟨nofun, False.elim⟩, (b.arranged_listen hE.books host service).weaken
      (fun w hw => (begins hE b.scope w hw).1) fun _ _ hw => hw⟩

/-- **Every step** takes turns of custody, whatever fails on the way.

**Proof sketch.** One case for each step. The steps that make a handle are arranged, so that it is
taken or refused (`tracked_openAs`); those that close one part with it (`tracked_erase`); transfers
use its session (`tracked_transfer`); and all others say nothing to a session. -/
theorem tracked_perform (hE : Entrusted stray H O u t) (s : Step) :
    Leads (fun w => w = u) (perform t s) (Tracked (s.provider u) (s.Encrypts t) u O G) := by
  cases s with
  | connect as scope host service p flags =>
    refine tracked_openAs hE ?_ id
    exact (Net.arranged_connect hE.books _ _ _ _).weaken (begins hE scope) fun _ _ hw => hw
  | bind as scope host service p flags =>
    refine tracked_openAs hE ((Net.arranged_bind hE.books _ _ _ _).weaken
      (fun w hw => (begins hE scope w hw).1) fun _ _ hw => hw) nofun
  | build as b last =>
    obtain ⟨encrypted, he, hx⟩ := arranged_lastStep hE as b last
    exact tracked_openAs hE hx he.1
  | accept as scope name =>
    refine tracked_onHandle hE fun l fd hget hl hfd => tracked_openAs hE ?_ fun he => ⟨l, hget, he⟩
    exact (Net.arranged_accept hE.books l).weaken (begins hE scope) fun _ _ hw => hw
  | socketpair first second => exact tracked_openPair hE
  | reconnect name scope host service =>
    exact tracked_onHandle hE fun g fd _ hg hfd =>
      tracked_change hE hg hfd (Handle.quiet_reconnect _ _ _)
  | setDestination name a =>
    exact tracked_onHandle hE fun g fd _ hg hfd =>
      tracked_change hE hg hfd (Handle.quiet_setDestination _)
  | joinGroup name group interface =>
    exact tracked_onHandle hE fun g fd _ hg hfd =>
      tracked_change hE hg hfd (Handle.Quiet.frame.leads_joinGroup _ _)
  | listen name scope =>
    exact tracked_onHandle hE fun g fd _ hg hfd =>
      tracked_aside hE (Told.leads_within (Net.made_listen _ _).only)
  | close name =>
    refine tracked_onHandle hE fun g fd _ hg hfd => tracked_erase hE hg hfd ?_
    obtain ⟨fd', hfd', hwf, -⟩ := hE.accounted.held _ hg
    exact Handle.told_close hfd hwf.enabled_of_session
  | drop name =>
    refine tracked_onHandle hE fun g fd _ hg hfd => tracked_erase hE hg hfd ?_
    obtain ⟨fd', hfd', hwf, -⟩ := hE.accounted.held _ hg
    exact Handle.told_drop hfd hwf.enabled_of_session
  | info name =>
    exact tracked_onHandle hE fun g fd _ hg hfd => tracked_answer hE hg hfd hfd rfl
  | tell name q =>
    refine tracked_onHandle hE fun g fd _ hg hfd => ?_
    obtain ⟨near, far, hmoved⟩ := g.exists_moved_tell q
    rw [hmoved]
    exact tracked_answer hE hg hfd hfd rfl
  | read name buffer side flags =>
    exact tracked_onHandle hE fun g fd _ hg hfd =>
      tracked_transfer hE hg hfd (Handle.transfers_read hfd _ _ _)
  | readVec name length side flags =>
    exact tracked_onHandle hE fun g fd _ hg hfd =>
      tracked_transfer hE hg hfd (Handle.transfers_readVec hfd _ _ _)
  | write name data side flags =>
    exact tracked_onHandle hE fun g fd _ hg hfd =>
      tracked_transfer hE hg hfd (Handle.transfers_write hfd _ _ _)
  | joinRaw name group interface =>
    exact tracked_onHandle hE fun g fd _ hg hfd =>
      tracked_aside hE (told_onDescriptor fun fd => (Membership.made_join fd _ _).only)
  | leaveRaw name group =>
    exact tracked_onHandle hE fun g fd _ hg hfd =>
      tracked_aside hE (told_onDescriptor fun fd => (Membership.made_leave fd _).only)
  | compare first second =>
    exact tracked_onHandle hE fun g fd _ hg hfd => tracked_onHandle hE fun g' fd' _ hg' hfd' =>
      .pure _ fun w hw => .of_silent (.of_journal_eq (by rw [hw])) hE.owns
  | feed name item =>
    exact tracked_onHandle hE fun g fd _ hg hfd => tracked_aside hE told_happenOn
  | finish name =>
    exact tracked_onHandle hE fun g fd _ hg hfd => tracked_aside hE told_happenOn
  | script s => exact tracked_aside hE (Told.leads_aside fun _ => rfl)

/-- How a step ends that asks for a session: there is none to be had, and nothing comes of it; or
the provider gives one, and if anything else is said to sessions in the step, that is shutting them
down. -/
inductive Settles (q : Tls.Provider) (u : World) (t : Table) : Reply × Table → World → Prop
  | refused {e : Error} {w : World} (hw : u.Denied w) : Settles q u t (.failed e, t) w
  | secured {out : Reply × Table} {w : World} {fd : Descriptor} {c : TlsCall} {g : Tls.Session}
      {ds : List Dealing} (hq : q.Gives g) (hc : c.negotiates = true)
      (hw : u.Told (⟨fd, c, .secured g⟩ :: ds) w) (hds : ∀ d ∈ ds, d.call = .shutdown) :
      Settles q u t out w

/-- An encrypted handle is opened under a name just if there is a session to be had.

**Proof sketch.** Where making the handle failed, there was no session to be had, or one was got and
the handle unwound after it. Where it was made, it has a session, and what is said after that are
the last words for the handle that had its name. -/
lemma settled_openAs {x : Attempt Error Handle} (hE : Entrusted stray H O u t)
    (hx : Leads (fun w => w = u) x.run (Net.Arranged u q true)) :
    Leads (fun w => w = u) (openAs t name x) (Settles q u t) := by
  refine .bind hx fun r => ?_
  cases r with
  | error e =>
    refine .pure _ fun w hw => ?_
    cases hw with
    | poised hw => exact .refused hw.denied
    | denied _ hw => exact .refused hw
    | unwound hs hg _ hw =>
      cases hg with
      | nothing => exact nomatch hs
      | session hq hc => exact .secured hq hc hw fun d hd => (Handle.call_of_mem_lastWords hd).1
  | ok h =>
    intro v hv
    cases hv with
    | made hv =>
      obtain ⟨fd, ds, hfd, hg, ho, htold⟩ := hv.exists_gave
      obtain ⟨-, hnone, -⟩ := hE.fresh ho
      refine ((stored_store (v := v) hE.accounted hE.owns hnone hfd).bind
        (Q := Settles q u t) fun t' => .of_and fun _ => ?_) v rfl
      refine .pure _ fun w ⟨es, _, htold', hes, _⟩ => ?_
      have hsome := hv.encrypted_eq
      generalize h.session = session at hg hsome
      cases hg with
      | nothing => exact nomatch hsome
      | session hq hc => exact .secured hq hc (htold.trans htold') fun d hd => (hes d hd).1

/-- **A step that asks for a session** gets it, or fails and leaves the table.

**Proof sketch.** Only connecting, what a builder ends in and accepting ask for a session, and each
of them is arranged (`arranged_connect`, `arranged_lastStep`, `arranged_accept`); the rest is about
storing the handle (`settled_openAs`). -/
theorem settled_perform (hE : Entrusted stray H O u t) (s : Step) (hs : s.Encrypts t) :
    Leads (fun w => w = u) (perform t s) (Settles (s.provider u) u t) := by
  cases s with
  | connect as scope host service p flags =>
    have he : flags.tls.enabled = true := hs
    refine settled_openAs hE ?_
    rw [← he]
    exact (Net.arranged_connect hE.books _ _ _ _).weaken (begins hE scope) fun _ _ hw => hw
  | build as b last =>
    obtain ⟨encrypted, he, hx⟩ := arranged_lastStep hE as b last
    obtain rfl := he.2 hs
    exact settled_openAs hE hx
  | accept as scope name =>
    obtain ⟨l, hget, he⟩ := hs
    show Leads _ (onHandle t name fun h => openAs t as (Net.accept scope h)) _
    rw [onHandle, hget]
    refine settled_openAs hE ?_
    rw [← he]
    exact (Net.arranged_accept hE.books l).weaken (begins hE scope) fun _ _ hw => hw
  | _ => exact hs.elim

end Run

end Sockets
