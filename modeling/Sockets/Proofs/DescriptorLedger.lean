import Mathlib.Data.List.Perm.Basic
import Sockets.Proofs.Advance

/-!
# The ledger of descriptors

All along a run the handles that are alive own the open descriptors, one each, and every other
descriptor that was ever opened has been closed once. Whatever fails on the way, no descriptor is
left behind, and none is closed twice or taken from its handle.

## Main definitions

* `Sockets.Run.Balanced` — the ledger of descriptors of a run balances.

## Main results

* `Sockets.Run.balanced_steps` — it balances after all steps, and a handle that could not be made
  leaves the open descriptors as they were.
-/

set_option autoImplicit false

namespace Sockets

/-! ## Handles and their descriptors -/

/-- Handles compare equal just if they own the same descriptor. -/
lemma Handle.compare_eq_iff {g h : Handle} {a b : Descriptor} (hg : g.descriptor = some a)
    (hh : h.descriptor = some b) : g.compare h = .eq ↔ a = b := by
  simp only [compare, number, hg, hh]
  exact Std.LawfulEqOrd.compare_eq_iff_eq.trans Int.ofNat_inj

namespace Accounted

variable {H : Holdings} {t : Table}

/-- A descriptor is owned by a handle of the table just if it is on the books. -/
lemma owned_iff (hA : Accounted H t) (fd : Descriptor) :
    some fd ∈ t.handles.map Handle.descriptor ↔ (H fd).isSome = true := by
  rw [Table.handles, List.map_map, List.mem_map]
  constructor
  · rintro ⟨p, hp, hfd⟩
    rw [hA.holding_eq hp hfd]
    rfl
  · intro h
    exact hA.owner fd h

/-- An entry of the table is known by the descriptor of its handle. -/
lemma eq_of_descriptor_eq (hA : Accounted H t) {p q : String × Handle} (hp : p ∈ t) (hq : q ∈ t)
    (heq : p.2.descriptor = q.2.descriptor) : p = q := by
  have hname : p.1 = q.1 := hA.apart p hp q hq heq
  exact Prod.ext hname (hA.sorted.eq_of_mem hp (by rwa [hname]))

/-- No descriptor is owned twice. -/
lemma nodup_descriptors (hA : Accounted H t) :
    (t.handles.map Handle.descriptor).Nodup := by
  rw [Table.handles, List.map_map]
  exact List.Nodup.map_on (fun p hp q hq heq => hA.eq_of_descriptor_eq hp hq heq) hA.sorted.nodup

/-- Every handle of the table owns a descriptor. -/
lemma none_notMem (hA : Accounted H t) : none ∉ t.handles.map Handle.descriptor := by
  rw [Table.handles, List.map_map]
  intro hnone
  obtain ⟨p, hp, hpnone⟩ := List.mem_map.1 hnone
  obtain ⟨fd, hfd, -⟩ := hA.held p hp
  simp [hfd] at hpnone

/-- The handles of a table that accounts for the books own the open descriptors. -/
lemma perm_descriptors {stray : Prop} {w : World} (hA : Accounted H t) (hB : Books stray w H) :
    (t.handles.map Handle.descriptor).Perm (w.kernel.descriptors.map some) := by
  rw [List.perm_ext_iff_of_nodup hA.nodup_descriptors (hB.nodup.map fun _ _ => Option.some.inj)]
  intro o
  cases o with
  | none => simp [hA.none_notMem]
  | some fd =>
    rw [hA.owned_iff, ← hB.open_iff]
    simp

/-- Two handles of the table compare equal just if they are one. -/
lemma compare_eq_iff (hA : Accounted H t) {p q : String × Handle} (hp : p ∈ t) (hq : q ∈ t) :
    p.2.compare q.2 = .eq ↔ p = q := by
  obtain ⟨a, ha, -⟩ := hA.held p hp
  obtain ⟨b, hb, -⟩ := hA.held q hq
  rw [Handle.compare_eq_iff ha hb]
  constructor
  · rintro rfl
    exact hA.eq_of_descriptor_eq hp hq (ha.trans hb.symm)
  · rintro rfl
    exact Option.some.inj (ha.symm.trans hb)

end Accounted

/-- The ends of the life of a descriptor are those of a stage at which the books hold. -/
lemma Books.bounds_eq {stray : Prop} {w : World} {H : Holdings} (hB : Books stray w H)
    (fd : Descriptor) :
    ∃ s : Stage, (w.life fd).filter Deed.isBound = s.bounds ∧ s.holding? = H fd := by
  obtain ⟨s, hlived, hs, -⟩ := hB.lived fd
  exact ⟨s, hlived.bounds_eq, hs⟩

/-! ## The ledger -/

namespace Run

/-- **The ledger of descriptors balances**: the handles that are alive own the open descriptors, one
each; a descriptor that one of them owns was opened, and not closed; and every other one was never
opened, or opened and then closed once. -/
structure Balanced (r : Run) : Prop where
  owned : (r.table.handles.map Handle.descriptor).Perm (r.world.kernel.descriptors.map some)
  nodup : r.world.kernel.descriptors.Nodup
  equal_iff : ∀ p ∈ r.table, ∀ q ∈ r.table, p.2.compare q.2 = .eq ↔ p = q
  bounds_of_owned : ∀ p ∈ r.table, ∀ fd, p.2.descriptor = some fd →
    (r.world.life fd).filter Deed.isBound = [.opened]
  bounds_of_free : ∀ fd, (∀ p ∈ r.table, p.2.descriptor ≠ some fd) →
    (r.world.life fd).filter Deed.isBound = [] ∨
      (r.world.life fd).filter Deed.isBound = [.opened, .closed]

variable {stray : Prop} {r : Run}

/-- In a sane run the ledger balances.

**Proof sketch.** The open descriptors are those on the books, each with one owner. An owned
descriptor is held, so its life has begun and not ended; one without an owner is not held, so that
its life has not begun, or it has ended. -/
theorem Sane.balanced (hr : r.Sane stray) : r.Balanced := by
  obtain ⟨H, hB, hA⟩ := hr
  refine ⟨hA.perm_descriptors hB, hB.nodup, fun p hp q hq => hA.compare_eq_iff hp hq, ?_, ?_⟩
  · intro p hp fd hfd
    obtain ⟨s, hs, hH⟩ := hB.bounds_eq fd
    rw [hA.holding_eq hp hfd] at hH
    cases s with
    | live k => exact hs
    | unopened | closed => simp [Stage.holding?] at hH
  · intro fd hfree
    obtain ⟨s, hs, hH⟩ := hB.bounds_eq fd
    cases s with
    | unopened => exact .inl hs
    | closed => exact .inr hs
    | live k =>
      obtain ⟨p, hp, hfd⟩ := hA.owner fd (by rw [← hH]; rfl)
      exact absurd hfd (hfree p hp)

/-- A handle that could not be made leaves the open descriptors of a sane run as they were. -/
lemma Sane.descriptors_of_failed (hr : r.Sane True) {s : Step} {e : Error}
    (he : (r.step s).1 = .failed e) :
    (r.step s).2.world.kernel.descriptors.Perm r.world.kernel.descriptors := by
  obtain ⟨H, hB, hA⟩ := hr
  obtain ⟨H', hB', -, hH'⟩ := (advanced_step hB hA s fun _ => trivial).accounts
  obtain rfl := hH' (by rw [he]; rfl)
  rw [List.perm_ext_iff_of_nodup hB'.nodup hB.nodup]
  intro fd
  rw [hB'.open_iff, hB.open_iff]

/-- **Descriptor ledger.** After every step of every run, whatever fails in it, the ledger of
descriptors balances; and a step that fails to make a handle leaves the open descriptors as they
were.

**Proof sketch.** A run is sane at its start, which means that its lives are on the books and its
table accounts for all that is held, and every step leaves it so (`Sane.steps`). From that the
ledger can be read off (`Sane.balanced`). A step that fails to make a handle leaves the holdings,
and they are what is open (`Sane.descriptors_of_failed`). -/
theorem balanced_steps (w : World) (ss : List Step) :
    ((start w).steps ss).Balanced ∧ ∀ s e, (((start w).steps ss).step s).1 = .failed e →
      (((start w).steps ss).step s).2.world.kernel.descriptors.Perm
        ((start w).steps ss).world.kernel.descriptors :=
  have hsane : ((start w).steps ss).Sane True := (sane_start w).steps ss fun _ _ _ => trivial
  ⟨hsane.balanced, fun _ _ => hsane.descriptors_of_failed⟩

/-- One handle of a pair is left after the other was closed, although closing failed; and it is all
that is left after another pair could not be made. -/
theorem balanced_after_failures :
    ∃ r : Run, r.Balanced ∧ r.world.kernel.descriptors = [101] ∧
      (r.step (.socketpair "c" "d")).1 = .failed (.system "socketpair" (.os 24)) ∧
      (r.step (.socketpair "c" "d")).2.world.kernel.descriptors.Perm r.world.kernel.descriptors :=
  have hrun := balanced_steps {} [.socketpair "a" "b",
    .script { faults := [(.close, [5]), (.socketpair, [24])] }, .close "a"]
  ⟨_, hrun.1, rfl, rfl, hrun.2 _ _ rfl⟩

end Run

end Sockets
