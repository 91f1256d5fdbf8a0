import Sockets.Proofs.Tables
import Sockets.Proofs.Tending

/-!
# Accounts of the handles that are alive

The handles that are alive account for the books: each of them owns one descriptor, with what it
holds on it, no two own the same one, and nothing else is on the books. This module shows how a
table goes on accounting for the books while handles are stored in it and taken out of it.

## Main definitions

* `Sockets.Accounted` — a table of handles accounts for the books.
* `Sockets.Holdings.release` — the books with a descriptor taken off.

## Main results

* `Sockets.Accounted.insert`, `Sockets.Accounted.erase`, `Sockets.Accounted.replace`,
  `Sockets.Accounted.change` — a handle that is new, gone, new in place of another, or the same
  at a later time.
-/

set_option autoImplicit false

namespace Sockets

/-! ## Accounts -/

/-- A handle accounts for what is on the books of its descriptor. -/
def Handle.AccountsFor (H : Holdings) (h : Handle) : Prop :=
  ∃ fd, h.descriptor = some fd ∧ h.WellFormed ∧ H fd = some h.holding

/-- A table of handles accounts for the books. -/
structure Accounted (H : Holdings) (t : Table) : Prop where
  sorted : t.Sorted
  held : ∀ p ∈ t, p.2.AccountsFor H
  owner : ∀ fd, (H fd).isSome = true → ∃ p ∈ t, p.2.descriptor = some fd
  apart : ∀ p ∈ t, ∀ q ∈ t, p.2.descriptor = q.2.descriptor → p.1 = q.1

namespace Accounted

variable {H : Holdings} {t : Table} {name : String} {g h : Handle} {fd : Descriptor}

/-- No handles account for empty books. -/
lemma nil : Accounted (fun _ => none) [] :=
  ⟨.nil, by simp, by simp, by simp⟩

/-- What a handle of the table holds is on the books of its descriptor. -/
lemma holding_eq (hA : Accounted H t) (hp : (name, h) ∈ t) (hfd : h.descriptor = some fd) :
    H fd = some h.holding := by
  obtain ⟨fd', hfd', -, hH⟩ := hA.held _ hp
  obtain rfl := Option.some.inj (hfd.symm.trans hfd')
  exact hH

/-- Two tables in order with the same handles under the same names account for the same books. -/
lemma congr {u : Table} (hA : Accounted H t) (hu : u.Sorted) (hmem : ∀ p, p ∈ u ↔ p ∈ t) :
    Accounted H u := by
  refine ⟨hu, fun p hp => hA.held p ((hmem p).1 hp), fun fd hfd => ?_, fun p hp q hq => ?_⟩
  · obtain ⟨p, hp, hpfd⟩ := hA.owner fd hfd
    exact ⟨p, (hmem p).2 hp, hpfd⟩
  · exact hA.apart p ((hmem p).1 hp) q ((hmem q).1 hq)

/-- Where a handle is taken out and its descriptor taken off the books, the others account for the
rest.

**Proof sketch.** No other handle owns the descriptor, so what the others hold is not touched by the
change of the books. And a descriptor that is on the books still had an owner before, which was not
the handle taken out, as that owned another descriptor. -/
lemma erase (hA : Accounted H t) (hg : (name, g) ∈ t) (hfd : g.descriptor = some fd) :
    Accounted (Function.update H fd none) (t.erase name) := by
  refine ⟨hA.sorted.erase name, fun p hp => ?_, fun fd' hfd' => ?_, fun p hp q hq => ?_⟩
  · obtain ⟨hp, hne⟩ := Table.mem_erase.1 hp
    obtain ⟨fd', hfd', hwf, hH⟩ := hA.held p hp
    refine ⟨fd', hfd', hwf, ?_⟩
    rwa [Function.update_of_ne]
    rintro rfl
    exact hne (hA.apart p hp _ hg (hfd'.trans hfd.symm))
  · have hne : fd' ≠ fd := by
      rintro rfl
      rw [Function.update_self] at hfd'
      exact nomatch hfd'
    rw [Function.update_of_ne hne] at hfd'
    obtain ⟨p, hp, hpfd⟩ := hA.owner fd' hfd'
    refine ⟨p, Table.mem_erase.2 ⟨hp, ?_⟩, hpfd⟩
    rintro rfl
    obtain rfl : g = p.2 := hA.sorted.eq_of_mem hg hp
    exact hne (Option.some.inj (hpfd.symm.trans hfd))
  · exact hA.apart p (Table.mem_erase.1 hp).1 q (Table.mem_erase.1 hq).1

/-- Where a handle is stored under a name that nothing has, and what it holds is put on the books of
a descriptor that was not on them, all account for them.

**Proof sketch.** No handle in the table owns the descriptor, for then something would be held on
it. So the handles that were there account for what they did, the new one for the rest, and no two
own the same. -/
lemma insert (hA : Accounted H t) (hname : ∀ p ∈ t, p.1 ≠ name) (hnone : H fd = none)
    (hfd : h.descriptor = some fd) (hwf : h.WellFormed) :
    Accounted (Function.update H fd (some h.holding)) (t.insert name h) := by
  have hother {p : String × Handle} (hp : p ∈ t) : p.2.descriptor ≠ some fd := by
    intro heq
    rw [hA.holding_eq hp heq] at hnone
    exact nomatch hnone
  refine ⟨hA.sorted.insert name h, fun p hp => ?_, fun fd' hfd' => ?_, fun p hp q hq heq => ?_⟩
  · rcases (Table.mem_insert hA.sorted).1 hp with rfl | ⟨hp, -⟩
    · exact ⟨fd, hfd, hwf, Function.update_self ..⟩
    · obtain ⟨fd', hfd', hwf', hH⟩ := hA.held p hp
      refine ⟨fd', hfd', hwf', ?_⟩
      rwa [Function.update_of_ne]
      rintro rfl
      exact hother hp hfd'
  · by_cases heq : fd' = fd
    · subst heq
      exact ⟨(name, h), (Table.mem_insert hA.sorted).2 (.inl rfl), hfd⟩
    · rw [Function.update_of_ne heq] at hfd'
      obtain ⟨p, hp, hpfd⟩ := hA.owner fd' hfd'
      exact ⟨p, (Table.mem_insert hA.sorted).2 (.inr ⟨hp, hname p hp⟩), hpfd⟩
  · rcases (Table.mem_insert hA.sorted).1 hp with rfl | ⟨hp, -⟩ <;>
      rcases (Table.mem_insert hA.sorted).1 hq with rfl | ⟨hq, -⟩
    · rfl
    · exact absurd (heq.symm.trans hfd) (hother hq)
    · exact absurd (heq.trans hfd) (hother hp)
    · exact hA.apart p hp q hq heq

/-- Where a handle takes the name of another, whose descriptor is off the books then, all account
for the books. -/
lemma replace {old : Descriptor} (hA : Accounted H t) (hg : (name, g) ∈ t)
    (hgfd : g.descriptor = some old) (hnone : Function.update H old none fd = none)
    (hfd : h.descriptor = some fd) (hwf : h.WellFormed) :
    Accounted (Function.update (Function.update H old none) fd (some h.holding))
      (t.insert name h) := by
  have herase := hA.erase hg hgfd
  refine (herase.insert (fun p hp => (Table.mem_erase.1 hp).2) hnone hfd hwf).congr
    (hA.sorted.insert name h) fun p => ?_
  rw [Table.mem_insert hA.sorted, Table.mem_insert herase.sorted, Table.mem_erase, and_assoc,
    and_self]

/-- Where the handle of a name goes on as another one with the same descriptor, its table goes on
accounting for the books. -/
lemma change (hA : Accounted H t) (hg : (name, g) ∈ t) (hgfd : g.descriptor = some fd)
    (hfd : h.descriptor = some fd) (hwf : h.WellFormed) :
    Accounted (Function.update H fd (some h.holding)) (t.insert name h) := by
  have hreplace := hA.replace hg hgfd (Function.update_self ..) hfd hwf
  rwa [Function.update_idem] at hreplace

end Accounted

/-! ## Taking descriptors off -/

namespace Holdings

/-- The books with a descriptor taken off, if there is one to take off. -/
def release (H : Holdings) : Option Descriptor → Holdings
  | some fd => Function.update H fd none
  | none => H

/-- Taking one descriptor off commutes with writing about another. -/
lemma release_update (H : Holdings) {o : Option Descriptor} {fd : Descriptor} (h : o ≠ some fd)
    (k : Option Holding) :
    release (Function.update H fd k) o = Function.update (release H o) fd k := by
  cases o with
  | none => rfl
  | some fd' => exact Function.update_comm (fun heq => h (congrArg some heq.symm)) _ _ _

/-- Nothing is held on more descriptors than before. -/
lemma release_eq_none {H : Holdings} {fd : Descriptor} (h : H fd = none) (o : Option Descriptor) :
    H.release o fd = none := by
  cases o with
  | none => exact h
  | some fd' => simp [release, Function.update_apply, h]

/-- A descriptor that is on the books is another one than one that is not. -/
lemma ne_of_isSome {H : Holdings} {a b : Descriptor} (ha : (H a).isSome = true)
    (hb : H b = none) : a ≠ b := by
  rintro rfl
  rw [hb] at ha
  exact nomatch ha

end Holdings

end Sockets
