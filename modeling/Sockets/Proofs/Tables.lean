import Mathlib.Tactic.Lemma
import Sockets.Run.Table

/-!
# Tables in order

A table of named handles is kept in the order of the names, so each name is in it once at most, and
what is in it is what is found.

## Main definitions

* `Sockets.Table.Sorted` — the names are in order.

## Main results

* `Sockets.Table.mem_insert`, `Sockets.Table.mem_erase` — what is in a table after a change.
* `Sockets.Table.get?_eq_some_iff` — what is found is what is in the table.
-/

set_option autoImplicit false

namespace Sockets

namespace Table

/-- The names of a table are in order. -/
def Sorted (t : Table) : Prop := t.Pairwise fun p q => p.1 < q.1

/-- A name that comes before another is a different one. -/
lemma ne_of_before {a b : String} (h : a < b) : a ≠ b := by
  rintro rfl
  exact String.lt_irrefl a h

/-- Of two different names one comes before the other. -/
lemma before_of_ne {a b : String} (h : ¬ b < a) (hne : a ≠ b) : a < b :=
  Decidable.byContradiction fun h' =>
    hne (String.le_antisymm (String.not_lt.1 h) (String.not_lt.1 h'))

variable {t : Table} {name : String} {h : Handle} {p : String × Handle}

/-- What stands behind the first entry of a table in order has a later name. -/
lemma Sorted.lt_of_mem {q : String × Handle} (ht : Sorted (p :: t)) (hq : q ∈ t) : p.1 < q.1 :=
  (List.pairwise_cons.1 ht).1 q hq

/-- A table in order is in order behind its first entry. -/
lemma Sorted.tail (ht : Sorted (p :: t)) : Sorted t := (List.pairwise_cons.1 ht).2

/-- What is in a table after a handle was stored is that handle and what has another name.

**Proof sketch.** Induction on the table, along the three cases of storing. Where the name is found
the entry is replaced; where it would have come before, no later entry has it, as the table is in
order; and behind an earlier name the rest is as the induction says. -/
theorem mem_insert (ht : t.Sorted) :
    p ∈ t.insert name h ↔ p = (name, h) ∨ p ∈ t ∧ p.1 ≠ name := by
  induction t with
  | nil => simp [insert]
  | cons q t ih =>
    obtain ⟨n, g⟩ := q
    have hlt : ∀ r ∈ t, n < r.1 := fun r hr => ht.lt_of_mem hr
    unfold insert
    split
    · rename_i heq
      subst heq
      constructor
      · intro hp
        rcases List.mem_cons.1 hp with rfl | hp
        · exact .inl rfl
        · exact .inr ⟨List.mem_cons_of_mem _ hp, (ne_of_before (hlt p hp)).symm⟩
      · rintro (rfl | ⟨hp, hne⟩)
        · exact List.mem_cons_self
        · rcases List.mem_cons.1 hp with rfl | hp
          · exact absurd rfl hne
          · exact List.mem_cons_of_mem _ hp
    split
    · rename_i hname
      have hne : p ∈ (n, g) :: t → p.1 ≠ name := by
        intro hp
        rcases List.mem_cons.1 hp with rfl | hp
        · exact (ne_of_before hname).symm
        · exact (ne_of_before (String.lt_trans hname (hlt p hp))).symm
      rw [List.mem_cons]
      exact or_congr_right ⟨fun hp => ⟨hp, hne hp⟩, fun hp => hp.1⟩
    · rename_i hne _
      rw [List.mem_cons, ih ht.tail, List.mem_cons]
      constructor
      · rintro (rfl | rfl | ⟨hp, hne'⟩)
        · exact .inr ⟨.inl rfl, hne⟩
        · exact .inl rfl
        · exact .inr ⟨.inr hp, hne'⟩
      · rintro (rfl | ⟨rfl | hp, hne'⟩)
        · exact .inr (.inl rfl)
        · exact .inl rfl
        · exact .inr (.inr ⟨hp, hne'⟩)

/-- A table stays in order when a handle is stored.

**Proof sketch.** By induction on the table. A handle is stored in the place of one with its name,
before the first name that comes later, or further on, where all that is stored comes after the
first name as well. -/
theorem Sorted.insert (ht : t.Sorted) (name : String) (h : Handle) :
    Sorted (t.insert name h) := by
  induction t with
  | nil => exact List.pairwise_singleton _ _
  | cons q t ih =>
    obtain ⟨n, g⟩ := q
    have hlt : ∀ r ∈ t, n < r.1 := fun r hr => ht.lt_of_mem hr
    unfold Table.insert
    split
    · rename_i heq
      subst heq
      exact List.pairwise_cons.2 ⟨hlt, ht.tail⟩
    split
    · rename_i hname
      refine List.pairwise_cons.2 ⟨fun r hr => ?_, ht⟩
      rcases List.mem_cons.1 hr with rfl | hr
      · exact hname
      · exact String.lt_trans hname (hlt r hr)
    · rename_i hne hname
      refine List.pairwise_cons.2 ⟨fun r hr => ?_, ih ht.tail⟩
      rcases (mem_insert ht.tail).1 hr with rfl | ⟨hr, -⟩
      · exact before_of_ne hname hne
      · exact hlt r hr

/-- What is in a table after a handle was taken out is what has another name. -/
theorem mem_erase : p ∈ t.erase name ↔ p ∈ t ∧ p.1 ≠ name := by
  simp [erase]

/-- A table stays in order when a handle is taken out. -/
theorem Sorted.erase (ht : t.Sorted) (name : String) : Sorted (t.erase name) :=
  List.Pairwise.filter _ ht

/-- What is found in a table is in it. -/
lemma mem_of_get?_eq_some (h' : t.get? name = some h) : (name, h) ∈ t := by
  induction t with
  | nil => exact nomatch h'
  | cons q t ih =>
    obtain ⟨n, g⟩ := q
    unfold get? at h'
    split at h'
    · rename_i heq
      subst heq
      obtain rfl := Option.some.inj h'
      exact List.mem_cons_self
    · exact List.mem_cons_of_mem _ (ih h')

/-- What is found in a table in order is what is in it.

**Proof sketch.** By induction on the table. If the first name is the one that is looked for, no
later entry has it, as names get later. If it is not, the entry is in the rest. -/
theorem get?_eq_some_iff (ht : t.Sorted) : t.get? name = some h ↔ (name, h) ∈ t := by
  refine ⟨mem_of_get?_eq_some, fun hmem => ?_⟩
  induction t with
  | nil => exact nomatch hmem
  | cons q t ih =>
    obtain ⟨n, g⟩ := q
    have hlt : ∀ r ∈ t, n < r.1 := fun r hr => ht.lt_of_mem hr
    unfold get?
    split
    · rename_i heq
      subst heq
      rcases List.mem_cons.1 hmem with heq | hmem
      · rw [(Prod.mk.inj heq).2]
      · exact absurd (hlt _ hmem) (String.lt_irrefl n)
    · rename_i hne
      rcases List.mem_cons.1 hmem with heq | hmem
      · exact absurd (Prod.mk.inj heq).1.symm hne
      · exact ih ht.tail hmem

/-- A name is in a table in order once at most. -/
lemma Sorted.eq_of_mem {g : Handle} (ht : t.Sorted) (hg : (name, g) ∈ t) (hh : (name, h) ∈ t) :
    g = h := by
  rw [← get?_eq_some_iff ht] at hg hh
  exact Option.some.inj (hg.symm.trans hh)

/-- A name under which nothing is found is not in the table. -/
lemma ne_of_get?_eq_none (ht : t.Sorted) (hn : t.get? name = none) (hp : p ∈ t) :
    p.1 ≠ name := by
  rintro rfl
  rw [(get?_eq_some_iff ht).2 hp] at hn
  exact nomatch hn

end Table

end Sockets
