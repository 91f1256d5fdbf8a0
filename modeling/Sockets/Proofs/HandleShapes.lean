import Sockets.Proofs.Advance

/-!
# Shapes of handles

Whatever becomes of the operations on it, and whatever flags it was asked for with, a handle that is
alive is well-formed: its flags say whether it is in a group, and only an encrypted handle has a
session. Every handle starts in the shape of the operation that makes it, and is the same in what it
was made with for as long as it is alive.

## Main results

* `Sockets.Run.wellFormed_steps` — all of this, after all steps.
-/

set_option autoImplicit false

namespace Sockets

namespace Run

variable {r : Run}

/-- The handles of a sane run are well-formed. -/
lemma Sane.wellFormed {stray : Prop} (hr : r.Sane stray) {p : String × Handle} (hp : p ∈ r.table) :
    p.2.WellFormed := by
  obtain ⟨H, -, hA⟩ := hr
  obtain ⟨fd, -, hwf, -⟩ := hA.held p hp
  exact hwf

/-- A step of a sane run makes handles in the shape of the step. -/
lemma Sane.made (hr : r.Sane True) (s : Step) {name : String} (hn : name ∈ s.names (r.step s).1) :
    ∃ h, (name, h) ∈ (r.step s).2.table ∧ s.shape r.table h := by
  obtain ⟨H, hB, hA⟩ := hr
  exact (advanced_step hB hA s fun _ => trivial).made name hn

/-- **Shapes of handles.** After every step of every run, whatever fails in it, every handle that is
alive is well-formed; a step that makes handles makes them in the shape of the step; and a handle
stays the same in its number, descriptor, protocol and encryption, and in whether it has a session,
as long as no step ends its life.

**Proof sketch.** The table of a sane run holds handles that are well-formed, a step advances it by
handles in its shape, and whoever is not ended by a step is advanced to the same handle
(`Sane.goes_on`). -/
theorem wellFormed_steps (w : World) (ss : List Step) :
    (∀ p ∈ ((start w).steps ss).table, p.2.WellFormed) ∧
      (∀ s, ∀ name ∈ s.names (((start w).steps ss).step s).1,
        ∃ h, (name, h) ∈ (((start w).steps ss).step s).2.table ∧
          s.shape ((start w).steps ss).table h) ∧
      ∀ p ∈ ((start w).steps ss).table, ∀ more, Spares p.1 ((start w).steps ss) more →
        ∃ h, (p.1, h) ∈ (((start w).steps ss).steps more).table ∧ p.2.Same h :=
  have hsane : ((start w).steps ss).Sane True := (sane_start w).steps ss fun _ _ _ => trivial
  ⟨fun _ => hsane.wellFormed, fun s _ => hsane.made s, fun _ hp _ => hsane.goes_on hp⟩

/-- A handle that was bound is well-formed, and goes on when it joins a group. -/
theorem wellFormed_bound :
    ∃ r : Run, ∃ _ : 0 < r.table.length, (r.table[0]).2.WellFormed ∧
      ∃ h, ((r.table[0]).1, h) ∈
        (r.steps [.joinGroup "u" (.inet ⟨239, 1, 2, 3⟩ 5000) .any]).table ∧ (r.table[0]).2.Same h :=
  have hrun := wellFormed_steps {} [.bind "u" .own (some "127.0.0.1") "5000" .udp {}]
  ⟨_, by decide +kernel, hrun.1 _ (List.getElem_mem _), hrun.2.2 _ (List.getElem_mem _) _
    ⟨by simp [Step.ends, Step.names], trivial⟩⟩

end Run

end Sockets
