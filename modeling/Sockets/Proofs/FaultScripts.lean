import Mathlib.Tactic.Lemma
import Sockets.Kernel.Basic

/-!
# Scripts of faults

A call takes the next fault of its kind off the script. If that is an error number the call fails
with it and leaves everything else as it was, unless it closes a descriptor; else it is answered,
and a fault below zero limits how much it moves.

## Main definitions

* `Sockets.Kernel.due` — the error number that a call is to fail with next.
* `Sockets.Kernel.Unshortened` — no call that receives or sends on a connected socket is limited.

## Main results

* `Sockets.Kernel.perform_of_due`, `Sockets.Kernel.perform_of_fault_le` — a call that is to fail,
  and one that is not.
* `Sockets.Kernel.takeFault_snd` — what taking a fault off the script leaves.
-/

set_option autoImplicit false

namespace Sockets

namespace Kernel

/-- The error number that a call of a kind is to fail with next, if it is to. -/
def due (k : Kernel) (kind : CallKind) : Option Int :=
  if 0 < (k.takeFault kind).1 then some (k.takeFault kind).1 else none

/-- No call that receives or sends on a connected socket is limited in what it moves. -/
def Unshortened (k : Kernel) : Prop := ∀ kind ∈ [.recv, .send], ∀ f ∈ k.faults kind, 0 ≤ f

variable {k : Kernel} {c : Call} {kind : CallKind}

/-- A call that is not to fail is answered, once its fault is taken. -/
lemma perform_of_fault_le (h : (k.takeFault c.kind).1 ≤ 0) :
    k.perform c = (k.takeFault c.kind).2.answer (limitOf (k.takeFault c.kind).1) c := by
  rw [perform]
  exact if_neg (Int.not_lt.2 h)

/-- A call that is to fail does so with the error number that is due. -/
lemma perform_of_due {n : Int} (h : k.due c.kind = some n) :
    k.perform c = (.error n, (k.takeFault c.kind).2.stopped c) := by
  unfold due at h
  split at h
  · rename_i hpos
    obtain rfl := Option.some.inj h
    rw [perform]
    exact if_pos hpos
  · cases h

/-- Taking the fault of a call leaves everything but the faults of such calls. -/
lemma takeFault_snd (k : Kernel) (kind : CallKind) :
    (k.takeFault kind).2.sockets = k.sockets ∧ (k.takeFault kind).2.interfaces = k.interfaces ∧
      ∀ other ≠ kind, (k.takeFault kind).2.faults other = k.faults other := by
  unfold takeFault
  split
  · exact ⟨rfl, rfl, fun _ _ => rfl⟩
  · exact ⟨rfl, rfl, fun other hother => if_neg hother⟩

/-- The faults that are left are among those there were. -/
lemma takeFault_faults_subset (k : Kernel) (kind other : CallKind) :
    (k.takeFault kind).2.faults other ⊆ k.faults other := by
  unfold takeFault
  split
  · exact List.Subset.refl _
  · rename_i f rest hfaults
    by_cases hother : other = kind
    · subst hother
      rw [hfaults]
      simp
    · simp [hother]

/-- Where calls are not limited, they are not after some fault is taken. -/
lemma Unshortened.takeFault (h : k.Unshortened) (kind : CallKind) :
    (k.takeFault kind).2.Unshortened :=
  fun other hother f hf => h other hother f (k.takeFault_faults_subset kind other hf)

/-- A call that is not limited and not to fail is answered without a limit.

**Proof sketch.** What is taken from the script is no error, since none is due, and no limit, since
the kernel does not shorten. So it is zero. -/
lemma Unshortened.perform_eq (h : k.Unshortened) (hkind : c.kind ∈ [CallKind.recv, .send])
    (hdue : k.due c.kind = none) :
    k.perform c = (k.takeFault c.kind).2.answer none c := by
  have hle : (k.takeFault c.kind).1 ≤ 0 := by
    unfold due at hdue
    split at hdue
    · exact nomatch hdue
    · omega
  have hge : 0 ≤ (k.takeFault c.kind).1 := by
    unfold Kernel.takeFault
    split
    · exact Int.le_refl 0
    · rename_i f rest hfaults
      exact h c.kind hkind f (by rw [hfaults]; exact List.mem_cons_self)
  rw [perform_of_fault_le hle, limitOf, if_neg (Int.not_lt.2 hge)]

/-- An error number that is due is on the script. -/
lemma mem_of_due {n : Int} (h : k.due kind = some n) : 0 < n ∧ n ∈ k.faults kind := by
  unfold due at h
  split at h
  · rename_i hpos
    obtain rfl := Option.some.inj h
    refine ⟨hpos, ?_⟩
    unfold Kernel.takeFault at hpos ⊢
    split at hpos
    · exact absurd hpos (Int.lt_irrefl 0)
    · rename_i hfaults
      rw [hfaults]
      exact List.mem_cons_self
  · exact nomatch h

/-- A call that receives or sends and is answered leaves the script, and how the kernel counts.

**Proof sketch.** The two kinds of calls have one branch each that changes the kernel, and what
changes there are the sockets. -/
lemma answer_snd (hkind : c.kind ∈ [CallKind.recv, .send]) (k : Kernel) (limit : Option Nat) :
    (k.answer limit c).2.faults = k.faults ∧ (k.answer limit c).2.whole = k.whole := by
  cases c with
  | recv fd length flags =>
    show (k.receive fd length flags limit).2.faults = k.faults ∧
      (k.receive fd length flags limit).2.whole = k.whole
    unfold receive
    split <;> exact ⟨rfl, rfl⟩
  | send fd data flags =>
    show (k.transmit fd data limit).2.faults = k.faults ∧
      (k.transmit fd data limit).2.whole = k.whole
    unfold transmit
    split
    · exact ⟨rfl, rfl⟩
    · dsimp only
      split <;> exact ⟨rfl, rfl⟩
  | _ => simp [Call.kind] at hkind

/-- A call that is stopped leaves the script, and how the kernel counts. -/
lemma stopped_eq (k : Kernel) (c : Call) :
    (k.stopped c).faults = k.faults ∧ (k.stopped c).whole = k.whole := by
  cases c <;> exact ⟨rfl, rfl⟩

/-- A call that receives or sends puts no fault on the script. -/
lemma perform_faults_subset (hkind : c.kind ∈ [CallKind.recv, .send]) (other : CallKind) :
    (k.perform c).2.faults other ⊆ k.faults other := by
  have htake := k.takeFault_faults_subset c.kind other
  rw [perform]
  dsimp only
  split
  · rwa [(stopped_eq _ c).1]
  · rwa [(answer_snd hkind _ _).1]

/-- A call that receives or sends leaves how the kernel counts. -/
lemma perform_whole (hkind : c.kind ∈ [CallKind.recv, .send]) :
    (k.perform c).2.whole = k.whole := by
  have htake : (k.takeFault c.kind).2.whole = k.whole := by
    unfold Kernel.takeFault
    split <;> rfl
  rw [perform]
  dsimp only
  split
  · rw [(stopped_eq _ c).2, htake]
  · rw [(answer_snd hkind _ _).2, htake]

end Kernel

end Sockets
