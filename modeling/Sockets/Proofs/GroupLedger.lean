import Sockets.Proofs.Advance

/-!
# The ledger of groups

On every descriptor groups are joined and left in turns. Each group is left once, before the
descriptor is closed, on the interface that the kernel picks; which group that is was settled when
it was joined, so it does not matter where the handle is connected to by then. This holds as long as
nobody joins or leaves groups behind the back of the handles.

## Main definitions

* `Sockets.Run.TakesTurns` — groups are joined and left in turns on a descriptor.

## Main results

* `Sockets.Run.takesTurns_steps` — they are on every descriptor, after all steps.
-/

set_option autoImplicit false

namespace Sockets

/-! ## Turns -/

namespace Lived

variable {ds : List Deed}

/-- Nothing was done to a descriptor that is not opened yet. -/
lemma eq_nil_of_unopened (h : Lived False ds .unopened) : ds = [] := by
  cases h with
  | nil => rfl
  | snoc _ hd => exact nomatch hd
  | astray _ hs => exact hs.elim

end Lived

/-- In turns, a group that is left is one that was joined, and it is left on the interface that the
kernel picks. -/
lemma Deed.mem_turns_of_left {groups : List Ip} {group : Ip} {any : Bool}
    (h : left group any ∈ turns groups) : any = true ∧ joined group ∈ turns groups := by
  obtain ⟨g, hg, hmem⟩ := List.mem_flatMap.1 h
  obtain ⟨rfl, rfl⟩ : group = g ∧ any = true := by simpa using hmem
  exact ⟨rfl, List.mem_flatMap.2 ⟨group, hg, List.mem_cons_self⟩⟩

/-- Where groups are joined and left in turns, and what is left over is none that is left, a group
that is left is one that was joined. -/
lemma Deed.joined_of_left {ds last : List Deed} {groups : List Ip}
    (h : ds.filter isGroupMatter = turns groups ++ last) (hlast : ∀ g any, left g any ∉ last)
    {group : Ip} {any : Bool} (hleft : left group any ∈ ds) : any = true ∧ joined group ∈ ds := by
  have hmem : left group any ∈ turns groups ++ last := by
    rw [← h]
    exact List.mem_filter.2 ⟨hleft, rfl⟩
  rcases List.mem_append.1 hmem with hturns | hover
  · obtain ⟨hany, hjoined⟩ := mem_turns_of_left hturns
    have hmatter : joined group ∈ ds.filter isGroupMatter := by
      rw [h]
      exact List.mem_append_left _ hjoined
    exact ⟨hany, (List.mem_filter.1 hmatter).1⟩
  · exact absurd hover (hlast group any)

/-! ## The ledger -/

namespace Run

/-- What is left over on the descriptor of a handle: the group that it is in, if it is in one. -/
def leftOver (h : Handle) : List Deed := (h.membership.map fun m => Deed.joined m.group).toList

/-- **Groups are joined and left in turns** on a descriptor. What is left over then is the group
that the handle on it is in, or where there is no handle on it any more, the end of its life. A
group is left only where it was joined, and on the interface that the kernel picks. -/
structure TakesTurns (r : Run) (fd : Descriptor) : Prop where
  of_owned : ∀ p ∈ r.table, p.2.descriptor = some fd → ∃ groups,
    (r.world.life fd).filter Deed.isGroupMatter = Deed.turns groups ++ leftOver p.2
  of_free : (∀ p ∈ r.table, p.2.descriptor ≠ some fd) → r.world.life fd = [] ∨ ∃ groups,
    (r.world.life fd).filter Deed.isGroupMatter = Deed.turns groups ++ [.closed]
  joined_of_left : ∀ group any, Deed.left group any ∈ r.world.life fd →
    any = true ∧ Deed.joined group ∈ r.world.life fd

/-- In a sane run without strays groups are joined and left in turns.

**Proof sketch.** The life of the descriptor is known up to its stage, and its groups come in pairs
of joining and leaving with what is left over at that stage (`Lived.groups_eq`). The stage is what
the owner of the descriptor holds; without one nothing is held, and the descriptor was never opened
or is closed. -/
theorem Sane.takesTurns {r : Run} (hr : r.Sane False) (fd : Descriptor) : r.TakesTurns fd := by
  obtain ⟨H, hB, hA⟩ := hr
  obtain ⟨s, hlived, hs, -⟩ := hB.lived fd
  obtain ⟨groups, hgroups⟩ := hlived.groups_eq
  refine ⟨fun p hp hfd => ?_, fun hfree => ?_, fun group any => ?_⟩
  · rw [hA.holding_eq hp hfd] at hs
    cases s with
    | live k =>
      obtain rfl : k = p.2.holding := Option.some.inj hs
      refine ⟨groups, hgroups.trans ?_⟩
      simp [Stage.pending, leftOver, Handle.holding, Function.comp_def]
    | unopened | closed => simp [Stage.holding?] at hs
  · cases s with
    | unopened => exact .inl hlived.eq_nil_of_unopened
    | closed => exact .inr ⟨groups, hgroups⟩
    | live k =>
      obtain ⟨p, hp, hpfd⟩ := hA.owner fd (by rw [← hs]; rfl)
      exact absurd hpfd (hfree p hp)
  · refine Deed.joined_of_left hgroups fun g any' hmem => ?_
    cases s with
    | unopened => simp [Stage.pending] at hmem
    | live k => cases hk : k.group <;> simp [Stage.pending, hk] at hmem
    | closed => simp [Stage.pending] at hmem

/-- **Group ledger.** After every step of every run in which groups are joined and left by handles
only, whatever fails in it, groups are joined and left in turns on every descriptor.

**Proof sketch.** Where no group is joined in the raw, no descriptor has gone astray, so that its
life on the books has the groups in turns (`Sane.takesTurns`). -/
theorem takesTurns_steps (w : World) (ss : List Step) (hs : ∀ s ∈ ss, s.isRaw = false)
    (fd : Descriptor) : ((start w).steps ss).TakesTurns fd := by
  refine Sane.takesTurns ((sane_start w).steps ss fun s hmem hraw => ?_) fd
  rw [hs s hmem] at hraw
  exact Bool.false_ne_true hraw

/-- A handle that joins a group, is set on another destination, connected to another group and
closed leaves both groups, each in its turn. -/
theorem takesTurns_reconnected :
    ∃ r : Run, r.TakesTurns 100 ∧ r.world.life 100 =
      [.opened, .joined (.v4 ⟨239, 1, 2, 3⟩), .left (.v4 ⟨239, 1, 2, 3⟩) true,
        .joined (.v4 ⟨239, 4, 5, 6⟩), .left (.v4 ⟨239, 4, 5, 6⟩) true, .closed] :=
  ⟨_, takesTurns_steps {} [.bind "u" .own (some "127.0.0.1") "5000" .udp {},
    .joinGroup "u" (.inet ⟨239, 1, 2, 3⟩ 5000) .any, .setDestination "u" (.inet ⟨10, 0, 0, 1⟩ 7000),
    .reconnect "u" .own "239.4.5.6" "6000", .close "u"] (by decide) 100, by decide +kernel⟩

end Run

end Sockets
