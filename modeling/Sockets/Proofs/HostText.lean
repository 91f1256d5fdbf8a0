import Sockets.Address.Failure
import Sockets.Proofs.Literals

/-!
# Host text and what it stands for

The host text of an internet address does not tell everything: an address of eight groups that
carries one of four octets is shown as what it carries. So reading the text gives the address that
a reader sees, which is the address itself unless it carries another; and two addresses look alike
just if they are the same or show the same four octets.

## Main definitions

* `Sockets.Ipv6.Carries` — an address of eight groups carries one of four octets.
* `Sockets.Ip.StandsFor` — what an address stands for in its host text.

## Main results

* `Sockets.Ip.hostText_round_trip` — host text is read as what the address stands for, and written
  again as it was.
-/

set_option autoImplicit false

namespace Sockets

/-! ## Carried addresses -/

namespace Ipv6

/-- An address of eight groups carries one of four octets: it is mapped, `::ffff:a.b.c.d`, or has
nothing before the four octets, `::a.b.c.d`, and is neither the wildcard nor the loopback
address. -/
inductive Carries (ip : Ipv6) (v4 : Ipv4) : Prop
  | mapped (h : ip = carrying 0xFFFF v4)
  | compatible (h : ip = carrying 0 v4) (hwildcard : ip ≠ unspecified) (hloopback : ip ≠ loopback)

/-- What is found in an address is what it carries.

**Proof sketch.** The marker of a mapped address is looked for first. If it is there, the address is
no compatible one, whose sixth group is zero. If it is not, what is left to check are the groups
before the last two, and that the address is neither the wildcard nor the loopback. -/
lemma embedded?_eq_some_iff {ip : Ipv6} {v4 : Ipv4} :
    ip.embedded? = some v4 ↔ ip.Carries v4 := by
  unfold embedded?
  cases hmapped : ip.mapped? with
  | some inner =>
    have hip := mapped?_eq_some_iff.1 hmapped
    constructor
    · intro h
      exact .mapped (Option.some.inj h ▸ hip)
    · rintro (h | ⟨h, -, -⟩)
      · rw [← mapped?_eq_some_iff.2 h, hmapped]
      · exact absurd (congrArg g5 (h.symm.trans hip)) (by simp [carrying])
  | none =>
    have hno : ip ≠ carrying 0xFFFF v4 := by
      rw [ne_eq, ← mapped?_eq_some_iff, hmapped]
      exact (Option.some_ne_none v4).symm
    constructor
    · intro h
      dsimp only at h
      split at h
      · rename_i hgroups
        obtain ⟨h0, h1, h2, h3, h4, h5, hwildcard, hloopback⟩ := hgroups
        have hip := eq_carrying_lastOctets h0 h1 h2 h3 h4
        rw [h5, Option.some.inj h] at hip
        exact .compatible hip hwildcard hloopback
      · cases h
    · rintro (h | ⟨h, hwildcard, hloopback⟩)
      · exact absurd h hno
      · dsimp only
        rw [if_pos]
        · rw [h, lastOctets_carrying]
        · rw [h]
          exact ⟨rfl, rfl, rfl, rfl, rfl, rfl, h ▸ hwildcard, h ▸ hloopback⟩

end Ipv6

/-! ## What is shown -/

namespace Ip

/-- What an address stands for in its host text: an address of four octets for itself, one of eight
groups for the one it carries, or for itself if it carries none. -/
inductive StandsFor : Ip → Ip → Prop
  | octets (ip : Ipv4) : StandsFor (.v4 ip) (.v4 ip)
  | carried {ip : Ipv6} {inner : Ipv4} (h : ip.Carries inner) : StandsFor (.v6 ip) (.v4 inner)
  | groups {ip : Ipv6} (h : ∀ inner, ¬ ip.Carries inner) : StandsFor (.v6 ip) (.v6 ip)

variable {ip seen other : Ip}

/-- An address that carries another is shown as that. -/
lemma shown_of_carries {ip : Ipv6} {inner : Ipv4} (h : ip.Carries inner) :
    (v6 ip).shown = v4 inner := by
  simp only [shown, Ipv6.embedded?_eq_some_iff.2 h]

/-- An address that carries no other is shown as it is. -/
lemma shown_of_not_carries {ip : Ipv6} (h : ∀ inner, ¬ ip.Carries inner) :
    (v6 ip).shown = v6 ip := by
  have hnone : ip.embedded? = none := by
    rw [Option.eq_none_iff_forall_ne_some]
    exact fun inner hinner => h inner (Ipv6.embedded?_eq_some_iff.1 hinner)
  simp only [shown, hnone]

/-- What is shown of an address is what it stands for.

**Proof sketch.** One case for each way of standing for an address. An address of eight groups
carries another one or does not, and what is shown is settled by that. -/
lemma standsFor_iff : ip.StandsFor seen ↔ seen = ip.shown := by
  constructor
  · rintro (_ | h | h)
    · rfl
    · exact (shown_of_carries h).symm
    · exact (shown_of_not_carries h).symm
  · rintro rfl
    cases ip with
    | v4 ip => exact .octets ip
    | v6 ip =>
      by_cases h : ∃ inner, ip.Carries inner
      · obtain ⟨inner, hinner⟩ := h
        rw [shown_of_carries hinner]
        exact .carried hinner
      · rw [not_exists] at h
        rw [shown_of_not_carries h]
        exact .groups h

/-- What an address stands for stands for itself. -/
lemma StandsFor.shown_eq (h : ip.StandsFor seen) : seen.shown = seen := by
  rcases h with _ | _ | h
  · rfl
  · rfl
  · exact shown_of_not_carries h

/-- Only the address itself stands for an address of eight groups. -/
lemma StandsFor.eq_of_groups {groups : Ipv6} (h : ip.StandsFor (.v6 groups)) : ip = .v6 groups := by
  cases h
  rfl

/-- Different addresses have different full texts. -/
lemma text_injective (h : ip.text = other.text) : ip = other := by
  rw [← Option.some.injEq, ← literal?_text ip, h, literal?_text]

/-- Two addresses have the same host text if they stand for the same address. -/
lemma hostText_eq_iff : other.hostText = ip.hostText ↔ other.shown = ip.shown :=
  ⟨text_injective, congrArg text⟩

/-- A literal gives the address that is written. -/
lemma ofText_of_literal {host : String} (h : literal? host = some ip) (port : UInt16) :
    Address.ofText host port = .ok (.ofIp ip port) := by
  unfold Address.ofText Address.parse
  rw [h]
  rfl

/-- **Host text.** Every internet address stands for just one in its host text. Reading that text,
in brackets or not, with a port gives this one at the port, and writing that gives the text again.
Another address has the same text just if it is the same or both stand for the same four octets.

**Proof sketch.** What an address stands for is what is shown of it (`standsFor_iff`), whose text is
the host text. That text is a literal of what is shown, in brackets or not, so it is read back as
that. Equal texts mean that the same is shown (`hostText_eq_iff`): an address of eight groups is
shown just by itself, and one of four octets by all that carry it. -/
theorem hostText_round_trip (ip : Ip) (port : UInt16) :
    ∃ seen, (∀ other, ip.StandsFor other ↔ other = seen) ∧
      Address.ofText ip.hostText port = .ok (.ofIp seen port) ∧
      Address.ofText ("[" ++ ip.hostText ++ "]") port = .ok (.ofIp seen port) ∧
      (Address.ofIp seen port).host? = some ip.hostText ∧
      ∀ other : Ip, other.hostText = ip.hostText ↔
        other = ip ∨ ∃ inner, ip.StandsFor (.v4 inner) ∧ other.StandsFor (.v4 inner) := by
  have hshown : ip.StandsFor ip.shown := standsFor_iff.2 rfl
  have hsame (other : Ip) (h : ip.shown = other.shown) : other.hostText = ip.hostText :=
    hostText_eq_iff.2 h.symm
  refine ⟨ip.shown, fun _ => standsFor_iff, ofText_of_literal ip.shown.literal?_text port,
    ofText_of_literal ip.shown.literal?_bracketed port, ?_, fun other => ⟨fun h => ?_, ?_⟩⟩
  · rw [← hsame ip.shown hshown.shown_eq.symm]
    cases ip.shown <;> rfl
  · have hother : other.StandsFor ip.shown := standsFor_iff.2 (hostText_eq_iff.1 h).symm
    cases hseen : ip.shown with
    | v4 inner =>
      rw [hseen] at hshown hother
      exact .inr ⟨inner, hshown, hother⟩
    | v6 groups =>
      rw [hseen] at hshown hother
      exact .inl (hother.eq_of_groups.trans hshown.eq_of_groups.symm)
  · rintro (rfl | ⟨inner, hip, hother⟩)
    · rfl
    · exact hsame other ((standsFor_iff.1 hip).symm.trans (standsFor_iff.1 hother))

/-- The address `::0.0.0.2` carries one of four octets, so that is how it is read back. -/
example : (Ip.v6 ⟨0, 0, 0, 0, 0, 0, 0, 2⟩).shown = .v4 ⟨0, 0, 0, 2⟩ := by decide

end Ip

end Sockets
