import Sockets.Proofs.Opening

/-!
# Groups on the books

A group that a descriptor joins is put on its books, and one that it leaves is taken off them. To
join has to succeed for that, but a group that could not be left counts as left all the same, since
nobody tries again.

## Main results

* `Sockets.Membership.leads_join` — joining a group, through any interface.
* `Sockets.Membership.leads_leave` — leaving the group of a membership.
* `Sockets.Membership.leads_join_astray`, `Sockets.Membership.leads_leave_astray` — the same behind
  the back of whoever holds the descriptor.
-/

set_option autoImplicit false

namespace Sockets

open Net (Leads)

namespace Membership

variable {stray : Prop} {H : Holdings} {fd : Descriptor} {k : Holding}

/-- How joining leaves the books: with the group of the membership, or as they were. -/
def Joined (stray : Prop) (H : Holdings) (fd : Descriptor) (k : Holding) :
    Except Error Membership → World → Prop :=
  Books.OrKept stray H fun m w =>
    Books stray w (Function.update H fd (some { k with group := some m.group }))

/-- A call that joins a group puts it on the books, unless it fails.

**Proof sketch.** Where the call succeeds, it is the deed of joining on a descriptor that is in no
group. Where it fails it is no deed at all. -/
lemma leads_joining (hfd : H fd = some k) (hk : k.group = none) {context : String}
    {option : SocketOption} (group : Ip)
    (h : ∀ succeeded, option.deed? succeeded = if succeeded then some (.joined group) else none) :
    Leads (fun w => Books stray w H) (Net.require context (.setsockopt fd option)).run
      (Books.OrKept stray H fun _ w =>
        Books stray w (Function.update H fd (some { k with group := some group }))) := by
  refine Books.leads_require (Books.leads_syscall fun r w v hw ha => ?_)
  cases r with
  | ok _ =>
    have ht : (Event.call (.setsockopt fd option) (.ok ())).target? = some (fd, .joined group) := by
      simp [Event.target?, h, Except.isOk, Except.toBool]
    exact hw.deed ha rfl ht hfd (.joined _ hk)
  | error n =>
    have ht : (Event.call (.setsockopt fd option) (.error n)).target? = none := by
      simp [Event.target?, h, Except.isOk, Except.toBool]
    exact hw.idle_event ha ⟨rfl, ht⟩

/-- Joining a group of four octets puts it on the books, unless that fails. -/
lemma leads_join4 (hfd : H fd = some k) (hk : k.group = none) (group : Ipv4)
    (interface : Interface) : Leads (fun w => Books stray w H)
      (join4 fd group interface).run (Joined stray H fd k) := by
  refine .run_bind (R := fun _ w => Books stray w H)
    (Books.leads_within (Interface.made_forIpv4 interface).only (by decide)) (fun p => ?_)
    fun _ _ hw => hw
  obtain ⟨address, index⟩ := p
  exact .run_bind (leads_joining hfd hk (.v4 group) fun _ => rfl)
    (fun _ => .run_pure _ fun _ hw => hw) fun _ _ hw => hw

/-- Joining a group of sixteen octets puts it on the books, unless that fails. -/
lemma leads_join6 (hfd : H fd = some k) (hk : k.group = none) (group : Ipv6)
    (interface : Interface) : Leads (fun w => Books stray w H)
      (join6 fd group interface).run (Joined stray H fd k) := by
  refine .run_bind (R := fun _ w => Books stray w H)
    (Books.leads_within (Interface.made_forIpv6 interface).only (by decide)) (fun index => ?_)
    fun _ _ hw => hw
  exact .run_bind (leads_joining hfd hk (.v6 group) fun _ => rfl)
    (fun _ => .run_pure _ fun _ hw => hw) fun _ _ hw => hw

/-- Joining a group puts it on the books, unless that fails. -/
lemma leads_join (hfd : H fd = some k) (hk : k.group = none) (group : Address)
    (interface : Interface) : Leads (fun w => Books stray w H)
      (join fd group interface).run (Joined stray H fd k) := by
  have hlast (m : Membership) : Leads (Joined stray H fd k (.ok m))
      (do
        Net.record .debug ("joined " ++ m.group.text ++ " via " ++ interface.text)
        pure m : Attempt Error Membership).run (Joined stray H fd k) :=
    .run_lift_bind (Books.leads_record _ _) fun _ => .run_pure m fun _ hw => hw
  unfold join
  dsimp only
  split
  · exact .run_bind (Books.leads_refuse (Q := Joined stray H fd k) _ _ _ fun _ hw => hw) hlast
      fun _ _ hw => hw
  · exact .run_bind (leads_join4 hfd hk _ _) hlast fun _ _ hw => hw
  · exact .run_bind (leads_join6 hfd hk _ _) hlast fun _ _ hw => hw

/-- Leaving a group takes it off the books, whether or not that fails.

**Proof sketch.** Leaving is one system call, which leaves the group whatever it answers. So the
books have no group for the descriptor then, also where the failure is recorded and handed on. -/
lemma leads_leave (hfd : H fd = some k) {m : Membership} (hk : k.group = some m.group) :
    Leads (fun w => Books stray w H) (leave fd (.ofIp m.group 0)).run
      fun _ w => Books stray w (Function.update H fd (some { k with group := none })) := by
  have hcall (context : String) (option : SocketOption)
      (h : ∀ succeeded, option.deed? succeeded = some (.left m.group true)) :
      Leads (fun w => Books stray w H) (Net.require context (.setsockopt fd option)).run
        fun _ w => Books stray w (Function.update H fd (some { k with group := none })) := by
    refine .run_lift_bind (R := fun _ w =>
      Books stray w (Function.update H fd (some { k with group := none })))
      (Books.leads_syscall fun r w v hw ha => ?_) fun r => ?_
    · exact hw.deed ha rfl (by simp [Event.target?, h]) hfd (.left hk)
    · cases r with
      | ok _ => exact .run_pure _ fun _ hw => hw
      | error n => exact Books.leads_refuse _ _ _ fun _ hw => hw
  unfold leave
  rw [Address.ip?_ofIp]
  cases m with
  | v4 group interface index => exact hcall _ _ fun _ => rfl
  | v6 group interface index => exact hcall _ _ fun _ => rfl

/-! ## Behind the back of the holder -/

/-- Where groups may go astray, setting an option leaves the books.

**Proof sketch.** Whatever deed the option comes to is about groups, and such deeds may go astray on
the books (`astray`). -/
lemma leads_require_astray (hs : stray) (context : String) (option : SocketOption) :
    Leads (fun w => Books stray w H) (Net.require context (.setsockopt fd option)).run
      fun _ w => Books stray w H := by
  have hcall : Leads (fun w => Books stray w H) (Net.syscall (.setsockopt fd option))
      fun _ w => Books stray w H := by
    refine Books.leads_syscall fun r w v hw ha => ?_
    cases hd : option.deed? r.isOk with
    | none => exact hw.idle_event ha ⟨rfl, by simp [Event.target?, hd]⟩
    | some d =>
      have ht : (Event.call (.setsockopt fd option) r).target? = some (fd, d) := by
        simp [Event.target?, hd]
      exact hw.astray hs ha rfl ht (SocketOption.isMembership_of_deed? hd)
  refine .run_lift_bind hcall fun r => ?_
  cases r with
  | ok _ => exact .run_pure _ fun _ hw => hw
  | error n => exact Books.leads_refuse _ _ _ fun _ hw => hw

/-- Where groups may go astray, joining one leaves the books.

**Proof sketch.** Whichever kind of group it is, finding the interface does nothing to descriptors,
and where groups may go astray the call that joins one may be left out of the books
(`leads_require_astray`). -/
lemma leads_join_astray (hs : stray) (group : Address) (interface : Interface) :
    Leads (fun w => Books stray w H) (join fd group interface).run fun _ w => Books stray w H := by
  have hlast (m : Membership) : Leads (fun w => Books stray w H)
      (do
        Net.record .debug ("joined " ++ m.group.text ++ " via " ++ interface.text)
        pure m : Attempt Error Membership).run fun _ w => Books stray w H :=
    .run_lift_bind (Books.leads_record _ _) fun _ => .run_pure m fun _ hw => hw
  unfold join
  dsimp only
  split
  · exact .run_bind (R := fun _ w => Books stray w H) (Books.leads_refuse _ _ _ fun _ hw => hw)
      hlast fun _ _ hw => hw
  · refine .run_bind (R := fun _ w => Books stray w H) ?_ hlast fun _ _ hw => hw
    refine .run_bind (R := fun _ w => Books stray w H)
      (Books.leads_within (Interface.made_forIpv4 interface).only (by decide)) (fun _ => ?_)
      fun _ _ hw => hw
    exact .run_bind (leads_require_astray hs _ _) (fun _ => .run_pure _ fun _ hw => hw)
      fun _ _ hw => hw
  · refine .run_bind (R := fun _ w => Books stray w H) ?_ hlast fun _ _ hw => hw
    refine .run_bind (R := fun _ w => Books stray w H)
      (Books.leads_within (Interface.made_forIpv6 interface).only (by decide)) (fun _ => ?_)
      fun _ _ hw => hw
    exact .run_bind (leads_require_astray hs _ _) (fun _ => .run_pure _ fun _ hw => hw)
      fun _ _ hw => hw

/-- Where groups may go astray, leaving one leaves the books. -/
lemma leads_leave_astray (hs : stray) (group : Address) :
    Leads (fun w => Books stray w H) (leave fd group).run fun _ w => Books stray w H := by
  unfold leave
  split
  · exact .run_throw _ fun _ hw => hw
  · exact leads_require_astray hs _ _
  · exact leads_require_astray hs _ _

end Membership

end Sockets
