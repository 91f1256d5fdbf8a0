import Sockets.Proofs.FaultScripts
import Sockets.Proofs.HandleFrames

/-!
# Interfaces by name and by index

A group is joined through an interface that is chosen by its name or by its index. The two choices
are looked up in different ways, the one as an index, the other as a name among all of them, and the
address of the interface is then found in a third list. Where every interface has a name and an
index of its own they still come to the same: the same option is set, with the same values, and the
same membership or failure is what there is in the end.

## Main definitions

* `Sockets.World.settings` — the options that were set so far.
* `Sockets.Kernel.Tabled` — the interfaces have names and indices of their own.
* `Sockets.Membership.Asks`, `Sockets.Membership.Outcome` — what joining a group asks of the kernel,
  and what comes of it.
* `Sockets.Membership.Selection` — joining a group through the interfaces of a table.

## Main results

* `Sockets.Membership.selection` — the choices of an interface come to the same.
-/

set_option autoImplicit false

namespace Sockets

open Event (Within)
open Net (Leads Only)

/-! ## Options -/

/-- An option that was set on a descriptor, and how that ended. -/
structure OptionSetting where
  fd : Descriptor
  option : SocketOption
  outcome : Except Int Unit

/-- The option that an event sets. -/
def Event.setting? : Event → Option OptionSetting
  | .call (.setsockopt fd option) outcome => some ⟨fd, option, outcome⟩
  | _ => none

/-- The options that were set so far, oldest first. -/
def World.settings (w : World) : List OptionSetting := w.journal.filterMap Event.setting?

/-- An operation that sets no options leaves those that were set.

**Proof sketch.** None of the calls that were made sets an option, so none of the events that were
added is a setting. -/
lemma Net.Only.leads_settings {α : Type} {x : Net α} {kinds : List CallKind}
    (hx : Only (Within kinds) x) (hkinds : .setsockopt ∉ kinds) {s : List OptionSetting} :
    Leads (fun w => w.settings = s) x fun _ w => w.settings = s := by
  rintro w rfl
  obtain ⟨es, hes, hwithin⟩ := (hx w).journal_eq
  have hnone : es.filterMap Event.setting? = [] := by
    refine List.filterMap_eq_nil_iff.2 fun e he => ?_
    cases e with
    | call c outcome =>
      cases c with
      | setsockopt fd option => exact absurd (hwithin _ he) hkinds
      | _ => rfl
    | _ => rfl
  rw [World.settings, hes, List.filterMap_append, hnone, List.append_nil, World.settings]

/-- A log record sets no option. -/
lemma Net.leads_record_settings (level : Level) (message : String) {s : List OptionSetting} :
    Leads (fun w => w.settings = s) (Net.record level message) fun _ w => w.settings = s :=
  have hnone : Only (Within []) (Net.record level message) := .record _ _
  hnone.leads_settings List.not_mem_nil

/-- To set an option that has to be set is one more of them, with the outcome that the kernel gives
it. -/
lemma Net.leads_require_settings (context : String) (fd : Descriptor) (option : SocketOption)
    {s : List OptionSetting} {outcome : Except Int Unit} :
    Leads (fun w => w.settings = s ∧ (w.kernel.perform (.setsockopt fd option)).1 = outcome)
      (Net.require context (.setsockopt fd option)).run fun r w =>
        w.settings = s ++ [⟨fd, option, outcome⟩] ∧
          r = outcome.mapError fun n => .system context (.os n) := by
  have hcall : Leads
      (fun w => w.settings = s ∧ (w.kernel.perform (.setsockopt fd option)).1 = outcome)
      (Net.syscall (.setsockopt fd option)) fun r w =>
        r = outcome ∧ w.settings = s ++ [⟨fd, option, outcome⟩] := by
    rintro w ⟨rfl, rfl⟩
    exact ⟨rfl, List.filterMap_append ..⟩
  refine .run_lift_bind hcall fun r => .of_and ?_
  rintro rfl
  cases r with
  | ok a => exact .run_pure a fun w hw => ⟨hw, rfl⟩
  | error n =>
    exact .run_lift_bind (Net.leads_record_settings _ _) fun _ => .run_throw _ fun w hw => ⟨hw, rfl⟩

/-! ## Queries -/

namespace Kernel

/-- The interfaces have names that can be asked for and indices that count, and two entries of the
table are for one interface by their names just if they are by their indices. -/
structure Tabled (k : Kernel) : Prop where
  name_sayable : ∀ e ∈ k.interfaces, '\x00' ∉ e.name.toList
  index_ne_zero : ∀ e ∈ k.interfaces, e.index ≠ 0
  name_eq_iff : ∀ e ∈ k.interfaces, ∀ e' ∈ k.interfaces, e.name = e'.name ↔ e.index = e'.index

/-- No query about interfaces is to fail next. -/
def Answering (k : Kernel) : Prop := ∀ kind ∈ Interface.queries, (k.takeFault kind).1 ≤ 0

/-- The addresses that the kernel lists, each with the name of its interface. -/
def addressList (k : Kernel) : List (String × Option Address) :=
  k.interfaces.flatMap fun e => e.addresses.map fun a => (e.name, a)

/-- A query about interfaces is answered by the table of them, and changes nothing. -/
lemma answer_query {k k' : Kernel} {c : Call} (hc : c.kind ∈ Interface.queries)
    (h : k'.interfaces = k.interfaces) (limit : Option Nat) :
    k'.answer limit c = ((k.answer none c).1, k') := by
  cases c with
  | interfaceIndex name =>
    simp only [answer, h]
    split <;> rfl
  | interfaceNames | interfaceAddresses => simp only [answer, h]
  | _ => simp [Interface.queries, Call.kind] at hc

/-- How an option is set is settled by its fault and by whether the descriptor is open. -/
lemma perform_setsockopt (k : Kernel) (fd : Descriptor) (option : SocketOption) :
    (k.perform (.setsockopt fd option)).1 =
      if 0 < (k.takeFault .setsockopt).1 then .error (k.takeFault .setsockopt).1
      else if (k.sockets.lookup fd).isSome then .ok () else .error 9 := by
  have hsockets := (k.takeFault_snd .setsockopt).1
  rw [perform]
  dsimp only [Call.kind]
  split
  · rfl
  · rw [← hsockets]
    simp only [answer, socket?]
    cases (k.takeFault .setsockopt).2.sockets.lookup fd <;> rfl

end Kernel

/-- A world in which interfaces are asked for: its kernel has the sockets and the interfaces of
`k` still, and its faults for calls of some kinds, and no further option has been set. -/
structure World.Asking (k : Kernel) (kinds : List CallKind) (s : List OptionSetting) (w : World) :
    Prop where
  settings_eq : w.settings = s
  sockets_eq : w.kernel.sockets = k.sockets
  interfaces_eq : w.kernel.interfaces = k.interfaces
  faults_eq : ∀ kind ∈ kinds, w.kernel.faults kind = k.faults kind

namespace World.Asking

variable {k : Kernel} {kinds : List CallKind} {s : List OptionSetting}

/-- Every world is one in which interfaces can be asked for. -/
lemma refl (kinds : List CallKind) (w : World) : Asking w.kernel kinds w.settings w :=
  ⟨rfl, rfl, rfl, fun _ _ => rfl⟩

/-- Less may be asked for. -/
lemma mono {more : List CallKind} (h : kinds ⊆ more) {w : World} (hw : Asking k more s w) :
    Asking k kinds s w :=
  ⟨hw.settings_eq, hw.sockets_eq, hw.interfaces_eq, fun kind hkind => hw.faults_eq kind (h hkind)⟩

/-- What is done where less may be asked for can be done where more may be. -/
lemma leads_mono {α : Type} {more : List CallKind} (h : kinds ⊆ more) {x : Net α}
    {Q : α → World → Prop} (hx : Leads (Asking k kinds s) x Q) : Leads (Asking k more s) x Q :=
  hx.weaken (fun _ hw => hw.mono h) fun _ _ hw => hw

/-- What stands behind an operation with a known answer goes on with that. -/
lemma leads_bind_ok {α β : Type} {P : World → Prop} {x : Attempt Error α}
    {f : α → Attempt Error β} {a : α} {Q : Except Error β → World → Prop}
    (hx : Leads P x.run fun r w => r = .ok a ∧ Asking k kinds s w)
    (hf : Leads (Asking k kinds s) (f a).run Q) : Leads P (x >>= f).run Q := by
  refine .run_bind hx (fun b => .of_and fun hb => ?_) fun _ _ hw => nomatch hw.1
  obtain rfl := Except.ok.inj hb
  exact hf

/-- A log record makes no difference. -/
lemma leads_record (level : Level) (message : String) :
    Leads (Asking k kinds s) (Net.record level message) fun _ => Asking k kinds s :=
  fun w hw => ⟨Net.leads_record_settings _ _ w hw.settings_eq, hw.sockets_eq, hw.interfaces_eq,
    hw.faults_eq⟩

/-- To refuse makes no difference. -/
lemma leads_refuse {α : Type} (level : Level) (message : String) (e : Error) :
    Leads (Asking k kinds s) (Net.refuse (α := α) level message e).run fun r w =>
      r = .error e ∧ Asking k kinds s w :=
  .run_lift_bind (leads_record _ _) fun _ => .run_throw e fun _ hw => ⟨rfl, hw⟩

/-- The next fault of a call is that of the kernel that was asked. -/
lemma takeFault_eq {kind : CallKind} {w : World} (h : Asking k kinds s w) (hkind : kind ∈ kinds) :
    (w.kernel.takeFault kind).1 = (k.takeFault kind).1 := by
  rw [Kernel.takeFault, Kernel.takeFault, h.faults_eq kind hkind]
  cases k.faults kind <;> rfl

/-- A query that is not to fail is answered as by the kernel that was asked.

**Proof sketch.** No failure is due for the query, and the kernel that answers has the interfaces of
the one that was asked. What is taken from the script is for this kind of calls only. -/
lemma leads_query (hq : k.Answering) (c : Call) (hc : c.kind ∈ Interface.queries)
    (hkind : c.kind ∉ kinds) :
    Leads (Asking k (c.kind :: kinds) s) (Net.syscall c) fun r w =>
      r = (k.answer none c).1 ∧ Asking k kinds s w := by
  intro w hw
  have hsettings := Net.Only.leads_settings (.syscall c hc) (by decide) w hw.settings_eq
  have hfault' : (w.kernel.takeFault c.kind).1 ≤ 0 :=
    (hw.takeFault_eq List.mem_cons_self).symm ▸ hq c.kind hc
  obtain ⟨hsockets, hinterfaces, hfaults⟩ := w.kernel.takeFault_snd c.kind
  have hperform : w.kernel.perform c =
      ((k.answer none c).1, (w.kernel.takeFault c.kind).2) := by
    rw [Kernel.perform_of_fault_le hfault',
      Kernel.answer_query hc (hinterfaces.trans hw.interfaces_eq)]
  refine ⟨congrArg Prod.fst hperform, hsettings, ?_, ?_, fun kind hmem => ?_⟩
  · rw [Net.syscall_kernel, hperform, hsockets, hw.sockets_eq]
  · rw [Net.syscall_kernel, hperform, hinterfaces, hw.interfaces_eq]
  · have hne : kind ≠ c.kind := fun h => hkind (h ▸ hmem)
    rw [Net.syscall_kernel, hperform, hfaults kind hne, hw.faults_eq kind (.tail _ hmem)]

/-- What stands behind a query that is not to fail goes on with the answer of the kernel that was
asked. -/
lemma leads_query_bind {α : Type} {Q : Except Error α → World → Prop} (hq : k.Answering) (c : Call)
    {f : Except Int c.Answer → Attempt Error α} (hc : c.kind ∈ Interface.queries)
    (hkind : c.kind ∉ kinds) (h : Leads (Asking k kinds s) (f (k.answer none c).1).run Q) :
    Leads (Asking k (c.kind :: kinds) s)
      ((liftM (Net.syscall c) : Attempt Error _) >>= f).run Q := by
  refine .run_lift_bind (leads_query hq c hc hkind) fun r => .of_and ?_
  rintro rfl
  exact h

/-- To set an option has the outcome that the kernel that was asked would give it. -/
lemma perform_setsockopt {w : World} (h : Asking k kinds s w) (hkind : .setsockopt ∈ kinds)
    (fd : Descriptor) (option : SocketOption) :
    (w.kernel.perform (.setsockopt fd option)).1 = (k.perform (.setsockopt fd option)).1 := by
  rw [Kernel.perform_setsockopt, Kernel.perform_setsockopt, h.takeFault_eq hkind, h.sockets_eq]

end World.Asking

/-! ## Interfaces -/

/-- The first address of four octets that is listed for a name, if any is. -/
inductive Interface.FirstIpv4 (name : String) (listed : List (String × Option Address)) :
    Option Ipv4 → Prop
  | found {front back : List (String × Option Address)} {ip : Ipv4} {port : UInt16}
    (hlisted : listed = front ++ (name, some (.inet ip port)) :: back)
    (hfront : ∀ ip port, (name, some (.inet ip port)) ∉ front) : FirstIpv4 name listed (some ip)
  | missing (h : ∀ ip port, (name, some (.inet ip port)) ∉ listed) : FirstIpv4 name listed none

namespace Interface

open World (Asking)

variable {k : Kernel} {kinds : List CallKind} {s : List OptionSetting} {e : InterfaceEntry}

/-- The address that is found is the first one of four octets.

**Proof sketch.** An address is found just where the list splits into entries that do not match, one
that does, and the rest; nothing is found where no entry matches. -/
lemma firstIpv4_spec (name : String) (listed : List (String × Option Address)) :
    FirstIpv4 name listed (firstIpv4 name listed) := by
  cases hfirst : firstIpv4 name listed with
  | some ip =>
    obtain ⟨front, ⟨owner, address⟩, back, hlisted, hhere, hfront⟩ :=
      List.findSome?_eq_some_iff.1 hfirst
    dsimp only at hhere
    split at hhere
    · rename_i ip' port
      split at hhere
      · rename_i howner
        obtain rfl := Option.some.inj hhere
        rw [howner] at hlisted
        refine .found hlisted fun ip'' port' hmem => ?_
        simpa using hfront _ hmem
      · exact nomatch hhere
    · exact nomatch hhere
  | none =>
    refine .missing fun ip port hmem => ?_
    simpa using List.findSome?_eq_none_iff.1 hfirst _ hmem

/-- No address is found where none is listed. -/
lemma firstIpv4_eq_none {name : String} {listed : List (String × Option Address)}
    (h : ∀ ip port, (name, some (.inet ip port)) ∉ listed) : firstIpv4 name listed = none := by
  refine List.findSome?_eq_none_iff.2 fun ⟨owner, address⟩ hmem => ?_
  dsimp only
  split
  · split
    · rename_i howner
      exact absurd (howner ▸ hmem) (h _ _)
    · rfl
  · rfl

/-- The first address of four octets is the one that is found. -/
lemma FirstIpv4.firstIpv4_eq {name : String} {listed : List (String × Option Address)}
    {r : Option Ipv4} (h : FirstIpv4 name listed r) : firstIpv4 name listed = r := by
  cases h with
  | found hlisted hfront =>
    have hnone := firstIpv4_eq_none hfront
    rw [firstIpv4] at hnone
    rw [hlisted, firstIpv4, List.findSome?_append, hnone, Option.none_or, List.findSome?_cons]
    simp
  | missing h => exact firstIpv4_eq_none h

/-- The interface of a name is found, if it is in the table, and has the index of its entry.

**Proof sketch.** The name is found in the table, in some entry of that name. Names and indices of
entries go together (`name_eq_iff`), so it has the index. -/
lemma leads_indexOf (hk : k.Tabled) (hq : k.Answering) (he : e ∈ k.interfaces)
    (hkinds : .interfaceIndex ∉ kinds) :
    Leads (Asking k (.interfaceIndex :: kinds) s) (indexOf e.name).run fun r w =>
      r = .ok e.index ∧ Asking k kinds s w := by
  have hanswer : (k.answer none (.interfaceIndex e.name)).1 = .ok e.index := by
    obtain ⟨e', hfind⟩ : ∃ e', k.interfaces.find? (fun i => i.name = e.name) = some e' :=
      Option.isSome_iff_exists.1 (List.find?_isSome.2 ⟨e, he, by simp⟩)
    have hname : e'.name = e.name := by simpa using List.find?_some hfind
    have hindex := (hk.name_eq_iff e' (List.mem_of_find?_eq_some hfind) e he).1 hname
    simp only [Kernel.answer, hfind, hindex]
  unfold indexOf
  dsimp only
  rw [if_neg fun h => hk.name_sayable e he (List.contains_iff_mem.1 h)]
  refine Asking.leads_query_bind hq (.interfaceIndex e.name) List.mem_cons_self hkinds ?_
  rw [hanswer]
  dsimp only
  rw [if_neg (hk.index_ne_zero e he)]
  exact .run_pure _ fun w hw => ⟨rfl, hw⟩

/-- A name that is not in the table is unknown. -/
lemma leads_indexOf_unknown (hq : k.Answering) {name : String}
    (h : ∀ e ∈ k.interfaces, e.name ≠ name) (hkinds : .interfaceIndex ∉ kinds) :
    Leads (Asking k (.interfaceIndex :: kinds) s) (indexOf name).run fun r w =>
      r = .error (.unknownInterface name) ∧ Asking k kinds s w := by
  have hanswer : (k.answer none (.interfaceIndex name)).1 = .error 19 := by
    have hfind : k.interfaces.find? (fun i => i.name = name) = none :=
      List.find?_eq_none.2 fun e he => by simpa using h e he
    simp only [Kernel.answer, hfind]
  unfold indexOf
  dsimp only
  split
  · exact Asking.leads_mono (List.subset_cons_self _ _) (Asking.leads_refuse _ _ _)
  · refine Asking.leads_query_bind hq (.interfaceIndex name) List.mem_cons_self hkinds ?_
    rw [hanswer]
    exact Asking.leads_refuse _ _ _

/-- No interface of the table stands behind the index zero, which would end it. -/
lemma listed_eq (hk : k.Tabled) :
    listed (k.interfaces.map fun e => (e.index, e.name)) =
      k.interfaces.map fun e => (e.index, e.name) := by
  rw [← List.append_nil (k.interfaces.map _), listed, List.takeWhile_append_of_pos,
    List.takeWhile_nil]
  exact List.forall_mem_map.2 fun e he => by simpa using hk.index_ne_zero e he

/-- The interface of an index is found, if it is in the table, and has the name of its entry.

**Proof sketch.** The index is found among the pairs that are listed, in some entry with it. Names
and indices of entries go together (`name_eq_iff`), so it has the name. -/
lemma leads_nameOf (hk : k.Tabled) (hq : k.Answering) (he : e ∈ k.interfaces)
    (hkinds : .interfaceNames ∉ kinds) :
    Leads (Asking k (.interfaceNames :: kinds) s) (nameOf e.index).run fun r w =>
      r = .ok e.name ∧ Asking k kinds s w := by
  have hname : (k.interfaces.map fun e => (e.index, e.name)).lookup e.index = some e.name := by
    cases hfind : (k.interfaces.map fun e => (e.index, e.name)).lookup e.index with
    | some name =>
      obtain ⟨front, back, hsplit, -⟩ := List.lookup_eq_some_iff.1 hfind
      obtain ⟨e', he', heq⟩ := List.mem_map.1 (hsplit ▸ List.mem_append_right _ List.mem_cons_self)
      obtain ⟨hindex, rfl⟩ := Prod.mk.inj heq
      rw [(hk.name_eq_iff e' he' e he).2 hindex]
    | none => simpa using List.lookup_eq_none_iff.1 hfind _ (List.mem_map_of_mem he)
  refine Asking.leads_query_bind hq .interfaceNames (.tail _ List.mem_cons_self) hkinds ?_
  dsimp only [Kernel.answer]
  rw [listed_eq hk, hname]
  exact .run_pure _ fun w hw => ⟨rfl, hw⟩

/-- An index that is not in the table is unknown. -/
lemma leads_nameOf_unknown (hk : k.Tabled) (hq : k.Answering) {index : UInt32}
    (h : ∀ e ∈ k.interfaces, e.index ≠ index) (hkinds : .interfaceNames ∉ kinds) :
    Leads (Asking k (.interfaceNames :: kinds) s) (nameOf index).run fun r w =>
      r = .error (.unknownInterface (toString index.toNat)) ∧ Asking k kinds s w := by
  have hname : (k.interfaces.map fun e => (e.index, e.name)).lookup index = none :=
    List.lookup_eq_none_iff.2 (List.forall_mem_map.2 fun e he => by simpa using (h e he).symm)
  refine Asking.leads_query_bind hq .interfaceNames (.tail _ List.mem_cons_self) hkinds ?_
  dsimp only [Kernel.answer]
  rw [listed_eq hk, hname]
  exact Asking.leads_refuse _ _ _

/-- What is made of the first address of four octets that is listed for a name; there has to be
one. -/
inductive Finds {α : Type} (k : Kernel) (name : String) (f : Ipv4 → α) : Except Error α → Prop
  | found {ip : Ipv4} (h : FirstIpv4 name k.addressList (some ip)) : Finds k name f (.ok (f ip))
  | missing (h : FirstIpv4 name k.addressList none) :
    Finds k name f (.error (.interfaceQuery (.plain .addrNotAvailable)))

/-- The address of an interface is the first one of four octets that is listed for its name.

**Proof sketch.** The addresses are listed by one query, and the first of four octets under the name
is taken (`firstIpv4_spec`). -/
lemma leads_addressOf (hq : k.Answering) (name : String) (hkinds : .interfaceAddresses ∉ kinds) :
    Leads (Asking k (.interfaceAddresses :: kinds) s) (addressOf name).run fun r w =>
      Finds k name id r ∧ Asking k kinds s w := by
  have hfirst := firstIpv4_spec name k.addressList
  refine Asking.leads_query_bind hq .interfaceAddresses (by simp [queries, Call.kind]) hkinds ?_
  dsimp only [Kernel.answer]
  rw [← Kernel.addressList]
  cases hip : firstIpv4 name k.addressList with
  | some ip =>
    rw [hip] at hfirst
    exact .run_pure ip fun w hw => ⟨.found hfirst, hw⟩
  | none =>
    rw [hip] at hfirst
    exact (Asking.leads_refuse _ _ _).weaken (fun _ hw => hw)
      fun _ _ hw => ⟨hw.1 ▸ .missing hfirst, hw.2⟩

/-- The two ways to choose an interface. -/
inductive Chooses (e : InterfaceEntry) : Interface → Prop
  | name : Chooses e (.named e.name)
  | index : Chooses e (.numbered e.index)

/-- However an interface is chosen, its address is the first one of four octets that is listed for
its name, and its index that of its entry.

**Proof sketch.** A name needs its index as well, and an index its name. The kernel tells the one by
the other, as its table has each of them once. With both at hand the addresses are listed, and the
first one for the name is taken (`leads_addressOf`). -/
lemma leads_forIpv4 (hk : k.Tabled) (hq : k.Answering) (he : e ∈ k.interfaces)
    {choice : Interface} (hchoice : Chooses e choice) :
    Leads (Asking k Membership.calls s) choice.forIpv4.run fun r w =>
      Finds k e.name (fun ip => (ip, e.index)) r ∧ Asking k [.setsockopt] s w := by
  have haddress : Leads (Asking k [.interfaceAddresses, .setsockopt] s)
      (do let ip ← addressOf e.name
          pure (ip, e.index) : Attempt Error (Ipv4 × UInt32)).run fun r w =>
        Finds k e.name (fun ip => (ip, e.index)) r ∧ Asking k [.setsockopt] s w := by
    refine .run_bind (leads_addressOf hq e.name (by decide)) (fun ip => ?_) fun err w hw => ?_
    · refine .run_pure _ fun w hw => ⟨?_, hw.2⟩
      cases hw.1 with
      | found h => exact .found h
    · cases hw.1 with
      | missing h => exact ⟨.missing h, hw.2⟩
  cases hchoice with
  | name =>
    have hindex := leads_indexOf (s := s) hk hq he
      (show .interfaceIndex ∉ [CallKind.interfaceAddresses, .setsockopt] by decide)
    exact Asking.leads_bind_ok (Asking.leads_mono (by decide) hindex) haddress
  | index =>
    have hname := leads_nameOf (s := s) hk hq he
      (show .interfaceNames ∉ [CallKind.interfaceAddresses, .setsockopt] by decide)
    exact Asking.leads_bind_ok (Asking.leads_mono (by decide) hname) haddress

/-- However an interface is chosen, its index is that of its entry. -/
lemma leads_forIpv6 (hk : k.Tabled) (hq : k.Answering) (he : e ∈ k.interfaces)
    {choice : Interface} (hchoice : Chooses e choice) :
    Leads (Asking k Membership.calls s) choice.forIpv6.run fun r w =>
      r = .ok e.index ∧ Asking k [.setsockopt] s w := by
  cases hchoice with
  | name => exact Asking.leads_mono (by decide) (leads_indexOf hk hq he (by decide))
  | index =>
    have hname := leads_nameOf (s := s) hk hq he
      (show .interfaceNames ∉ [CallKind.setsockopt] by decide)
    exact Asking.leads_bind_ok (Asking.leads_mono (by decide) hname)
      (.run_pure _ fun w hw => ⟨rfl, hw⟩)

end Interface

/-! ## Joining -/

namespace Membership

open Interface (Chooses FirstIpv4)
open World (Asking)

/-- What joining a group through an interface asks of the kernel, and the membership that there is
if that succeeds; or why nothing is asked of it. -/
inductive Asks (k : Kernel) (e : InterfaceEntry) :
    Address → Except Error (String × SocketOption × Membership) → Prop
  | v4 {group ip : Ipv4} {port : UInt16} (h : FirstIpv4 e.name k.addressList (some ip)) :
    Asks k e (.inet group port)
      (.ok ("IP_ADD_MEMBERSHIP", .join4 group ip, .v4 group ip e.index))
  | homeless {group : Ipv4} {port : UInt16} (h : FirstIpv4 e.name k.addressList none) :
    Asks k e (.inet group port) (.error (.interfaceQuery (.plain .addrNotAvailable)))
  | v6 {group : Ipv6} {port : UInt16} {flow scope : UInt32} :
    Asks k e (.inet6 group port flow scope)
      (.ok ("IPV6_ADD_MEMBERSHIP", .join6 group e.index, .v6 group .unspecified e.index))
  | family {group : Address} (h : group.ip? = none) : Asks k e group (.error .family)

/-- What comes of joining a group through an interface, and the options that are set for it. -/
inductive Outcome (k : Kernel) (fd : Descriptor) (e : InterfaceEntry) (group : Address) :
    Except Error Membership → List OptionSetting → Prop
  | joined {context : String} {option : SocketOption} {m : Membership}
    (h : Asks k e group (.ok (context, option, m)))
    (hset : (k.perform (.setsockopt fd option)).1 = .ok ()) :
    Outcome k fd e group (.ok m) [⟨fd, option, .ok ()⟩]
  | rejected {context : String} {option : SocketOption} {m : Membership} {n : Int}
    (h : Asks k e group (.ok (context, option, m)))
    (hset : (k.perform (.setsockopt fd option)).1 = .error n) :
    Outcome k fd e group (.error (.system context (.os n))) [⟨fd, option, .error n⟩]
  | failed {err : Error} (h : Asks k e group (.error err)) : Outcome k fd e group (.error err) []

variable {k : Kernel} {s : List OptionSetting} {e : InterfaceEntry} {fd : Descriptor}
  {group : Address}

/-- What is asked of the kernel is settled by the group and the interface.

**Proof sketch.** By cases on both derivations. The group fixes the family, and for a group of four
octets the address is the first that is listed for the name, or there is none. -/
lemma Asks.unique {a b : Except Error (String × SocketOption × Membership)}
    (ha : Asks k e group a) (hb : Asks k e group b) : a = b := by
  cases ha with
  | v4 h =>
    cases hb with
    | v4 h' =>
      obtain rfl := Option.some.inj (h.firstIpv4_eq.symm.trans h'.firstIpv4_eq)
      rfl
    | homeless h' => exact nomatch h.firstIpv4_eq.symm.trans h'.firstIpv4_eq
    | family h' => exact nomatch h'
  | homeless h =>
    cases hb with
    | v4 h' => exact nomatch h.firstIpv4_eq.symm.trans h'.firstIpv4_eq
    | homeless => rfl
    | family h' => exact nomatch h'
  | v6 =>
    cases hb with
    | v6 => rfl
    | family h' => exact nomatch h'
  | family h =>
    cases hb with
    | v4 | homeless | v6 => exact nomatch h
    | family => rfl

/-- What comes of joining is settled by the kernel, the group and the interface.

**Proof sketch.** By cases on both derivations. What is asked for is settled (`Asks.unique`), and
what the kernel says to that is its answer. -/
lemma Outcome.unique {r r' : Except Error Membership} {added added' : List OptionSetting}
    (h : Outcome k fd e group r added) (h' : Outcome k fd e group r' added') :
    r = r' ∧ added = added' := by
  cases h with
  | joined h hset =>
    cases h' with
    | joined h' hset' => cases h.unique h'; exact ⟨rfl, rfl⟩
    | rejected h' hset' => cases h.unique h'; exact nomatch hset.symm.trans hset'
    | failed h' => exact nomatch h.unique h'
  | rejected h hset =>
    cases h' with
    | joined h' hset' => cases h.unique h'; exact nomatch hset.symm.trans hset'
    | rejected h' hset' =>
      cases h.unique h'
      obtain rfl := Except.error.inj (hset.symm.trans hset')
      exact ⟨rfl, rfl⟩
    | failed h' => exact nomatch h.unique h'
  | failed h =>
    cases h' with
    | joined h' | rejected h' => exact nomatch h.unique h'
    | failed h' => cases h.unique h'; exact ⟨rfl, rfl⟩

/-- Joining a group has come to what it does for an entry. -/
def Ends (k : Kernel) (s : List OptionSetting) (fd : Descriptor) (e : InterfaceEntry)
    (group : Address) (r : Except Error Membership) (w : World) : Prop :=
  ∃ added, Outcome k fd e group r added ∧ w.settings = s ++ added

/-- Joining a group has failed before any option was set. -/
lemma Ends.failed {err : Error} {w : World} (h : Asks k e group (.error err))
    (hw : w.settings = s) : Ends k s fd e group (.error err) w :=
  ⟨[], .failed h, by rw [hw, List.append_nil]⟩

/-- To set the option of a membership has the outcome that the kernel gives it, and is one more
option that was set. -/
lemma leads_require_membership (context : String) (fd : Descriptor) (option : SocketOption)
    (m : Membership) {outcome : Except Int Unit} :
    Leads (fun w => w.settings = s ∧ (w.kernel.perform (.setsockopt fd option)).1 = outcome)
      (do let _ ← Net.require context (.setsockopt fd option)
          pure m : Attempt Error Membership).run fun r w =>
        w.settings = s ++ [⟨fd, option, outcome⟩] ∧
          r = (outcome.map fun _ => m).mapError fun n => .system context (.os n) := by
  refine .run_bind (Net.leads_require_settings context fd option)
    (fun _ => .run_pure m fun w hw => ⟨hw.1, ?_⟩) fun err w hw => ⟨hw.1, ?_⟩
  · cases outcome with
    | ok _ => rfl
    | error n => exact nomatch hw.2
  · cases outcome with
    | ok _ => exact nomatch hw.2
    | error n => exact congrArg _ (Except.error.inj hw.2)

/-- What comes of it once the option is known. -/
lemma leads_join_setting {context : String} {option : SocketOption} {m : Membership}
    (h : Asks k e group (.ok (context, option, m))) :
    Leads (Asking k [.setsockopt] s)
      (do let _ ← Net.require context (.setsockopt fd option)
          pure m : Attempt Error Membership).run (Ends k s fd e group) := by
  refine (leads_require_membership context fd option m).weaken
    (fun w hw => ⟨hw.settings_eq, hw.perform_setsockopt List.mem_cons_self fd option⟩) ?_
  rintro r w ⟨hsettings, rfl⟩
  refine ⟨_, ?_, hsettings⟩
  cases hset : (k.perform (.setsockopt fd option)).1 with
  | ok _ => exact .joined h hset
  | error n => exact .rejected h hset

/-- What is no address of a group that can be joined is refused before any option is set. -/
lemma leads_join_family (hip : group.ip? = none) (choice : Interface) :
    Leads (fun w => w.settings = s) (join fd group choice).run fun r w =>
      r = .error .family ∧ w.settings = s := by
  have hrefuse : Leads (fun w => w.settings = s)
      (Net.refuse .error "multicast join: unsupported family" .family :
        Attempt Error Membership).run fun r w => r = .error .family ∧ w.settings = s :=
    .run_lift_bind (Net.leads_record_settings _ _) fun _ => .run_throw _ fun w hw => ⟨rfl, hw⟩
  unfold join
  cases group with
  | inet _ _ | inet6 _ _ _ _ => exact nomatch hip
  | unix _ | other _ | absent =>
    exact .run_bind hrefuse (fun m => .of_and fun h => nomatch h) fun _ _ hw => hw

/-- However its interface is chosen, joining a group comes to what it does for the entry.

**Proof sketch.** By the address of the group. Without a family it is refused before anything is
asked. For either family the address or the index is found in the same way for each choice
(`Interface.leads_forIpv4`, `Interface.leads_forIpv6`), and then the one option is set
(`leads_join_setting`). -/
lemma leads_join_chosen (hk : k.Tabled) (hq : k.Answering) (he : e ∈ k.interfaces)
    {choice : Interface} (hchoice : Chooses e choice) :
    Leads (Asking k calls s) (join fd group choice).run (Ends k s fd e group) := by
  -- What is logged at the end makes no difference to what has come of it.
  have hlast (m : Membership) : Leads (Ends k s fd e group (.ok m))
      (do Net.record .debug ("joined " ++ m.group.text ++ " via " ++ choice.text)
          pure m : Attempt Error Membership).run (Ends k s fd e group) := by
    refine .of_exists fun added => .of_and fun hadded => ?_
    exact .run_lift_bind (Net.leads_record_settings _ _) fun _ =>
      .run_pure m fun w hw => ⟨added, hadded, hw⟩
  cases group with
  | unix _ | other _ | absent =>
    refine (leads_join_family rfl choice).weaken (fun w hw => hw.settings_eq) ?_
    rintro r w ⟨rfl, hw⟩
    exact .failed (.family rfl) hw
  | inet ip port =>
    unfold join
    refine .run_bind (R := Ends k s fd e (.inet ip port)) ?_ hlast fun _ _ hw => hw
    refine .run_bind (Interface.leads_forIpv4 hk hq he hchoice) (fun found => ?_) fun err w hw => ?_
    · refine .of_and fun hfound => ?_
      cases hfound with
      | found h => exact leads_join_setting (.v4 h)
    · cases hw.1 with
      | missing h => exact .failed (.homeless h) hw.2.settings_eq
  | inet6 ip port flow scope =>
    unfold join
    refine .run_bind (R := Ends k s fd e (.inet6 ip port flow scope)) ?_ hlast fun _ _ hw => hw
    exact Asking.leads_bind_ok (Interface.leads_forIpv6 hk hq he hchoice) (leads_join_setting .v6)

/-- An interface was not found, and no option has been set. -/
def Unknown {α : Type} (s : List OptionSetting) (text : String) (r : Except Error α) (w : World) :
    Prop :=
  r = .error (.unknownInterface text) ∧ w.settings = s

/-- What stands behind an interface that was not found is not done. -/
lemma leads_unknown_bind {α β : Type} {x : Attempt Error α} {f : α → Attempt Error β}
    {P : World → Prop} {text : String} (hx : Leads P x.run (Unknown s text)) :
    Leads P (x >>= f).run (Unknown s text) :=
  .run_bind hx (fun _ => .of_and fun h => nomatch h) fun _ _ hw =>
    ⟨congrArg _ (Except.error.inj hw.1), hw.2⟩

/-- Joining a group through an interface that there is not fails before any option is set. -/
lemma leads_join_unknown {choice : Interface} {text : String} {P : World → Prop}
    (h4 : Leads P choice.forIpv4.run (Unknown s text))
    (h6 : Leads P choice.forIpv6.run (Unknown s text)) (hip : group.ip? ≠ none) :
    Leads P (join fd group choice).run (Unknown s text) := by
  unfold join
  cases group with
  | inet ip port => exact leads_unknown_bind (leads_unknown_bind h4)
  | inet6 ip port flow scope => exact leads_unknown_bind (leads_unknown_bind h6)
  | unix _ | other _ | absent => exact absurd rfl hip

/-- Where an operation has failed, no option has been set with success. -/
def Unset {α : Type} (s : List OptionSetting) (r : Except Error α) (w : World) : Prop :=
  ∀ err, r = .error err →
    ∃ added, w.settings = s ++ added ∧ ∀ x ∈ added, ∃ n, x.outcome = .error n

/-- Where the option of a membership could not be set, none has been set with success. -/
lemma unset_require_membership (context : String) (fd : Descriptor) (option : SocketOption)
    (m : Membership) :
    Leads (fun w => w.settings = s)
      (do let _ ← Net.require context (.setsockopt fd option)
          pure m : Attempt Error Membership).run (Unset s) := by
  intro w hw err herr
  obtain ⟨hsettings, hr⟩ := leads_require_membership context fd option m w ⟨hw, rfl⟩
  rw [hr] at herr
  refine ⟨_, hsettings, List.forall_mem_singleton.2 ?_⟩
  cases hset : (w.kernel.perform (.setsockopt fd option)).1 with
  | ok _ =>
    rw [hset] at herr
    exact nomatch herr
  | error n => exact ⟨n, rfl⟩

/-- Where a group could not be joined, no option has been set with success.

**Proof sketch.** Before the option, questions are asked at most, which set nothing (`hquery`).
Setting the option is what fails, or nothing does. -/
lemma unset_join (fd : Descriptor) (group : Address) (choice : Interface) :
    Leads (fun w => w.settings = s) (join fd group choice).run (Unset s) := by
  have hquery {α : Type} {x : Attempt Error α} {f : α → Attempt Error Membership}
      {kinds : List CallKind} (hx : Only (Within kinds) x.run) (hkinds : .setsockopt ∉ kinds)
      (hf : ∀ a, Leads (fun w => w.settings = s) (f a).run (Unset s)) :
      Leads (fun w => w.settings = s) (x >>= f).run (Unset s) :=
    .run_bind (R := fun _ w => w.settings = s) (hx.leads_settings hkinds) hf
      fun err w hw _ _ => ⟨[], by rw [hw, List.append_nil], List.forall_mem_nil _⟩
  have hlast (m : Membership) : Leads (Unset s (.ok m))
      (do Net.record .debug ("joined " ++ m.group.text ++ " via " ++ choice.text)
          pure m : Attempt Error Membership).run (Unset s) :=
    .run_lift_bind (R := fun _ _ => True) (fun _ _ => trivial) fun _ =>
      .run_pure m fun _ _ _ h => nomatch h
  unfold join
  dsimp only
  split
  · refine .run_bind (R := Unset s) ?_ hlast fun _ _ hw => hw
    exact .run_lift_bind (Net.leads_record_settings _ _) fun _ =>
      .run_throw _ fun w hw _ _ => ⟨[], by rw [hw, List.append_nil], List.forall_mem_nil _⟩
  · refine .run_bind (R := Unset s) ?_ hlast fun _ _ hw => hw
    exact hquery (Interface.made_forIpv4 choice).only (by decide) fun found =>
      unset_require_membership _ fd _ _
  · refine .run_bind (R := Unset s) ?_ hlast fun _ _ hw => hw
    exact hquery (Interface.made_forIpv6 choice).only (by decide) fun index =>
      unset_require_membership _ fd _ _

/-- Joining a group on a descriptor, through the interfaces that there are. -/
structure Selection (w : World) (fd : Descriptor) (group : Address) : Prop where
  /-- To choose an interface by its name and by its index comes to the same, with the same option
  set. -/
  same : ∀ e ∈ w.kernel.interfaces, ∃ r added, Outcome w.kernel fd e group r added ∧
    ∀ choice, Chooses e choice → ((join fd group choice).run w).1 = r ∧
      ((join fd group choice).run w).2.settings = w.settings ++ added
  /-- A name that there is not is unknown. -/
  unknown_name : ∀ name, (∀ e ∈ w.kernel.interfaces, e.name ≠ name) → group.ip? ≠ none →
    ((join fd group (.named name)).run w).1 = .error (.unknownInterface name) ∧
      ((join fd group (.named name)).run w).2.settings = w.settings
  /-- An index that there is not is unknown. -/
  unknown_index : ∀ index, (∀ e ∈ w.kernel.interfaces, e.index ≠ index) → group.ip? ≠ none →
    ((join fd group (.numbered index)).run w).1 =
        .error (.unknownInterface (toString index.toNat)) ∧
      ((join fd group (.numbered index)).run w).2.settings = w.settings
  /-- What is no address of a group is refused, whatever is chosen. -/
  no_group : group.ip? = none → ∀ choice, ((join fd group choice).run w).1 = .error .family ∧
    ((join fd group choice).run w).2.settings = w.settings
  /-- Whatever is chosen, where the group is not joined no option has been set with success. -/
  failed : ∀ choice err, ((join fd group choice).run w).1 = .error err →
    ∃ added, ((join fd group choice).run w).2.settings = w.settings ++ added ∧
      ∀ x ∈ added, ∃ n, x.outcome = .error n

/-- **Interfaces are chosen alike** by name and by index.

**Proof sketch.** A choice by the name of an entry has an outcome for that entry
(`leads_join_chosen`), and so has a choice by its index. As outcomes are unique (`Outcome.unique`)
they are the same. A name or an index that is in no entry is refused by the kernel when it is asked
for the other (`leads_join_unknown`). -/
theorem selection {w : World} (hk : w.kernel.Tabled) (hq : w.kernel.Answering) (fd : Descriptor)
    (group : Address) : Selection w fd group where
  same e he := by
    have hends {choice : Interface} (hchoice : Chooses e choice) :
        Ends w.kernel w.settings fd e group ((join fd group choice).run w).1
          ((join fd group choice).run w).2 :=
      leads_join_chosen hk hq he hchoice w (Asking.refl calls w)
    obtain ⟨added, houtcome, hsettings⟩ := hends .name
    refine ⟨_, added, houtcome, fun choice hchoice => ?_⟩
    obtain ⟨added', houtcome', hsettings'⟩ := hends hchoice
    obtain ⟨hr, rfl⟩ := houtcome'.unique houtcome
    exact ⟨hr, hsettings'⟩
  unknown_name name h hip := by
    have hindex : Leads (Asking w.kernel calls w.settings) (Interface.indexOf name).run
        (Unknown w.settings name) :=
      (Interface.leads_indexOf_unknown hq h (List.not_mem_nil)).weaken
        (fun v hv => hv.mono (by decide)) fun _ _ hv => ⟨hv.1, hv.2.settings_eq⟩
    exact leads_join_unknown (leads_unknown_bind hindex) hindex hip w (.refl _ _)
  unknown_index index h hip := by
    have hname : Leads (Asking w.kernel calls w.settings) (Interface.nameOf index).run
        (Unknown w.settings (toString index.toNat)) :=
      (Interface.leads_nameOf_unknown hk hq h (List.not_mem_nil)).weaken
        (fun v hv => hv.mono (by decide)) fun _ _ hv => ⟨hv.1, hv.2.settings_eq⟩
    exact leads_join_unknown (leads_unknown_bind hname) (leads_unknown_bind hname) hip w
      (.refl _ _)
  no_group hip choice := leads_join_family hip choice w rfl
  failed choice err h := unset_join fd group choice w rfl err h

/-- Joining a group of four octets on a socket, of two interfaces through the second. -/
theorem selection_second :
    ∃ w : World, w.kernel.Tabled ∧ w.kernel.Answering ∧
      Selection w 100 (.inet ⟨224, 0, 0, 9⟩ 0) ∧
        ((join 100 (.inet ⟨224, 0, 0, 9⟩ 0) (.numbered 2)).run w).1 =
          .ok (.v4 ⟨224, 0, 0, 9⟩ ⟨10, 0, 0, 2⟩ 2) :=
  let w : World :=
    { kernel :=
      { sockets := [(100, ⟨.inet, .dgram, none, none, [], false, none⟩)]
        interfaces :=
          [⟨"lo", 1, [some (.inet .loopback 0)]⟩,
            ⟨"eth0", 2, [none, some (.inet6 .loopback 0 0 0), some (.inet ⟨10, 0, 0, 2⟩ 0)]⟩] } }
  have hk : w.kernel.Tabled := ⟨by decide, by decide, by decide⟩
  have hq : w.kernel.Answering := by
    unfold Kernel.Answering
    decide
  ⟨w, hk, hq, selection hk hq 100 (.inet ⟨224, 0, 0, 9⟩ 0), by decide⟩

end Membership

end Sockets
