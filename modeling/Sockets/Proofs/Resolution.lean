import Mathlib.Data.List.Forall2
import Mathlib.Data.List.ProdSigma
import Mathlib.Data.Nat.Digits.Defs
import Mathlib.Tactic.IntervalCases
import Sockets.Proofs.Leads
import Sockets.Proofs.Reach

/-!
# What the resolver of the system answers

The answer to a query is settled by the query, the table of services and what the name service says
of its host. This module says which answer that is, without saying how it is found: as relations
between a hint and the socket types to try, a service and its port, a host and its addresses, and a
query and its answer, failures and their order of precedence among them.

## Main definitions

* `Sockets.Resolution.Numeral` — a text writes a port in decimal.
* `Sockets.Resolution.Types`, `Sockets.Resolution.Ports`, `Sockets.Resolution.Hosts` — the socket
  types, the port and the addresses of a query, or why there are none.
* `Sockets.Resolution.FirstOccurrences` — the addresses of a family among answers, each where it
  is first found.
* `Sockets.Resolution.Answers` — the candidates of a query, or why there are none.

## Main results

* `Sockets.Resolution.answers_iff` — the resolver of the system gives the one answer that there is.
-/

set_option autoImplicit false

namespace Sockets

open Net (Leads)
open Text

/-- The services that a database lists: none, if it cannot be read. -/
def ServiceBook.entries : ServiceBook → List ServiceEntry
  | read table => table
  | unread content =>
    match ServiceBook.table content with
    | .ok table => table
    | .error _ => []

namespace Resolution

/-! ## Socket types -/

/-- The socket types to try for a hint. -/
inductive Types : Option SocketType → Except ResolveError (List SocketType) → Prop
  | unhinted : Types none (.ok [.stream, .dgram])
  | hinted {t : SocketType} (h : t ∈ [SocketType.stream, .dgram, .seqpacket]) :
    Types (some t) (.ok [t])
  | unsupported {t : SocketType} (h : t ∉ [SocketType.stream, .dgram, .seqpacket]) :
    Types (some t) (.error .socketType)

/-- The socket types that are tried are the ones to try. -/
lemma types_socketTypes (hint : Option SocketType) : Types hint (System.socketTypes hint) := by
  cases hint with
  | none => exact .unhinted
  | some t =>
    by_cases ht : t = .stream ∨ t = .dgram ∨ t = .seqpacket
    · rw [System.socketTypes, if_pos ht]
      exact .hinted (by simpa using ht)
    · rw [System.socketTypes, if_neg ht]
      exact .unsupported (by simpa using ht)

/-- The socket types to try are settled by the hint. -/
lemma Types.unique {hint : Option SocketType} {r s : Except ResolveError (List SocketType)}
    (hr : Types hint r) (hs : Types hint s) : r = s := by
  cases hr with
  | unhinted => cases hs; rfl
  | hinted h =>
    cases hs with
    | hinted => rfl
    | unsupported h' => exact absurd h h'
  | unsupported h =>
    cases hs with
    | hinted h' => exact absurd h' h
    | unsupported => rfl

/-! ## Ports -/

/-- A text writes a number below 65536 in decimal: a plus sign or none, and then its digits, with
any zeros before them. -/
def Numeral (cs : List Char) (n : UInt16) : Prop :=
  ∃ ds : List Nat, ds ≠ [] ∧ (∀ d ∈ ds, d < 10) ∧ Nat.ofDigits 10 ds.reverse = n.toNat ∧
    (cs = ds.map Decimal.digit ∨ cs = '+' :: ds.map Decimal.digit)

/-- The number read from the digits of a number, behind those of another one. -/
lemma valueFrom?_map_digit {ds : List Nat} (hds : ∀ d ∈ ds, d < 10) (m : Nat) :
    Decimal.valueFrom? m (ds.map Decimal.digit) =
      some (Nat.ofDigits 10 ds.reverse + 10 ^ ds.length * m) := by
  induction ds generalizing m with
  | nil => simp [Decimal.valueFrom?]
  | cons d ds ih =>
    obtain ⟨hd, hds⟩ := List.forall_mem_cons.1 hds
    rw [List.map_cons, Decimal.valueFrom?, Decimal.digitValue?_digit d hd, Option.bind_some,
      ih hds, List.reverse_cons, Nat.ofDigits_append, Nat.ofDigits_singleton, List.length_reverse,
      List.length_cons, pow_succ]
    congr 1
    ring

/-- A number is read from nothing but digits. -/
lemma exists_digits_of_valueFrom? {cs : List Char} {m n : Nat}
    (h : Decimal.valueFrom? m cs = some n) :
    ∃ ds : List Nat, (∀ d ∈ ds, d < 10) ∧ cs = ds.map Decimal.digit := by
  induction cs generalizing m with
  | nil => exact ⟨[], by simp, rfl⟩
  | cons c cs ih =>
    rw [Decimal.valueFrom?, Option.bind_eq_some_iff] at h
    obtain ⟨d, hd, h⟩ := h
    obtain ⟨ds, hds, rfl⟩ := ih h
    refine ⟨d :: ds, ?_, ?_⟩
    · exact List.forall_mem_cons.2 ⟨Decimal.digitValue?_lt hd, hds⟩
    · rw [List.map_cons, ← Decimal.digit_of_digitValue? hd]

/-- The digits of a number are read as that number.

**Proof sketch.** The reader takes no empty text, and otherwise works from the left, which gives the
digits and their worth (`exists_digits_of_valueFrom?`, `valueFrom?_map_digit`). -/
lemma value?_eq_some_iff {cs : List Char} {n : Nat} :
    Decimal.value? cs = some n ↔ ∃ ds : List Nat, ds ≠ [] ∧ (∀ d ∈ ds, d < 10) ∧
      Nat.ofDigits 10 ds.reverse = n ∧ cs = ds.map Decimal.digit := by
  constructor
  · intro h
    have hcs : cs ≠ [] := by
      rintro rfl
      simp [Decimal.value?] at h
    rw [Decimal.value?, if_neg hcs] at h
    obtain ⟨ds, hds, rfl⟩ := exists_digits_of_valueFrom? h
    rw [valueFrom?_map_digit hds, Nat.mul_zero, Nat.add_zero, Option.some.injEq] at h
    exact ⟨ds, by simpa using hcs, hds, h, rfl⟩
  · rintro ⟨ds, hne, hds, rfl, rfl⟩
    rw [Decimal.value?, if_neg (by simpa using hne), valueFrom?_map_digit hds, Nat.mul_zero,
      Nat.add_zero]

/-- No digit is a plus sign. -/
lemma digit_ne_plus {d : Nat} (hd : d < 10) : Decimal.digit d ≠ '+' := by
  interval_cases d <;> decide

/-- What is read as a port is what writes it in decimal.

**Proof sketch.** What digits are worth is known of the reader of digits (`value?_eq_some_iff`). A
word is that with a plus sign in front at most, and with a value that fits into a port; no digit is
a plus sign, so what begins with one has lost it. -/
theorem word?_eq_some_iff {cs : List Char} {n : UInt16} :
    Decimal.word? cs = some n ↔ Numeral cs n := by
  have hfits (ds : List Char) : ((Decimal.value? ds).bind fun k =>
      if k < 65536 then some (UInt16.ofNat k) else none) = some n ↔
        Decimal.value? ds = some n.toNat := by
    rw [Option.bind_eq_some_iff]
    constructor
    · rintro ⟨k, hk, hn⟩
      split at hn
      · rename_i hlt
        obtain rfl := Option.some.inj hn
        rwa [UInt16.toNat_ofNat_of_lt' hlt]
      · exact nomatch hn
    · intro h
      exact ⟨n.toNat, h, by rw [if_pos n.toNat_lt, UInt16.ofNat_toNat]⟩
  unfold Decimal.word?
  dsimp only
  rw [hfits, value?_eq_some_iff]
  constructor
  · rintro ⟨ds, hne, hds, hn, hcs⟩
    refine ⟨ds, hne, hds, hn, ?_⟩
    split at hcs
    · exact .inr (by rw [hcs])
    · exact .inl hcs
  · rintro ⟨ds, hne, hds, hn, rfl | rfl⟩
    · refine ⟨ds, hne, hds, hn, ?_⟩
      split
      · rename_i rest hplus
        obtain ⟨d, hd, hd'⟩ := List.mem_map.1 (hplus ▸ List.mem_cons_self : '+' ∈ _)
        exact absurd hd' (digit_ne_plus (hds d hd))
      · rfl
    · exact ⟨ds, hne, hds, hn, rfl⟩

/-- The word for the transport that is hinted at, as the services database has it. -/
inductive Transport (hints : Hints) : String → Prop
  | udp (h : hints.protocol = some udpNumber ∨ hints.type = some .dgram) : Transport hints "udp"
  | tcp (ht : hints.type ≠ some .dgram)
    (h : hints.protocol = none ∨ hints.protocol = some tcpNumber) : Transport hints "tcp"
  | sctp {n : Int} (ht : hints.type ≠ some .dgram) (h : hints.protocol = some n)
    (hudp : n ≠ udpNumber) (htcp : n ≠ tcpNumber) : Transport hints "sctp"

/-- There is one word for the transport that is hinted at.

**Proof sketch.** The three cases of the relation are the three branches of the function: they are
taken in the same order, and each rules out the ones before. -/
lemma transport_iff {hints : Hints} {word : String} :
    Transport hints word ↔ word = System.transportWord hints.type hints.protocol := by
  have hne : (udpNumber : Int) ≠ tcpNumber := by decide
  constructor
  · rintro (h | ⟨ht, h⟩ | ⟨ht, h, hudp, htcp⟩)
    · rw [System.transportWord, if_pos h]
    · have hno : ¬ (hints.protocol = some udpNumber ∨ hints.type = some .dgram) := by
        rcases h with h | h <;> simp [h, ht, hne.symm]
      rw [System.transportWord, if_neg hno, if_pos h]
    · rw [System.transportWord, if_neg (by simp [h, ht, hudp]), if_neg (by simp [h, htcp])]
  · rintro rfl
    unfold System.transportWord
    split
    · rename_i h
      exact .udp h
    · rename_i h
      obtain ⟨hudp, ht⟩ := not_or.1 h
      split
      · rename_i h
        exact .tcp ht h
      · rename_i h
        obtain ⟨hnone, htcp⟩ := not_or.1 h
        obtain ⟨n, hn⟩ := Option.ne_none_iff_exists'.1 hnone
        exact .sctp ht hn (by simpa [hn] using hudp) (by simpa [hn] using htcp)

/-- The port of a name that is no number, by a table of services: that under the transport hinted
at, where a name that is not listed under SCTP may be listed under TCP. -/
inductive Listed (table : List ServiceEntry) (name word : String) :
    Except ResolveError UInt16 → Prop
  | first {n : UInt16} (h : ServiceEntry.port? table name word = some n) :
    Listed table name word (.ok n)
  | second {n : UInt16} (hw : word = "sctp") (h : ServiceEntry.port? table name word = none)
    (h' : ServiceEntry.port? table name "tcp" = some n) : Listed table name word (.ok n)
  | missing (h : ServiceEntry.port? table name word = none)
    (h' : word = "sctp" → ServiceEntry.port? table name "tcp" = none) :
    Listed table name word (.error (.noName (name ++ "/" ++ word)))

/-- The port of a name is settled by the table. -/
lemma Listed.unique {table : List ServiceEntry} {name word : String}
    {r s : Except ResolveError UInt16} (hr : Listed table name word r)
    (hs : Listed table name word s) : r = s := by
  cases hr <;> cases hs <;> simp_all

/-- The port of a service, by a table of services. -/
inductive Ports (table : List ServiceEntry) (hints : Hints) :
    Option String → Except ResolveError UInt16 → Prop
  | absent : Ports table hints none (.ok 0)
  | empty : Ports table hints (some "") (.ok 0)
  | number {s : String} {n : UInt16} (h : Numeral s.toList n) : Ports table hints (some s) (.ok n)
  | name {s word : String} {r : Except ResolveError UInt16} (hs : s ≠ "")
    (hno : ∀ n, ¬ Numeral s.toList n) (hw : Transport hints word) (h : Listed table s word r) :
    Ports table hints (some s) r

/-- No number is written without digits. -/
lemma not_numeral_nil (n : UInt16) : ¬ Numeral "".toList n := by
  rw [← word?_eq_some_iff]
  exact nofun

/-- The port of a service is settled by the hints and the table.

**Proof sketch.** By cases on both derivations. No service is empty and a number, no number is a
name, and of numbers and names each has one value, the latter by the table. -/
lemma Ports.unique {table : List ServiceEntry} {hints : Hints} {service : Option String}
    {r s : Except ResolveError UInt16} (hr : Ports table hints service r)
    (hs : Ports table hints service s) : r = s := by
  cases hr with
  | absent => cases hs; rfl
  | empty =>
    cases hs with
    | empty => rfl
    | number h => exact absurd h (not_numeral_nil _)
    | name hne => exact absurd rfl hne
  | number h =>
    cases hs with
    | empty => exact absurd h (not_numeral_nil _)
    | number h' =>
      have hsame := (word?_eq_some_iff.2 h).symm.trans (word?_eq_some_iff.2 h')
      rw [Option.some.inj hsame]
    | name _ hno => exact absurd h (hno _)
  | name hne hno hw h =>
    cases hs with
    | empty => exact absurd rfl hne
    | number h' => exact absurd h' (hno _)
    | name _ _ hw' h' =>
      rw [transport_iff.1 hw] at h
      rw [transport_iff.1 hw'] at h'
      exact h.unique h'

/-! ### Looking services up -/

/-- A world with a kernel and a table of services. -/
def Stocked (k : Kernel) (table : List ServiceEntry) (w : World) : Prop :=
  w.kernel = k ∧ w.services.entries = table

variable {k : Kernel} {table : List ServiceEntry}

/-- Looking a service up gives what the table has, and leaves the kernel and the table.

**Proof sketch.** If the database was read the table is at hand. If it was not, it is read now, from
the content that it holds, and a content that cannot be read gives an empty table after a record. In
each case the table is the one that the database stands for, so that it stays so. -/
lemma leads_servicePort? (name word : String) :
    Leads (Stocked k table) (Net.servicePort? name word) fun r w =>
      r = ServiceEntry.port? table name word ∧ Stocked k table w := by
  have htable : Leads (Stocked k table) Net.serviceTable fun r w =>
      r = table ∧ Stocked k table w := by
    refine .bind (R := fun u w => u = w ∧ Stocked k table w) (fun w hw => ⟨rfl, hw⟩) fun u => ?_
    cases hs : u.services with
    | read entries =>
      exact .pure _ fun w ⟨hu, hw⟩ => ⟨by rw [← hw.2, ← hu, hs]; rfl, hw⟩
    | unread content =>
      dsimp only
      split
      · rename_i entries hc
        refine .bind (R := fun a w => a = table ∧ Stocked k table w)
          (.pure _ fun w ⟨hu, hw⟩ => ⟨?_, hw⟩) fun a => .of_and ?_
        · rw [← hw.2, ← hu, hs, ServiceBook.entries, hc]
        · rintro rfl
          exact .bind (R := fun _ w => Stocked k a w) (fun w hw => ⟨hw.1, rfl⟩) fun _ =>
            .pure _ fun w hw => ⟨rfl, hw⟩
      · rename_i e hc
        have hempty (w : World) (h : u = w ∧ Stocked k table w) : [] = table := by
          rw [← h.2.2, ← h.1, hs, ServiceBook.entries, hc]
        refine .assuming hempty ?_
        rintro rfl
        refine .bind (R := fun _ w => w.kernel = k) (fun w hw => hw.2.1) fun _ => ?_
        refine .bind (R := fun a w => a = [] ∧ w.kernel = k) (.pure _ fun w hw => ⟨rfl, hw⟩)
          fun a => .of_and ?_
        rintro rfl
        exact .bind (R := fun _ w => Stocked k [] w) (fun w hw => ⟨hw, rfl⟩) fun _ =>
          .pure _ fun w hw => ⟨rfl, hw⟩
  refine htable.bind fun entries => .of_and ?_
  rintro rfl
  exact .pure _ fun w hw => ⟨rfl, hw⟩

/-- The port that is found for a name is the one it has.

**Proof sketch.** The table is asked under the word for the transport, and if that has nothing and
the word is the one for messages, under the word for streams. -/
lemma leads_namedPort (name word : String) :
    Leads (Stocked k table) (System.namedPort name word).run fun r w =>
      Listed table name word r ∧ Stocked k table w := by
  refine .run_lift_bind (leads_servicePort? name word) fun r => .of_and fun hr => ?_
  cases r with
  | some n => exact .run_pure n fun w hw => ⟨.first hr.symm, hw⟩
  | none =>
    dsimp only
    split
    · rename_i hword
      refine .run_lift_bind (leads_servicePort? name "tcp") fun r => .of_and fun hr' => ?_
      cases r with
      | some n => exact .run_pure n fun w hw => ⟨.second hword hr.symm hr'.symm, hw⟩
      | none => exact .run_throw _ fun w hw => ⟨.missing hr.symm fun _ => hr'.symm, hw⟩
    · rename_i hword
      exact .run_throw _ fun w hw => ⟨.missing hr.symm fun h => absurd h hword, hw⟩

/-- The port that is found for a service is the one it has.

**Proof sketch.** By the branches of the function: no service, an empty one, one that writes a
number, and one that is left to the table under the word for the transport. -/
lemma leads_port (service : Option String) (hints : Hints) :
    Leads (Stocked k table) (System.port service hints).run fun r w =>
      Ports table hints service r ∧ Stocked k table w := by
  unfold System.port
  cases service with
  | none => exact .run_pure 0 fun w hw => ⟨.absent, hw⟩
  | some s =>
    dsimp only
    split
    · rename_i hs
      obtain rfl := hs
      exact .run_pure 0 fun w hw => ⟨.empty, hw⟩
    · rename_i hs
      cases hn : Decimal.word? s.toList with
      | some n => exact .run_pure n fun w hw => ⟨.number (word?_eq_some_iff.1 hn), hw⟩
      | none =>
        have hno (n : UInt16) : ¬ Numeral s.toList n := by
          rw [← word?_eq_some_iff, hn]
          exact nofun
        refine (leads_namedPort s _).weaken (fun _ hw => hw) fun r w ⟨hr, hw⟩ => ⟨?_, hw⟩
        exact .name hs hno (transport_iff.2 rfl) hr

/-! ## Addresses -/

/-- An address is of the family that is hinted at, if one is. -/
def OfFamily (family : Option Family) (ip : Ip) : Prop :=
  family = none ∨ family = some (System.familyOf ip)

/-- Addresses fit the hints that they are of the family of. -/
lemma fits_iff {family : Option Family} {ip : Ip} :
    System.fits family ip = true ↔ OfFamily family ip := by
  cases ip <;> simp [System.fits, OfFamily, System.familyOf]

/-- A host is an address that is written out, in one pair of brackets or none. -/
def Literal (host : String) (ip : Ip) : Prop :=
  (∃ cs, host.toList = '[' :: (cs ++ [']']) ∧ Ip.ofChars? cs = some ip) ∨
    (∀ cs, host.toList ≠ '[' :: (cs ++ [']'])) ∧ Ip.ofChars? host.toList = some ip

/-- Text in brackets, read without them. -/
lemma inBrackets?_eq_some_iff {cs ds : List Char} :
    inBrackets? cs = some ds ↔ cs = '[' :: (ds ++ [']']) := by
  constructor
  · intro h
    unfold inBrackets? at h
    split at h
    · rename_i cs
      split at h
      · rename_i hlast
        obtain ⟨front, hfront⟩ := List.getLast?_eq_some_iff.1 hlast
        simp_all
      · exact nomatch h
    · exact nomatch h
  · rintro rfl
    simp [inBrackets?]

/-- What is read as a literal is an address that is written out. -/
lemma literal?_eq_some_iff {host : String} {ip : Ip} :
    Ip.literal? host = some ip ↔ Literal host ip := by
  unfold Ip.literal? unbracket
  cases h : inBrackets? host.toList with
  | some cs =>
    have hcs := inBrackets?_eq_some_iff.1 h
    simp [Literal, hcs]
  | none =>
    have hno (cs : List Char) : host.toList ≠ '[' :: (cs ++ [']']) := by
      rw [ne_eq, ← inBrackets?_eq_some_iff, h]
      exact nofun
    simp [Literal, hno]

/-- The addresses of a family among answers, each where it is first found: no others, and in the
order of their first occurrences, so that none is there twice. -/
structure FirstOccurrences (family : Option Family) (found : List (Option Ip)) (ips : List Ip) :
    Prop where
  mem_iff : ∀ ip, ip ∈ ips ↔ some ip ∈ found ∧ OfFamily family ip
  pairwise : ips.Pairwise fun a b => found.idxOf (some a) < found.idxOf (some b)

/-- Two lists of first occurrences among the same answers are the same. -/
lemma FirstOccurrences.unique {family : Option Family} {found : List (Option Ip)}
    {ips jps : List Ip} (hi : FirstOccurrences family found ips)
    (hj : FirstOccurrences family found jps) : ips = jps := by
  have hperm : ips.Perm jps := by
    refine (List.perm_ext_iff_of_nodup ?_ ?_).2 fun ip => (hi.mem_iff ip).trans (hj.mem_iff ip).symm
    · exact hi.pairwise.imp fun hlt heq => by simp [heq] at hlt
    · exact hj.pairwise.imp fun hlt heq => by simp [heq] at hlt
  refine hperm.eq_of_pairwise ?_ hi.pairwise hj.pairwise
  intro a b _ _ hab hba
  exact absurd hab (Nat.lt_asymm hba)

/-- Taking each address once, of those that are chosen, keeps the order of first occurrences.

**Proof sketch.** By induction on the answers, with the choice generalised, since taking an address
for the first time drops it from the choice of what follows. An address that is taken stands at the
front, before all others; an address that is not taken is none of those that follow, so their places
move by one. -/
lemma pairwise_eraseDups (found : List (Option Ip)) (chosen : Ip → Bool) :
    ((found.filterMap id).filter chosen).eraseDups.Pairwise
      fun a b => found.idxOf (some a) < found.idxOf (some b) := by
  induction found generalizing chosen with
  | nil => simp
  | cons answer found ih =>
    cases answer with
    | none => simpa [List.idxOf_cons] using ih chosen
    | some ip =>
      have hlater (more : Ip → Bool) (hmore : more ip = false) :
          ((found.filterMap id).filter more).eraseDups.Pairwise fun a b =>
            (some ip :: found).idxOf (some a) < (some ip :: found).idxOf (some b) := by
        refine (ih more).imp_of_mem fun {a b} ha hb hlt => ?_
        have hne (c : Ip) (hc : c ∈ ((found.filterMap id).filter more).eraseDups) :
            some ip ≠ some c := by
          rintro ⟨⟩
          rw [List.mem_eraseDups, List.mem_filter, hmore] at hc
          exact nomatch hc.2
        rw [List.idxOf_cons_ne _ (hne a ha), List.idxOf_cons_ne _ (hne b hb)]
        exact Nat.succ_lt_succ hlt
      cases hip : chosen ip with
      | false => simpa [hip] using hlater chosen hip
      | true =>
        have hcons : (((some ip :: found).filterMap id).filter chosen).eraseDups =
            ip :: ((found.filterMap id).filter fun b => !(b == ip) && chosen b).eraseDups := by
          have hfilter : ((some ip :: found).filterMap id).filter chosen =
              ip :: (found.filterMap id).filter chosen := List.filter_cons_of_pos hip
          rw [hfilter, List.eraseDups_cons, List.filter_filter]
        rw [hcons, List.pairwise_cons]
        refine ⟨fun b hb => ?_, hlater _ (by simp)⟩
        have hne : some ip ≠ some b := by
          rintro ⟨⟩
          simp [List.mem_eraseDups] at hb
        rw [List.idxOf_cons_self, List.idxOf_cons_ne _ hne]
        exact Nat.succ_pos _

/-- The addresses that are selected are the first occurrences. -/
lemma firstOccurrences_selected (family : Option Family) (found : List (Option Ip)) :
    FirstOccurrences family found (System.selected family found) := by
  refine ⟨fun ip => ?_, pairwise_eraseDups found _⟩
  rw [System.selected, List.mem_eraseDups, List.mem_filter, fits_iff, List.mem_filterMap]
  simp

/-- There are no first occurrences where no answer is of the family. -/
lemma FirstOccurrences.eq_nil_iff {family : Option Family} {found : List (Option Ip)}
    {ips : List Ip} (h : FirstOccurrences family found ips) :
    ips = [] ↔ ∀ ip, some ip ∈ found → ¬ OfFamily family ip := by
  rw [List.eq_nil_iff_forall_not_mem]
  exact forall_congr' fun ip => by rw [h.mem_iff, not_and]

/-- The addresses of a host by what the name service says of it: an error number is a failure of
the system, and any other failure means that the name is not known; where there are answers, there
has to be one of the family that is hinted at. -/
inductive Said (family : Option Family) (host : String) :
    Except Int (Except Int (List (Option Ip))) → Except ResolveError (List Ip) → Prop
  | refused (n : Int) : Said family host (.error n) (.error (.system (.os n)))
  | unknown (code : Int) : Said family host (.ok (.error code)) (.error (.noName host))
  | unsuited {found : List (Option Ip)} (hnone : ∀ ip, some ip ∈ found → ¬ OfFamily family ip) :
    Said family host (.ok (.ok found)) (.error .family)
  | found {found : List (Option Ip)} {ips : List Ip} (h : FirstOccurrences family found ips)
    (hne : ips ≠ []) : Said family host (.ok (.ok found)) (.ok ips)

/-- What the name service says of a host settles its addresses.

**Proof sketch.** By cases on both derivations. Where the service found addresses, none of them
suits or some do, and the list of those that do is one. -/
lemma Said.unique {family : Option Family} {host : String}
    {said : Except Int (Except Int (List (Option Ip)))} {r s : Except ResolveError (List Ip)}
    (hr : Said family host said r) (hs : Said family host said s) : r = s := by
  cases hr with
  | refused => cases hs; rfl
  | unknown => cases hs; rfl
  | unsuited hnone =>
    cases hs with
    | unsuited => rfl
    | found h hne => exact absurd (h.eq_nil_iff.2 hnone) hne
  | found h hne =>
    cases hs with
    | unsuited hnone => exact absurd (h.eq_nil_iff.2 hnone) hne
    | found h' => rw [h.unique h']

/-- The addresses of a host that is a name. One with a zero character is not known, and the name
service is not asked for it. -/
inductive Named (family : Option Family) (host : String)
    (said : Except Int (Except Int (List (Option Ip)))) : Except ResolveError (List Ip) → Prop
  | unsayable (hnul : '\x00' ∈ host.toList) : Named family host said (.error (.noName host))
  | asked {r : Except ResolveError (List Ip)} (hnul : '\x00' ∉ host.toList)
    (h : Said family host said r) : Named family host said r

/-- What the name service says of a name settles its addresses. -/
lemma Named.unique {family : Option Family} {host : String}
    {said : Except Int (Except Int (List (Option Ip)))} {r s : Except ResolveError (List Ip)}
    (hr : Named family host said r) (hs : Named family host said s) : r = s := by
  cases hr with
  | unsayable hnul =>
    cases hs with
    | unsayable => rfl
    | asked hno => exact absurd hnul hno
  | asked hno h =>
    cases hs with
    | unsayable hnul => exact absurd hnul hno
    | asked _ h' => exact h.unique h'

/-- The addresses that are found for a name are those it has.

**Proof sketch.** A name that cannot be said is refused before anybody is asked. Otherwise the name
service is asked once, and what it says, a failure or addresses, is what the answer is made of. -/
lemma leads_namedAddresses (host : String) (family : Option Family) :
    Leads (Stocked k table) (System.namedAddresses host family).run fun r _ =>
      Named family host (k.perform (.getaddrinfo host)).1 r := by
  unfold System.namedAddresses
  dsimp only
  split
  · rename_i hnul
    exact fun _ _ => .unsayable (List.contains_iff_mem.1 hnul)
  · rename_i hnul
    have hasked {r : Except ResolveError (List Ip)}
        (hr : Said family host (k.perform (.getaddrinfo host)).1 r) :
        Named family host (k.perform (.getaddrinfo host)).1 r :=
      .asked (fun h => hnul (List.contains_iff_mem.2 h)) hr
    refine .run_lift_bind (R := fun r w => r = (k.perform (.getaddrinfo host)).1)
      (fun w hw => by rw [← hw.1]; rfl) fun r => ?_
    cases r with
    | error n => exact .run_throw _ fun w hw => hasked (hw ▸ .refused n)
    | ok answer =>
      cases (answer : Except Int (List (Option Ip))) with
      | error code => exact .run_throw _ fun w hw => hasked (hw ▸ .unknown code)
      | ok found =>
        have hfirst := firstOccurrences_selected family found
        dsimp only
        split
        · rename_i hnil
          exact .run_throw _ fun w hw => hasked (hw ▸ .unsuited (hfirst.eq_nil_iff.1 hnil))
        · rename_i hne
          exact .run_pure _ fun w hw => hasked (hw ▸ .found hfirst hne)

/-- The addresses that stand for every address of the machine. -/
inductive Everywhere : Option Family → List Ip → Prop
  | any : Everywhere none [.v6 .unspecified, .v4 .unspecified]
  | inet : Everywhere (some .inet) [.v4 .unspecified]
  | inet6 : Everywhere (some .inet6) [.v6 .unspecified]

/-- The wildcard addresses are settled by the hint. -/
lemma Everywhere.unique {family : Option Family} {ips jps : List Ip} (hi : Everywhere family ips)
    (hj : Everywhere family jps) : ips = jps := by
  cases hi <;> cases hj <;> rfl

/-- The wildcard addresses that are taken are those of the hint. -/
lemma everywhere_wildcards {family : Option Family} (hf : family ≠ some .unix) :
    Everywhere family (System.wildcards family) := by
  rcases family with _ | _ | _ | _
  · exact .any
  · exact .inet
  · exact .inet6
  · exact absurd rfl hf

/-- The addresses of a host, by what the name service says of it. -/
inductive Hosts (said : String → Except Int (Except Int (List (Option Ip)))) (hints : Hints) :
    Option String → Except ResolveError (List Ip) → Prop
  | everywhere {host : Option String} {ips : List Ip} (hhost : host = none ∨ host = some "")
    (hp : hints.passive = true) (h : Everywhere hints.family ips) : Hosts said hints host (.ok ips)
  | nowhere {host : Option String} (hhost : host = none ∨ host = some "")
    (hp : hints.passive = false) :
    Hosts said hints host (.error (.noName "no host given for an active lookup"))
  | literal {h : String} {ip : Ip} (hne : h ≠ "") (hip : Literal h ip)
    (hf : OfFamily hints.family ip) : Hosts said hints (some h) (.ok [ip])
  | other {h : String} {ip : Ip} (hne : h ≠ "") (hip : Literal h ip)
    (hf : ¬ OfFamily hints.family ip) : Hosts said hints (some h) (.error .family)
  | named {h : String} {r : Except ResolveError (List Ip)} (hne : h ≠ "")
    (hno : ∀ ip, ¬ Literal h ip) (hr : Named hints.family h (said h) r) :
    Hosts said hints (some h) r

/-- The addresses of a host are settled by the hints and what the name service says.

**Proof sketch.** By cases on both derivations. A host is either missing or given, and if it is
given, either a literal, of one address, or not; each case excludes the others. -/
lemma Hosts.unique {said : String → Except Int (Except Int (List (Option Ip)))} {hints : Hints}
    {host : Option String} {r s : Except ResolveError (List Ip)} (hr : Hosts said hints host r)
    (hs : Hosts said hints host s) : r = s := by
  have hliteral {h : String} {ip jp : Ip} (hi : Literal h ip) (hj : Literal h jp) : ip = jp :=
    Option.some.inj ((literal?_eq_some_iff.2 hi).symm.trans (literal?_eq_some_iff.2 hj))
  have hgiven {h : String} (hne : h ≠ "") : ¬ (some h = none ∨ some h = some "") := by
    simpa using hne
  cases hr with
  | everywhere hhost hp h =>
    cases hs with
    | everywhere _ _ h' => rw [h.unique h']
    | nowhere _ hp' => exact nomatch hp.symm.trans hp'
    | literal hne | other hne | named hne => exact absurd hhost (hgiven hne)
  | nowhere hhost hp =>
    cases hs with
    | everywhere _ hp' => exact nomatch hp.symm.trans hp'
    | nowhere => rfl
    | literal hne | other hne | named hne => exact absurd hhost (hgiven hne)
  | literal hne hip hf =>
    cases hs with
    | everywhere hhost | nowhere hhost => exact absurd hhost (hgiven hne)
    | literal _ hip' => rw [hliteral hip hip']
    | other _ hip' hf' => exact absurd (hliteral hip hip' ▸ hf) hf'
    | named _ hno => exact absurd hip (hno _)
  | other hne hip hf =>
    cases hs with
    | everywhere hhost | nowhere hhost => exact absurd hhost (hgiven hne)
    | literal _ hip' hf' => exact absurd hf' (hliteral hip hip' ▸ hf)
    | other => rfl
    | named _ hno => exact absurd hip (hno _)
  | named hne hno hr =>
    cases hs with
    | everywhere hhost | nowhere hhost => exact absurd hhost (hgiven hne)
    | literal _ hip | other _ hip => exact absurd hip (hno _)
    | named _ _ hr' => exact hr.unique hr'

/-- The addresses that are found for a host are those it has.

**Proof sketch.** By the branches of the function: a missing host stands for every address of the
machine, or for none; a literal is taken if it fits the family; every other host is left to the name
service (`leads_namedAddresses`). -/
lemma leads_addresses (host : Option String) (hints : Hints) (hf : hints.family ≠ some .unix) :
    Leads (Stocked k table) (System.addresses host hints).run fun r _ =>
      Hosts (fun h => (k.perform (.getaddrinfo h)).1) hints host r := by
  have hunnamed (hhost : host = none ∨ host = some "") : Leads (Stocked k table)
      (if hints.passive then pure (System.wildcards hints.family)
        else throw (.noName "no host given for an active lookup") :
        Attempt ResolveError (List Ip)).run fun r _ =>
          Hosts (fun h => (k.perform (.getaddrinfo h)).1) hints host r := by
    split
    · rename_i hp
      exact .run_pure _ fun _ _ => .everywhere hhost hp (everywhere_wildcards hf)
    · rename_i hp
      exact .run_throw _ fun _ _ => .nowhere hhost (by simpa using hp)
  cases host with
  | none => exact hunnamed (.inl rfl)
  | some h =>
    by_cases hne : h = ""
    · rw [System.addresses, if_pos hne]
      exact hunnamed (.inr (by rw [hne]))
    · rw [System.addresses, if_neg hne]
      dsimp only
      cases hip : Ip.literal? h with
      | some ip =>
        have hliteral := literal?_eq_some_iff.1 hip
        dsimp only
        split
        · rename_i hfits
          exact .run_pure _ fun _ _ => .literal hne hliteral (fits_iff.1 hfits)
        · rename_i hfits
          exact .run_throw _ fun _ _ => .other hne hliteral (mt fits_iff.2 hfits)
      | none =>
        have hno (ip : Ip) : ¬ Literal h ip := by
          rw [← literal?_eq_some_iff, hip]
          exact nofun
        exact (leads_namedAddresses h hints.family).weaken (fun _ hw => hw)
          fun _ _ hr => .named hne hno hr

/-! ## Candidates -/

/-- A candidate is for an address, a socket type and a port. Its family is that of the address, and
its transport the one that is hinted at, or else the one that goes with its socket type. -/
structure Suits (hints : Hints) (port : UInt16) (ip : Ip) (t : SocketType) (c : Candidate) :
    Prop where
  family_eq : c.family = System.familyOf ip
  type_eq : c.type = t
  protocol_of_hint : ∀ n, hints.protocol = some n → c.protocol = some n
  protocol_stream : hints.protocol = none → t = .stream → c.protocol = some tcpNumber
  protocol_dgram : hints.protocol = none → t = .dgram → c.protocol = some udpNumber
  protocol_other : hints.protocol = none → t ≠ .stream → t ≠ .dgram → c.protocol = none
  address_eq : c.address = .ofIp ip port

/-- The answer to a query: the candidates of its addresses and socket types, the socket types of an
address side by side, or else the first failure there is, of the family, the socket type, the
service or the host. -/
inductive Answers (table : List ServiceEntry)
    (said : String → Except Int (Except Int (List (Option Ip)))) (q : Query) :
    Except ResolveError (List Candidate) → Prop
  | unix (hf : q.hints.family = some .unix) : Answers table said q (.error .family)
  | types {e : ResolveError} (hf : q.hints.family ≠ some .unix)
    (ht : Types q.hints.type (.error e)) : Answers table said q (.error e)
  | service {e : ResolveError} {types : List SocketType} (hf : q.hints.family ≠ some .unix)
    (ht : Types q.hints.type (.ok types)) (hp : Ports table q.hints q.service (.error e)) :
    Answers table said q (.error e)
  | host {e : ResolveError} {types : List SocketType} {port : UInt16}
    (hf : q.hints.family ≠ some .unix) (ht : Types q.hints.type (.ok types))
    (hp : Ports table q.hints q.service (.ok port)) (hh : Hosts said q.hints q.host (.error e)) :
    Answers table said q (.error e)
  | candidates {types : List SocketType} {port : UInt16} {ips : List Ip} {cs : List Candidate}
    (hf : q.hints.family ≠ some .unix) (ht : Types q.hints.type (.ok types))
    (hp : Ports table q.hints q.service (.ok port)) (hh : Hosts said q.hints q.host (.ok ips))
    (hc : List.Forall₂ (fun p c => Suits q.hints port p.1 p.2 c) (ips ×ˢ types) cs) :
    Answers table said q (.ok cs)

/-- The candidates of addresses and socket types suit them, pair by pair.

**Proof sketch.** A candidate suits the address and the type that it is made of, whichever way its
transport is settled. The list is by addresses and then by types, as the product of the two is. -/
lemma suits_product (hints : Hints) (port : UInt16) (ips : List Ip) (types : List SocketType) :
    List.Forall₂ (fun p c => Suits hints port p.1 p.2 c) (ips ×ˢ types)
      (System.product hints.protocol port ips types) := by
  have hcandidate (ip : Ip) (t : SocketType) :
      Suits hints port ip t (System.candidate hints.protocol port ip t) := by
    refine ⟨rfl, rfl, fun n hn => ?_, fun hn ht => ?_, fun hn ht => ?_, fun hn hs hd => ?_, rfl⟩
    · rw [System.candidate, hn, Option.some_or]
    · rw [System.candidate, hn, Option.none_or, System.defaultProtocol, if_pos ht]
    · rw [System.candidate, hn, Option.none_or, ht]
      rfl
    · rw [System.candidate, hn, Option.none_or, System.defaultProtocol, if_neg hs, if_neg hd]
  induction ips with
  | nil => exact .nil
  | cons ip ips ih =>
    rw [List.product_cons]
    refine List.rel_append ?_ ih
    rw [List.forall₂_map_left_iff, List.forall₂_map_right_iff, List.forall₂_same]
    exact fun t _ => hcandidate ip t

/-- What suits an address, a socket type and a port is settled by them.

**Proof sketch.** The family, the type and the address are given by the two. The transport is the
one that is hinted at, or else the one that goes with the type. -/
lemma Suits.unique {hints : Hints} {port : UInt16} {ip : Ip} {t : SocketType} {c d : Candidate}
    (hc : Suits hints port ip t c) (hd : Suits hints port ip t d) : c = d := by
  have hprotocol : c.protocol = d.protocol := by
    cases hn : hints.protocol with
    | some n => rw [hc.protocol_of_hint n hn, hd.protocol_of_hint n hn]
    | none =>
      by_cases hs : t = .stream
      · rw [hc.protocol_stream hn hs, hd.protocol_stream hn hs]
      by_cases hg : t = .dgram
      · rw [hc.protocol_dgram hn hg, hd.protocol_dgram hn hg]
      · rw [hc.protocol_other hn hs hg, hd.protocol_other hn hs hg]
  cases c
  cases d
  simp only [Candidate.mk.injEq]
  exact ⟨hc.family_eq.trans hd.family_eq.symm, hc.type_eq.trans hd.type_eq.symm, hprotocol,
    hc.address_eq.trans hd.address_eq.symm⟩

/-- The answer to a query is settled by the query, the table and what the name service says.

**Proof sketch.** By cases on both derivations. The types, the port and the addresses are settled
one after the other, each of them once, and the first that fails is the answer; where none does,
candidates are settled pair by pair. -/
lemma Answers.unique {said : String → Except Int (Except Int (List (Option Ip)))} {q : Query}
    {r s : Except ResolveError (List Candidate)} (hr : Answers table said q r)
    (hs : Answers table said q s) : r = s := by
  cases hr with
  | unix hf =>
    cases hs with
    | unix => rfl
    | types hf' | service hf' | host hf' | candidates hf' => exact absurd hf hf'
  | types hf ht =>
    cases hs with
    | unix hf' => exact absurd hf' hf
    | types _ ht' => rw [Except.error.inj (ht.unique ht')]
    | service _ ht' | host _ ht' | candidates _ ht' => exact nomatch ht.unique ht'
  | service hf ht hp =>
    cases hs with
    | unix hf' => exact absurd hf' hf
    | types _ ht' => exact nomatch ht.unique ht'
    | service _ _ hp' => rw [Except.error.inj (hp.unique hp')]
    | host _ _ hp' | candidates _ _ hp' => exact nomatch hp.unique hp'
  | host hf ht hp hh =>
    cases hs with
    | unix hf' => exact absurd hf' hf
    | types _ ht' => exact nomatch ht.unique ht'
    | service _ _ hp' => exact nomatch hp.unique hp'
    | host _ _ _ hh' => rw [Except.error.inj (hh.unique hh')]
    | candidates _ _ _ hh' => exact nomatch hh.unique hh'
  | candidates hf ht hp hh hc =>
    cases hs with
    | unix hf' => exact absurd hf' hf
    | types _ ht' => exact nomatch ht.unique ht'
    | service _ _ hp' => exact nomatch hp.unique hp'
    | host _ _ _ hh' => exact nomatch hh.unique hh'
    | candidates _ ht' hp' hh' hc' =>
      obtain rfl := Except.ok.inj (ht.unique ht')
      obtain rfl := Except.ok.inj (hp.unique hp')
      obtain rfl := Except.ok.inj (hh.unique hh')
      have hunique (port : UInt16) : Relator.RightUnique fun (p : Ip × SocketType) c =>
          Suits q.hints port p.1 p.2 c := fun _ _ _ => Suits.unique
      rw [(hunique _).forall₂ hc hc']

/-- The answer that the resolver gives to a query is the one it has.

**Proof sketch.** A query for local sockets is refused first. Then types, port and addresses are
settled in turn, each as it should be (`types_socketTypes`, `leads_port`, `leads_addresses`), and
the first failure is the answer. -/
lemma leads_resolve (q : Query) :
    Leads (Stocked k table) (System.resolve q).run fun r _ =>
      Answers table (fun h => (k.perform (.getaddrinfo h)).1) q r := by
  unfold System.resolve
  dsimp only
  split
  · rename_i hf
    exact fun _ _ => .unix hf
  rename_i hf
  refine .run_bind (R := fun r w => Types q.hints.type r ∧ Stocked k table w)
    (fun w hw => ⟨types_socketTypes _, hw⟩) (fun types => .of_and fun ht => ?_)
    fun e w he => .types hf he.1
  refine .run_bind (leads_port q.service q.hints) (fun port => .of_and fun hp => ?_)
    fun e w he => .service hf ht he.1
  refine .run_bind (leads_addresses q.host q.hints hf) (fun ips => ?_)
    fun e w he => .host hf ht hp he
  exact .run_pure _ fun w hh => .candidates hf ht hp hh (suits_product _ _ _ _)

/-- **The resolver of the system** gives a query its one answer, whatever the services database
holds and whatever the name service says.

**Proof sketch.** What the resolver computes is an answer (`leads_resolve`), and there is only one
(`Answers.unique`). -/
theorem answers_iff (q : Query) (w : World) (r : Except ResolveError (List Candidate)) :
    ((System.resolve q).run w).1 = r ↔
      Answers w.services.entries (fun host => (w.kernel.perform (.getaddrinfo host)).1) q r := by
  have hanswer := leads_resolve q w ⟨rfl, rfl⟩
  constructor
  · rintro rfl
    exact hanswer
  · exact hanswer.unique

end Resolution

end Sockets
