import Sockets.Proofs.HostText
import Sockets.Proofs.Resolution
import Sockets.Proofs.TextOctets

/-!
# Which texts are addresses

A text is an address if it is a literal, with one pair of brackets around it or none, or else a path
that the address of a local socket has room for. The resolver of the system takes the same texts for
literals: it answers them by themselves, with the same address, and asks the name service for every
other host that can be a name.

## Main definitions

* `Sockets.Address.Path` — a text is a path.
* `Sockets.Address.Reads` — what a text and a port give.
* `Sockets.Resolution.Plain` — hints that any internet address suits.
* `Sockets.Address.Grammar` — what is read as an address, and what the resolver does with it.

## Main results

* `Sockets.Address.grammar` — every text is read by the grammar.
-/

set_option autoImplicit false

namespace Sockets

open Net (Leads)
open Resolution (Literal Numeral)
open Text

/-! ## Paths -/

namespace Address

/-- A text is a path if it starts from the root or from the current directory. -/
inductive Path : List Char → Prop
  | root (cs : List Char) : Path ('/' :: cs)
  | here (cs : List Char) : Path ('.' :: '/' :: cs)

variable {host : String} {port : UInt16}

/-- What is taken for a path is one. -/
lemma isPath_iff : isPath host = true ↔ Path host.toList := by
  unfold isPath
  constructor
  · intro h
    split at h
    · rename_i cs hcs
      exact hcs ▸ .root cs
    · rename_i cs hcs
      exact hcs ▸ .here cs
    · exact nomatch h
  · intro h
    generalize host.toList = cs at h
    cases h with
    | root => rfl
    | here => rfl

/-- The first octet of a path is not zero. -/
lemma Path.exists_encode_eq_cons (h : Path host.toList) :
    ∃ b bs, Utf8.encode host = b :: bs ∧ b ≠ 0 := by
  unfold Utf8.encode
  generalize host.toList = cs at h
  cases h with
  | root cs => exact ⟨_, _, rfl, by decide⟩
  | here cs => exact ⟨_, _, rfl, by decide⟩

/-- The address of the local socket at a path: its octets, and a zero octet behind them. -/
def ofPath (host : String) : Address := unix (Utf8.encode host ++ [0])

/-- A path has an address if there is room for the zero octet behind it. -/
lemma unixPath?_encode (h : Path host.toList) :
    unixPath? (Utf8.encode host) =
      if host.utf8ByteSize ≤ 107 then some (ofPath host) else none := by
  obtain ⟨b, bs, hencode, hb⟩ := h.exists_encode_eq_cons
  rw [← Utf8.length_encode, ofPath, hencode]
  simp only [unixPath?, if_neg hb, nameLimit, Nat.lt_succ_iff]

/-- The host text of the address of a path is the path. -/
lemma host?_ofPath (h : Path host.toList) : (ofPath host).host? = some host := by
  obtain ⟨b, bs, hencode, hb⟩ := h.exists_encode_eq_cons
  have htext : nameText (Utf8.encode host ++ [0]) = Utf8.lossy (Utf8.encode host) := by
    rw [hencode, List.cons_append, nameText, if_neg hb, ← List.cons_append, List.dropLast_concat]
  rw [ofPath, host?, htext, Utf8.lossy_encode]

/-! ## Reading -/

/-- What a text and a port give: the address of a literal at the port, or that of a path, or the
error of a path that is too long, or of a text that is neither. -/
inductive Reads (host : String) (port : UInt16) : Except Error Address → Prop
  | literal {ip : Ip} (h : Literal host ip) : Reads host port (.ok (.ofIp ip port))
  | path (hno : ∀ ip, ¬ Literal host ip) (hpath : Path host.toList)
    (hfits : host.utf8ByteSize ≤ 107) : Reads host port (.ok (ofPath host))
  | tooLong (hno : ∀ ip, ¬ Literal host ip) (hpath : Path host.toList)
    (hlong : 107 < host.utf8ByteSize) :
    Reads host port (.error (.system "unix address" .pathTooLong))
  | unknown (hno : ∀ ip, ¬ Literal host ip) (hpath : ¬ Path host.toList) :
    Reads host port (.error .family)

/-- What is read is what a text and a port give.

**Proof sketch.** A literal is looked for first (`literal?_eq_some_iff`). If the text is none, it is
a path or not, and a path fits an address or is too long for one. -/
lemma reads_ofText (host : String) (port : UInt16) : Reads host port (ofText host port) := by
  cases hip : Ip.literal? host with
  | some ip =>
    rw [Ip.ofText_of_literal hip]
    exact .literal (Resolution.literal?_eq_some_iff.1 hip)
  | none =>
    have hno (ip : Ip) : ¬ Literal host ip := by
      rw [← Resolution.literal?_eq_some_iff, hip]
      exact nofun
    unfold ofText parse
    rw [hip]
    dsimp only
    by_cases hpath : Path host.toList
    · rw [if_pos (isPath_iff.2 hpath), unixPath?_encode hpath]
      by_cases hfits : host.utf8ByteSize ≤ 107
      · rw [if_pos hfits]
        exact .path hno hpath hfits
      · rw [if_neg hfits]
        exact .tooLong hno hpath (Nat.lt_of_not_le hfits)
    · rw [if_neg (mt isPath_iff.1 hpath)]
      exact .unknown hno hpath

/-- What a text and a port give is settled by them.

**Proof sketch.** By cases on both derivations. A text is a literal of one address at most, and the
cases behind that one are told apart by what they say of paths and their length. -/
lemma Reads.unique {r s : Except Error Address} (hr : Reads host port r) (hs : Reads host port s) :
    r = s := by
  have hliteral {ip jp : Ip} (hi : Literal host ip) (hj : Literal host jp) : ip = jp :=
    Option.some.inj ((Resolution.literal?_eq_some_iff.2 hi).symm.trans
      (Resolution.literal?_eq_some_iff.2 hj))
  cases hr with
  | literal h =>
    cases hs with
    | literal h' => rw [hliteral h h']
    | path hno | tooLong hno | unknown hno => exact absurd h (hno _)
  | path hno hpath hfits =>
    cases hs with
    | literal h => exact absurd h (hno _)
    | path => rfl
    | tooLong _ _ hlong => exact absurd hfits (Nat.not_le.2 hlong)
    | unknown _ hpath' => exact absurd hpath hpath'
  | tooLong hno hpath hlong =>
    cases hs with
    | literal h => exact absurd h (hno _)
    | path _ _ hfits => exact absurd hfits (Nat.not_le.2 hlong)
    | tooLong => rfl
    | unknown _ hpath' => exact absurd hpath hpath'
  | unknown hno hpath =>
    cases hs with
    | literal h => exact absurd h (hno _)
    | path _ hpath' | tooLong _ hpath' => exact absurd hpath' hpath
    | unknown => rfl

end Address

/-! ## Resolving -/

namespace Resolution

/-- Hints that any internet address suits: no family, and a socket type that is supported, or
none. -/
structure Plain (hints : Hints) : Prop where
  family_eq : hints.family = none
  type_mem : hints.type ∈ [none, some .stream, some .dgram, some .seqpacket]

/-- Under such hints there are socket types to try. -/
lemma Plain.exists_types {hints : Hints} (h : Plain hints) :
    ∃ t ts, System.socketTypes hints.type = .ok (t :: ts) := by
  have hmem := h.type_mem
  simp only [List.mem_cons, List.not_mem_nil, or_false] at hmem
  rcases hmem with h | h | h | h
  · exact ⟨_, _, by rw [h]; rfl⟩
  · exact ⟨_, _, by rw [h]; rfl⟩
  · exact ⟨_, _, by rw [h]; rfl⟩
  · exact ⟨_, _, by rw [h]; rfl⟩

variable {host service : String} {port : UInt16} {hints : Hints}

/-- The port of a service that is written in decimal is that number. -/
lemma port_of_numeral (h : Numeral service.toList port) (hints : Hints) :
    System.port (some service) hints = pure port := by
  have hne : service ≠ "" := by
    rintro rfl
    exact not_numeral_nil port h
  rw [System.port, if_neg hne, word?_eq_some_iff.2 h]

/-- A query for a port that is written in decimal goes on with the addresses of its host. -/
lemma resolve_eq (hhints : Plain hints) (h : Numeral service.toList port) (host : String) :
    ∃ t ts, System.resolve ⟨some host, some service, hints⟩ =
      System.addresses (some host) hints >>= fun ips =>
        pure (System.product hints.protocol port ips (t :: ts)) := by
  obtain ⟨t, ts, hts⟩ := hhints.exists_types
  refine ⟨t, ts, ?_⟩
  unfold System.resolve
  dsimp only
  rw [hhints.family_eq, if_neg nofun, hts, port_of_numeral h]
  rfl

/-- The addresses of a host that is no literal are those of its name. -/
lemma addresses_of_name (hne : host ≠ "") (hno : ∀ ip, ¬ Literal host ip) :
    System.addresses (some host) hints = System.namedAddresses host hints.family := by
  have hip : Ip.literal? host = none :=
    Option.eq_none_iff_forall_ne_some.2 fun ip hip => hno ip (literal?_eq_some_iff.1 hip)
  have hnamed : (if host = "" then none else some host) = some host := if_neg hne
  simp only [System.addresses, hnamed, hip]

/-- The address of a host that is a literal is that one. -/
lemma addresses_of_literal {ip : Ip} (hip : Literal host ip)
    (hfits : System.fits hints.family ip = true) :
    System.addresses (some host) hints = pure [ip] := by
  have hliteral := literal?_eq_some_iff.2 hip
  have hnamed : (if host = "" then none else some host) = some host := by
    refine if_neg ?_
    rintro rfl
    exact nomatch hliteral
  simp only [System.addresses, hnamed, hliteral, hfits, if_true]

/-- A literal is answered with its address at the port, and nothing is done for that.

**Proof sketch.** The query has a plain port and hints for no family, so every candidate is made of
the one address (`resolve_eq`). There is at least one type to try. -/
lemma resolve_literal (hhints : Plain hints) (h : Numeral service.toList port) {ip : Ip}
    (hip : Literal host ip) (w : World) :
    ∃ c cs, (System.resolve ⟨some host, some service, hints⟩).run w = (.ok (c :: cs), w) ∧
      ∀ d ∈ c :: cs, d.address = .ofIp ip port := by
  obtain ⟨t, ts, hresolve⟩ := resolve_eq hhints h host
  have hfits : System.fits hints.family ip = true := fits_iff.2 (.inl hhints.family_eq)
  refine ⟨System.candidate hints.protocol port ip t,
    ts.map (System.candidate hints.protocol port ip), ?_, fun d hd => ?_⟩
  · rw [hresolve, addresses_of_literal hip hfits]
    show (Except.ok (System.product hints.protocol port [ip] (t :: ts)), w) = _
    rw [System.product, List.flatMap_singleton, List.map_cons]
  · obtain ⟨u, -, rfl⟩ := List.mem_map.1 (List.map_cons ▸ hd :
      d ∈ (t :: ts).map (System.candidate hints.protocol port ip))
    rfl

/-- For a name the name service is asked, and nothing else is done.

**Proof sketch.** The name can be said, as there is no null in it. The one call to the name service
is made, and whatever it answers nothing else follows. -/
lemma asks_namedAddresses (hnul : '\x00' ∉ host.toList) (family : Option Family) (w : World) :
    Leads (fun v => v = w) (System.namedAddresses host family).run fun _ v => v.journal =
      w.journal ++ [.call (.getaddrinfo host) (w.kernel.perform (.getaddrinfo host)).1] := by
  have hunsaid : ¬ host.toList.contains '\x00' = true := by simpa using hnul
  unfold System.namedAddresses
  rw [if_neg hunsaid]
  refine .run_lift_bind (R := fun _ v => v.journal = w.journal ++
    [.call (.getaddrinfo host) (w.kernel.perform (.getaddrinfo host)).1]) ?_ fun r => ?_
  · rintro v rfl
    exact Net.syscall_journal _ _
  cases r with
  | error n => exact .run_throw _ fun _ hv => hv
  | ok answer =>
    cases (answer : Except Int (List (Option Ip))) with
    | error code => exact .run_throw _ fun _ hv => hv
    | ok found =>
      dsimp only
      split
      · exact .run_throw _ fun _ hv => hv
      · exact .run_pure _ fun _ hv => hv

/-- For a host that is no literal the name service is asked, and nothing else is done. -/
lemma resolve_asks (hhints : Plain hints) (h : Numeral service.toList port) (hne : host ≠ "")
    (hno : ∀ ip, ¬ Literal host ip) (hnul : '\x00' ∉ host.toList) (w : World) :
    ((System.resolve ⟨some host, some service, hints⟩).run w).2.journal =
      w.journal ++ [.call (.getaddrinfo host) (w.kernel.perform (.getaddrinfo host)).1] := by
  obtain ⟨t, ts, hresolve⟩ := resolve_eq hhints h host
  rw [hresolve, addresses_of_name hne hno]
  exact Leads.run_bind (Q := fun _ v => v.journal = _) (asks_namedAddresses hnul hints.family w)
    (fun _ => .run_pure _ fun _ hv => hv) (fun _ _ hv => hv) w rfl

end Resolution

/-! ## The grammar -/

namespace Address

/-- **What is read as an address** of a text and a port, and what the resolver of the system does
with the text. -/
structure Grammar (host : String) (port : UInt16) : Prop where
  reads_iff : ∀ r, ofText host port = r ↔ Reads host port r
  /-- The address of a path shows the path, has no port and names no group. -/
  shows_path : Path host.toList → (ofPath host).host? = some host ∧ (ofPath host).port? = none ∧
    (ofPath host).isMulticast? = none
  /-- A literal is resolved to the address that it is read as, and nothing is done for that. -/
  resolves_literal : ∀ ip, Literal host ip → ∀ service hints w, Numeral service.toList port →
    Resolution.Plain hints → ∃ c cs,
      (System.resolve ⟨some host, some service, hints⟩).run w = (.ok (c :: cs), w) ∧
        ∀ d ∈ c :: cs, d.address = .ofIp ip port
  /-- For every other host that can be a name the name service is asked. -/
  asks_name : (∀ ip, ¬ Literal host ip) → host ≠ "" → '\x00' ∉ host.toList →
    ∀ service hints w, Numeral service.toList port → Resolution.Plain hints →
      ((System.resolve ⟨some host, some service, hints⟩).run w).2.journal =
        w.journal ++ [.call (.getaddrinfo host) (w.kernel.perform (.getaddrinfo host)).1]

/-- **Every text is read by the grammar**, and the resolver takes the same texts for literals.

**Proof sketch.** What is read is what the grammar gives (`reads_ofText`), and there is no other
(`Reads.unique`). The resolver looks for a literal in the same way and takes what it finds, or asks
the name service (`resolve_literal`, `resolve_asks`). -/
theorem grammar (host : String) (port : UInt16) : Grammar host port where
  reads_iff r := by
    constructor
    · rintro rfl
      exact reads_ofText host port
    · exact (reads_ofText host port).unique
  shows_path hpath := ⟨host?_ofPath hpath, rfl, rfl⟩
  resolves_literal _ hip _ _ w hservice hhints :=
    Resolution.resolve_literal hhints hservice hip w
  asks_name hno hne hnul _ _ w hservice hhints :=
    Resolution.resolve_asks hhints hservice hne hno hnul w

/-- Brackets around a path do not belong to it, and those around a literal may stand around one of
four octets. -/
example : ofText "[/run/a]" 80 = .error .family ∧ ofText "/run/a" 80 = .ok (ofPath "/run/a") ∧
    ofText "[10.0.0.1]" 80 = .ok (.inet ⟨10, 0, 0, 1⟩ 80) := by decide +kernel

end Address

end Sockets
