import Sockets.Proofs.Resolution

/-!
# The ports of named services

The services database lists a name under each transport by itself, so that the port of a service
may be another one over datagrams than over streams. A candidate that the resolver answers has the
port under its own transport, a service of SCTP failing that the one under TCP; and where the
database lists the name for the transport of a candidate, the query has an answer.

The database is looked into once for each query, under the word for what is hinted at. That is not
the transport of every candidate: without any hints there are candidates for datagrams beside those
for streams, and a socket type for datagrams may be hinted at with another transport.

## Main definitions

* `Sockets.Resolution.Word` — the word for a transport.
* `Sockets.Resolution.Overlooked` — a candidate whose transport is not the one looked up.
* `Sockets.Resolution.OwnPorts` — the other candidates have the ports of their transports.

## Main results

* `Sockets.Resolution.own_ports` — the resolver of the system gives candidates their own ports.
-/

set_option autoImplicit false

namespace Sockets

namespace Resolution

/-- The word under which the services database lists a transport. -/
inductive Word : Int → String → Prop
  | tcp : Word tcpNumber "tcp"
  | udp : Word udpNumber "udp"
  | sctp : Word sctpNumber "sctp"

/-- **A candidate is overlooked** if nothing is hinted at and it is one for datagrams, or if
datagrams are hinted at together with a transport that has none. -/
inductive Overlooked (hints : Hints) (c : Candidate) : Prop
  | unhinted (ht : hints.type = none) (hp : hints.protocol = none) (hc : c.type = .dgram)
  | crossed {t : Int} (ht : hints.type = some .dgram) (hp : hints.protocol = some t)
    (hudp : t ≠ udpNumber)

/-- The socket types to try for a hint are that one. -/
lemma Types.eq_of_mem {hint : Option SocketType} {types : List SocketType} {t u : SocketType}
    (h : Types hint (.ok types)) (ht : t ∈ types) (hu : hint = some u) : t = u := by
  cases h with
  | unhinted => exact nomatch hu
  | hinted =>
    obtain rfl := Option.some.inj hu
    exact List.mem_singleton.1 ht

/-- The transport of a candidate that is not overlooked is the one that is hinted at.

**Proof sketch.** By whether a protocol is hinted at. If it is, it is the protocol of the candidate,
and its word is that of the hint unless that crosses the type. If it is not, the protocol comes with
the type: a stream goes with the hint for streams, and datagrams do unless no type was hinted at,
which is overlooking. -/
lemma Suits.transport {hints : Hints} {port : UInt16} {ip : Ip} {type : SocketType}
    {types : List SocketType} {c : Candidate} {t : Int} {word : String}
    (h : Suits hints port ip type c) (htypes : Types hints.type (.ok types)) (hmem : type ∈ types)
    (hseen : ¬ Overlooked hints c) (ht : c.protocol = some t) (hword : Word t word) :
    Transport hints word := by
  cases hp : hints.protocol with
  | some p =>
    obtain rfl : p = t := Option.some.inj ((h.protocol_of_hint p hp).symm.trans ht)
    have hstream (hudp : p ≠ udpNumber) : hints.type ≠ some .dgram := fun hdgram =>
      hseen (.crossed hdgram hp hudp)
    cases hword with
    | udp => exact .udp (.inl hp)
    | tcp => exact .tcp (hstream (by decide)) (.inr hp)
    | sctp => exact .sctp (hstream (by decide)) hp (by decide) (by decide)
  | none =>
    by_cases hs : type = .stream
    · obtain rfl : tcpNumber = t := Option.some.inj ((h.protocol_stream hp hs).symm.trans ht)
      cases hword
      refine .tcp (fun hdgram => ?_) (.inl hp)
      have hd := htypes.eq_of_mem hmem hdgram
      exact absurd (hs.symm.trans hd) (by decide)
    by_cases hd : type = .dgram
    · obtain rfl : udpNumber = t := Option.some.inj ((h.protocol_dgram hp hd).symm.trans ht)
      cases hword
      refine .udp (.inr ?_)
      cases hhint : hints.type with
      | none => exact absurd (.unhinted hhint hp (h.type_eq.trans hd)) hseen
      | some u => rw [← htypes.eq_of_mem hmem hhint, hd]
    · exact nomatch (h.protocol_other hp hs hd).symm.trans ht

/-- What is related to an element of a list is in the list that goes with it. -/
lemma exists_of_forall₂ {α β : Type} {R : α → β → Prop} {as : List α} {bs : List β}
    (h : List.Forall₂ R as bs) {b : β} (hb : b ∈ bs) : ∃ a ∈ as, R a b := by
  obtain ⟨i, hi, rfl⟩ := List.mem_iff_getElem.1 hb
  have hi' : i < as.length := h.length_eq ▸ hi
  exact ⟨as[i], List.getElem_mem hi', h.get hi' hi⟩

variable {table : List ServiceEntry}
  {said : String → Except Int (Except Int (List (Option Ip)))} {q : Query} {cs : List Candidate}
  {name word : String}

/-- The transport of a candidate of a query, if it is not overlooked, is the one that is hinted
at. -/
lemma Answers.transport (h : Answers table said q (.ok cs)) {c : Candidate} (hc : c ∈ cs)
    (hseen : ¬ Overlooked q.hints c) {t : Int} (ht : c.protocol = some t) (hword : Word t word) :
    Transport q.hints word := by
  cases h with
  | candidates _ htypes _ _ hsuits =>
    obtain ⟨p, hp, hsuit⟩ := exists_of_forall₂ hsuits hc
    exact hsuit.transport htypes (List.mem_product.1 hp).2 hseen ht hword

/-- The candidates of a query for a name have the port under the transport that is hinted at. -/
lemma Answers.port_eq (h : Answers table said q (.ok cs)) (hq : q.service = some name)
    (hname : name ≠ "") (hno : ∀ n, ¬ Numeral name.toList n) (hword : Transport q.hints word)
    {c : Candidate} (hc : c ∈ cs) :
    ∃ n, Listed table name word (.ok n) ∧ c.address.port? = some n := by
  cases h with
  | @candidates types port ips _ _ _ hports _ hsuits =>
    obtain ⟨p, -, hsuit⟩ := exists_of_forall₂ hsuits hc
    refine ⟨port, ?_, by rw [hsuit.address_eq, Address.port?_ofIp]⟩
    rw [hq] at hports
    cases hports with
    | empty => exact absurd rfl hname
    | number hn => exact absurd hn (hno _)
    | name _ _ hword' hlisted => rwa [transport_iff.1 hword, ← transport_iff.1 hword']

/-- **The ports of the candidates of a query** for a name, by a table of services. A candidate that
is not overlooked has the port that the table lists for its transport; every candidate has the one
for datagrams, if those are hinted at; and if the table lists a port for the transport of a
candidate that there would be without a service, the query has an answer. -/
structure OwnPorts (q : Query) (name : String) (w : World) : Prop where
  listed : ∀ cs, ((System.resolve q).run w).1 = .ok cs → ∀ c ∈ cs, ¬ Overlooked q.hints c →
    ∀ t word, c.protocol = some t → Word t word →
      ∃ n, Listed w.services.entries name word (.ok n) ∧ c.address.port? = some n
  datagrams : q.hints.type = some .dgram → ∀ cs, ((System.resolve q).run w).1 = .ok cs →
    ∀ c ∈ cs, ∃ n, Listed w.services.entries name "udp" (.ok n) ∧ c.address.port? = some n
  answered : ∀ cs, ((System.resolve { q with service := none }).run w).1 = .ok cs →
    ∀ c ∈ cs, ¬ Overlooked q.hints c → ∀ t word n, c.protocol = some t → Word t word →
      Listed w.services.entries name word (.ok n) → ∃ cs', ((System.resolve q).run w).1 = .ok cs'

/-- **The resolver of the system gives candidates their own ports**, for every name of a service
and whatever the services database lists.

**Proof sketch.** What the resolver gives is an answer (`answers_iff`), and the port in it is that
of the transport of the hints. For a candidate that is not overlooked that is its own transport
(`transport`); and where the table lists a port for it, an answer exists with that port, so it is
the one that is given. -/
theorem own_ports (hq : q.service = some name) (hname : name ≠ "")
    (hno : ∀ n, ¬ Numeral name.toList n) (w : World) : OwnPorts q name w where
  listed cs hcs c hc hseen t word ht hword := by
    have hanswer := (answers_iff q w _).1 hcs
    exact hanswer.port_eq hq hname hno (hanswer.transport hc hseen ht hword) hc
  datagrams hdgram cs hcs c hc :=
    ((answers_iff q w _).1 hcs).port_eq hq hname hno (.udp (.inr hdgram)) hc
  answered cs hcs c hc hseen t word n ht hword hlisted := by
    have hanswer := (answers_iff _ w _).1 hcs
    have hports : Ports w.services.entries q.hints q.service (.ok n) :=
      hq ▸ .name hname hno (hanswer.transport hc hseen ht hword) hlisted
    cases hanswer with
    | candidates hf htypes _ hhosts _ =>
      exact ⟨_, (answers_iff q w _).2
        (.candidates hf htypes hports hhosts (suits_product _ _ _ _))⟩

/-- What is not read as a port writes none. -/
lemma not_numeral_of_word? {cs : List Char} (h : Text.Decimal.word? cs = none) (n : UInt16) :
    ¬ Numeral cs n := by
  rw [← word?_eq_some_iff, h]
  exact nofun

/-- A service that is listed twice has its own port over datagrams. -/
theorem own_ports_datagrams : ∃ (q : Query) (w : World), q.service = some "chat" ∧ "chat" ≠ "" ∧
    (∀ n, ¬ Numeral "chat".toList n) ∧
    w.services.entries = [⟨["chat"], 1000, "tcp"⟩, ⟨["chat"], 2000, "udp"⟩] ∧
    ((System.resolve q).run w).1 =
      .ok [⟨.inet, .dgram, some udpNumber, .inet .loopback 2000⟩] ∧ OwnPorts q "chat" w :=
  ⟨⟨some "127.0.0.1", some "chat", { type := some .dgram }⟩,
    { services := .read [⟨["chat"], 1000, "tcp"⟩, ⟨["chat"], 2000, "udp"⟩] }, rfl, by decide,
    not_numeral_of_word? (by decide), rfl, by decide +kernel,
    own_ports rfl (by decide) (not_numeral_of_word? (by decide)) _⟩

/-- Without any hints the candidate for datagrams has the port of the service over streams. -/
theorem not_every_port_is_own : ¬ ∀ (q : Query) (name : String) (w : World) (cs : List Candidate),
    q.service = some name → name ≠ "" → (∀ n, ¬ Numeral name.toList n) →
      ((System.resolve q).run w).1 = .ok cs → ∀ c ∈ cs, ∀ t word, c.protocol = some t →
        Word t word → ∃ n, Listed w.services.entries name word (.ok n) ∧
          c.address.port? = some n := by
  intro hall
  obtain ⟨n, hlisted, hport⟩ := hall ⟨some "127.0.0.1", some "chat", {}⟩ "chat"
    { services := .read [⟨["chat"], 1000, "tcp"⟩, ⟨["chat"], 2000, "udp"⟩] }
    [⟨.inet, .stream, some tcpNumber, .inet .loopback 1000⟩,
      ⟨.inet, .dgram, some udpNumber, .inet .loopback 1000⟩] rfl (by decide)
    (not_numeral_of_word? (by decide)) (by decide +kernel)
    ⟨.inet, .dgram, some udpNumber, .inet .loopback 1000⟩ (by decide) _ _ rfl .udp
  obtain rfl : 1000 = n := Option.some.inj hport
  cases hlisted with
  | first h => exact absurd h (by decide)
  | second hw => exact absurd hw (by decide)

end Resolution

end Sockets
