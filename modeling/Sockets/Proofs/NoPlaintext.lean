import Sockets.Proofs.HandleShapes
import Sockets.Proofs.TeardownOrder

/-!
# No plaintext on encrypted handles

An encrypted handle moves data by calls of its own session and in no other way: whatever the
transport, the side data and the flags of a transfer, there is one call of the session, its answer
or its failure is what the caller gets, and no system call is made. A handle that has no session,
as a listener, refuses every transfer. And encryption stays: no step takes it off a handle, and
connecting to another peer is refused.

A read that makes its own buffer goes through a buffer of zeros. One that cannot be had is refused
before anything else, so there the failure is another one.

## Main definitions

* `Sockets.Handle.Relayed` — a transfer was one call of the session of a handle.
* `Sockets.Handle.Sealed` — what a handle does when it is asked for transfers in some world.

## Main results

* `Sockets.Run.sealed_steps` — every encrypted handle that is alive is sealed, and stays encrypted.
* `Sockets.Run.not_every_readVec_is_misuse` — without a session, not every read is refused as
  misuse.
-/

set_option autoImplicit false

namespace Sockets

open Net (Leads)

/-! ## Transfers through a session -/

namespace Handle

/-- A transfer was one call of the session of a handle: the caller gets what the session answered,
with the side data as it was, the session goes on as what is left of it, and the call is all that
was done. -/
structure Relayed {α : Type} (h : Handle) (fd : Descriptor) (c : TlsCall) (outcome : TlsOutcome)
    (answer : Except TlsError α × Tls.Session) (side : Option SideData) (v : World)
    (out : Transfer α × World) : Prop where
  result_eq : out.1.result = answer.1.mapError Error.tls
  side_eq : out.1.side = side
  handle_eq : out.1.handle = { h with session := some answer.2 }
  actions_eq : out.2.actions = v.actions ++ [.tls fd c outcome]
  kernel_eq : out.2.kernel = v.kernel

/-- What an encrypted handle does when it is asked for transfers in a world: with a session it
relays them, without one it refuses them and leaves the world as it is. A buffer that cannot be had
is refused before either, and connecting to another peer is refused in any case. -/
structure Sealed (h : Handle) (fd : Descriptor) (v : World) : Prop where
  descriptor_eq : h.descriptor = some fd
  read_of_session : ∀ s, h.session = some s → ∀ buffer side flags,
    h.Relayed fd (.read buffer.length) (.ofCount ((s.takeRead buffer.length).1.map Received.count))
      ((s.takeRead buffer.length).1.map (Reading.ofReceived buffer),
        (s.takeRead buffer.length).2) side v (h.read buffer side flags v)
  read_of_none : h.session = none → ∀ buffer side flags,
    h.read buffer side flags v = (h.refused side "read before TLS negotiation", v)
  readVec_of_reservable : ∀ length, v.reservable length = true → ∀ side flags,
    h.readVec length side flags v =
      ((h.read (zeroed length) side flags v).1.map Reading.octets,
        (h.read (zeroed length) side flags v).2)
  readVec_of_unreservable : ∀ length, v.reservable length = false → ∀ side flags,
    (h.readVec length side flags v).1 = ⟨.error (.allocation length), side, h⟩ ∧
      (h.readVec length side flags v).2.actions = v.actions ∧
        (h.readVec length side flags v).2.kernel = v.kernel
  write_of_session : ∀ s, h.session = some s → ∀ data side flags,
    h.Relayed fd (.write data) (.ofCount (s.takeWrite data).1) (s.takeWrite data) side v
      (h.write data side flags v)
  write_of_none : h.session = none → ∀ data side flags,
    h.write data side flags v = (h.refused side "write before TLS negotiation", v)
  reconnect_eq : ∀ scope host service, (reconnect scope host service).on h v =
    ((.error (.misuse h.protocol "reconnect with TLS"), h), v)

variable {h : Handle} {fd : Descriptor} {v : World}

/-- Reading through a session is one call of it. -/
lemma relayed_readSession (s : Tls.Session) (buffer : Bytes) (side : Option SideData) :
    h.Relayed fd (.read buffer.length) (.ofCount ((s.takeRead buffer.length).1.map Received.count))
      ((s.takeRead buffer.length).1.map (Reading.ofReceived buffer),
        (s.takeRead buffer.length).2) side v (h.readSession fd s buffer side v) := by
  have hnote (outcome : TlsOutcome) : (v.noting (.tls fd (.read buffer.length) outcome)).actions =
      v.actions ++ [.tls fd (.read buffer.length) outcome] := World.acts_note rfl v rfl
  unfold readSession
  rcases s.takeRead buffer.length with ⟨answer, rest⟩
  cases answer with
  | ok got => exact ⟨rfl, rfl, rfl, (World.acts_record _ _ _ rfl).trans (hnote _), rfl⟩
  | error e => exact ⟨rfl, rfl, rfl, (World.acts_record _ _ _ rfl).trans (hnote _), rfl⟩

/-- Writing through a session is one call of it. -/
lemma relayed_writeSession (s : Tls.Session) (data : Bytes) (side : Option SideData) :
    h.Relayed fd (.write data) (.ofCount (s.takeWrite data).1) (s.takeWrite data) side v
      (h.writeSession fd s data side v) := by
  have hnote (outcome : TlsOutcome) : (v.noting (.tls fd (.write data) outcome)).actions =
      v.actions ++ [.tls fd (.write data) outcome] := World.acts_note rfl v rfl
  unfold writeSession
  rcases s.takeWrite data with ⟨answer, rest⟩
  cases answer with
  | ok n => exact ⟨rfl, rfl, rfl, (World.acts_record _ _ _ rfl).trans (hnote _), rfl⟩
  | error e => exact ⟨rfl, rfl, rfl, (World.acts_record _ _ _ rfl).trans (hnote _), rfl⟩

/-- A buffer that cannot be had is refused, and a record is all that there is of it. -/
lemma acts_readVec_of_unreservable {length : Nat} (hl : v.reservable length = false)
    (side : Option SideData) (flags : MessageFlags) :
    (h.readVec length side flags v).1 = ⟨.error (.allocation length), side, h⟩ ∧
      (h.readVec length side flags v).2.actions = v.actions ∧
        (h.readVec length side flags v).2.kernel = v.kernel := by
  rw [readVec_of_unreservable h hl]
  exact ⟨rfl, World.acts_record .fatal _ _ rfl, rfl⟩

/-- An encrypted handle is not connected to another peer. -/
lemma reconnect_of_enabled (he : h.flags.tls.enabled = true) (scope : Scope)
    (host service : String) : (reconnect scope host service).on h v =
      ((.error (.misuse h.protocol "reconnect with TLS"), h), v) := by
  have hrefused : Leads (fun u => u = v) ((reconnect scope host service).on h) fun out u =>
      (out, u) = ((.error (.misuse h.protocol "reconnect with TLS"), h), v) := by
    refine Act.leads_get_bind ?_
    rw [if_pos he]
    exact Act.leads_throw_bind _ _ fun u hu => by rw [hu]
  exact hrefused v rfl

/-- An encrypted handle that owns a descriptor is sealed.

**Proof sketch.** Reading and writing on an encrypted handle go to its session, or are refused if
there is none, and connecting it again is refused. -/
theorem sealed_of_enabled (hfd : h.descriptor = some fd) (he : h.flags.tls.enabled = true)
    (v : World) : h.Sealed fd v := by
  refine ⟨hfd, ?_, ?_, fun length hl => readVec_of_reservable h hl,
    fun length hl => acts_readVec_of_unreservable hl, ?_, ?_, reconnect_of_enabled he⟩
  · intro s hs buffer side flags
    rw [read, if_pos he, hfd, hs]
    exact relayed_readSession s buffer side
  · intro hs buffer side flags
    rw [read, if_pos he, hs]
    cases h.descriptor <;> rfl
  · intro s hs data side flags
    rw [write, if_pos he, hfd, hs]
    exact relayed_writeSession s data side
  · intro hs data side flags
    rw [write, if_pos he, hs]
    cases h.descriptor <;> rfl

end Handle

/-! ## Handles that are alive -/

namespace Run

/-- **No plaintext.** After every step of every run, whatever failed in it, an encrypted handle that
is alive is sealed, whatever the world in which it is asked for transfers; and it stays encrypted as
it is as long as no step ends its life.

**Proof sketch.** Every handle that is alive owns a descriptor, since the run is sane, and with one
an encrypted handle is sealed in any world (`Handle.sealed_of_enabled`). Later steps keep its
settings for encryption (`Sane.goes_on`). -/
theorem sealed_steps (w : World) (ss : List Step) (p : String × Handle)
    (hp : p ∈ ((start w).steps ss).table) (he : p.2.flags.tls.enabled = true) :
    (∃ fd, ∀ v, p.2.Sealed fd v) ∧ ∀ more, Spares p.1 ((start w).steps ss) more →
      ∃ h, (p.1, h) ∈ (((start w).steps ss).steps more).table ∧ h.flags.tls = p.2.flags.tls := by
  have hsane : ((start w).steps ss).Sane True := (sane_start w).steps ss fun _ _ _ => trivial
  constructor
  · obtain ⟨H, -, hA⟩ := hsane
    obtain ⟨fd, hfd, -, -⟩ := hA.held p hp
    exact ⟨fd, Handle.sealed_of_enabled hfd he⟩
  · intro more hmore
    obtain ⟨h, hh, hsame⟩ := hsane.goes_on hp hmore
    exact ⟨h, hh, hsame.tls_eq⟩

/-- An encrypted handle that joined the group of its peer is sealed, and stays encrypted while it is
set on another destination and read from. -/
theorem sealed_in_group :
    ∃ r : Run, ∃ _ : 0 < r.table.length,
      ((r.table[0]).2.session.isSome = true ∧ (r.table[0]).2.flags.joined = true) ∧
        (∃ fd, ∀ v, (r.table[0]).2.Sealed fd v) ∧
          ∃ h, ((r.table[0]).1, h) ∈ (r.steps [.setDestination "c" (.inet ⟨10, 0, 0, 1⟩ 7000),
            .read "c" [0, 0] none .empty]).table ∧ h.flags.tls = (r.table[0]).2.flags.tls :=
  have hrun := sealed_steps
    { own := { provider := .scripted [.ok { reads := [fun _ => .ok (.ofData [1, 2])] }] } }
    [.connect "c" .own "239.1.2.3" "5000" .udp { tls := .strict }]
  ⟨_, by decide +kernel, by decide +kernel, (hrun _ (List.getElem_mem _) (by decide +kernel)).1,
    (hrun _ (List.getElem_mem _) (by decide +kernel)).2 _
      ⟨by simp [Step.ends, Step.names], by simp [Step.ends, Step.names], trivial⟩⟩

/-- A handle that has no session does not refuse every read as misuse: one into a buffer that cannot
be had fails because of the buffer. -/
theorem not_every_readVec_is_misuse :
    ¬ ∀ (w : World) (ss : List Step), ∀ p ∈ ((start w).steps ss).table,
      p.2.flags.tls.enabled = true → p.2.session = none →
        ∀ length side flags v, ∃ operation, (p.2.readVec length side flags v).1.result =
          .error (.misuse p.2.protocol operation) := by
  intro hall
  obtain ⟨operation, hmisuse⟩ := hall {}
    [.bind "u" .own (some "127.0.0.1") "8443" .tcp { tls := .lax }] _
    (List.getElem_mem (n := 0) (by decide +kernel)) (by decide +kernel)
    (Option.not_isSome_iff_eq_none.1 (by decide +kernel)) 16 none .empty
    { reservable := fun _ => false }
  rw [(Handle.acts_readVec_of_unreservable rfl none _).1] at hmisuse
  exact nomatch hmisuse

end Run

end Sockets
