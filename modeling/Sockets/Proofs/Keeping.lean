import Sockets.Proofs.Aloof
import Sockets.Proofs.NewHandles

/-!
# What a provider keeps

The library's own provider builds what its calls need when they first need it, and keeps it: how lax
and strict clients verify, and what servers show. This module is about any calls on one provider,
one after another, in worlds that may differ in everything but that provider, and with any
encryption library. A call opens files only where what it needs was not built before; what could not
be built is not kept, so the next call that needs it tries again; and what is built for calls of one
mode is of no use to those of another. In particular a client verifies the server just if it is
strict itself, whatever the calls before it.

## Main definitions

* `Sockets.Tls.Caller`, `Sockets.Tls.Mode` — a call on a provider, and what is built for it.
* `Sockets.Tls.Keeper.Built`, `Sockets.Tls.Keeper.Readies` — a provider builds what calls of a mode
  need, or has it.
* `Sockets.Tls.Verifier.Checks` — the certificates of servers are verified.
* `Sockets.Net.Meets` — a client meets its server.
* `Sockets.Tls.Visit`, `Sockets.Tls.Visits` — a call in a world, and calls on one provider.
* `Sockets.Tls.Visit.ReadsUnlessBuilt` — what a call reads and keeps after other calls.

## Main results

* `Sockets.Tls.Keeper.readies_ready` — how a provider gets ready for a call.
* `Sockets.Tls.Visits.keeper` — a provider has what was built in the calls before.
* `Sockets.Tls.Visits.reads_unless_built` — a call reads files unless what it needs was built.
-/

set_option autoImplicit false

namespace Sockets

open Net (Leads)

namespace Tls

/-! ## Calls on a provider -/

/-- What is built for a call on a provider. -/
inductive Mode where
  | lax
  | strict
  | server
  deriving DecidableEq

/-- A call on a provider, as a client or as a server. -/
inductive Caller where
  | client (fd : Descriptor) (host : String) (strict : Bool)
  | server (fd : Descriptor)

/-- What is built for a client. -/
def Mode.ofClient (strict : Bool) : Mode := if strict then .strict else .lax

namespace Caller

/-- What is built for a call. -/
def mode : Caller → Mode
  | client _ _ strict => .ofClient strict
  | server _ => .server

/-- A call on the provider of a context. -/
def negotiate (scope : Scope) : Caller → Attempt TlsError Session
  | client fd host strict => Net.negotiateClient scope fd host strict
  | server fd => Net.negotiateServer scope fd

/-- What a provider gets ready for a call: what the call says then, and the provider after it. -/
def ready (k : Keeper) : Caller → Attempt TlsError (Attempt TlsError Session × Keeper)
  | client fd host strict => do
    let (verifier, k) ← k.verifierFor strict
    pure (Net.establishClient fd host strict verifier, k)
  | server fd => do
    let (credential, k) ← k.credentialFor
    pure (Net.establishServer fd credential, k)

end Caller

variable {k : Keeper} {caller : Caller} {scope : Scope} {w u : World}

/-- A call looks the context up, and goes on from there. -/
lemma run_context_bind (f : Context → Attempt TlsError Session) (scope : Scope) (w : World) :
    ((liftM (Net.context scope) : Attempt TlsError Context) >>= f).run w =
      (f (w.context scope)).run (Net.context scope w).2 := rfl

/-- A call gets ready, puts the provider in place, and says what it has to say. -/
lemma negotiate_eq (hk : (w.context scope).provider = .own k) (caller : Caller) :
    (caller.negotiate scope).run w = (do
      let p ← caller.ready k
      Net.keepProvider scope (.own p.2)
      p.1 : Attempt TlsError Session).run (Net.context scope w).2 := by
  cases caller with
  | client fd host strict =>
    refine (run_context_bind _ scope w).trans ?_
    simp only [hk, Caller.ready, bind_assoc, pure_bind]
  | server fd =>
    refine (run_context_bind _ scope w).trans ?_
    simp only [hk, Caller.ready, bind_assoc, pure_bind]

/-- A call for which the provider cannot get ready fails with that. -/
lemma negotiate_of_error (hk : (w.context scope).provider = .own k) {e : TlsError}
    (hready : (caller.ready k).run (Net.context scope w).2 = (.error e, u)) :
    (caller.negotiate scope).run w = (.error e, u) := by
  rw [negotiate_eq hk]
  show (ExceptT.bindCont _ ((caller.ready k).run _).1 : Net _) ((caller.ready k).run _).2 = _
  rw [hready]
  rfl

/-- A call for which the provider gets ready speaks from there. -/
lemma negotiate_of_ok (hk : (w.context scope).provider = .own k) {x : Attempt TlsError Session}
    {k' : Keeper} (hready : (caller.ready k).run (Net.context scope w).2 = (.ok (x, k'), u)) :
    (caller.negotiate scope).run w = x.run (Net.keepProvider scope (.own k') u).2 := by
  rw [negotiate_eq hk]
  show (ExceptT.bindCont _ ((caller.ready k).run _).1 : Net _) ((caller.ready k).run _).2 = _
  rw [hready]
  rfl

/-- A client says what it has to say with what it verifies with. -/
lemma ready_client (k : Keeper) (fd : Descriptor) (host : String) (strict : Bool) (w : World) :
    ((Caller.client fd host strict).ready k).run w =
      (((k.verifierFor strict).run w).1.map fun p => (Net.establishClient fd host strict p.1, p.2),
        ((k.verifierFor strict).run w).2) := by
  show (ExceptT.bindCont _ ((k.verifierFor strict).run w).1 : Net _)
    ((k.verifierFor strict).run w).2 = _
  cases ((k.verifierFor strict).run w).1 <;> rfl

/-! ## Getting ready -/

namespace Keeper

/-- Whether a provider has what calls of a mode need. -/
def has (k : Keeper) : Mode → Bool
  | .lax => k.lax.isSome
  | .strict => k.strict.isSome
  | .server => k.server.isSome

/-- A provider builds what calls of a mode need, by these actions, and keeps it: for lax clients
there is nothing to be read, and the others go by what files say. -/
inductive Built (s : Setting) (k : Keeper) : Mode → List Event → Except TlsError Keeper → Prop
  | lax : Built s k .lax [] ((s.encryption.versions.mapError .config).map
      fun _ => { k with lax := some .acceptAny })
  | strict {es : List Event} {r : Except TlsError (List Anchor)}
    (hread : RootsRead s k.config es r) :
    Built s k .strict es (r.map fun anchors => { k with strict := some (.trusting anchors) })
  | server {es : List Event} {r : Except TlsError Credential}
    (hread : CredentialRead s (k.config.credentialFile s.credentialVariable) es r) :
    Built s k .server es (r.map fun credential => { k with server := some credential })

/-- A provider gets what calls of a mode need, by these actions: either it is there, or it is
built. -/
inductive Readies (s : Setting) (k : Keeper) (m : Mode) :
    List Event → Except TlsError Keeper → Prop
  | there (hhas : k.has m = true) : Readies s k m [] (.ok k)
  | built {es : List Event} {made : Except TlsError Keeper} (hhas : k.has m = false)
    (hbuilt : Built s k m es made) : Readies s k m es made

/-- What a provider keeps for clients was built for them. -/
structure Proper (k : Keeper) : Prop where
  lax_eq : ∀ v, k.lax = some v → v = .acceptAny
  strict_eq : ∀ v, k.strict = some v → ∃ anchors, v = .trusting anchors

variable {s : Setting} {m : Mode} {es : List Event} {made : Except TlsError Keeper}

/-- A provider with one thing more than it had: what it built for calls of a mode. -/
inductive Gains (k : Keeper) : Mode → Keeper → Prop
  | lax : Gains k .lax { k with lax := some .acceptAny }
  | strict (anchors : List Anchor) : Gains k .strict { k with strict := some (.trusting anchors) }
  | server (credential : Credential) : Gains k .server { k with server := some credential }

/-- A provider that could build what is needed has gained that.

**Proof sketch.** By what was built. Each kind of building ends in a provider with the new piece
just where it succeeds. -/
lemma Built.gains {k' : Keeper} (h : k.Built s m es (.ok k')) : k.Gains m k' := by
  generalize hr : (.ok k' : Except TlsError Keeper) = made at h
  cases h with
  | lax =>
    cases hversions : s.encryption.versions with
    | error f =>
      rw [hversions] at hr
      cases hr
    | ok _ =>
      rw [hversions] at hr
      obtain rfl := Except.ok.inj hr
      exact .lax
  | @strict _ r _ =>
    cases r with
    | error e => cases hr
    | ok anchors =>
      obtain rfl := Except.ok.inj hr
      exact .strict anchors
  | @server _ r _ =>
    cases r with
    | error e => cases hr
    | ok credential =>
      obtain rfl := Except.ok.inj hr
      exact .server credential

/-- A provider that gained something keeps its settings and has that beside what it had. -/
lemma Gains.has_eq {k' : Keeper} (h : k.Gains m k') :
    k'.config = k.config ∧ ∀ other, k'.has other = (k.has other || other = m) := by
  cases h <;> exact ⟨rfl, fun other => by cases other <;> simp [has]⟩

/-- What a provider gains for clients is for them. -/
lemma Gains.proper {k' : Keeper} (h : k.Gains m k') (hk : k.Proper) : k'.Proper := by
  cases h with
  | lax => exact ⟨fun v hv => (Option.some.inj hv).symm, hk.strict_eq⟩
  | strict anchors => exact ⟨hk.lax_eq, fun v hv => ⟨anchors, (Option.some.inj hv).symm⟩⟩
  | server credential => exact ⟨hk.lax_eq, hk.strict_eq⟩

/-- What a provider has it need not build. -/
lemma Readies.of_has (h : k.Readies s m es made) (hhas : k.has m = true) :
    es = [] ∧ made = .ok k := by
  cases h with
  | there => exact ⟨rfl, rfl⟩
  | built hnot _ => exact Bool.noConfusion (hhas.symm.trans hnot)

/-- What a provider does not have it builds. -/
lemma Readies.of_not_has (h : k.Readies s m es made) (hhas : k.has m = false) :
    k.Built s m es made := by
  cases h with
  | there hthere => exact Bool.noConfusion (hthere.symm.trans hhas)
  | built _ hbuilt => exact hbuilt

/-- A provider that got ready keeps its settings and what it had, and has what it got. -/
lemma Readies.has_eq {k' : Keeper} (h : k.Readies s m es (.ok k')) :
    k'.config = k.config ∧ ∀ other, k'.has other = (k.has other || other = m) := by
  cases hhas : k.has m with
  | false => exact (h.of_not_has hhas).gains.has_eq
  | true =>
    obtain rfl := Except.ok.inj (h.of_has hhas).2
    refine ⟨rfl, fun other => ?_⟩
    by_cases hm : other = m
    · rw [hm, hhas, Bool.true_or]
    · simp [hm]

/-- A provider that got ready keeps for clients what was built for them. -/
lemma Readies.proper {k' : Keeper} (h : k.Readies s m es (.ok k')) (hk : k.Proper) : k'.Proper := by
  cases hhas : k.has m with
  | false => exact (h.of_not_has hhas).gains.proper hk
  | true => exact Except.ok.inj (h.of_has hhas).2 ▸ hk

/-- What a call says once the provider is ready for it. -/
inductive Says (k : Keeper) : Caller → Attempt TlsError Session → Prop
  | client {fd : Descriptor} {host : String} {strict : Bool} {verifier : Verifier}
    (hverifier : k.client strict = some verifier) :
    Says k (.client fd host strict) (Net.establishClient fd host strict verifier)
  | server {fd : Descriptor} {credential : Credential} (hcredential : k.server = some credential) :
    Says k (.server fd) (Net.establishServer fd credential)

/-- Building how strict clients verify is reading files, and how lax ones do is no action.

**Proof sketch.** Without the versions of the protocol neither is built. With them a lax client
needs nothing else, and a strict one what files say (`Anchors.reads_all`). -/
lemma built_buildClient (k : Keeper) (strict : Bool) :
    Leads (u.Since es) (k.buildClient strict).run fun r w => ∃ here,
      k.Built u.toSetting (.ofClient strict) here (r.map (k.withClient strict)) ∧
        u.Since (es ++ here) w := by
  refine .run_bind since_requireVersions (fun _ => .of_and fun hversions => ?_) ?_
  · have hfound : u.encryption.versions = .ok () := by
      cases h : u.encryption.versions with
      | ok _ => rfl
      | error f => exact nomatch hversions.trans (congrArg _ h)
    cases strict with
    | true =>
      refine .run_bind (Anchors.reads_all k.config hfound) (fun anchors => .run_pure _ ?_) ?_
      · rintro w ⟨here, hread, hw⟩
        exact ⟨here, .strict hread, hw⟩
      · rintro e w ⟨here, hread, hw⟩
        exact ⟨here, .strict hread, hw⟩
    | false =>
      refine .run_pure _ fun w hw => ⟨[], ?_, by rwa [List.append_nil]⟩
      have hbuilt : k.Built u.toSetting .lax [] _ := .lax
      rwa [hfound] at hbuilt
  · rintro e w ⟨he, hw⟩
    cases hfound : u.encryption.versions with
    | ok _ => exact nomatch he.trans (congrArg _ hfound)
    | error f =>
      rw [hfound] at he
      obtain rfl := Except.error.inj he
      refine ⟨[], ?_, by rwa [List.append_nil]⟩
      cases strict with
      | true => exact .strict (.unversioned hfound)
      | false =>
        have hbuilt : k.Built u.toSetting .lax [] _ := .lax
        rwa [hfound] at hbuilt

/-- Whether a provider has what clients need. -/
lemma has_ofClient (k : Keeper) (strict : Bool) :
    k.has (.ofClient strict) = (k.client strict).isSome := by
  cases strict <;> rfl

/-- How clients verify is there, or it is built.

**Proof sketch.** If it is there nothing is done. If it is not, it is built (`built_buildClient`)
and kept in its place. -/
lemma readies_verifierFor (k : Keeper) (strict : Bool) :
    Leads (u.Since es) (k.verifierFor strict).run fun r w => ∃ here,
      k.Readies u.toSetting (.ofClient strict) here (r.map Prod.snd) ∧
        (∀ p, r = .ok p → p.2.client strict = some p.1) ∧ u.Since (es ++ here) w := by
  unfold verifierFor
  split
  · rename_i verifier hverifier
    have hhas : k.has (.ofClient strict) = true := by rw [has_ofClient, hverifier]; rfl
    refine .run_pure _ fun w hw => ⟨[], .there hhas, ?_, by rwa [List.append_nil]⟩
    rintro _ ⟨⟩
    exact hverifier
  · rename_i hnone
    have hhas : k.has (.ofClient strict) = false := by rw [has_ofClient, hnone]; rfl
    refine .run_bind (k.built_buildClient strict) (fun verifier => .run_pure _ ?_) ?_
    · rintro w ⟨here, hbuilt, hw⟩
      refine ⟨here, .built hhas hbuilt, ?_, hw⟩
      rintro _ ⟨⟩
      rw [client_withClient, if_pos rfl]
    · rintro e w ⟨here, hbuilt, hw⟩
      exact ⟨here, .built hhas hbuilt, nofun, hw⟩

/-- What servers show is there, or it is built.

**Proof sketch.** If it is there nothing is done. If it is not, the file of the credential is read
(`reads_buildServer`) and what a server shows is kept in its place. -/
lemma readies_credentialFor (k : Keeper) :
    Leads (u.Since es) k.credentialFor.run fun r w => ∃ here,
      k.Readies u.toSetting .server here (r.map Prod.snd) ∧
        (∀ p, r = .ok p → p.2.server = some p.1) ∧ u.Since (es ++ here) w := by
  unfold credentialFor
  split
  · rename_i credential hcredential
    have hhas : k.has .server = true := by rw [has, hcredential]; rfl
    refine .run_pure _ fun w hw => ⟨[], .there hhas, ?_, by rwa [List.append_nil]⟩
    rintro _ ⟨⟩
    exact hcredential
  · rename_i hnone
    have hhas : k.has .server = false := by rw [has, hnone]; rfl
    refine .run_bind k.reads_buildServer (fun credential => .run_pure _ ?_) ?_
    · rintro w ⟨here, hread, hw⟩
      refine ⟨here, .built hhas (.server hread), ?_, hw⟩
      rintro _ ⟨⟩
      rfl
    · rintro e w ⟨here, hread, hw⟩
      exact ⟨here, .built hhas (.server hread), nofun, hw⟩

/-- **How a provider gets ready** for a call: what the call needs is there, or it is built.

**Proof sketch.** A client needs how it verifies (`readies_verifierFor`) and a server what it shows
(`readies_credentialFor`); with that at hand each says what it has to say. -/
theorem readies_ready (k : Keeper) (caller : Caller) :
    Leads (u.Since es) (caller.ready k).run fun r w => ∃ here,
      k.Readies u.toSetting caller.mode here (r.map Prod.snd) ∧
        (∀ p, r = .ok p → p.2.Says caller p.1) ∧ u.Since (es ++ here) w := by
  cases caller with
  | client fd host strict =>
    refine .run_bind (k.readies_verifierFor strict) (fun p => .run_pure _ ?_) ?_
    · rintro w ⟨here, hready, hp, hw⟩
      refine ⟨here, hready, ?_, hw⟩
      rintro _ ⟨⟩
      exact .client (hp p rfl)
    · rintro e w ⟨here, hready, -, hw⟩
      exact ⟨here, hready, nofun, hw⟩
  | server fd =>
    refine .run_bind k.readies_credentialFor (fun p => .run_pure _ ?_) ?_
    · rintro w ⟨here, hready, hp, hw⟩
      refine ⟨here, hready, ?_, hw⟩
      rintro _ ⟨⟩
      exact .server (hp p rfl)
    · rintro e w ⟨here, hready, -, hw⟩
      exact ⟨here, hready, nofun, hw⟩

/-- What is said keeps aloof from files. -/
lemma Says.aloof {x : Attempt TlsError Session} (h : k.Says caller x) : Net.Aloof x.run := by
  cases h with
  | client => exact Net.aloof_establishClient ..
  | server => exact Net.aloof_establishServer ..

/-- The versions of the protocol are looked for without a look at files. -/
lemma blind_requireVersions : Net.Blind requireVersions.run := by
  refine .setting_bind (fun s => ?_) fun s t hst => by rw [hst]
  split
  · exact .pure _
  · exact .pure _

/-- What a provider has, and what lax clients need, it gets without a look at files.

**Proof sketch.** What is there is taken as it is, and a lax client is built without files. Only
what strict clients and servers lack would be read. -/
lemma blind_ready (h : caller.mode = .lax ∨ k.has caller.mode = true) :
    Net.Blind (caller.ready k).run := by
  cases caller with
  | client fd host strict =>
    refine .run_bind ?_ fun p => .pure _
    unfold verifierFor
    split
    · exact .pure _
    · rename_i hnone
      -- Only strict clients need files, and they have what they need.
      cases strict with
      | true =>
        have hhas : (k.client true).isSome = true :=
          h.resolve_left (by simp [Caller.mode, Mode.ofClient])
        rw [hnone] at hhas
        exact Bool.noConfusion hhas
      | false => exact .run_bind (.run_bind blind_requireVersions fun _ => .pure _) fun _ => .pure _
  | server fd =>
    refine .run_bind ?_ fun p => .pure _
    have hhas : k.server.isSome = true := h.resolve_left (by simp [Caller.mode])
    obtain ⟨credential, hcredential⟩ := Option.isSome_iff_exists.1 hhas
    unfold credentialFor
    rw [hcredential]
    exact .pure _

end Keeper

/-! ## Verifying -/

/-- The certificates of servers are verified: the verdict on them is that of the encryption library,
for someone with some trust, at the time of the system. -/
def Verifier.Checks (v : Verifier) : Prop :=
  ∃ anchors, ∀ name chain w, (v.ask name chain w).1 =
    w.encryption.verify anchors name chain w.kernel.clock

/-- To verify is to trust somebody. Who accepts any certificates does so with a library that accepts
none. -/
lemma Verifier.checks_iff (v : Verifier) : v.Checks ↔ ∃ anchors, v = .trusting anchors := by
  constructor
  · rintro ⟨anchors, hall⟩
    cases v with
    | trusting anchors => exact ⟨anchors, rfl⟩
    | acceptAny => exact nomatch hall (.dns "") [] {}
  · rintro ⟨anchors, rfl⟩
    exact ⟨anchors, fun _ _ _ => rfl⟩

/-- A client verifies the server just if it is strict. -/
lemma Keeper.Proper.checks_iff (hk : k.Proper) {strict : Bool} {v : Verifier}
    (hv : k.client strict = some v) : v.Checks ↔ strict = true := by
  rw [v.checks_iff]
  cases strict with
  | true => exact iff_of_true (hk.strict_eq v hv) rfl
  | false =>
    rw [hk.lax_eq v hv]
    exact iff_of_false (fun ⟨_, h⟩ => nomatch h) Bool.noConfusion

end Tls

namespace Net

open Tls

/-- **A client meets its server** on a descriptor, from a world: there is no name for the server, or
the encryption library does not talk with one of that name, or it does, with the verdicts of a
verifier, and then there is a session or none. -/
inductive Meets (fd : Descriptor) (host : String) (strict : Bool) (verifier : Verifier)
    (w : World) : Except TlsError Session × World → Prop
  | unnamed (hname : ServerName.ofHost w.encryption.name? host strict = none) :
    Meets fd host strict verifier w (.error (.invalidServerName host), w)
  | unwilling {name : ServerName} {f : TlsFault}
    (hname : ServerName.ofHost w.encryption.name? host strict = some name)
    (htalk : w.encryption.client w.nextConnection name = .error f) :
    Meets fd host strict verifier w (.error (.config f), (numberConnection w).2)
  | failed {name : ServerName} {talk : Talk} {f : Fault} {u : World}
    (hname : ServerName.ofHost w.encryption.name? host strict = some name)
    (htalk : w.encryption.client w.nextConnection name = .ok talk)
    (hrun : talk.run fd (fun chain => verifier.ask name chain) (numberConnection w).2 =
      (.error f, u)) :
    Meets fd host strict verifier w (.error (.handshake f), u)
  | secured {name : ServerName} {talk : Talk} {s : Session} {u : World} (message : String)
    (hname : ServerName.ofHost w.encryption.name? host strict = some name)
    (htalk : w.encryption.client w.nextConnection name = .ok talk)
    (hrun : talk.run fd (fun chain => verifier.ask name chain) (numberConnection w).2 =
      (.ok s, u)) :
    Meets fd host strict verifier w (.ok s,
      (u.noting (.tls fd (.client host strict) (.secured s))).noting
        (.record u.sink .debug message))

/-- **A client that has what it verifies with** meets its server.

**Proof sketch.** There are four ends and they come in turn: the host gives no name, the library is
unwilling to begin, the talk fails, or it ends in a session. -/
theorem meets_establishClient (fd : Descriptor) (host : String) (strict : Bool)
    (verifier : Verifier) (w : World) :
    Meets fd host strict verifier w ((establishClient fd host strict verifier).run w) := by
  have hleads : Leads (· = w) (establishClient fd host strict verifier).run fun r u =>
      Meets fd host strict verifier w (r, u) := by
    refine .run_lift_bind (R := fun found u => found = w.toSetting ∧ u = w) ?_ fun found =>
      .of_and ?_
    · rintro _ rfl
      exact ⟨rfl, rfl⟩
    rintro rfl
    dsimp only
    cases hname : ServerName.ofHost w.encryption.name? host strict with
    | none =>
      refine .run_throw _ ?_
      rintro _ rfl
      exact .unnamed hname
    | some name =>
      refine .run_lift_bind
        (R := fun number u => number = w.nextConnection ∧ u = (numberConnection w).2) ?_
        fun number => .of_and ?_
      · rintro _ rfl
        exact ⟨rfl, rfl⟩
      rintro rfl
      unfold establish
      cases htalk : w.encryption.client w.nextConnection name with
      | error f =>
        refine .run_throw _ ?_
        rintro _ rfl
        exact .unwilling hname htalk
      | ok talk =>
        refine .run_lift_bind (R := fun r u =>
          talk.run fd (fun chain => verifier.ask name chain) (numberConnection w).2 = (r, u)) ?_
          fun r => ?_
        · rintro _ rfl
          rfl
        cases r with
        | error f => exact .run_throw _ fun u hu => .failed hname htalk hu
        | ok s => exact fun u hu => .secured _ hname htalk hu
  exact hleads w rfl

end Net

namespace Tls

variable {k : Keeper}

/-! ## Calls one after another -/

/-- A call on a provider: where it is made, and the world it is made in. -/
structure Visit where
  scope : Scope
  caller : Caller
  world : World

namespace Visit

variable (v : Visit)

/-- The provider that a call is made on. -/
def before : Provider := (v.world.context v.scope).provider

/-- How a call ends. -/
def outcome : Except TlsError Session := ((v.caller.negotiate v.scope).run v.world).1

/-- The world after a call. -/
def last : World := ((v.caller.negotiate v.scope).run v.world).2

/-- The provider after a call. -/
def after : Provider := (v.last.context v.scope).provider

/-- Whether everything was there for a call, or could be built. -/
def built : Bool :=
  match v.before with
  | .own k => ((v.caller.ready k).run (Net.context v.scope v.world).2).1.isOk
  | .scripted _ => false

/-- What is done in a call. -/
def deeds : List Event := v.last.actions.drop v.world.actions.length

/-- The files that a call opens, in order. -/
def files : List String := v.deeds.filterMap Event.file?

end Visit

/-- Whether something was built, or there, for a call of a mode. -/
def Mode.builtBy (m : Mode) (vs : List Visit) : Bool :=
  vs.any fun v => v.caller.mode = m && v.built

/-- Calls on one provider, from when it was made, and the provider after them. Between two calls the
world may have changed in any way that leaves the provider. -/
inductive Visits (config : TlsConfig) : List Visit → Provider → Prop
  | start : Visits config [] (.own { config := config })
  | next {vs : List Visit} {v : Visit} (h : Visits config vs v.before) :
    Visits config (vs ++ [v]) v.after

/-- **The course of a call** on the library's own provider, with the actions of getting ready: that
fails, and the call with it, or the provider is put in place and the call speaks. -/
inductive Visit.Course (v : Visit) (es : List Event) : Except TlsError Keeper → Prop
  | fails {e : TlsError} (houtcome : v.outcome = .error e) (hlast : v.world.Since es v.last) :
    v.Course es (.error e)
  | speaks {k : Keeper} {x : Attempt TlsError Session} {u : World} (hspoken : k.Says v.caller x)
    (hactions : u.actions = v.world.actions ++ es) (hkept : (u.context v.scope).provider = .own k)
    (hsetting : u.toSetting = v.world.toSetting) (hrun : x.run u = (v.outcome, v.last)) :
    v.Course es (.ok k)

/-- A call on the library's own provider takes its course.

**Proof sketch.** Getting ready is one piece of a call (`readies_ready`). If it fails, so does the
call; if not, the provider that has what is needed is kept, and the two parties speak in the setting
of before. -/
theorem Visit.course {v : Visit} (hk : v.before = .own k) : ∃ es made,
    k.Readies v.world.toSetting v.caller.mode es made ∧ v.Course es made ∧
      v.built = made.isOk := by
  obtain ⟨es, hready, hspoken, hsince⟩ :=
    k.readies_ready v.caller (Net.context v.scope v.world).2 (.context v.scope v.world)
  rw [List.nil_append] at hsince
  have hbuilt : v.built = ((v.caller.ready k).run (Net.context v.scope v.world).2).1.isOk := by
    rw [built, hk]
  generalize hran : (v.caller.ready k).run (Net.context v.scope v.world).2 = ran at *
  obtain ⟨_ | ⟨x, k'⟩, u⟩ := ran
  · have hend := negotiate_of_error hk hran
    have hlast : v.last = u := congrArg Prod.snd hend
    exact ⟨es, _, hready, .fails (congrArg Prod.fst hend) (hlast ▸ hsince), hbuilt⟩
  · have hend := negotiate_of_ok hk hran
    refine ⟨es, _, hready, .speaks (u := (Net.keepProvider v.scope (.own k') u).2)
      (hspoken _ rfl) ?_ ?_ ?_ hend.symm, hbuilt⟩
    · rw [← hsince.actions_eq]
      cases v.scope <;> rfl
    · exact congrArg Context.provider (World.context_withContext ..)
    · rw [← hsince.setting_eq]
      cases v.scope <;> rfl

/-- What a call has done after it came to its end.

**Proof sketch.** Where the call failed, all that was done was getting ready. Where it went on, what
is said after that opens no file, as it is aloof, and the provider is left as it was kept. -/
lemma Visit.Course.ends {v : Visit} {es : List Event} {made : Except TlsError Keeper}
    (h : v.Course es made) (hk : v.before = .own k) :
    es <+: v.deeds ∧ v.files = es.filterMap Event.file? ∧
      v.after = .own (made.toOption.getD k) := by
  have hdone {said : List Event} (hsaid : ∀ e ∈ said, e.file? = none)
      (hactions : v.last.actions = v.world.actions ++ (es ++ said)) :
      es <+: v.deeds ∧ v.files = es.filterMap Event.file? := by
    have hdeeds : v.deeds = es ++ said := by rw [deeds, hactions, List.drop_left]
    refine ⟨hdeeds ▸ List.prefix_append .., ?_⟩
    rw [files, hdeeds, List.filterMap_append, List.filterMap_eq_nil_iff.2 hsaid, List.append_nil]
  cases h with
  | fails _ hlast =>
    have hdone := @hdone [] (List.forall_mem_nil _) (by simp [hlast.actions_eq])
    refine ⟨hdone.1, hdone.2, ?_⟩
    exact (congrArg Context.provider (hlast.context_eq v.scope)).trans hk
  | @speaks k' x u hspoken hactions hkept _ hrun =>
    obtain ⟨said, hsaid, hsince⟩ := hspoken.aloof.since u
    rw [hrun] at hsince
    have hdone := hdone hsaid (by rw [hsince.actions_eq, hactions, List.append_assoc])
    refine ⟨hdone.1, hdone.2, ?_⟩
    exact (congrArg Context.provider (hsince.context_eq v.scope)).trans hkept

/-- A provider has what was built in the calls before.

**Proof sketch.** By induction on the calls, with what the provider has as the invariant. Each call
takes its course (`Visit.course`), and leaves the provider that it got ready. -/
theorem Visits.keeper {config : TlsConfig} {vs : List Visit} {p : Provider}
    (h : Visits config vs p) : ∃ k, p = .own k ∧ k.config = config ∧ k.Proper ∧
      ∀ m, k.has m = m.builtBy vs := by
  -- A call that cannot build leaves the provider, and one that can adds what its mode needs.
  induction h with
  | start => exact ⟨_, rfl, rfl, ⟨nofun, nofun⟩, fun m => by cases m <;> rfl⟩
  | @next vs v _ ih =>
    obtain ⟨k, hk, hconfig, hproper, hhas⟩ := ih
    obtain ⟨es, made, hready, hcourse, hbuilt⟩ := Visit.course hk
    refine ⟨_, (hcourse.ends hk).2.2, ?_⟩
    have hmore (m : Mode) : m.builtBy (vs ++ [v]) =
        (m.builtBy vs || (v.caller.mode = m && made.isOk)) := by
      rw [Mode.builtBy, Mode.builtBy, List.any_append, ← hbuilt]
      simp
    cases made with
    | error e =>
      refine ⟨hconfig, hproper, fun m => (hhas m).trans ?_⟩
      rw [hmore, Except.isOk, Except.toBool, Bool.and_false, Bool.or_false]
    | ok k' =>
      obtain ⟨hsame, hgains⟩ := hready.has_eq
      refine ⟨hsame.trans hconfig, hready.proper hproper, fun m => (hgains m).trans ?_⟩
      rw [hmore, hhas, Except.isOk, Except.toBool, Bool.and_true]
      simp only [eq_comm]

/-! ## What is read, and when -/

namespace Visit

/-- A call builds what it needs, by what it does first; it keeps that and nothing else, and where it
cannot be built that is how the call ends. -/
def Builds (config : TlsConfig) (v : Visit) : Prop :=
  ∃ k es made, v.before = .own k ∧ k.config = config ∧
    k.Built v.world.toSetting v.caller.mode es made ∧ es <+: v.deeds ∧
      v.files = es.filterMap Event.file? ∧ v.built = made.isOk ∧
        v.after = .own (made.toOption.getD k) ∧ ∀ e, made = .error e → v.outcome = .error e

/-- A client meets its server after it has got ready, and verifies the server just if it is
strict. -/
def Meets (v : Visit) (fd : Descriptor) (host : String) (strict : Bool) : Prop :=
  ∃ k verifier u, v.after = .own k ∧ k.client strict = some verifier ∧
    (verifier.Checks ↔ strict = true) ∧ v.world.actions <+: u.actions ∧
      (u.context v.scope).provider = v.after ∧ u.toSetting = v.world.toSetting ∧
        Net.Meets fd host strict verifier u (v.outcome, v.last)

/-- What a call reads and keeps after other calls on the same provider. -/
structure ReadsUnlessBuilt (config : TlsConfig) (vs : List Visit) (v : Visit) : Prop where
  /-- A server opens the file of the credential, unless what servers show was built before. -/
  server_files : v.caller.mode = .server → v.files =
    if Mode.server.builtBy vs then []
    else [config.credentialFile v.world.credentialVariable].filter Net.opens
  /-- A strict client opens the files with certificates, in order, unless how strict clients verify
  was built before. It goes on to the first that is bad, and without the versions of the protocol it
  does not begin. -/
  strict_files : v.caller.mode = .strict → Mode.strict.builtBy vs = false →
    v.files <+: config.rootFiles v.world.nativeStores ∧
      (v.built = true → v.files = config.rootFiles v.world.nativeStores)
  /-- A lax client opens no file. -/
  lax_files : v.caller.mode = .lax → v.files = []
  /-- What was not built before is built, from what was read. -/
  builds : v.caller.mode.builtBy vs = false → v.Builds config
  /-- What was built before is there still, and nothing else is built. -/
  keeps : v.caller.mode.builtBy vs = true → v.files = [] ∧ v.built = true ∧ v.after = v.before
  /-- A lax client, and a call for which everything was built before, would do the same with any
  other files. -/
  refiled : v.caller.mode = .lax ∨ v.caller.mode.builtBy vs = true →
    ∀ f, (v.caller.negotiate v.scope).run (v.world.refiled f) = (v.outcome, v.last.refiled f)
  /-- What failed is not kept. -/
  failed : v.built = false → v.after = v.before
  client : ∀ fd host strict, v.caller = .client fd host strict → v.built = true →
    v.Meets fd host strict

variable {v : Visit}

/-- A call whose provider gets ready without a look at files does the same with other files.

**Proof sketch.** With other files the provider is the same, and getting ready ends the same
(`hblind`). Speaking does not look at files either, as it is aloof. -/
lemma refiled_of_blind (hk : v.before = .own k) (hblind : Net.Blind (v.caller.ready k).run)
    (f : Filing) :
    (v.caller.negotiate v.scope).run (v.world.refiled f) = (v.outcome, v.last.refiled f) := by
  have hfound : (Net.context v.scope (v.world.refiled f)).2 =
      (Net.context v.scope v.world).2.refiled f := by
    cases v.scope <;> rfl
  have hk' : ((v.world.refiled f).context v.scope).provider = .own k := by
    have hsame : (v.world.refiled f).context v.scope = v.world.context v.scope := by
      cases v.scope <;> rfl
    rw [hsame]
    exact hk
  obtain ⟨-, -, hspoken, -⟩ :=
    k.readies_ready v.caller (Net.context v.scope v.world).2 (.context v.scope v.world)
  have hran := hblind (Net.context v.scope v.world).2 f
  rw [← hfound] at hran
  generalize hr : (v.caller.ready k).run (Net.context v.scope v.world).2 = ran at *
  obtain ⟨_ | ⟨x, k'⟩, u⟩ := ran
  · have hend := negotiate_of_error hk hr
    rw [negotiate_of_error hk' hran, outcome, last, hend]
  · have hend := negotiate_of_ok hk hr
    rw [negotiate_of_ok hk' hran, Net.Blind.keepProvider v.scope (.own k') u f,
      (hspoken _ rfl).aloof.blind, outcome, last, hend]

/-- A client that got ready meets its server.

**Proof sketch.** The call took its course (`course`), and did not end in getting ready. So the
client spoke with the verifier that it had got, and met its server (`meets_establishClient`). -/
lemma meets_of_built (hk : v.before = .own k) (hproper : k.Proper) {fd : Descriptor}
    {host : String} {strict : Bool} (hcaller : v.caller = .client fd host strict)
    (hv : v.built = true) : v.Meets fd host strict := by
  obtain ⟨es, made, hready, hcourse, hbuilt⟩ := course hk
  have hafter := (hcourse.ends hk).2.2
  cases hcourse with
  | fails => exact Bool.noConfusion (hv.symm.trans hbuilt)
  | @speaks k' x u hspoken hactions hkept hsetting hrun =>
    rw [hcaller] at hspoken
    cases hspoken with
    | @client _ _ _ verifier hverifier =>
      refine ⟨k', verifier, u, hafter, hverifier, (hready.proper hproper).checks_iff hverifier,
        hactions ▸ List.prefix_append .., hkept.trans hafter.symm, hsetting, ?_⟩
      rw [← hrun]
      exact Net.meets_establishClient fd host strict verifier u

end Visit

/-- **A call reads files unless what it needs was built.** After any calls on the library's own
provider, in worlds whose files and all else may have changed in between, and with any encryption
library, a call opens files just if nothing that it needs was built by those; it keeps what it
builds and nothing that failed; and a client verifies the server just if it is strict.

**Proof sketch.** After some calls a provider has what those of each mode could build, and nothing
else (`Visits.keeper`). So the next call either has what it needs, and then does not look at files
(`Keeper.blind_ready`), or it has not, and builds it from what it reads (`Keeper.readies_ready`).
From there on a call says what the encryption library says, which never opens a file
(`Keeper.Says.aloof`): all that was read was read for building. -/
theorem Visits.reads_unless_built {config : TlsConfig} {vs : List Visit} {v : Visit}
    (h : Visits config vs v.before) : v.ReadsUnlessBuilt config vs := by
  obtain ⟨k, hk, rfl, hproper, hhas⟩ := h.keeper
  obtain ⟨es, made, hready, hcourse, hbuilt⟩ := Visit.course hk
  obtain ⟨hbegins, hfiles, hafter⟩ := hcourse.ends hk
  -- What the provider has decides each field, and by `hhas` that is what was built before.
  have hthere (hmode : v.caller.mode.builtBy vs = true) :
      v.files = [] ∧ v.built = true ∧ v.after = v.before := by
    obtain ⟨rfl, rfl⟩ := hready.of_has ((hhas _).trans hmode)
    exact ⟨hfiles, hbuilt, hafter.trans hk.symm⟩
  have hnot (hmode : v.caller.mode.builtBy vs = false) :
      k.Built v.world.toSetting v.caller.mode es made :=
    hready.of_not_has ((hhas _).trans hmode)
  refine
    { server_files := fun hmode => ?_
      strict_files := fun hmode hbefore => ?_
      lax_files := fun hmode => ?_
      builds := fun hbefore => ?_
      keeps := hthere
      refiled := fun hmode => ?_
      failed := fun hfailed => ?_
      client := fun _ _ _ hcaller hv => Visit.meets_of_built hk hproper hcaller hv }
  · cases hbefore : Mode.server.builtBy vs with
    | true => exact (hthere (by rw [hmode, hbefore])).1
    | false =>
      have hbuilds := hnot (by rw [hmode, hbefore])
      rw [hmode] at hbuilds
      cases hbuilds with
      | server hread => exact hfiles.trans hread.files_eq
  · have hbuilds := hnot (by rw [hmode, hbefore])
    rw [hmode] at hbuilds
    cases hbuilds with
    | @strict _ r hread =>
      rw [hfiles, hbuilt]
      refine hread.files_eq.imp_right fun hall hok => hall ?_
      cases r <;> exact hok
  · cases hbefore : v.caller.mode.builtBy vs with
    | true => exact (hthere hbefore).1
    | false =>
      have hbuilds := hnot hbefore
      rw [hmode] at hbuilds
      cases hbuilds with
      | lax => exact hfiles
  · refine ⟨k, es, made, hk, rfl, hnot hbefore, hbegins, hfiles, hbuilt, hafter, ?_⟩
    rintro e rfl
    cases hcourse with
    | fails houtcome _ => exact houtcome
  · exact Visit.refiled_of_blind hk (Keeper.blind_ready (hmode.imp_right (hhas _).trans))
  · cases made with
    | error e => exact hafter.trans hk.symm
    | ok k' => exact Bool.noConfusion (hfailed.symm.trans hbuilt)

/-- A server fails for want of its file, then a strict client builds how such clients verify on a
machine whose one file is missing, and a second one is content with that, although the machine has
that file now. -/
theorem Visits.reads_nothing_twice : ∃ (config : TlsConfig) (s u v : Visit),
    s.built = false ∧ s.files = ["/srv/server.pem"] ∧ u.built = true ∧
      u.files = ["/etc/native.pem"] ∧ v.world.kernel.files ≠ u.world.kernel.files ∧
        Visits config [s, u] v.before ∧ v.ReadsUnlessBuilt config [s, u] := by
  let config : TlsConfig := { credentialPath := some "/srv/server.pem", nativeRoots := true }
  let s : Visit := ⟨.own, .server 5, { own := { provider := .own { config := config } } }⟩
  let u : Visit := ⟨.own, .client 5 "localhost" true,
    { nativeStores := ["/etc/native.pem"], own := { provider := s.after } }⟩
  let v : Visit := ⟨.shared, .client 6 "localhost" true,
    { kernel := { files := [("/etc/native.pem", .octets [1])] }
      nativeStores := ["/etc/native.pem"]
      shared := some { provider := u.after } }⟩
  have hs : Visits config [s] u.before := .next (v := s) .start
  have hu : Visits config [s, u] v.before := .next (v := u) hs
  refine ⟨config, s, u, v, ?_, ?_, ?_, ?_, ?_, hu, Visits.reads_unless_built hu⟩
  all_goals decide +kernel

end Tls

end Sockets
