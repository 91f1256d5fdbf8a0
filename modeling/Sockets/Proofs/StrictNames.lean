import Sockets.Engine.HostName
import Sockets.Proofs.Keeping
import Sockets.Proofs.Providers
import Sockets.Proofs.Resolution

/-!
# Names of servers

The same host text serves to find a peer and to name the server that the peer has to be. A client
that verifies its peer must not put another name in place of the host: where the host is no name of
a server there is no session, and nothing is said on the descriptor before that is settled. A client
that verifies nothing may use a name that stands in, but only where there is no other.

Which texts are names is for the encryption library to say. All that is assumed of it is that it
keeps a host name as it is written, and that the name that stands in is a host name.

## Main definitions

* `Sockets.Tls.ServerName.KeepsNames` — what is assumed of how names are read.
* `Sockets.Net.Negotiated` — how a client's negotiation with the library's own provider goes.
* `Sockets.Net.Unreached` — how connecting to a host that names no server ends for a strict client.
* `Sockets.Net.NamesHost` — clients name the server as the host does.

## Main results

* `Sockets.Tls.ServerName.bare_eq` — at most one pair of brackets is removed from a host.
* `Sockets.Net.negotiated_client` — every negotiation of a client with the library's own provider.
* `Sockets.Net.strict_names_host_or_fails` — the host is the name of the server, or a strict client
  fails.
-/

set_option autoImplicit false

namespace Sockets

open Event (Within)
open Net (Leads)

/-! ## Hosts as names -/

namespace Tls

namespace ServerName

/-- **At most one pair of brackets is removed**, and only where there are both.

**Proof sketch.** By whether the host stands in brackets. If it does it is what is between them, in
brackets again; if it does not, no text in brackets is the host. -/
lemma bare_eq (host : String) : host = "[" ++ bare host ++ "]" ∨
    bare host = host ∧ ∀ text, host ≠ "[" ++ text ++ "]" := by
  unfold bare Text.unbracket
  cases hin : Text.inBrackets? host.toList with
  | some inner =>
    left
    apply String.toList_injective
    simpa using Resolution.inBrackets?_eq_some_iff.1 hin
  | none =>
    refine .inr ⟨String.ofList_toList, fun text htext => ?_⟩
    have hsome : Text.inBrackets? host.toList = some text.toList := by
      rw [Resolution.inBrackets?_eq_some_iff, htext]
      simp
    exact nomatch hin.symm.trans hsome

/-- A reading of names keeps a host name as it is written, and knows the name that stands in. -/
structure KeepsNames (read : String → Option ServerName) : Prop where
  text_eq : ∀ text name, read text = some (.dns name) → name = text
  standIn_eq : read standIn = some (.dns standIn)

end ServerName

variable {k : Keeper} {scope : Scope} {host : String} {w : World} {e : TlsError}

/-- Why a strict client fails whose host is no name: it could not build how it verifies, or else for
want of the name. -/
def Keeper.strictFailure (k : Keeper) (scope : Scope) (host : String) (w : World) : TlsError :=
  match ((k.verifierFor true).run (Net.context scope w).2).1 with
  | .ok _ => .invalidServerName host
  | .error e => e

/-- That a lax client cannot build how it verifies is for want of the versions of the protocol.

**Proof sketch.** What a lax client needs is there already or is built without a file, and building
it fails with the versions of the protocol only. -/
lemma Keeper.config_of_lax_error (h : ((k.verifierFor false).run w).1 = .error e) :
    ∃ f, e = .config f := by
  obtain ⟨es, hready, -, -⟩ := k.readies_verifierFor false w (.refl w)
  rw [h] at hready
  generalize hr : (Except.error e : Except TlsError (Verifier × Keeper)).map Prod.snd = r at hready
  cases hready with
  | there => cases hr
  | built _ hbuilt =>
    cases hbuilt with
    | lax =>
      cases hversions : w.encryption.versions with
      | ok _ =>
        rw [hversions] at hr
        cases hr
      | error f =>
        rw [hversions] at hr
        exact ⟨f, Except.error.inj hr⟩

end Tls

open Tls.ServerName (bare ofHost standIn KeepsNames)

/-! ## Negotiations -/

namespace Net

variable {k : Tls.Keeper} {scope : Scope} {fd : Descriptor} {host : String} {strict : Bool}
  {w : World}

/-- **How a client's negotiation goes** with the library's own provider: how the client verifies
could not be built, or it meets its server. Until then files were opened, and nothing else was done
to the kernel. -/
inductive Negotiated (k : Tls.Keeper) (scope : Scope) (fd : Descriptor) (host : String)
    (strict : Bool) (w : World) : Except TlsError Tls.Session × World → Prop
  | unbuilt {e : TlsError} {u : World}
    (hbuild : ((k.verifierFor strict).run (context scope w).2).1 = .error e)
    (hquiet : w.Onward (Within [.openFile]) u) :
    Negotiated k scope fd host strict w (.error e, u)
  | met {verifier : Tls.Verifier} {k' : Tls.Keeper} {u : World}
    {out : Except TlsError Tls.Session × World}
    (hbuild : ((k.verifierFor strict).run (context scope w).2).1 = .ok (verifier, k'))
    (hquiet : w.Onward (Within [.openFile]) u) (hsetting : u.toSetting = w.toSetting)
    (hmeets : Meets fd host strict verifier u out) : Negotiated k scope fd host strict w out

/-- **Every negotiation of a client** with the library's own provider.

**Proof sketch.** The provider is asked for, and how to verify is taken from it or built
(`readies_verifierFor`), which opens files at most. If that fails the negotiation does. If not, the
keeper is put back and the client meets the server (`meets_establishClient`), in the setting of
before. -/
theorem negotiated_client (hk : (w.context scope).provider = .own k) (fd : Descriptor)
    (host : String) (strict : Bool) :
    Negotiated k scope fd host strict w ((negotiateClient scope fd host strict).run w) := by
  have hquiet : w.Onward (Within [.openFile])
      ((k.verifierFor strict).run (context scope w).2).2 :=
    .trans (only_context scope w) ((k.made_verifierFor strict).only _)
  obtain ⟨es, -, -, hsince⟩ :=
    k.readies_verifierFor strict (context scope w).2 (.context scope w)
  generalize hran : (k.verifierFor strict).run (context scope w).2 = ran at *
  obtain ⟨e | ⟨verifier, k'⟩, u⟩ := ran
  · have hready : ((Tls.Caller.client fd host strict).ready k).run (context scope w).2 =
        (.error e, u) := by
      rw [Tls.ready_client, hran]
      rfl
    exact (Tls.negotiate_of_error hk hready).symm ▸ .unbuilt (congrArg Prod.fst hran) hquiet
  · have hready : ((Tls.Caller.client fd host strict).ready k).run (context scope w).2 =
        (.ok (establishClient fd host strict verifier, k'), u) := by
      rw [Tls.ready_client, hran]
      rfl
    refine (Tls.negotiate_of_ok hk hready).symm ▸ .met (congrArg Prod.fst hran)
      (hquiet.trans (only_keepProvider scope (.own k') u)) ?_
      (meets_establishClient fd host strict verifier _)
    rw [← hsince.setting_eq]
    cases scope <;> rfl

/-- A strict client of a host that names no server fails, and says nothing.

**Proof sketch.** By how the negotiation ended (`negotiated_client`). It could not build how it
verifies, or the two met: there the host gives no name in the setting of before, so that it was the
first way to fail. -/
lemma refused_of_unnamed (hk : (w.context scope).provider = .own k)
    (hname : w.encryption.name? (bare host) = none) (fd : Descriptor) :
    ∃ u, (negotiateClient scope fd host true).run w = (.error (k.strictFailure scope host w), u) ∧
      w.Onward (Within [.openFile]) u := by
  have hclient := negotiated_client hk fd host true
  generalize (negotiateClient scope fd host true).run w = out at hclient
  cases hclient with
  | unbuilt hbuild hquiet => exact ⟨_, by rw [Tls.Keeper.strictFailure, hbuild], hquiet⟩
  | @met verifier k' u out hbuild hquiet hsetting hmeets =>
    have hnone : ofHost u.encryption.name? host true = none := by
      rw [Tls.ServerName.ofHost_strict, congrArg Setting.encryption hsetting, hname]
    cases hmeets with
    | unnamed => exact ⟨_, by rw [Tls.Keeper.strictFailure, hbuild], hquiet⟩
    | unwilling hsome | failed hsome | secured _ hsome => exact nomatch hnone.symm.trans hsome

/-- A lax client does not fail for want of a name.

**Proof sketch.** By how the negotiation ended. Where it could not be built the failure is one of
its configuration. Where the two met, the name was the stand-in if the host gives none, and that is
a name (`hkeeps`). -/
lemma lax_ne_unnamed (hk : (w.context scope).provider = .own k)
    (hkeeps : KeepsNames w.encryption.name?) (fd : Descriptor) (host other : String) :
    ((negotiateClient scope fd host false).run w).1 ≠ .error (.invalidServerName other) := by
  have hclient := negotiated_client hk fd host false
  generalize (negotiateClient scope fd host false).run w = out at hclient
  cases hclient with
  | unbuilt hbuild _ =>
    obtain ⟨f, rfl⟩ := Tls.Keeper.config_of_lax_error hbuild
    exact nofun
  | @met verifier k' u out _ _ hsetting hmeets =>
    cases hmeets with
    | unnamed hnone =>
      rw [congrArg Setting.encryption hsetting] at hnone
      have hsome := Tls.ServerName.ofHost_lax_isSome w.encryption.name?
        (by rw [hkeeps.standIn_eq]; rfl) host
      rw [hnone] at hsome
      exact nomatch hsome
    | unwilling | failed | secured => exact nofun

/-! ## Connecting -/

/-- **How connecting to a host that names no server ends** for a strict client: either there never
was a descriptor, or there is no handle because the negotiation failed; then files were opened, and
last of all the descriptor was closed. -/
inductive Unreached (k : Tls.Keeper) (scope : Scope) (host service : String) (p : Protocol)
    (w : World) : Except Error Handle × World → Prop
  | unopened {e : Error} {u : World}
    (hopen : (Opening.connect scope host service p).run w = (.error e, u)) :
    Unreached k scope host service p w (.error e, u)
  | refused {fd : Descriptor} {u v : World} {es : List Event} {outcome : Except Int Unit}
    (hopen : (Opening.connect scope host service p).run w = (.ok fd, u))
    (hquiet : ∀ e ∈ es, e.Within [.openFile])
    (hclosed : v.journal = u.journal ++ es ++ [.call (.close fd) outcome]) :
    Unreached k scope host service p w (.error (.tls (k.strictFailure scope host u)), v)

/-- Where a new descriptor gets no session that is recorded, and the descriptor closed. -/
lemma leads_sessionFor_of_error {u v : World} {e : TlsError} {flags : Flags}
    (hflags : flags.tls.enabled = true) (what : String) {negotiation : Attempt TlsError Tls.Session}
    (hrun : negotiation.run u = (.error e, v)) :
    Leads (· = u) (sessionFor fd flags what negotiation).run fun r x => r = .error (.tls e) ∧
      ∃ message outcome,
        x.journal = v.journal ++ [.record v.sink .error message, .call (.close fd) outcome] := by
  unfold sessionFor
  rw [if_pos hflags]
  refine .run_lift_bind (R := fun r x => r = .error e ∧ x = v) ?_ fun r => .of_and fun hr => ?_
  · rintro _ rfl
    rw [hrun]
    exact ⟨rfl, rfl⟩
  rw [hr]
  rintro x rfl
  exact ⟨rfl, _, _, List.append_assoc ..⟩

/-- Connecting a strict client to a host that names no server.

**Proof sketch.** Opening may fail, and then nothing else is done. If it does not, the negotiation
fails before anything is said (`refused_of_unnamed`), since its setting is that of before, and for
that the descriptor is closed. -/
lemma unreached_connect (hk : (w.context scope).provider = .own k)
    (hname : w.encryption.name? (bare host) = none) (service : String) (p : Protocol)
    {flags : Flags} (hstrict : flags.tls.isStrict = true) :
    Unreached k scope host service p w ((connect scope host service p flags).run w) := by
  have hleads : Leads (· = w) (connect scope host service p flags).run fun r v =>
      Unreached k scope host service p w (r, v) := by
    refine .run_bind (R := fun r u => (Opening.connect scope host service p).run w = (r, u) ∧
      (u.context scope).provider = .own k ∧ u.toSetting = w.toSetting) ?_ (fun fd => ?_)
      fun e u hu => .unopened hu.1
    · rintro v rfl
      have hmade := Opening.made_connect scope host service p
      exact ⟨rfl, hmade.backed v hk, hmade.toSetting_eq v⟩
    rintro u ⟨hopen, hu, hsetting⟩
    -- The negotiation fails before anything is said, so there is no handle.
    have hname' : u.encryption.name? (bare host) = none := by
      rw [congrArg Setting.encryption hsetting, hname]
    obtain ⟨v, hrun, hquiet⟩ := refused_of_unnamed hu hname' fd
    obtain ⟨es, hes, hwithin⟩ := hquiet.journal_eq
    rw [show flags.requested.tls.isStrict = true from hstrict]
    refine Leads.run_bind (Q := fun r x => Unreached k scope host service p w (r, x))
      (leads_sessionFor_of_error (flags.requested.tls.enabled_of_isStrict hstrict) _ hrun)
      (fun _ _ h => nomatch h.1) ?_ u rfl
    rintro e' x ⟨he', message, outcome, hx⟩
    obtain rfl : e' = .tls _ := Except.error.inj he'
    have hquiet : ∀ e ∈ es ++ [.record v.sink .error message], e.Within [.openFile] :=
      List.forall_mem_append.2 ⟨hwithin, List.forall_mem_singleton.2 trivial⟩
    have hclosed : x.journal =
        u.journal ++ (es ++ [.record v.sink .error message]) ++ [.call (.close fd) outcome] := by
      simp [hx, hes]
    exact .refused hopen hquiet hclosed
  exact hleads w rfl

/-- Connecting a strict client to a host that names no server moves no data.

**Proof sketch.** Opening, the files that are read and the call that closes are none of them calls
that move data. -/
lemma Unreached.still {service : String} {p : Protocol} {out : Except Error Handle × World}
    (h : Unreached k scope host service p w out) :
    ∃ es, out.2.journal = w.journal ++ es ∧ ∀ e ∈ es, e.movesData = false := by
  have hstill {kinds : List CallKind} (hkinds : ∀ k ∈ kinds, k.movesData = false) {e : Event}
      (he : e.Within kinds) : e.movesData = false := by
    cases e with
    | call c outcome => exact hkinds _ he
    | tls | query | record | trace => rfl
  obtain ⟨before, hbefore, hopening⟩ :=
    ((Opening.made_connect scope host service p).only w).journal_eq
  cases h with
  | unopened hopen =>
    rw [hopen] at hbefore
    exact ⟨before, hbefore, fun e he => hstill (by decide) (hopening e he)⟩
  | @refused fd u v es outcome hopen hquiet hclosed =>
    rw [hopen] at hbefore
    refine ⟨before ++ es ++ [.call (.close fd) outcome], ?_, ?_⟩
    · rw [hclosed, hbefore]
      simp
    · simp only [List.forall_mem_append, List.forall_mem_singleton]
      exact ⟨⟨fun e he => hstill (by decide) (hopening e he),
        fun e he => hstill (by decide) (hquiet e he)⟩, rfl⟩

/-! ## The name of the server -/

/-- **Clients name the server as the host does**, with the library's own provider, and a strict
client has nothing to do with a server that has no name. -/
structure NamesHost (k : Tls.Keeper) (scope : Scope) (host : String) (w : World) : Prop where
  /-- The host, without brackets, is what is between one pair of them, or else the host. -/
  bare_eq : host = "[" ++ bare host ++ "]" ∨
    bare host = host ∧ ∀ text, host ≠ "[" ++ text ++ "]"
  /-- Whom a client meets goes by the name for the host. -/
  client : ∀ fd strict,
    Negotiated k scope fd host strict w ((negotiateClient scope fd host strict).run w)
  /-- The name for the host of a strict client is that without brackets. -/
  strict_name : ofHost w.encryption.name? host true = w.encryption.name? (bare host)
  /-- So a host name is not the one that stands in, unless the host is. -/
  strict_text : ∀ name, ofHost w.encryption.name? host true = some (.dns name) → name = bare host
  /-- A lax client uses the name that a strict one would. -/
  lax_name : ∀ name, ofHost w.encryption.name? host true = some name →
    ofHost w.encryption.name? host false = some name
  /-- A lax client does not fail for want of a name. -/
  lax_named : ∀ fd other,
    ((negotiateClient scope fd host false).run w).1 ≠ .error (.invalidServerName other)
  /-- Where the host is no name, a strict client fails, and at most files were opened. -/
  refused : w.encryption.name? (bare host) = none → ∀ fd, ∃ u,
    (negotiateClient scope fd host true).run w = (.error (k.strictFailure scope host w), u) ∧
      w.Onward (Within [.openFile]) u
  /-- There it cannot connect either: the descriptor is closed, and no data was moved. -/
  connect : ∀ service p flags, flags.tls.isStrict = true → w.encryption.name? (bare host) = none →
    Unreached k scope host service p w ((connect scope host service p flags).run w) ∧
      ∃ es, ((connect scope host service p flags).run w).2.journal = w.journal ++ es ∧
        ∀ e ∈ es, e.movesData = false

/-- **The host is the name of the server, or a strict client fails.** Whatever the settings of the
library's own provider are and whatever was built with them, a client names the server as the host
does, without one pair of brackets; where the host is no name a strict client fails before anything
is said, its descriptor is closed, and only a client that verifies nothing goes on with another
name.

**Proof sketch.** A client first gets ready how it verifies, which opens files at most, and then
meets its server (`negotiated_client`). Of the ways to meet, only the first is left to a strict
client whose host is no name, and there nothing has been said (`refused_of_unnamed`). Opening a
descriptor leaves the provider and all that surrounds the library, so the same holds of the
negotiation of a client that connects (`unreached_connect`), and a descriptor without a session is
closed. -/
theorem strict_names_host_or_fails (w : World) (scope : Scope) (k : Tls.Keeper)
    (hk : (w.context scope).provider = .own k) (hkeeps : KeepsNames w.encryption.name?)
    (host : String) : NamesHost k scope host w where
  bare_eq := Tls.ServerName.bare_eq host
  client fd strict := negotiated_client hk fd host strict
  strict_name := Tls.ServerName.ofHost_strict _ host
  strict_text _ hname :=
    hkeeps.text_eq _ _ ((Tls.ServerName.ofHost_strict _ host).symm.trans hname)
  lax_name _ := Tls.ServerName.ofHost_lax_of_strict _
  lax_named fd other := lax_ne_unnamed hk hkeeps fd host other
  refused hname fd := refused_of_unnamed hk hname fd
  connect service p _ hstrict hname :=
    have hunreached := unreached_connect hk hname service p hstrict
    ⟨hunreached, hunreached.still⟩

/-- With the grammar of host names, the path of a local socket is no name of a server. -/
theorem strict_fails_on_path : ∃ (w : World) (k : Tls.Keeper),
    (w.context .own).provider = .own k ∧ KeepsNames w.encryption.name? ∧
      w.encryption.name? (bare "/run/a.sock") = none ∧
        w.encryption.name? (bare "[::1]") ≠ none ∧ NamesHost k .own "/run/a.sock" w := by
  let w : World := { encryption := { name? := Engine.HostName.name? } }
  have hkeeps : KeepsNames Engine.HostName.name? :=
    ⟨fun _ _ => Engine.HostName.eq_of_name?, by decide +kernel⟩
  exact ⟨w, {}, rfl, hkeeps, by decide +kernel, by decide +kernel,
    strict_names_host_or_fails w .own {} rfl hkeeps _⟩

end Net

end Sockets
