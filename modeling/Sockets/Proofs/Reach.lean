import Sockets.Proofs.Composition

/-!
# How far operations reach

Most operations make system calls of few kinds. Reading files, looking services and hosts up,
finding interfaces and the talk of an encrypted connection open no descriptor, close none and join
no group; this module says what each of them is made of.

## Main definitions

* `Sockets.Interface.queries`, `Sockets.Tls.speech` — the kinds of calls that find an interface, and
  those of a handshake.

## Main results

* `Sockets.Net.made_readFile`, `Sockets.Tls.Keeper.made_verifierFor`,
  `Sockets.Tls.Keeper.made_credentialFor` — what is built from files takes opening files.
* `Sockets.Opening.made_candidates` — candidates take the name service.
* `Sockets.Interface.made_forIpv4`, `Sockets.Interface.made_forIpv6` — interfaces take queries
  about interfaces.
* `Sockets.Tls.Talk.only_run` — a handshake takes sending and receiving.
-/

set_option autoImplicit false

namespace Sockets

/-! ## Files -/

namespace Net

/-- To refuse is to write a record. -/
lemma made_refuse {ε α : Type} {kinds : List CallKind} (level : Level) (message : String) (e : ε) :
    Made kinds (refuse (α := α) level message e).run :=
  .run_bind (.run_lift (.record _ _)) fun _ => .run_throw e

/-- To fail because of a system call is to write a record. -/
lemma made_systemFailure {α : Type} {kinds : List CallKind} (context : String) (f : Fault) :
    Made kinds (systemFailure (α := α) context f).run :=
  made_refuse _ _ _

/-- To make a system call that has to succeed is to make that call. -/
lemma made_require {kinds : List CallKind} (context : String) (c : Call) (h : c.kind ∈ kinds) :
    Made kinds (require context c).run := by
  refine .run_bind (.run_lift (.syscall c h)) fun r => ?_
  cases r with
  | ok answer => exact .run_pure answer
  | error n => exact made_systemFailure _ _

/-- The context of a scope is looked up aside. -/
lemma only_context {p : Event → Prop} (scope : Scope) : Only p (context scope) :=
  .aside fun w => by cases scope <;> exact ⟨rfl, rfl⟩

/-- Closing a descriptor that belongs to no handle takes that call. -/
lemma made_discard {kinds : List CallKind} (fd : Descriptor) (h : .close ∈ kinds) :
    Made kinds (discard fd) :=
  .bind (.syscall _ h) fun _ => .pure ()

/-- Reading a file takes opening it. -/
lemma made_readFile (path : String) : Made [.openFile] (readFile path).run := by
  unfold readFile
  dsimp only
  split
  · exact .run_throw_bind _ _
  · refine .run_bind (.run_lift (.syscall _ (List.mem_singleton.2 rfl))) fun r => ?_
    cases r with
    | ok content => exact .run_pure _
    | error n => exact .run_throw _

end Net

namespace Tls

open Net (Made)

namespace Credential

/-- Reading certificates or keys takes opening their file. -/
lemma made_read (path : String) : Made [.openFile] (read path).run :=
  .run_outcome (Net.made_readFile path) (fun _ => .run_pure _) fun _ => .run_throw _

/-- Loading a credential takes opening its file. -/
lemma made_load (path : String) : Made [.openFile] (load path).run :=
  .run_bind (.run_lift .setting) fun _ => .run_bind (made_read path) fun _ => .run_ofExcept _

end Credential

namespace Anchors

/-- Reading files takes opening these. -/
lemma made_readAll (paths : List String) : Made [.openFile] (readAll paths) := by
  induction paths with
  | nil => exact .pure _
  | cons path rest ih => exact .bind (Net.made_readFile path) fun _ => .bind ih fun _ => .pure _

/-- Warnings are records. -/
lemma made_warnAll {kinds : List CallKind} (texts : List String) : Made kinds (warnAll texts) := by
  induction texts with
  | nil => exact .pure ()
  | cons text rest ih => exact .bind (.record _ _) fun _ => ih

/-- What is trusted of the machine takes opening the files of its certificates. -/
lemma made_machine : Made [.openFile] machine :=
  .bind .setting fun _ => .bind (made_readAll _) fun _ => .bind (made_warnAll _) fun _ =>
    .bind (.record _ _) fun _ => .pure _

/-- What is trusted of a further file takes opening it. -/
lemma made_further (path : String) : Made [.openFile] (further path).run := by
  refine .run_bind (.run_lift .setting) fun s => ?_
  refine .run_bind (.run_adapt _ (Credential.made_read path)) fun file => ?_
  dsimp only
  split
  · exact .run_bind (.run_pure _) fun _ => .run_ofExcept _
  · exact .run_throw_bind _ _

/-- What is trusted of further files takes opening these. -/
lemma made_furtherAll (paths : List String) :
    Made [.openFile] (furtherAll paths).run := by
  induction paths with
  | nil => exact .run_pure _
  | cons path rest ih =>
    exact .run_bind (made_further path) fun _ => .run_bind ih fun _ => .run_pure _

/-- What strict clients trust takes opening files. -/
lemma made_all (config : TlsConfig) : Made [.openFile] (all config).run := by
  refine .run_bind (.run_lift .setting) fun s => ?_
  dsimp only
  split
  · exact .run_bind (.run_lift made_machine) fun _ =>
      .run_bind (made_furtherAll _) fun _ => .run_pure _
  · exact .run_bind (.run_pure _) fun _ =>
      .run_bind (made_furtherAll _) fun _ => .run_pure _

end Anchors

/-- To look for the versions of the protocol is to do nothing. -/
lemma made_requireVersions {kinds : List CallKind} : Made kinds requireVersions.run := by
  refine .run_bind (.run_lift .setting) fun s => ?_
  split
  · exact .run_pure _
  · exact .run_throw _

/-- To approve of a credential takes no system call. -/
lemma Credential.made_approve {kinds : List CallKind} (library : Library) (path : String)
    (credential : Credential) : Made kinds (Credential.approve library path credential).run := by
  refine .run_bind made_requireVersions fun _ => ?_
  split
  · split
    · exact Net.made_refuse _ _ _
    · exact .run_throw _
  · exact .run_bind (.run_lift (.record _ _)) fun _ => .run_pure _

namespace Keeper

/-- Building how clients verify takes opening files. -/
lemma made_buildClient (k : Keeper) (strict : Bool) :
    Made [.openFile] (k.buildClient strict).run := by
  refine .run_bind made_requireVersions fun _ => ?_
  cases strict with
  | true => exact .run_bind (Anchors.made_all _) fun _ => .run_pure _
  | false => exact .run_pure _

/-- How clients verify takes opening files, if it was not built yet. -/
lemma made_verifierFor (k : Keeper) (strict : Bool) :
    Made [.openFile] (k.verifierFor strict).run := by
  unfold verifierFor
  split
  · exact .run_pure _
  · exact .run_bind (k.made_buildClient strict) fun _ => .run_pure _

/-- Building what servers show takes opening files. -/
lemma made_buildServer (k : Keeper) : Made [.openFile] k.buildServer.run := by
  refine .run_bind (.run_lift .setting) fun s => ?_
  exact .run_outcome (Credential.made_load _) (fun _ => Credential.made_approve _ _ _)
    fun _ => Net.made_refuse _ _ _

/-- What servers show takes opening files, if it was not built yet. -/
lemma made_credentialFor (k : Keeper) : Made [.openFile] k.credentialFor.run := by
  unfold credentialFor
  split
  · exact .run_pure _
  · exact .run_bind k.made_buildServer fun _ => .run_pure _

end Keeper

end Tls

/-! ## Services and hosts -/

namespace Net

/-- Looking a service up takes no system call. -/
lemma made_servicePort? (name protocol : String) : Made [] (servicePort? name protocol) :=
  .bind .serviceTable fun _ => .pure _

end Net

namespace System

open Net (Made)

/-- The port of a named service takes no system call. -/
lemma made_namedPort (service transport : String) :
    Made [] (namedPort service transport).run := by
  refine .run_bind (.run_lift (Net.made_servicePort? _ _)) fun found => ?_
  cases found with
  | some port => exact .run_pure _
  | none =>
    dsimp only
    split
    · refine .run_bind (.run_lift (Net.made_servicePort? _ _)) fun second => ?_
      cases second with
      | some port => exact .run_pure _
      | none => exact .run_throw _
    · exact .run_throw _

/-- The port of a service takes no system call. -/
lemma made_port (service : Option String) (hints : Hints) :
    Made [] (port service hints).run := by
  unfold port
  split
  · exact .run_pure _
  split
  · exact .run_pure _
  split
  · exact .run_pure _
  · exact made_namedPort _ _

/-- The addresses of a host take the name service.

**Proof sketch.** The one call is to the name service, and what it answers is only looked at. -/
lemma made_namedAddresses (host : String) (family : Option Family) :
    Made [.getaddrinfo] (namedAddresses host family).run := by
  unfold namedAddresses
  dsimp only
  split
  · exact .run_throw_bind _ _
  refine .run_bind (.run_lift (.syscall _ (List.mem_singleton.2 rfl))) fun r => ?_
  cases r with
  | error n => exact .run_throw _
  | ok answer =>
    dsimp only
    split
    · exact .run_throw _
    split
    · exact .run_throw _
    · exact .run_pure _

/-- The addresses of a host take the name service at most. -/
lemma made_addresses (host : Option String) (hints : Hints) :
    Made [.getaddrinfo] (addresses host hints).run := by
  unfold addresses
  dsimp only
  split
  · split
    · exact .run_pure _
    · exact .run_throw _
  split
  · split
    · exact .run_pure _
    · exact .run_throw _
  · exact made_namedAddresses _ _

/-- The candidates of a query take the name service at most. -/
lemma made_resolve (q : Query) : Made [.getaddrinfo] (resolve q).run := by
  unfold resolve
  dsimp only
  split
  · exact .run_throw_bind _ _
  refine .run_bind (.run_ofExcept _) fun types => ?_
  refine .run_bind ((made_port _ _).widen (List.nil_subset _)) fun port => ?_
  exact .run_bind (made_addresses _ _) fun ips => .run_pure _

end System

/-- Asking the resolver of a context takes the name service at most. -/
lemma Net.made_resolve (scope : Scope) (q : Query) :
    Net.Made [.getaddrinfo] (Net.resolve scope q).run := by
  refine .run_bind (.run_lift (.context scope)) fun c => ?_
  split
  · exact System.made_resolve q
  · exact .run_bind (.run_lift (.query q)) fun _ => .takeAnswer _ _

namespace Opening

open Net (Made)

/-- The candidates for opening take the name service at most. -/
lemma made_candidates (scope : Scope) (host : Option String) (service : String) (hints : Hints) :
    Made [.getaddrinfo] (candidates scope host service hints).run := by
  refine .run_outcome (Net.made_resolve _ _) (fun found => ?_) fun _ => Net.made_refuse _ _ _
  cases found with
  | nil => exact Net.made_refuse _ _ _
  | cons c rest => exact .run_pure _

/-- The address of a local socket takes no system call. -/
lemma made_localAddress (path : String) : Made [] (localAddress path).run := by
  unfold localAddress
  split
  · exact .run_pure _
  · exact Net.made_systemFailure _ _

/-- To say that every candidate failed takes no system call. -/
lemma made_exhausted {α : Type} (operation : String) (host : Option String) (service : String)
    (last : Option Fault) :
    Made [] (exhausted (α := α) operation host service last).run :=
  Net.made_refuse _ _ _

end Opening

/-! ## Interfaces -/

namespace Interface

open Net (Made)

/-- The kinds of system calls that find an interface. -/
def queries : List CallKind := [.interfaceIndex, .interfaceNames, .interfaceAddresses]

/-- The index of an interface takes queries about interfaces. -/
lemma made_indexOf (name : String) : Made queries (indexOf name).run := by
  unfold indexOf
  dsimp only
  split
  · exact Net.made_refuse _ _ _
  refine .run_bind (.run_lift (.syscall _ (by simp [queries, Call.kind]))) fun r => ?_
  cases r with
  | error n => exact Net.made_refuse _ _ _
  | ok index =>
    dsimp only
    split
    · exact Net.made_refuse _ _ _
    · exact .run_pure _

/-- The name of an interface takes queries about interfaces. -/
lemma made_nameOf (index : UInt32) : Made queries (nameOf index).run := by
  refine .run_bind (.run_lift (.syscall _ (by simp [queries, Call.kind]))) fun r => ?_
  cases r with
  | error n => exact Net.made_refuse _ _ _
  | ok names =>
    dsimp only
    split
    · exact .run_pure _
    · exact Net.made_refuse _ _ _

/-- The address of an interface takes queries about interfaces. -/
lemma made_addressOf (name : String) : Made queries (addressOf name).run := by
  refine .run_bind (.run_lift (.syscall _ (by simp [queries, Call.kind]))) fun r => ?_
  cases r with
  | error n => exact Net.made_refuse _ _ _
  | ok addresses =>
    dsimp only
    split
    · exact .run_pure _
    · exact Net.made_refuse _ _ _

/-- What the kernel is told of an interface takes queries about interfaces. -/
lemma made_forIpv4 (i : Interface) : Made queries i.forIpv4.run := by
  cases i with
  | any => exact .run_pure _
  | named name =>
    exact .run_bind (made_indexOf name) fun _ =>
      .run_bind (made_addressOf name) fun _ => .run_pure _
  | numbered index =>
    exact .run_bind (made_nameOf index) fun name =>
      .run_bind (made_addressOf name) fun _ => .run_pure _

/-- What the kernel is told of an interface takes queries about interfaces. -/
lemma made_forIpv6 (i : Interface) : Made queries i.forIpv6.run := by
  cases i with
  | any => exact .run_pure _
  | named name => exact made_indexOf name
  | numbered index => exact .run_bind (made_nameOf index) fun _ => .run_pure _

end Interface

/-! ## Handshakes -/

namespace Tls

open Event (Within)
open Net (Only)

/-- The kinds of system calls that a handshake takes. -/
def speech : List CallKind := [.recv, .sendmsg]

/-- A verdict on certificates takes no calls. -/
lemma Verifier.only_ask {kinds : List CallKind} (verifier : Verifier) (name : ServerName)
    (chain : List Bytes) : Only (Within kinds) (verifier.ask name chain) := by
  cases verifier with
  | acceptAny => exact .bind (.record _ _) fun _ => .pure _
  | trusting anchors =>
    refine .bind (.aside fun _ => ⟨rfl, rfl⟩) fun s => ?_
    exact .bind (.aside fun _ => ⟨rfl, rfl⟩) fun _ => .pure _

/-- A talk sends and receives, beside what the verdicts in it take. -/
lemma Talk.only_run (fd : Descriptor) {ask : List Bytes → Net (Except TlsFault Unit)}
    (hask : ∀ chain, Only (Within speech) (ask chain)) (talk : Talk) :
    Only (Within speech) (talk.run fd ask) := by
  induction talk with
  | ended result => exact .pure result
  | send octets next ih => exact .bind (.syscall _ (by simp [speech, Call.kind])) ih
  | receive length next ih => exact .bind (.syscall _ (by simp [speech, Call.kind])) ih
  | verify chain next ih => exact .bind (hask chain) ih

end Tls

end Sockets
