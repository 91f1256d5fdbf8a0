import Sockets.Proofs.FilesRead
import Sockets.Tls.Negotiation

/-!
# Operations that keep aloof from files

What an operation does may have nothing to do with files: it does the same whatever files there are,
and opens none. A talk is such an operation, whatever the encryption library says in it, since it is
put together from sending, receiving and verdicts on certificates, and these are.

## Main definitions

* `Sockets.World.refiled` — the world with other files.
* `Sockets.Net.Blind` — an operation does the same whatever files there are.
* `Sockets.Net.Aloof` — it opens none either, and leaves the contexts.

## Main results

* `Sockets.Tls.Talk.aloof_run` — talks keep aloof.
* `Sockets.Net.aloof_establishClient`, `Sockets.Net.aloof_establishServer` — and so does all that
  comes after a provider has what it needs.
-/

set_option autoImplicit false

namespace Sockets

/-! ## Other files -/

namespace Kernel

/-- The kernel with other files. -/
def refiled (k : Kernel) (files : List (String × FileContent)) : Kernel := { k with files := files }

variable (k : Kernel) (files : List (String × FileContent)) (fd : Descriptor)

/-- The script of faults is not in files. -/
lemma takeFault_refiled (c : CallKind) :
    (k.refiled files).takeFault c = ((k.takeFault c).1, (k.takeFault c).2.refiled files) := by
  unfold takeFault refiled
  cases k.faults c <;> rfl

/-- To receive is not to look at files. -/
lemma receive_refiled (length : Nat) (flags : MessageFlags) (limit : Option Nat) :
    (k.refiled files).receive fd length flags limit =
      ((k.receive fd length flags limit).1, (k.receive fd length flags limit).2.refiled files) := by
  unfold receive socket? refiled
  dsimp only
  cases k.sockets.lookup fd <;> rfl

/-- To send is not to look at files. -/
lemma transmit_refiled (data : Bytes) (limit : Option Nat) :
    (k.refiled files).transmit fd data limit =
      ((k.transmit fd data limit).1, (k.transmit fd data limit).2.refiled files) := by
  unfold transmit socket? refiled
  dsimp only
  cases k.sockets.lookup fd with
  | none => rfl
  | some s =>
    dsimp only
    cases s.twin <;> rfl

/-- What a talk asks of the kernel has nothing to do with files.

**Proof sketch.** Receiving and sending look at sockets only, and so does taking a failure from the
script; the files stay beside. -/
lemma perform_refiled {c : Call} (h : c.kind ∈ Tls.speech) :
    (k.refiled files).perform c = ((k.perform c).1, (k.perform c).2.refiled files) := by
  have hanswer (k : Kernel) (limit : Option Nat) : (k.refiled files).answer limit c =
      ((k.answer limit c).1, (k.answer limit c).2.refiled files) := by
    cases c with
    | recv fd length flags => simp only [answer, receive_refiled]
    | sendmsg fd data _ _ => exact k.transmit_refiled files fd data limit
    | _ => simp [Tls.speech, Call.kind] at h
  have hstopped (k : Kernel) : (k.refiled files).stopped c = (k.stopped c).refiled files := by
    cases c <;> rfl
  simp only [perform, takeFault_refiled, hanswer, hstopped]
  split <;> rfl

end Kernel

/-- What files there are, and where they are looked for. -/
structure Filing where
  files : List (String × FileContent)
  /-- The credential file that the environment names. -/
  named : Option String
  /-- The files with the certificates of the machine. -/
  stores : List String

/-- The world with other files. -/
def World.refiled (w : World) (f : Filing) : World :=
  { w with
    kernel := w.kernel.refiled f.files
    credentialVariable := f.named
    nativeStores := f.stores }

/-! ## Keeping aloof -/

namespace Net

variable {α β ε : Type}

/-- An operation is blind to files: whatever files there are, it does the same. -/
def Blind (x : Net α) : Prop :=
  ∀ (w : World) (f : Filing), x (w.refiled f) = ((x w).1, (x w).2.refiled f)

/-- An operation keeps aloof from files and contexts: it is blind to files, it opens none, and
leaves the contexts. -/
structure Aloof (x : Net α) : Prop where
  blind : Blind x
  since : ∀ w : World, ∃ es : List Event, (∀ e ∈ es, e.file? = none) ∧ w.Since es (x w).2

namespace Blind

/-- To answer is to look at nothing. -/
lemma pure (a : α) : Blind (Pure.pure a : Net α) := fun _ _ => rfl

/-- One operation after another. -/
lemma bind {x : Net α} {f : α → Net β} (hx : Blind x) (hf : ∀ a, Blind (f a)) :
    Blind (x >>= f) := by
  intro w g
  show f (x (w.refiled g)).1 (x (w.refiled g)).2 = _
  rw [hx]
  exact hf _ _ g

/-- One operation that may fail after another. -/
lemma run_bind {x : Attempt ε α} {f : α → Attempt ε β} (hx : Blind x.run)
    (hf : ∀ a, Blind (f a).run) : Blind (x >>= f).run := by
  refine bind (x := x.run) (f := fun r => (ExceptT.bindCont f r : Net _)) hx fun r => ?_
  cases r with
  | ok a => exact hf a
  | error e => exact pure _

/-- What looks only at the encryption library, of all that surrounds it, is blind. -/
lemma setting_bind {f : Setting → Attempt ε α} (hf : ∀ s, Blind (f s).run)
    (hsame : ∀ s t : Setting, s.encryption = t.encryption → f s = f t) :
    Blind ((liftM setting : Attempt ε Setting) >>= f).run := by
  intro w g
  show (f (w.refiled g).toSetting).run (w.refiled g) = _
  rw [hsame (w.refiled g).toSetting w.toSetting rfl]
  exact hf _ w g

/-- A provider is put in place whatever files there are. -/
lemma keepProvider (scope : Scope) (p : Tls.Provider) : Blind (Net.keepProvider scope p) :=
  fun w g => by cases scope <;> rfl

end Blind

namespace Aloof

/-- To answer is to do nothing. -/
lemma pure (a : α) : Aloof (Pure.pure a : Net α) :=
  ⟨.pure a, fun w => ⟨[], List.forall_mem_nil _, .refl w⟩⟩

/-- One operation after another. -/
lemma bind {x : Net α} {f : α → Net β} (hx : Aloof x) (hf : ∀ a, Aloof (f a)) :
    Aloof (x >>= f) := by
  refine ⟨hx.blind.bind fun a => (hf a).blind, fun w => ?_⟩
  obtain ⟨es, hes, hw⟩ := hx.since w
  obtain ⟨later, hlater, hw'⟩ := (hf (x w).1).since (x w).2
  exact ⟨es ++ later, List.forall_mem_append.2 ⟨hes, hlater⟩, hw.trans hw'⟩

/-- To fail is to do nothing. -/
lemma run_throw (e : ε) : Aloof (throw e : Attempt ε α).run :=
  pure (Except.error e : Except ε α)

/-- An operation that may fail after one that does not. -/
lemma run_lift_bind {x : Net α} {f : α → Attempt ε β} (hx : Aloof x) (hf : ∀ a, Aloof (f a).run) :
    Aloof ((liftM x : Attempt ε α) >>= f).run :=
  hx.bind hf

/-- What looks only at the encryption library, of all that surrounds it, keeps aloof. -/
lemma setting_bind {f : Setting → Attempt ε α} (hf : ∀ s, Aloof (f s).run)
    (hsame : ∀ s t : Setting, s.encryption = t.encryption → f s = f t) :
    Aloof ((liftM setting : Attempt ε Setting) >>= f).run :=
  ⟨.setting_bind (fun s => (hf s).blind) hsame, fun w => (hf w.toSetting).since w⟩

/-- Log records. -/
lemma record (level : Level) (message : String) : Aloof (Net.record level message) :=
  ⟨fun _ _ => rfl,
    fun w => ⟨[], List.forall_mem_nil _, World.Since.leads_record level message w (.refl w)⟩⟩

/-- System calls of a talk. -/
lemma syscall {c : Call} (hc : c.kind ∈ Tls.speech) : Aloof (Net.syscall c) := by
  refine ⟨fun w f => ?_, fun w => ⟨_, ?_, World.Since.leads_syscall c w (.refl w)⟩⟩
  · simp only [Net.syscall, World.refiled, Kernel.perform_refiled _ _ hc]
  · rintro e (_ | ⟨_, ⟨⟩⟩)
    cases c with
    | openFile path => simp [Tls.speech, Call.kind] at hc
    | _ => rfl

/-- A note of what was done to a session. -/
lemma note (fd : Descriptor) (c : TlsCall) (outcome : TlsOutcome) :
    Aloof (Net.note (.tls fd c outcome)) := by
  refine ⟨fun _ _ => rfl, fun w => ⟨[.tls fd c outcome], fun e he => ?_, ?_⟩⟩
  · rw [List.mem_singleton.1 he]
    rfl
  · exact ⟨w.actions_noting _, fun scope => by cases scope <;> rfl, rfl⟩

/-- Numbers of connections. -/
lemma numberConnection : Aloof Net.numberConnection :=
  ⟨fun _ _ => rfl, fun _ => ⟨[], List.forall_mem_nil _, (List.append_nil _).symm,
    fun scope => by cases scope <;> rfl, rfl⟩⟩

end Aloof

end Net

/-! ## Talks -/

namespace Tls

open Net (Aloof)

/-- Verdicts on certificates. -/
lemma Verifier.aloof_ask (verifier : Verifier) (name : ServerName) (chain : List Bytes) :
    Aloof (verifier.ask name chain) := by
  cases verifier with
  | acceptAny => exact .bind (.record _ _) fun _ => .pure _
  | trusting anchors => exact ⟨fun _ _ => rfl, fun w => ⟨[], List.forall_mem_nil _, .refl w⟩⟩

/-- **A talk keeps aloof**, if the verdicts in it do.

**Proof sketch.** By induction on the talk. What it sends and receives are calls of its own kinds,
and its verdicts keep aloof (`hask`). -/
theorem Talk.aloof_run (fd : Descriptor) {ask : List Bytes → Net (Except TlsFault Unit)}
    (hask : ∀ chain, Aloof (ask chain)) (talk : Talk) : Aloof (talk.run fd ask) := by
  induction talk with
  | ended result => exact .pure result
  | send octets next ih => exact .bind (.syscall (by simp [speech, Call.kind])) ih
  | receive length next ih => exact .bind (.syscall (by simp [speech, Call.kind])) ih
  | verify chain next ih => exact .bind (hask chain) ih

end Tls

namespace Net

open Tls

variable {fd : Descriptor}

/-- A talk that comes to a session. -/
lemma aloof_establish {ask : List Bytes → Net (Except TlsFault Unit)}
    (hask : ∀ chain, Aloof (ask chain)) (c : TlsCall) (message : String)
    (talk : Except TlsFault Talk) : Aloof (establish fd c ask message talk).run := by
  cases talk with
  | error f => exact .run_throw _
  | ok talk =>
    refine .run_lift_bind (talk.aloof_run fd hask) fun result => ?_
    cases result with
    | error f => exact .run_throw _
    | ok s =>
      exact .run_lift_bind (.note _ _ _) fun _ => .run_lift_bind (.record _ _) fun _ => .pure _

/-- **A client** keeps aloof from files once its provider has what it needs.

**Proof sketch.** Files are no part of what surrounds a talk. Where there is a name the connection
is numbered, and establishing it is the talk with the verdicts of a verifier, which keep aloof. -/
theorem aloof_establishClient (fd : Descriptor) (host : String) (strict : Bool)
    (verifier : Verifier) : Aloof (establishClient fd host strict verifier).run := by
  refine .setting_bind (fun s => ?_) fun s t hst => by dsimp only; rw [hst]
  dsimp only
  cases ServerName.ofHost s.encryption.name? host strict with
  | none => exact .run_throw _
  | some name =>
    exact .run_lift_bind .numberConnection fun number =>
      aloof_establish (verifier.aloof_ask name) _ _ _

/-- **A server** keeps aloof from files once its provider has what it needs. -/
theorem aloof_establishServer (fd : Descriptor) (credential : Credential) :
    Aloof (establishServer fd credential).run := by
  refine .setting_bind (fun s => ?_) fun s t hst => by dsimp only; rw [hst]
  exact .run_lift_bind .numberConnection fun _ => aloof_establish (fun _ => .pure _) _ _ _

end Net

end Sockets
