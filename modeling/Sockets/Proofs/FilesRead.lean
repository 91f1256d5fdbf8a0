import Sockets.Proofs.Reach
import Sockets.Proofs.TeardownOrder

/-!
# What is read to build from files

What a provider of sessions builds, it builds from files: what strict clients trust, and what a
server shows. This module says which files are read for that, in which order, and that what is built
is a function of what they held, whatever the encryption library makes of that. So it separates the
reading, which is events in the journal, from what is made of it, which looks at the world no more.

## Main definitions

* `Sockets.Net.Reads`, `Sockets.Net.AllRead` — a file is read, and what came of it; and the same of
  several.
* `Sockets.Tls.Credential.ofRead`, `Sockets.Tls.Anchors.ofRead`, `Sockets.Tls.Anchors.ofNative` —
  what is made of what was read.
* `Sockets.Tls.Anchors.ReadThrough` — files are read up to the first that is bad.
* `Sockets.Tls.RootsRead`, `Sockets.Tls.CredentialRead` — all that is read for strict clients, and
  for servers.

## Main results

* `Sockets.Tls.RootsRead.files_eq` — files are read in order, all of them if none is bad.
* `Sockets.Tls.Anchors.reads_all`, `Sockets.Tls.Keeper.reads_buildServer` — building is reading, and
  a function of what was read.
-/

set_option autoImplicit false

namespace Sockets

open Net (Leads)

/-! ## Files -/

/-- The file that an event opens, or asks for in vain. -/
def Event.file? : Event → Option String
  | call (.openFile path) _ => some path
  | _ => none

namespace Net

/-- Whether reading a file asks the kernel for it: every path but one that no file can have. -/
def opens (path : String) : Bool := !path.toList.contains '\x00'

/-- A file is read, by these events, and this came of it: either the kernel was asked for it, or it
was a path that no file can have. -/
inductive Reads (path : String) : List Event → Except Fault Bytes → Prop
  | unopened (h : opens path = false) : Reads path [] (.error nulInPath)
  | refused {n : Int} (h : opens path = true) :
    Reads path [.call (.openFile path) (.error n)] (.error (.os n))
  | opened {content : Bytes} (h : opens path = true) :
    Reads path [.call (.openFile path) (.ok content)] (.ok content)

/-- Files are read one after the other, by these events, and this came of each. -/
inductive AllRead : List String → List Event → List (String × Except Fault Bytes) → Prop
  | done : AllRead [] [] []
  | more {path : String} {rest : List String} {es later : List Event} {read : Except Fault Bytes}
    {files : List (String × Except Fault Bytes)} (hread : Reads path es read)
    (hrest : AllRead rest later files) :
    AllRead (path :: rest) (es ++ later) ((path, read) :: files)

/-- Reading a file opens it, unless it is a path that no file can have. -/
lemma Reads.files_eq {path : String} {es : List Event} {read : Except Fault Bytes}
    (h : Reads path es read) : es.filterMap Event.file? = [path].filter opens := by
  cases h with
  | unopened h => simp [h]
  | refused h | opened h => simp [h, Event.file?]

/-- What is opened of some files comes before what is opened of others. -/
lemma filter_opens_cons (path : String) (rest : List String) :
    (path :: rest).filter opens = [path].filter opens ++ rest.filter opens :=
  List.filter_append [path] rest

/-- Reading files opens them in order. -/
lemma AllRead.files_eq {paths : List String} {es : List Event}
    {files : List (String × Except Fault Bytes)} (h : AllRead paths es files) :
    es.filterMap Event.file? = paths.filter opens := by
  induction h with
  | done => rfl
  | more hread _ ih => rw [List.filterMap_append, hread.files_eq, ih, ← filter_opens_cons]

/-- What comes of reading a file.

**Proof sketch.** A path with a null in it is not opened. Any other takes one call, which gives the
content or refuses. -/
lemma reads_readFile {u : World} {es : List Event} (path : String) :
    Leads (u.Since es) (readFile path).run fun r w =>
      ∃ here, Reads path here r ∧ u.Since (es ++ here) w := by
  unfold readFile
  dsimp only
  split
  · rename_i hnul
    refine .run_throw_bind _ fun w hw => ⟨[], .unopened (by simpa [opens] using hnul), ?_⟩
    rwa [List.append_nil]
  · rename_i hnul
    have hopens : opens path = true := by simpa [opens] using hnul
    refine .run_lift_bind (World.Since.leads_syscall _) fun r => ?_
    cases r with
    | ok content => exact .run_pure _ fun w hw => ⟨_, .opened hopens, hw⟩
    | error n => exact .run_throw _ fun w hw => ⟨_, .refused hopens, hw⟩

end Net

/-- The files with certificates for strict clients, in order, as far as there can be such files:
those of the machine come first, if they are to be trusted. -/
def TlsConfig.rootFiles (config : TlsConfig) (stores : List String) : List String :=
  ((if config.nativeRoots then stores else []) ++ config.extraRoots).filter Net.opens

namespace Tls

open Net (Reads AllRead)

/-! ## What is made of what was read -/

/-- A credential with which a server can work: the versions of the protocol have to be there, and
then the library has to accept it. -/
def Credential.approved (library : Library) (path : String) (credential : Credential) :
    Except TlsError Credential :=
  match library.versions, library.certify credential with
  | .error f, _ => .error (.config f)
  | .ok (), .error f =>
    .error (if f.isInconsistent then .credential (.mismatch path f) else .config f)
  | .ok (), .ok () => .ok credential

/-- The credential of a server that has read its file. -/
def Credential.ofRead (library : Library) (path : String) (read : Except Fault Bytes) :
    Except TlsError Credential := do
  let file ← read.mapError fun f => .credential (.inaccessible path f)
  let credential ← (Credential.ofFile library path file).mapError .credential
  approved library path credential

namespace Anchors

/-- What is trusted of a further file that was read. -/
def ofRead (library : Library) (path : String) (read : Except Fault Bytes) :
    Except TlsError (List Anchor) := do
  let file ← read.mapError fun f => .credential (.inaccessible path f)
  let certificates ← (Credential.certificatesIn library path file).mapError .credential
  ofCertificates library certificates

/-- What is trusted of the machine whose files were read. -/
def ofNative (library : Library) (files : List (String × Except Fault Bytes)) : List Anchor :=
  parsable library (library.native files).1

/-- Further files are read, by these events, up to the first that is bad; what is trusted is what
all of them say. -/
inductive ReadThrough (library : Library) :
    List String → List Event → Except TlsError (List Anchor) → Prop
  | done : ReadThrough library [] [] (.ok [])
  | bad {path : String} {rest : List String} {es : List Event} {read : Except Fault Bytes}
    {e : TlsError} (hread : Reads path es read) (h : ofRead library path read = .error e) :
    ReadThrough library (path :: rest) es (.error e)
  | good {path : String} {rest : List String} {es later : List Event}
    {read : Except Fault Bytes} {here : List Anchor} {r : Except TlsError (List Anchor)}
    (hread : Reads path es read) (h : ofRead library path read = .ok here)
    (hrest : ReadThrough library rest later r) :
    ReadThrough library (path :: rest) (es ++ later) (r.map (here ++ ·))

end Anchors

/-- All that is read for strict clients, by these events, and what they trust: what is trusted
everywhere, then the certificates of the machine, if they are to be trusted, and then the further
files. Nothing is read if the versions of the protocol are not there. -/
inductive RootsRead (s : Setting) (config : TlsConfig) :
    List Event → Except TlsError (List Anchor) → Prop
  | unversioned {f : TlsFault} (hversions : s.encryption.versions = .error f) :
    RootsRead s config [] (.error (.config f))
  | alone {es : List Event} {r : Except TlsError (List Anchor)}
    (hversions : s.encryption.versions = .ok ()) (h : config.nativeRoots = false)
    (hfurther : Anchors.ReadThrough s.encryption config.extraRoots es r) :
    RootsRead s config es (r.map (s.encryption.publicAnchors ++ ·))
  | native {es later : List Event} {files : List (String × Except Fault Bytes)}
    {r : Except TlsError (List Anchor)} (hversions : s.encryption.versions = .ok ())
    (h : config.nativeRoots = true) (hread : AllRead s.nativeStores es files)
    (hfurther : Anchors.ReadThrough s.encryption config.extraRoots later r) :
    RootsRead s config (es ++ later) (r.map
      (s.encryption.publicAnchors ++ Anchors.ofNative s.encryption files ++ ·))

/-- The file of a credential is read, by these events, and this is what the server shows. -/
inductive CredentialRead (s : Setting) (path : String) :
    List Event → Except TlsError Credential → Prop
  | read {es : List Event} {read : Except Fault Bytes} (hread : Reads path es read) :
    CredentialRead s path es (Credential.ofRead s.encryption path read)

/-! ### Which files are opened -/

variable {s : Setting} {config : TlsConfig} {path : String} {es : List Event}

/-- Further files are read in order, all of them if none is bad. -/
lemma Anchors.ReadThrough.files_eq {library : Library} {paths : List String}
    {r : Except TlsError (List Anchor)} (h : ReadThrough library paths es r) :
    es.filterMap Event.file? <+: paths.filter Net.opens ∧
      (r.isOk = true → es.filterMap Event.file? = paths.filter Net.opens) := by
  induction h with
  | done => exact ⟨List.prefix_rfl, fun _ => rfl⟩
  | @bad path rest _ _ _ hread _ =>
    rw [hread.files_eq, Net.filter_opens_cons path rest]
    exact ⟨List.prefix_append .., nofun⟩
  | @good path rest _ _ _ _ r hread _ _ ih =>
    rw [List.filterMap_append, hread.files_eq, Net.filter_opens_cons path rest]
    refine ⟨(List.prefix_append_right_inj _).2 ih.1, fun hok => ?_⟩
    rw [ih.2 (by cases r <;> exact hok)]

/-- **The files for strict clients** are read in order, all of them if none is bad.

**Proof sketch.** By what was read. Without the versions no file is read. The stores of the machine
come first if they are asked for, and are read whatever is in them; the further files come behind,
up to the first that is bad. -/
lemma RootsRead.files_eq {r : Except TlsError (List Anchor)} (h : RootsRead s config es r) :
    es.filterMap Event.file? <+: config.rootFiles s.nativeStores ∧
      (r.isOk = true → es.filterMap Event.file? = config.rootFiles s.nativeStores) := by
  cases h with
  | unversioned => exact ⟨List.nil_prefix, nofun⟩
  | @alone _ r _ h hfurther =>
    rw [TlsConfig.rootFiles, h]
    refine hfurther.files_eq.imp_right fun hall hok => hall ?_
    cases r <;> exact hok
  | @native _ _ _ r _ h hread hfurther =>
    rw [TlsConfig.rootFiles, if_pos h, List.filterMap_append, hread.files_eq, List.filter_append]
    refine ⟨(List.prefix_append_right_inj _).2 hfurther.files_eq.1, fun hok => ?_⟩
    rw [hfurther.files_eq.2 (by cases r <;> exact hok)]

/-- The file of a credential is read once. -/
lemma CredentialRead.files_eq {r : Except TlsError Credential} (h : CredentialRead s path es r) :
    es.filterMap Event.file? = [path].filter Net.opens := by
  cases h with
  | read hread => exact hread.files_eq

/-! ## Building -/

variable {u : World}

/-- What surrounds the library, as it has been all the while. -/
lemma since_setting :
    Leads (u.Since es) Net.setting fun found w => found = u.toSetting ∧ u.Since es w :=
  fun _ hw => ⟨hw.setting_eq, hw⟩

/-- The versions of the protocol are there, or it is an error that they are not. -/
lemma since_requireVersions :
    Leads (u.Since es) requireVersions.run fun r w =>
      r = u.encryption.versions.mapError .config ∧ u.Since es w := by
  refine .run_lift_bind since_setting fun found => .of_and ?_
  rintro rfl
  split
  · rename_i h
    exact .run_pure _ fun w hw => ⟨by rw [h]; rfl, hw⟩
  · rename_i f h
    exact .run_throw _ fun w hw => ⟨by rw [h]; rfl, hw⟩

namespace Credential

/-- Reading certificates or keys is reading their file. -/
lemma reads_read (path : String) :
    Leads (u.Since es) (read path).run fun r w => ∃ here file, Reads path here file ∧
      r = file.mapError (.inaccessible path) ∧ u.Since (es ++ here) w := by
  refine .run_lift_bind (Net.reads_readFile path) fun r => ?_
  cases r with
  | ok file => exact .run_pure file fun w ⟨here, hread, hw⟩ => ⟨here, _, hread, rfl, hw⟩
  | error f => exact .run_throw _ fun w ⟨here, hread, hw⟩ => ⟨here, _, hread, rfl, hw⟩

/-- Loading a credential is reading its file. -/
lemma reads_load (path : String) :
    Leads (u.Since es) (load path).run fun r w => ∃ here file, Reads path here file ∧
      r = (do
        let content ← file.mapError (.inaccessible path)
        ofFile u.encryption path content) ∧ u.Since (es ++ here) w := by
  refine .run_lift_bind since_setting fun found => .of_and ?_
  rintro rfl
  refine .run_bind (reads_read path) (fun content => ?_) ?_
  · rintro w ⟨here, file, hread, hfile, hw⟩
    refine ⟨here, file, hread, ?_, hw⟩
    rw [← hfile]
    rfl
  · rintro e w ⟨here, file, hread, hfile, hw⟩
    refine ⟨here, file, hread, ?_, hw⟩
    rw [← hfile]
    rfl

end Credential

namespace Anchors

/-- Reading files is reading each of them. -/
lemma reads_readAll (paths : List String) :
    Leads (u.Since es) (readAll paths) fun files w =>
      ∃ here, AllRead paths here files ∧ u.Since (es ++ here) w := by
  -- The actions before are generalised, since each file adds its own to them.
  induction paths generalizing es with
  | nil => exact .pure _ fun w hw => ⟨[], .done, by rwa [List.append_nil]⟩
  | cons path rest ih =>
    refine .bind (Net.reads_readFile path)
      fun file => .of_exists fun here => .of_and fun hread => ?_
    refine .bind ih fun files => .pure _ ?_
    rintro w ⟨later, hrest, hw⟩
    exact ⟨here ++ later, .more hread hrest, by rwa [← List.append_assoc]⟩

/-- Warnings are no actions. -/
lemma since_warnAll (texts : List String) :
    Leads (u.Since es) (warnAll texts) fun _ => u.Since es := by
  induction texts with
  | nil => exact .pure _ fun _ hw => hw
  | cons text rest ih => exact .bind (World.Since.leads_record _ _) fun _ => ih

/-- What is trusted of the machine is what its files say. -/
lemma reads_machine :
    Leads (u.Since es) machine fun anchors w => ∃ here files, AllRead u.nativeStores here files ∧
      anchors = ofNative u.encryption files ∧ u.Since (es ++ here) w := by
  refine .bind since_setting fun found => .of_and ?_
  rintro rfl
  refine .bind (reads_readAll _) fun files => .of_exists fun here => .of_and fun hread => ?_
  refine .bind (since_warnAll _) fun _ => .bind (World.Since.leads_record _ _) fun _ => ?_
  exact .pure _ fun w hw => ⟨here, files, hread, rfl, hw⟩

/-- What is trusted of a further file is what it says.

**Proof sketch.** Reading either fails, and then the file says nothing, or gives its content.
Certificates are looked for in that, and every one of them has to be taken for what is trusted. -/
lemma reads_further (path : String) :
    Leads (u.Since es) (further path).run fun r w => ∃ here file, Reads path here file ∧
      r = ofRead u.encryption path file ∧ u.Since (es ++ here) w := by
  have hread : Leads (u.Since es) (ExceptT.adapt TlsError.credential (Credential.read path)).run
      fun r w => ∃ here file, Reads path here file ∧
        r = file.mapError (fun f => TlsError.credential (.inaccessible path f)) ∧
          u.Since (es ++ here) w := by
    refine .run_adapt _ ((Credential.reads_read path).weaken (fun _ hw => hw) ?_)
    rintro _ w ⟨here, file, hread, rfl, hw⟩
    exact ⟨here, file, hread, by cases file <;> rfl, hw⟩
  refine .run_lift_bind since_setting fun found => .of_and ?_
  rintro rfl
  refine .run_bind hread (fun content => .of_exists fun here => .of_exists fun file =>
    .of_and fun hread => .of_and fun hfile => ?_) ?_
  · have hmade : ofRead u.encryption path file =
        (Credential.certificatesIn u.encryption path content).mapError TlsError.credential >>=
          ofCertificates u.encryption := by
      rw [ofRead, ← hfile]
      rfl
    dsimp only
    split
    · rename_i certificates hcertificates
      rw [hcertificates] at hmade
      exact fun w hw => ⟨here, file, hread, hmade.symm, hw⟩
    · rename_i e he
      rw [he] at hmade
      exact .run_throw_bind _ fun w hw => ⟨here, file, hread, hmade.symm, hw⟩
  · rintro e w ⟨here, file, hread, hfile, hw⟩
    exact ⟨here, file, hread, by rw [ofRead, ← hfile]; rfl, hw⟩

/-- What is trusted of further files is what these say.

**Proof sketch.** By induction on the paths, with what was read before generalised. A file that is
good is read before the rest, and a bad one ends it. -/
lemma reads_furtherAll (paths : List String) :
    Leads (u.Since es) (furtherAll paths).run fun r w =>
      ∃ here, ReadThrough u.encryption paths here r ∧ u.Since (es ++ here) w := by
  induction paths generalizing es with
  | nil => exact .run_pure _ fun w hw => ⟨[], .done, by rwa [List.append_nil]⟩
  | cons path rest ih =>
    refine .run_bind (reads_further path) (fun anchors => ?_) ?_
    · refine .of_exists fun here => .of_exists fun file => .of_and fun hread => .of_and fun hr => ?_
      refine .run_bind ih (fun more => .run_pure _ ?_) ?_
      · rintro w ⟨later, hrest, hw⟩
        exact ⟨here ++ later, .good hread hr.symm hrest, by rwa [← List.append_assoc]⟩
      · rintro e w ⟨later, hrest, hw⟩
        exact ⟨here ++ later, .good hread hr.symm hrest, by rwa [← List.append_assoc]⟩
    · rintro e w ⟨here, file, hread, hr, hw⟩
      exact ⟨here, .bad hread hr.symm, hw⟩

/-- **What strict clients trust** is what files say, as far as they are read, once the versions of
the protocol are there.

**Proof sketch.** The stores of the machine are read first if they are asked for (`reads_machine`),
and the further files behind them (`reads_furtherAll`). Without them there is nothing before the
further files. -/
theorem reads_all (config : TlsConfig) (hversions : u.encryption.versions = .ok ()) :
    Leads (u.Since es) (all config).run fun r w =>
      ∃ here, RootsRead u.toSetting config here r ∧ u.Since (es ++ here) w := by
  refine .run_lift_bind since_setting fun found => .of_and ?_
  rintro rfl
  dsimp only
  split
  · rename_i hnative
    refine .run_lift_bind reads_machine fun installed => .of_exists fun here =>
      .of_exists fun files => .of_and fun hread => .of_and ?_
    rintro rfl
    refine .run_bind (reads_furtherAll _) (fun more => .run_pure _ ?_) ?_
    · rintro w ⟨later, hfurther, hw⟩
      exact ⟨here ++ later, .native hversions hnative hread hfurther, by rwa [← List.append_assoc]⟩
    · rintro e w ⟨later, hfurther, hw⟩
      exact ⟨here ++ later, .native hversions hnative hread hfurther, by rwa [← List.append_assoc]⟩
  · rename_i hnative
    rw [Bool.not_eq_true] at hnative
    refine .run_bind (R := fun r w => r = .ok [] ∧ u.Since es w) (.run_pure _ fun w hw => ⟨rfl, hw⟩)
      (fun native => .of_and ?_) fun e w hw => nomatch hw.1
    rintro ⟨⟩
    refine .run_bind (reads_furtherAll _) (fun more => .run_pure _ ?_) ?_
    · rintro w ⟨here, hfurther, hw⟩
      exact ⟨here, by simpa [Except.map] using RootsRead.alone hversions hnative hfurther, hw⟩
    · rintro e w ⟨here, hfurther, hw⟩
      exact ⟨here, .alone hversions hnative hfurther, hw⟩

end Anchors

/-- What is approved of a credential is a function of the credential.

**Proof sketch.** The versions of the protocol are looked for first (`since_requireVersions`), and
without them there is no more to it. With them it is the library that certifies the credential or
not, and each outcome is handed on as it is. -/
lemma Credential.since_approve (path : String) (credential : Credential) :
    Leads (u.Since es) (Credential.approve u.encryption path credential).run fun r w =>
      r = Credential.approved u.encryption path credential ∧ u.Since es w := by
  unfold Credential.approved
  refine .run_bind since_requireVersions (fun _ => .of_and fun hversions => ?_) ?_
  · cases hfound : u.encryption.versions with
    | error f => exact nomatch hversions.trans (congrArg _ hfound)
    | ok _ =>
      cases u.encryption.certify credential with
      | error f =>
        dsimp only
        split
        · exact World.Since.leads_refuse _ _ _
        · exact .run_throw _ fun w hw => ⟨rfl, hw⟩
      | ok _ =>
        exact .run_lift_bind (World.Since.leads_record _ _) fun _ =>
          .run_pure credential fun w hw => ⟨rfl, hw⟩
  · rintro e w ⟨he, hw⟩
    cases hfound : u.encryption.versions with
    | ok _ => exact nomatch he.trans (congrArg _ hfound)
    | error f =>
      rw [hfound] at he
      obtain rfl := Except.error.inj he
      exact ⟨rfl, hw⟩

/-- **What a server shows** is what the file of its credential says.

**Proof sketch.** The file of the credential is read (`Credential.reads_load`), and a failure of
that is refused. What it says is approved or not (`Credential.since_approve`), which is what is made
of the file. -/
theorem Keeper.reads_buildServer (k : Keeper) :
    Leads (u.Since es) k.buildServer.run fun r w =>
      ∃ here, CredentialRead u.toSetting (k.config.credentialFile u.credentialVariable) here r ∧
        u.Since (es ++ here) w := by
  refine .run_lift_bind since_setting fun found => .of_and ?_
  rintro rfl
  generalize k.config.credentialFile u.credentialVariable = path
  refine .run_lift_bind (Credential.reads_load path) fun r => .of_exists fun here =>
    .of_exists fun file => .of_and fun hread => .of_and fun hr => ?_
  have hmade : r.mapError TlsError.credential >>= Credential.approved u.encryption path =
      Credential.ofRead u.encryption path file := by
    rw [hr, Credential.ofRead]
    cases file <;> rfl
  cases r with
  | error e =>
    refine (World.Since.leads_refuse _ _ _).weaken (fun _ hw => hw) ?_
    rintro _ w ⟨hrefused, hw⟩
    exact ⟨here, hrefused.trans hmade ▸ .read hread, hw⟩
  | ok credential =>
    refine (Credential.since_approve path credential).weaken (fun _ hw => hw) ?_
    rintro _ w ⟨happroved, hw⟩
    exact ⟨here, happroved.trans hmade ▸ .read hread, hw⟩

end Tls

end Sockets
