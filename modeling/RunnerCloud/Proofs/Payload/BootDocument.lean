import RunnerCloud.Proofs.Json.Writing
import RunnerCloud.Proofs.Provision.Course
import RunnerCloud.Proofs.Spec.Admission
import RunnerCloud.Proofs.Text.Base64
import RunnerCloud.Spec.RunnerSpec

/-!
Contract: the payload of a runner VM decodes to what it was made from.

Owns:
- `Boots`, what a boot document holds of a script and a request;
- `build_customData`: the custom data of a spec decodes to the header and a JSON text, and the text
  is read as a document that boots the install script.

Does not own: what the install script says.
-/

namespace RunnerCloud.Payload

/-- The files that a document writes, in order. -/
def filesOf (document : Value) : List Value :=
  (document.field "write_files").items

def usersOf (document : Value) : List Value :=
  (document.field "users").items

/-- What a boot document holds of an install script and a request. -/
structure Boots (bootstrap : Bootstrap) (script : String) (document : Value) : Prop where
  /-- The first file is the script, and the last command runs it. -/
  script : ∃ (file : Value) (content : String) (path : Text), (filesOf document)[0]? = some file ∧
    file.field "content" = .text content ∧
    Text.Base64.decodeBytes? content.toList = some (Text.Base64.utf8Bytes script) ∧
    file.field "path" = .text path ∧
    (document.field "runcmd").items =
      (if (filesOf document)[1]?.isSome then [.list [.text "update-ca-certificates"]] else []) ++
        [.list [.text "/bin/bash", .text path]]
  /-- There is a second file exactly when the request brings certificates. -/
  certified : (∃ file, (filesOf document)[1]? = some file) ↔
    ∃ bundle, bootstrap.caCertBundle = some bundle ∧ bundle ≠ ""
  /-- The second file holds the certificates as they are. -/
  certificates : ∀ file, (filesOf document)[1]? = some file →
    ∃ bundle, bootstrap.caCertBundle = some bundle ∧ file.field "content" = .text bundle
  /-- The keys of the one user that the runner runs as are the ones of the request. -/
  keys : ∃ user ∈ usersOf document, user.field "name" = .text "runner" ∧
    user.field "ssh_authorized_keys" = .list (bootstrap.sshKeys.map .text) ∧
    ∀ other ∈ usersOf document, other.field "name" = .text "runner" → other = user

variable {bootstrap : Bootstrap}

theorem caBundle?_eq_some_iff {bundle : Text} :
    caBundle? bootstrap = some bundle ↔ bootstrap.caCertBundle = some bundle ∧ bundle ≠ "" := by
  rw [caBundle?, Option.filter_eq_some_iff]
  simp

/-- The texts of the request that stand in the document as they are have no half of a pair. -/
structure Whole (bootstrap : Bootstrap) : Prop where
  keys : ∀ key ∈ bootstrap.sshKeys, key.isPlain = true
  bundle : ∀ bundle, bootstrap.caCertBundle = some bundle → bundle.isPlain = true

theorem document_isPlain (whole : Whole bootstrap) (script : String) :
    (document bootstrap script).isPlain = true := by
  have keys : (runnerUser bootstrap).isPlain = true := by
    simpa [runnerUser, runnerHome, Value.isPlain, Value.plainEntries] using whole.keys
  have files : ∀ file ∈ writtenFiles bootstrap script, file.isPlain = true := by
    cases caBundle : caBundle? bootstrap with
    | none => simp [writtenFiles, writtenFile, scriptPath, caBundle, Value.isPlain, Value.plainEntries]
    | some bundle =>
        have plain := whole.bundle bundle (caBundle?_eq_some_iff.1 caBundle).1
        simp [writtenFiles, writtenFile, scriptPath, caBundlePath, caBundle, Value.isPlain,
          Value.plainEntries, plain]
  have runs : ∀ command ∈ commands bootstrap, command.isPlain = true := by
    cases caBundle : caBundle? bootstrap <;> simp [commands, scriptPath, caBundle, Value.isPlain]
  simpa [document, Value.isPlain, Value.plainEntries, keys] using And.intro files runs

theorem filesOf_document (bootstrap : Bootstrap) (script : String) :
    filesOf (document bootstrap script) = writtenFiles bootstrap script := rfl

theorem secondFile (bootstrap : Bootstrap) (script : String) :
    (filesOf (document bootstrap script))[1]? =
      (caBundle? bootstrap).map fun bundle => writtenFile caBundlePath "0644" bundle := by
  rw [filesOf_document]
  cases caBundle : caBundle? bootstrap <;> simp [writtenFiles, caBundle]

theorem boots_document (bootstrap : Bootstrap) (script : String) :
    Boots bootstrap script (document bootstrap script) where
  script := by
    have decodes : Text.Base64.decodeBytes? (Text.Base64.encode script).toList =
        some (Text.Base64.utf8Bytes script) := by
      rw [Text.Base64.encode, String.toList_ofList]
      exact Text.Base64.decodeBytes?_encodeBytes (Text.Base64.utf8Bytes script)
    refine ⟨_, _, _, rfl, rfl, decodes, rfl, ?_⟩
    rw [secondFile]
    show commands bootstrap = _
    cases caBundle : caBundle? bootstrap <;> simp [commands, caBundle]
  certified := by
    rw [secondFile]
    simp only [← caBundle?_eq_some_iff]
    cases caBundle? bootstrap <;> simp
  certificates := by
    intro file second
    rw [secondFile, Option.map_eq_some_iff] at second
    obtain ⟨bundle, given, rfl⟩ := second
    exact ⟨bundle, (caBundle?_eq_some_iff.1 given).1, rfl⟩
  keys := by
    refine ⟨runnerUser bootstrap, List.mem_cons_of_mem _ (List.mem_singleton_self _), rfl, rfl, ?_⟩
    intro other member named
    rw [show usersOf (document bootstrap script) = [.text "default", runnerUser bootstrap] from rfl,
      List.mem_cons, List.mem_singleton] at member
    rcases member with rfl | rfl
    · cases named
    · rfl

/-- What is sent to a VM decodes to the header and a JSON text, which is read as a document that
boots the install script. -/
theorem build_customData {controllerId : Text} {config : ProviderConfig} {spec : RunnerSpec}
    (builds : RunnerSpec.build bootstrap controllerId config = .ok spec) (whole : Whole bootstrap) :
    ∃ (script text : String) (document : Value), bootstrap.installScript = .ok script ∧
      Text.Base64.decode? spec.customData = some ("#cloud-config\n" ++ text) ∧
      Json.IsText (Text.points text) document ∧ Json.parse text = .ok document ∧
      Boots bootstrap script document := by
  obtain ⟨_, _, _, userdata, _, _, _, _, _, renders, rfl⟩ := RunnerSpec.build_ok builds
  obtain ⟨linux, script, scripted⟩ := bootstrap.userdata_ok_iff.1 ⟨userdata, renders⟩
  rw [Bootstrap.userdata_of_script linux scripted] at renders
  cases renders
  have plain := document_isPlain whole script
  obtain ⟨textual, kept⟩ := Value.textual_of_isPlain _ plain
  have isText := Json.isText_indented textual
  rw [kept] at isText
  exact ⟨script, _, _, scripted, Text.Base64.decode?_encode _, isText, Json.parse_of_isText isText,
    boots_document bootstrap script⟩

open Provision in
/-- A request with certificates, and with keys that hold quotes, a control, characters outside ASCII
and outside the basic plane, and nothing. -/
def certifiedBootstrap : Bootstrap :=
  { sampleBootstrap with
    sshKeys := ["ssh-ed25519 \"A\\\u0001é😀\"", ""]
    caCertBundle := some "QUJD\n\u007f" }

open Provision in
theorem build_customData_of_certified :
    ∃ (spec : RunnerSpec) (script text : String) (document file : Value),
      RunnerSpec.build certifiedBootstrap "controller-1" sampleConfig = .ok spec ∧
      certifiedBootstrap.installScript = .ok script ∧
      Text.Base64.decode? spec.customData = some ("#cloud-config\n" ++ text) ∧
      Json.parse text = .ok document ∧ Boots certifiedBootstrap script document ∧
      (filesOf document)[1]? = some file ∧ file.field "content" = .text "QUJD\n\u007f" := by
  obtain ⟨spec, builds⟩ : ∃ spec,
      RunnerSpec.build certifiedBootstrap "controller-1" sampleConfig = .ok spec :=
    exists_of_isSome (by decide +kernel)
  have whole : Whole certifiedBootstrap :=
    ⟨by decide, fun bundle given => Option.some.inj given ▸ rfl⟩
  obtain ⟨script, text, document, scripted, decodes, _, parses, boots⟩ :=
    build_customData builds whole
  obtain ⟨file, second⟩ := boots.certified.2 ⟨_, rfl, by decide⟩
  obtain ⟨bundle, given, content⟩ := boots.certificates file second
  cases given
  exact ⟨spec, script, text, document, file, builds, scripted, decodes, parses, boots, second,
    content⟩

end RunnerCloud.Payload
