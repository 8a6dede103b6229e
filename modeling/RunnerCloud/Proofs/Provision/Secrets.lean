import RunnerCloud.Proofs.Provision.Admission
import RunnerCloud.Proofs.Run.Likeness

/-!
Contract: the secrets of a request reach nothing but the payload that its VM boots with.

Owns:
- `Bootstrap.withoutSecrets`, a request whose tokens are blanked, and what the specs of requests have in
  common that are the same without their tokens;
- `Bootstrap.scriptProblem?`, the one thing in the spec that tokens decide: whether the install script
  can be written in UTF-8;
- `Request.withoutPayload`, a call that names no payload, and `CallRecord.SameButPayload`, what calls
  have in common that are the same but for it: every argument, but for one text in the body of a VM;
- `secrets_stay_in_payload_iff`: when the runs for requests that differ only in their secrets end alike,
  log alike, and make the same calls but for that text;
- `broken_token_shows`, two such runs that do not.

Does not own: where the payload holds the secrets; `Payload` fills them in.
-/

namespace RunnerCloud

open Operation

/-! ## Requests without secrets -/

/-- The archive, without the token for its download. -/
def ToolArchive.withoutSecrets (archive : ToolArchive) : ToolArchive :=
  { archive with tempDownloadToken := none }

namespace Bootstrap

/-- The request, without the token of the instance and those of its archives. -/
def withoutSecrets (bootstrap : Bootstrap) : Bootstrap :=
  { bootstrap with
    instanceToken := ""
    tools := bootstrap.tools.map ToolArchive.withoutSecrets }

/-- Tokens do not decide which archive is chosen. -/
theorem selectTools_withoutSecrets (bootstrap : Bootstrap) :
    bootstrap.withoutSecrets.selectTools =
      bootstrap.selectTools.map ToolArchive.withoutSecrets := by
  have found : bootstrap.withoutSecrets.tools.find? (·.suits bootstrap.withoutSecrets) =
      (bootstrap.tools.find? (·.suits bootstrap)).map ToolArchive.withoutSecrets :=
    List.find?_map
  unfold selectTools
  rw [found]
  cases bootstrap.tools.find? (·.suits bootstrap) with
  | none => rfl
  | some archive =>
      dsimp only [Option.map_some]
      rw [show archive.withoutSecrets.isComplete = archive.isComplete from rfl]
      split <;> rfl

/-- What is wrong with the install script, if anything is. -/
def scriptProblem? (bootstrap : Bootstrap) : Option SpecProblem :=
  match bootstrap.encodableScript with
  | .ok _ => none
  | .error problem => some problem

section SameButSecrets

variable {first second : Bootstrap}

theorem selectTools_alike (same : first.withoutSecrets = second.withoutSecrets) :
    first.selectTools.map ToolArchive.withoutSecrets =
      second.selectTools.map ToolArchive.withoutSecrets := by
  rw [← selectTools_withoutSecrets, same, selectTools_withoutSecrets]

theorem scriptProblem?_of_no_tools (same : first.withoutSecrets = second.withoutSecrets)
    (missing : ¬ ∃ archive, first.selectTools = .ok archive) :
    first.scriptProblem? = second.scriptProblem? := by
  have selections := selectTools_alike same
  unfold scriptProblem? encodableScript installScript
  cases chosen : first.selectTools with
  | ok archive => exact absurd ⟨archive, chosen⟩ missing
  | error problem =>
      rw [chosen] at selections
      cases others : second.selectTools with
      | ok archive =>
          rw [others] at selections
          cases selections
      | error reason =>
          rw [others] at selections
          cases selections
          rfl

/-- Whether a request has a boot document, and why it has none, hangs on its script alone. -/
theorem userdata_alike (system : first.osType = second.osType)
    (scripts : first.osType = .linux → first.scriptProblem? = second.scriptProblem?) :
    first.userdata.map (fun _ => ()) = second.userdata.map fun _ => () := by
  unfold userdata
  rw [← system]
  split
  · rfl
  · rename_i linux
    have problems := scripts (by simpa using linux)
    unfold scriptProblem? at problems
    cases one : first.encodableScript <;> cases other : second.encodableScript <;>
      rw [one, other] at problems <;> simp_all [Except.map]

end SameButSecrets

end Bootstrap

/-- The spec, without the secrets of its request and without the payload. -/
def RunnerSpec.withoutSecrets (spec : RunnerSpec) : RunnerSpec :=
  { spec with bootstrap := spec.bootstrap.withoutSecrets, customData := "" }

namespace RunnerSpec

/-- Two computations that start with the same part have the same in common as what follows it. -/
theorem map_bind_congr {ε α β γ : Type} {one : Except ε α} {next after : α → Except ε β}
    {view : β → γ} (rest : ∀ value, one = .ok value → (next value).map view = (after value).map view) :
    (one >>= next).map view = (one >>= after).map view := by
  cases one with
  | error problem => rfl
  | ok value => exact rest value rfl

/-- Of a part with a result that does not matter, only whether it has one does. -/
theorem map_bind_congr_of_map {ε α β γ : Type} {one other : Except ε α} {next after : α → Except ε β}
    {view : β → γ} (same : one.map (fun _ => ()) = other.map fun _ => ())
    (rest : ∀ value given, (next value).map view = (after given).map view) :
    (one >>= next).map view = (other >>= after).map view := by
  cases one with
  | error problem =>
      cases other with
      | error reason =>
          simp only [Except.map, Except.error.injEq] at same
          rw [same]
          rfl
      | ok given => cases same
  | ok value =>
      cases other with
      | error reason => cases same
      | ok given => exact rest value given

section SameButSecrets

variable {controllerId : Text} {config : ProviderConfig} {first second : Bootstrap}

theorem Servable.of_same (servable : Servable controllerId config first)
    (same : first.withoutSecrets = second.withoutSecrets) :
    Servable controllerId config second := by
  have names : second.name = first.name := (congrArg Bootstrap.name same).symm
  have images : second.image = first.image := (congrArg Bootstrap.image same).symm
  have overrides : second.extraSpecs = first.extraSpecs := (congrArg Bootstrap.extraSpecs same).symm
  have systems : second.osType = first.osType := (congrArg Bootstrap.osType same).symm
  have selections := Bootstrap.selectTools_alike same
  obtain ⟨extra, extras, image, visible⟩ := servable.overrides
  obtain ⟨archive, selects⟩ := servable.tools
  refine
    { named := names ▸ servable.named
      controlled := servable.controlled
      overrides := ⟨extra, by rw [overrides, extras], ?_, visible⟩
      system := systems.trans servable.system
      tools := ?_ }
  · unfold effectiveImage at image ⊢
    rw [images]
    exact image
  · rw [selects] at selections
    cases chosen : second.selectTools with
    | ok other => exact ⟨other, rfl⟩
    | error problem =>
        rw [chosen] at selections
        cases selections

/-- Neither the tokens nor the document show in what is assembled but in the request and payload. -/
theorem assemble_withoutSecrets (same : first.withoutSecrets = second.withoutSecrets)
    (extra : ExtraSpecs) (image : Text) (reference : ImageReference) (network : Text)
    (document other : String) :
    (assemble first controllerId config extra image reference network document).withoutSecrets =
      (assemble second controllerId config extra image reference network other).withoutSecrets := by
  have blanked : ∀ (bootstrap : Bootstrap) (document : String),
      (assemble bootstrap controllerId config extra image reference network
        document).withoutSecrets =
      { assemble bootstrap.withoutSecrets controllerId config extra image reference network "" with
        customData := "" } := fun _ _ => rfl
  rw [blanked, blanked, same]

/-- Requests that are the same without their secrets have specs that are, or are refused for the same
reason, if nothing but their scripts could part them and does not. -/
theorem build_alike (same : first.withoutSecrets = second.withoutSecrets)
    (scripts : Servable controllerId config first →
      first.scriptProblem? = second.scriptProblem?) :
    (build first controllerId config).map withoutSecrets =
      (build second controllerId config).map withoutSecrets := by
  have names : second.name = first.name := (congrArg Bootstrap.name same).symm
  have images : second.image = first.image := (congrArg Bootstrap.image same).symm
  have overrides : extraSpecsOf second = extraSpecsOf first := (congrArg extraSpecsOf same).symm
  have systems : second.osType = first.osType := (congrArg Bootstrap.osType same).symm
  unfold build
  simp only [names, images, overrides]
  split
  · simp only [Bind.bind, Except.bind, throw, throwThe, MonadExceptOf.throw]
  rename_i named
  split
  · simp only [Bind.bind, Except.bind, throw, throwThe, MonadExceptOf.throw]
  rename_i controlled
  refine map_bind_congr fun extra extras => map_bind_congr fun reference refers =>
    map_bind_congr fun network networks => ?_
  refine map_bind_congr_of_map (Bootstrap.userdata_alike systems.symm fun linux => ?_)
    fun document other => congrArg Except.ok (assemble_withoutSecrets same ..)
  by_cases tools : ∃ archive, first.selectTools = .ok archive
  · rw [firstGiven_eq] at refers
    exact scripts
      { named := fun empty => named (Text.isEmpty_iff.2 empty)
        controlled := fun empty => controlled (Text.isEmpty_iff.2 empty)
        overrides := ⟨extra, extraSpecsOf_ok_iff.1 extras, (ofUrn_ok_iff _).1 ⟨reference, refers⟩,
          (networkOf_ok_iff extra config).1 ⟨network, networks⟩⟩
        system := linux
        tools := tools }
  · exact Bootstrap.scriptProblem?_of_no_tools same tools

end SameButSecrets

end RunnerSpec

/-! ## What tokens decide -/

namespace Provision

variable {controllerId : Text} {config : ProviderConfig} {first second : Bootstrap}

/-- The requests are not parted by what is wrong with their scripts, or not asked that far. -/
def SameScriptProblem (controllerId : Text) (config : ProviderConfig) (first second : Bootstrap) :
    Prop :=
  first.arch = .amd64 → RunnerSpec.Servable controllerId config first →
    first.scriptProblem? = second.scriptProblem?

theorem admitted_alike (same : first.withoutSecrets = second.withoutSecrets)
    (scripts : SameScriptProblem controllerId config first second) :
    (admitted controllerId config first).map RunnerSpec.withoutSecrets =
      (admitted controllerId config second).map RunnerSpec.withoutSecrets := by
  have architectures : second.arch = first.arch := (congrArg Bootstrap.arch same).symm
  by_cases supported : first.arch = .amd64
  · have builds := RunnerSpec.build_alike same (scripts supported)
    rw [admitted_of_amd64 supported, admitted_of_amd64 (architectures.trans supported)]
    generalize RunnerSpec.build first controllerId config = one at builds ⊢
    generalize RunnerSpec.build second controllerId config = other at builds ⊢
    cases one <;> cases other <;> simp_all [Except.map]
  · rw [admitted_of_otherArch supported, admitted_of_otherArch (architectures ▸ supported),
      architectures]

/-- A servable request is refused for what is wrong with its script and for nothing else. -/
theorem admitted_error_iff {bootstrap : Bootstrap} {failure : Failure}
    (supported : bootstrap.arch = .amd64)
    (servable : RunnerSpec.Servable controllerId config bootstrap) :
    admitted controllerId config bootstrap = .error failure ↔
      ∃ problem, bootstrap.scriptProblem? = some problem ∧ failure = .spec problem := by
  obtain ⟨assembled, builds⟩ := RunnerSpec.build_of_servable servable
  rw [admitted_of_amd64 supported, builds]
  unfold Bootstrap.userdata Bootstrap.scriptProblem?
  rw [if_neg (by simp [servable.system])]
  cases bootstrap.encodableScript <;> simp [Except.map, eq_comm]

/-- The wrong script is what a creation ends with, if anything is wrong with it. -/
theorem create_scriptProblem_iff {bootstrap : Bootstrap} {problem : SpecProblem} (session : Session)
    (supported : bootstrap.arch = .amd64)
    (servable : RunnerSpec.Servable controllerId config bootstrap) :
    (create controllerId config bootstrap session).outcome = .error (.failed (.spec problem)) ↔
      bootstrap.scriptProblem? = some problem := by
  cases accepts : admitted controllerId config bootstrap with
  | error failure =>
      obtain ⟨wrong, found, rfl⟩ := (admitted_error_iff supported servable).1 accepts
      rw [create_of_refused accepts, found]
      simp
  | ok spec =>
      rw [create_of_admitted accepts]
      refine iff_of_false (fun fails => ?_) fun found => ?_
      · rcases (createFrom_course config.location spec session).failing fails with
          operational | ⟨capacity, _⟩
        · exact not_operational_spec problem operational
        · cases problem <;> cases capacity
      · have refuses := (admitted_error_iff supported servable).2 ⟨problem, found, rfl⟩
        rw [accepts] at refuses
        cases refuses

end Provision

/-! ## Calls without payloads -/

/-- The call, with no payload for a VM to boot with. -/
def Request.withoutPayload : Request → Request
  | .createMachine order => .createMachine { order with customData := "" }
  | request => request

namespace Request

theorem method_withoutPayload (request : Request) :
    request.withoutPayload.method = request.method := by
  cases request <;> rfl

/-- Requests that are the same without their payloads are the same, or order VMs that are. -/
theorem eq_of_withoutPayload {one other : Request}
    (same : one.withoutPayload = other.withoutPayload) :
    one = other ∨ ∃ order payload,
      one = .createMachine order ∧ other = .createMachine { order with customData := payload } := by
  have kept : ∀ request : Request,
      request.withoutPayload = request ∨ ∃ order, request = .createMachine order := by
    intro request
    cases request <;> simp [withoutPayload]
  rcases kept one, kept other with ⟨plain | ⟨order, rfl⟩, unchanged | ⟨ordered, rfl⟩⟩
  · rw [← plain, same, unchanged]
    exact Or.inl rfl
  · exact Or.inr ⟨_, ordered.customData, plain.symm.trans same, rfl⟩
  · exact Or.inr ⟨order, "", rfl, unchanged.symm.trans same.symm⟩
  · refine Or.inr ⟨order, ordered.customData, rfl, ?_⟩
    simp only [withoutPayload, createMachine.injEq, MachineOrder.mk.injEq] at same
    cases order
    cases ordered
    simp_all

end Request

/-- Two values that differ in what stands at a path of keys, and nowhere else. -/
inductive Value.SameBut : List Text → Value → Value → Prop
  | here (one other : Value) : SameBut [] one other
  | under (key : Text) {path : List Text} {one other : Value} (before after : Fields)
      (same : SameBut path one other) :
      SameBut (key :: path) (.dict (before ++ (key, one) :: after))
        (.dict (before ++ (key, other) :: after))

/-- Where the body of a VM holds its payload. -/
def MachineOrder.payloadPath : List Text := ["os_profile", "custom_data"]

/-- Orders that are the same but for the payload are written alike, up to the text at its path. -/
theorem MachineOrder.sameBut_toValue (order : MachineOrder) (payload : String) :
    Value.SameBut payloadPath order.toValue { order with customData := payload }.toValue := by
  have profile : Value.SameBut ["custom_data"] order.osProfile
      { order with customData := payload }.osProfile :=
    .under "custom_data"
      [("computer_name", .text order.name), ("admin_username", .text order.adminUsername)]
      [order.accessEntry] (.here (.text order.customData) (.text payload))
  exact .under "os_profile"
    [("location", .text order.location), ("tags", order.tags.toValue),
      ("hardware_profile", .dict [("vm_size", .text order.vmSize)]),
      ("storage_profile", .dict [("image_reference", order.image.toValue),
        ("os_disk", order.osDisk)])]
    _ profile

/-- Two calls of one method with the same course, the same options and the same arguments, but for
the payload in the body of a VM. -/
structure CallRecord.SameButPayload (one other : CallRecord) : Prop where
  method : one.request.method = other.request.method
  options : one.request.options = other.request.options
  arguments :
    one.request.arguments = other.request.arguments ∨
      one.request.method = .createMachine ∧
        ∃ group name body written,
          one.request.arguments = [group, name, body] ∧
          other.request.arguments = [group, name, written] ∧
          Value.SameBut MachineOrder.payloadPath body written
  progress : one.progress = other.progress

theorem CallRecord.sameButPayload_of_retold {one other : CallRecord}
    (same : one.retold Request.withoutPayload = other.retold Request.withoutPayload) :
    one.SameButPayload other := by
  obtain ⟨request, course⟩ := one
  obtain ⟨other, otherCourse⟩ := other
  simp only [retold, CallRecord.mk.injEq] at same
  obtain ⟨requests, rfl⟩ := same
  rcases Request.eq_of_withoutPayload requests with rfl | ⟨order, payload, rfl, rfl⟩
  · exact ⟨rfl, rfl, Or.inl rfl, rfl⟩
  · exact ⟨rfl, rfl, Or.inr ⟨rfl, _, _, _, _, rfl, rfl, order.sameBut_toValue payload⟩, rfl⟩

/-! ## Creations -/

namespace Provision

/-- The payload is all that a creation of a VM takes from the secrets. -/
theorem alike_createMachine (location : Text) (spec : RunnerSpec) (interfaceId : Value)
    (tags : Tags) (diskSizeGb : Int) :
    Alike Request.withoutPayload
      (Cloud.createMachine location true spec interfaceId tags diskSizeGb)
      (Cloud.createMachine location true spec.withoutSecrets interfaceId tags diskSizeGb) := by
  refine (Alike.refl (Cloud.accessOf spec)).bind fun access => ?_
  have calls : Alike Request.withoutPayload
      (Cloud.complete true (.createMachine
        (spec.machineOrder location interfaceId tags diskSizeGb access)))
      (Cloud.complete true (.createMachine
        (spec.withoutSecrets.machineOrder location interfaceId tags diskSizeGb access))) :=
    alike_complete (by rfl) (by rfl) true
  exact calls.recover fun failure => .refl _

theorem alike_resources (run : CreateRun) (location : Text) (spec : RunnerSpec)
    (diskSizeGb : Int) :
    Alike Request.withoutPayload (resources run location spec diskSizeGb)
      (resources run location spec.withoutSecrets diskSizeGb) := by
  unfold resources
  refine (Alike.refl _).bind fun network => ?_
  refine (Alike.refl _).bind fun subnet => ?_
  refine (Alike.refl (publicIp run location spec)).bind fun address => ?_
  refine (Alike.refl _).bind fun securityGroup => ?_
  refine (Alike.refl _).bind fun interface => ?_
  refine (Alike.refl _).bind fun interfaceId => ?_
  refine Alike.bind ?_ fun machine => .refl _
  refine (Alike.refl _).bind fun checked => (Alike.refl _).bind fun logged => ?_
  exact (alike_createMachine location spec _ _ _).recover fun failure => .refl _

/-- What a creation does is decided by its spec without secrets, but for the payload. -/
theorem alike_createFrom (location : Text) (spec : RunnerSpec) :
    Alike Request.withoutPayload (createFrom location spec)
      (createFrom location spec.withoutSecrets) := by
  unfold createFrom
  refine (Alike.refl drawSerial).bind fun serial => ?_
  refine (Alike.refl (prepare ⟨spec.name, serial⟩ location spec)).bind fun diskSizeGb => ?_
  refine Alike.bind ?_ fun publicAddress => .refl _
  exact (alike_resources ⟨spec.name, serial⟩ location spec diskSizeGb).recover fun failure => .refl _

/-- Requests that are the same without their secrets are served alike, but for the payload, if their
scripts do not part them. -/
theorem alike_create {first second : Bootstrap} {controllerId : Text} {config : ProviderConfig}
    (same : first.withoutSecrets = second.withoutSecrets)
    (scripts : SameScriptProblem controllerId config first second) :
    Alike Request.withoutPayload (create controllerId config first)
      (create controllerId config second) := by
  refine alike_ofExcept_bind (admitted_alike same scripts) fun spec another blank => ?_
  refine (alike_createFrom config.location spec).trans ?_
  rw [blank]
  exact (alike_createFrom config.location another).symm

/-- The runs end alike, write the same log, leave the same session, and make the same calls with the
same arguments, but for the payload in the body of the VM. -/
structure AlikeButPayload (one other : Execution RunnerInstance) : Prop where
  outcome : one.outcome = other.outcome
  logs : Event.logRecords one.events = Event.logRecords other.events
  calls : List.Forall₂ CallRecord.SameButPayload
    (CallRecord.ofEvents one.events) (CallRecord.ofEvents other.events)
  session : one.session = other.session

/-- For requests that differ only in the token of the instance and in those of its archives, and
whatever the cloud does: the creations are alike but for the payload in the body of the VM, unless the
requests are served as far as their scripts and then one of the scripts alone cannot be encoded, or
both cannot and the places of the first halves differ. -/
theorem secrets_stay_in_payload_iff {first second : Bootstrap}
    (same : first.withoutSecrets = second.withoutSecrets) (controllerId : Text)
    (config : ProviderConfig) (session : Session) :
    AlikeButPayload (create controllerId config first session)
        (create controllerId config second session) ↔
      SameScriptProblem controllerId config first second := by
  constructor
  · intro alike supported servable
    have architectures : second.arch = first.arch := (congrArg Bootstrap.arch same).symm
    refine Option.ext fun problem => ?_
    rw [← create_scriptProblem_iff session supported servable, alike.outcome,
      create_scriptProblem_iff session (architectures.trans supported) (servable.of_same same)]
  · intro scripts
    have alike := alike_create same scripts session
    have calls := alike.calls Request.method_withoutPayload
    exact ⟨alike.outcome, alike.logRecords,
      calls.imp fun _ _ => CallRecord.sameButPayload_of_retold, alike.session⟩

/-- The sample request, with tokens. -/
def secretBootstrap (instanceToken downloadToken : Text) : Bootstrap :=
  { sampleBootstrap with
    instanceToken := instanceToken
    tools := sampleBootstrap.tools.map fun archive =>
      { archive with tempDownloadToken := some downloadToken } }

/-- Two requests with other tokens, both of which come to have their VM. -/
theorem secrets_stay_in_payload_of_two_tokens :
    let first := secretBootstrap "token-1" "download-1"
    let second := secretBootstrap "token-2" "it's another"
    let one := create "controller-1" sampleConfig first (sampleSession .accepting)
    let other := create "controller-1" sampleConfig second (sampleSession .accepting)
    first ≠ second ∧ first.withoutSecrets = second.withoutSecrets ∧
      .createMachine ∈ (Event.requests one.events).map Request.method ∧
      AlikeButPayload one other := by
  intro first second one other
  have same : first.withoutSecrets = second.withoutSecrets := rfl
  have scripts : SameScriptProblem "controller-1" sampleConfig first second :=
    fun _ _ => by decide +kernel
  have ordered : .createMachine ∈ (Event.requests one.events).map Request.method := by
    decide +kernel
  exact ⟨by decide, same, ordered, (secrets_stay_in_payload_iff same "controller-1" sampleConfig
    (sampleSession .accepting)).2 scripts⟩

/-- Half of a surrogate pair as the token of the instance: there is no VM, and no call at all. -/
theorem broken_token_shows :
    let first := secretBootstrap "x" "download-1"
    let second := secretBootstrap (.broken "" 0 "") "download-1"
    let one := create "controller-1" sampleConfig first (sampleSession .accepting)
    let other := create "controller-1" sampleConfig second (sampleSession .accepting)
    first.withoutSecrets = second.withoutSecrets ∧
      .createMachine ∈ (Event.requests one.events).map Request.method ∧ other.events = [] ∧
      ¬ AlikeButPayload one other := by
  intro first second one other
  have ordered : .createMachine ∈ (Event.requests one.events).map Request.method := by
    decide +kernel
  have refused : other.events = [] := by decide +kernel
  refine ⟨rfl, ordered, refused, fun alike => ?_⟩
  have lengths := alike.calls.length_eq
  revert lengths
  decide +kernel

end Provision

end RunnerCloud
