import RunnerCloud.Proofs.Provision.Preparation
import RunnerCloud.Proofs.Spec.Admission

/-!
Contract: which creations call the cloud, and how the others end.

Owns:
- `admitted_ok_iff`, by which the requests for the supported architecture that are servable and whose
  script can be encoded are admitted, and no others;
- `Refusal`, why a request is not admitted: one of three reasons, each with its family of failures;
- `Cause.category_cases` and `Course.failing`, the families of the failures of a creation;
- `create_refused`, `create_calls_iff` and `create_failing`, what comes of a request by whether it is
  admitted;
- `creation_admission`: a creation calls the cloud exactly when its request is admitted and its token
  is not set, refuses with nothing done otherwise, and never finds fault with the request later.

Does not own: what an admitted creation does.
-/

namespace RunnerCloud.Provision

open Operation

/-! ## Admitted requests -/

section Admitted

variable {controllerId : Text} {config : ProviderConfig} {bootstrap : Bootstrap}

theorem admitted_of_otherArch (other : bootstrap.arch ≠ .amd64) :
    admitted controllerId config bootstrap = .error (.unsupportedArch bootstrap.arch) := by
  unfold admitted Arch.supported
  rw [if_pos (by simpa using other)]

theorem admitted_of_amd64 (supported : bootstrap.arch = .amd64) :
    admitted controllerId config bootstrap =
      (RunnerSpec.build bootstrap controllerId config).mapError .spec := by
  unfold admitted Arch.supported
  rw [if_neg (by simp [supported])]
  cases RunnerSpec.build bootstrap controllerId config <;> rfl

theorem admitted_ok_iff :
    (∃ spec, admitted controllerId config bootstrap = .ok spec) ↔ bootstrap.arch = .amd64 ∧
      RunnerSpec.Servable controllerId config bootstrap ∧ bootstrap.Encodable := by
  by_cases supported : bootstrap.arch = .amd64
  · rw [admitted_of_amd64 supported, ← RunnerSpec.exists_build_iff, and_iff_right supported]
    cases RunnerSpec.build bootstrap controllerId config <;> simp
  · rw [admitted_of_otherArch supported]
    simp [supported]

theorem admitted_of_broken {script : Text} {place : Text.Unencodable}
    (supported : bootstrap.arch = .amd64)
    (servable : RunnerSpec.Servable controllerId config bootstrap)
    (renders : bootstrap.installScript = .ok script) (broken : script.utf8? = .error place) :
    admitted controllerId config bootstrap = .error (.spec (.unencodable place)) := by
  obtain ⟨assembled, builds⟩ := RunnerSpec.build_of_servable servable
  rw [admitted_of_amd64 supported, builds,
    Bootstrap.userdata_of_script servable.system renders, broken]
  rfl

/-- Why a request is not admitted, with the family of the failure. -/
inductive Refusal (controllerId : Text) (config : ProviderConfig) (bootstrap : Bootstrap) :
    ErrorCategory → Prop where
  | architecture (other : bootstrap.arch ≠ .amd64) :
      Refusal controllerId config bootstrap .architecture
  | spec (supported : bootstrap.arch = .amd64)
      (unservable : ¬ RunnerSpec.Servable controllerId config bootstrap) :
      Refusal controllerId config bootstrap .spec
  | unencodable (supported : bootstrap.arch = .amd64)
      (servable : RunnerSpec.Servable controllerId config bootstrap)
      (broken : ¬ bootstrap.Encodable) : Refusal controllerId config bootstrap .unencodable

theorem Refusal.unadmitted {category : ErrorCategory}
    (refusal : Refusal controllerId config bootstrap category) :
    ¬ ∃ spec, admitted controllerId config bootstrap = .ok spec := by
  rw [admitted_ok_iff]
  cases refusal with
  | architecture other => exact fun accepts => other accepts.1
  | spec supported unservable => exact fun accepts => unservable accepts.2.1
  | unencodable supported servable broken => exact fun accepts => broken accepts.2.2

theorem Refusal.unique {first second : ErrorCategory}
    (refusal : Refusal controllerId config bootstrap first)
    (other : Refusal controllerId config bootstrap second) : first = second := by
  cases refusal <;> cases other <;> first | rfl | contradiction

theorem refusal_of_refused {failure : Failure}
    (refused : admitted controllerId config bootstrap = .error failure) :
    Refusal controllerId config bootstrap failure.category := by
  by_cases supported : bootstrap.arch = .amd64
  · rw [admitted_of_amd64 supported] at refused
    cases built : RunnerSpec.build bootstrap controllerId config with
    | ok spec =>
        rw [built] at refused
        cases refused
    | error problem =>
        rw [built] at refused
        cases refused
        by_cases servable : RunnerSpec.Servable controllerId config bootstrap
        · obtain ⟨place, rfl⟩ := RunnerSpec.unencodable_of_servable servable built
          refine .unencodable supported servable fun encodable => ?_
          obtain ⟨spec, builds⟩ := RunnerSpec.exists_build_iff.2 ⟨servable, encodable⟩
          rw [built] at builds
          cases builds
        · cases problem with
          | unencodable place => exact absurd (RunnerSpec.servable_of_unencodable built) servable
          | _ => exact .spec supported servable
  · rw [admitted_of_otherArch supported] at refused
    cases refused
    exact .architecture supported

end Admitted

/-! ## The families of failures -/

section Categories

variable {answers : CloudMethod → Value} {before : List Step} {events : List Event}
  {failure : Failure}

/-- The families of failures that are neither about a request nor about the size of a disk. -/
def Operational (category : ErrorCategory) : Prop :=
  category ∈ [.provisioning, .badValue, .validation, .overflow, .runtime, .interrupt, .cancelled] ∨
    ∃ kind, category = .service kind

/-- They blame neither a request nor a command. -/
theorem Operational.not_within {category wider : ErrorCategory}
    (operational : Operational category) (blaming : wider ∈ [.spec, .usage]) :
    category.isWithin wider = false := by
  simp only [List.mem_cons, List.not_mem_nil, or_false] at blaming
  rcases operational with listed | ⟨kind, rfl⟩
  · simp only [List.mem_cons, List.not_mem_nil, or_false] at listed
    rcases blaming with rfl | rfl <;>
      rcases listed with rfl | rfl | rfl | rfl | rfl | rfl | rfl <;> rfl
  · rcases blaming with rfl | rfl <;> cases kind <;> rfl

theorem Operational.not_capacity {category : ErrorCategory} (operational : Operational category) :
    category ≠ .capacity := by
  rcases operational with listed | ⟨kind, rfl⟩
  · rintro rfl
    simp at listed
  · simp

theorem not_operational_spec (problem : SpecProblem) :
    ¬ Operational (Failure.spec problem).category := by
  cases problem <;> simp [Operational, Failure.category]

theorem operational_fault (fault : Fault) : Operational (Failure.fault fault).category := by
  cases fault <;> simp [Failure.category, Operational]

theorem operational_blame (request : Request) (fault : Fault) :
    Operational (request.blame fault).category := by
  unfold Request.blame
  cases request.purpose? with
  | none => exact operational_fault fault
  | some purpose => cases fault <;> simp [Cloud.reported, CreateRun.attributed, Failure.category,
      Operational]

theorem operational_unreadable (unreadable : UnreadableSize failure) :
    Operational failure.category := by
  rcases unreadable with ⟨_, rfl⟩ | ⟨_, rfl⟩ | ⟨written, rfl⟩
  · simp [Failure.category, Operational]
  · simp [Failure.category, Operational]
  · cases written <;> simp [Failure.category, Operational]

/-- Only where the catalogue was asked about the disk, the size of the disk can be at fault. -/
theorem Cause.category_cases (cause : Cause answers [] events failure) :
    Operational failure.category ∨
      failure.category = .capacity ∧ ∃ request ∈ Event.requests events, request.method = .listSkus := by
  cases cause with
  | raised called last => exact Or.inl (operational_blame _ _)
  | unlisted called => exact Or.inl (by simp [Failure.category, Operational])
  | unreadable called unreadable => exact Or.inl (operational_unreadable (storageMb?_error unreadable))
  | capacity problem asked => exact Or.inr ⟨rfl, asked.resolve_left (by simp)⟩
  | unwritable tooLong asked => exact Or.inl (by simp [Failure.category, Operational])
  | unidentified step given missing => exact Or.inl (by simp [Failure.category, Operational])

/-- How a part of a creation fails. -/
theorem category_of_progress {α : Type} {plan : List Request} {Result : α → Prop}
    {session : Session} {execution : Execution α}
    (progress : Progress (causeBlame answers []) plan Result session execution)
    (fails : execution.outcome = .error (.failed failure)) :
    Operational failure.category ∨
      failure.category = .capacity ∧ ∃ request ∈ plan, request.method = .listSkus := by
  rcases progress.failing failure fails with ⟨cancelled, _⟩ | cause
  · exact Or.inl (by simp [cancelled, Operational])
  · refine (Cause.category_cases cause).imp_right ?_
    rintro ⟨capacity, request, member, catalogue⟩
    exact ⟨capacity, request, progress.made.subset member, catalogue⟩

end Categories

/-! ## The failures of a creation -/

section Failures

variable {location : Text} {spec : RunnerSpec} {session : Session} {failure : Failure}

/-- Where the preparations find the disk at fault, they have made one call. -/
theorem prepared_failing
    (fails : (prepared location spec session).outcome = .error (.failed failure)) :
    Operational failure.category ∨
      failure.category = .capacity ∧
        Event.requests (prepared location spec session).events = [.listSkus location] := by
  cases set : session.token.isSet with
  | true =>
      obtain ⟨boundary, stops⟩ := prepared_of_set location spec set
      rw [stops] at fails
      cases fails
      exact Or.inl (by simp [Failure.category, Operational])
  | false =>
      cases sizes : (sized location spec session).outcome with
      | error reason =>
          rw [prepared_of_unsized sizes] at fails ⊢
          cases fails
          refine (category_of_progress (sized_progress location spec session) sizes).imp_right ?_
          rintro ⟨capacity, _⟩
          cases ephemeral : spec.useEphemeralStorage with
          | true => exact ⟨capacity, requests_sized ephemeral set⟩
          | false =>
              rw [sized_of_managed location session ephemeral] at sizes
              cases sizes
      | ok diskSizeGb =>
          rw [prepared_of_sized sizes] at fails
          cases made : (grouped location spec session).outcome with
          | ok resource =>
              rw [made] at fails
              cases fails
          | error reason =>
              rw [made] at fails
              cases fails
              refine (category_of_progress (grouped_progress location spec session) made).imp_right ?_
              rintro ⟨_, request, member, catalogue⟩
              rw [List.mem_singleton.1 member] at catalogue
              cases catalogue

theorem filled_failing {diskSizeGb : Int}
    (ready : (prepared location spec session).outcome = .ok diskSizeGb)
    (fails : (filled location spec session diskSizeGb).outcome = .error (.failed failure)) :
    Operational failure.category := by
  rcases category_of_progress (filled_progress ready) fails with operational | ⟨_, asked⟩
  · exact operational
  · obtain ⟨request, member, catalogue⟩ := asked
    exact absurd catalogue (resourcesPlan_methods member)

/-- Only the size of the disk can be at fault, and then nothing but the catalogue was called for. -/
theorem Course.failing {execution : Execution RunnerInstance}
    (course : Course location spec session execution)
    (fails : execution.outcome = .error (.failed failure)) :
    Operational failure.category ∨
      failure.category = .capacity ∧ Event.requests execution.events = [.listSkus location] := by
  cases course with
  | unprepared stops =>
      cases fails
      exact prepared_failing stops
  | failed ready failsInside removes =>
      cases fails
      exact Or.inl (filled_failing ready failsInside)
  | interrupted ready failsInside stops =>
      rcases (removed_removes location spec session _).ends with ended | ⟨text, interrupted, _⟩
      · rw [ended] at stops
        cases stops
      · rw [interrupted] at stops
        cases stops
        cases fails
        exact Or.inl (operational_fault (.interrupt text))
  | hung ready hangs => cases fails
  | unreported ready fills refuses =>
      cases fails
      rcases conclusion_error refuses with ⟨_, rfl⟩ | ⟨rfl, _⟩ <;>
        exact Or.inl (by simp [addressFailure, Failure.category, Operational])
  | created ready fills concludes => cases fails

end Failures

/-! ## Admission -/

/-- A creation that does nothing but fail. -/
def RefusedAs (category : ErrorCategory) (execution : Execution RunnerInstance) : Prop :=
  execution.events = [] ∧ ∃ failure,
    execution.outcome = .error (.failed failure) ∧ failure.category = category

section Refusals

variable {location : Text} {spec : RunnerSpec} {session : Session}

theorem Course.refused_of_set {execution : Execution RunnerInstance}
    (course : Course location spec session execution) (set : session.token.isSet = true) :
    RefusedAs .cancelled execution := by
  obtain ⟨boundary, stops⟩ := prepared_of_set location spec set
  obtain ⟨ends, events⟩ := course.of_unprepared (by rw [stops])
  rw [stops] at events
  exact ⟨events, _, ends, rfl⟩

theorem Course.requests_ne_nil {execution : Execution RunnerInstance}
    (course : Course location spec session execution) (unset : session.token.isSet = false) :
    Event.requests execution.events ≠ [] := by
  have begins : Event.requests (prepared location spec session).events ≠ [] :=
    requests_prepared_ne_nil unset
  rcases course.parts with early | ⟨_, rest, _, events, _⟩
  · rw [early]
    exact begins
  · rw [events]
    simp [begins]

end Refusals

section Creations

variable {controllerId : Text} {config : ProviderConfig} {bootstrap : Bootstrap}
  {session : Session}

theorem create_refused {category : ErrorCategory} (session : Session)
    (refusal : Refusal controllerId config bootstrap category) :
    RefusedAs category (create controllerId config bootstrap session) := by
  cases refuses : admitted controllerId config bootstrap with
  | error failure =>
      rw [create_of_refused refuses]
      exact ⟨rfl, failure, rfl, (refusal_of_refused refuses).unique refusal⟩
  | ok spec => exact absurd ⟨spec, refuses⟩ refusal.unadmitted

/-- A creation calls the cloud exactly when its request is admitted and its token is not set. -/
theorem create_calls_iff :
    Event.requests (create controllerId config bootstrap session).events ≠ [] ↔
      (∃ spec, admitted controllerId config bootstrap = .ok spec) ∧
        session.token.isSet = false := by
  cases accepts : admitted controllerId config bootstrap with
  | ok spec =>
      have course := createFrom_course config.location spec session
      rw [create_of_admitted accepts]
      cases set : session.token.isSet with
      | true =>
          rw [(course.refused_of_set set).1]
          simp
      | false => exact iff_of_true (course.requests_ne_nil set) ⟨⟨spec, rfl⟩, rfl⟩
  | error failure =>
      rw [create_of_refused accepts]
      exact iff_of_false (fun calls => calls rfl) fun ⟨⟨_, given⟩, _⟩ => nomatch given

/-- What a failed creation has called for, by the family of its failure. -/
theorem create_failing {failure : Failure}
    (fails : (create controllerId config bootstrap session).outcome = .error (.failed failure)) :
    (Event.requests (create controllerId config bootstrap session).events ≠ [] →
        failure.category.isWithin .spec = false) ∧
      (failure.category = .capacity →
        Event.requests (create controllerId config bootstrap session).events =
          [.listSkus config.location]) := by
  cases accepts : admitted controllerId config bootstrap with
  | error refusal =>
      rw [create_of_refused accepts] at fails ⊢
      cases fails
      refine ⟨fun calls => absurd rfl calls, fun capacity => ?_⟩
      have refusal := refusal_of_refused accepts
      rw [capacity] at refusal
      cases refusal
  | ok spec =>
      rw [create_of_admitted accepts] at fails ⊢
      rcases (createFrom_course config.location spec session).failing fails with
        operational | ⟨capacity, calls⟩
      · exact ⟨fun _ => operational.not_within (by decide),
          fun capacity => absurd capacity operational.not_capacity⟩
      · refine ⟨fun _ => ?_, fun _ => calls⟩
        rw [capacity]
        rfl

end Creations

/-- A creation calls the cloud exactly when its request is for the supported architecture and
servable, its install script has no half of a surrogate pair and the token is not set. Otherwise it
does nothing but fail, and the failure says which of the four was missing first. No failure that
follows a call is about the request, one about the size of the disk follows the call for the catalogue
alone, and what is read again later of an admitted request is read without a complaint. -/
theorem creation_admission (controllerId : Text) (config : ProviderConfig) (bootstrap : Bootstrap)
    (session : Session) :
    let run := create controllerId config bootstrap session
    let calls := Event.requests run.events
    let servable := RunnerSpec.Servable controllerId config bootstrap
    (calls ≠ [] ↔ bootstrap.arch = .amd64 ∧ servable ∧ bootstrap.Encodable ∧
        session.token.isSet = false) ∧
      (bootstrap.arch ≠ .amd64 → RefusedAs .architecture run) ∧
      (bootstrap.arch = .amd64 ∧ ¬ servable → RefusedAs .spec run) ∧
      (bootstrap.arch = .amd64 ∧ servable ∧ ¬ bootstrap.Encodable → RefusedAs .unencodable run) ∧
      (bootstrap.arch = .amd64 ∧ servable ∧ bootstrap.Encodable ∧ session.token.isSet = true →
        RefusedAs .cancelled run) ∧
      (∀ failure, run.outcome = .error (.failed failure) →
        (calls ≠ [] → failure.category.isWithin .spec = false) ∧
          (failure.category = .capacity → calls = [.listSkus config.location])) ∧
      ∀ spec, admitted controllerId config bootstrap = .ok spec →
        ImageReference.ofUrn spec.image = .ok spec.imageReference ∧
          ∀ entry ∈ spec.openInboundPorts, ∃ protocol, Protocol.ofText? entry.1 = some protocol := by
  dsimp only
  refine ⟨?_, ?_, ?_, ?_, ?_, fun failure => create_failing, fun spec accepts => ?_⟩
  · rw [create_calls_iff, admitted_ok_iff, and_assoc, and_assoc]
  · exact fun other => create_refused session (.architecture other)
  · exact fun ⟨supported, unservable⟩ => create_refused session (.spec supported unservable)
  · exact fun ⟨supported, servable, broken⟩ =>
      create_refused session (.unencodable supported servable broken)
  · rintro ⟨supported, servable, encodable, set⟩
    obtain ⟨spec, accepts⟩ := admitted_ok_iff.2 ⟨supported, servable, encodable⟩
    rw [create_of_admitted accepts]
    exact (createFrom_course config.location spec session).refused_of_set set
  · exact RunnerSpec.build_rereads (build_of_admitted accepts)

/-- The sample request, with half of a surrogate pair as the token of the instance. -/
def brokenTokenBootstrap : Bootstrap :=
  { sampleBootstrap with instanceToken := .broken "" 0 "" }

theorem admitted_brokenTokenBootstrap :
    admitted "controller-1" sampleConfig brokenTokenBootstrap =
      .error (.spec (.unencodable ⟨82, 0, []⟩)) := by
  decide +kernel

/-- With half of a surrogate pair as its token, a request that is servable in every other way makes no
call, and its failure is none of the provider's. -/
theorem broken_token_calls_nothing :
    let session := sampleSession .accepting
    let run := create "controller-1" sampleConfig brokenTokenBootstrap session
    brokenTokenBootstrap.arch = .amd64 ∧
      RunnerSpec.Servable "controller-1" sampleConfig brokenTokenBootstrap ∧
      session.token.isSet = false ∧ Event.requests run.events = [] ∧
      ∃ failure, run.outcome = .error (.failed failure) ∧
        failure.category.isWithin .provider = false := by
  intro session run
  have refused := admitted_brokenTokenBootstrap
  have servable : RunnerSpec.Servable "controller-1" sampleConfig brokenTokenBootstrap := by
    cases refusal_of_refused refused
    assumption
  have ends := create_of_refused refused session
  refine ⟨rfl, servable, rfl, ?_, _, congrArg Execution.outcome ends, rfl⟩
  exact congrArg (fun execution => Event.requests execution.events) ends

end RunnerCloud.Provision
