import RunnerCloud.Proofs.Provision.Reports
import RunnerCloud.Proofs.Spec.ImageParts

/-!
Contract: the image of a runner, from the text that names it to what is told about it.

Owns:
- `ImageReference.TaggedBy` and `ImageReference.OrderedBy`, by which a call tells of an image;
- `image_of_admitted`, by which the image of a spec is what its text is read as;
- `image_named`: which texts name an image, that its written form names it again, and that a
  creation goes by one reading of one text wherever it tells of the image.

Does not own: which of the texts in overrides, request and configuration counts.
-/

namespace RunnerCloud

namespace ImageReference

/-- A call tags what it creates with an image. -/
structure TaggedBy (image : ImageReference) (request : Request) : Prop where
  osName : (request.body.field "tags").field? "os-name" = some (.text image.sku)
  osVersion : (request.body.field "tags").field? "os-version" = some (.text image.version)

/-- A call orders a VM that is made from an image. -/
def OrderedBy (image : ImageReference) (request : Request) : Prop :=
  (request.body.field "storage_profile").field "image_reference" = .dict [
    ("publisher", .text image.publisher), ("offer", .text image.offer), ("sku", .text image.sku),
    ("version", .text image.version)]

theorem ofUrn_eq_ok_iff {urn : Text} {image : ImageReference} :
    ofUrn urn = .ok image ↔ ofUrn? urn = some image := by
  unfold ofUrn
  cases ofUrn? urn <;> simp

end ImageReference

namespace Provision

open Operation

section Creation

variable {controllerId : Text} {config : ProviderConfig} {bootstrap : Bootstrap}
  {spec : RunnerSpec}

/-- The image of a spec is what the text that counts is read as. -/
theorem image_of_admitted (accepts : admitted controllerId config bootstrap = .ok spec) :
    ∃ extra, ExtraSpecs.ofFields (bootstrap.extraSpecs.getD []) = .accepted extra ∧
      spec.image = RunnerSpec.effectiveImage extra bootstrap config ∧
      ImageReference.ofUrn spec.image = .ok spec.imageReference := by
  obtain ⟨extra, reference, network, userdata, -, -, extras, refers, -, -, rfl⟩ :=
    RunnerSpec.build_ok (build_of_admitted accepts)
  exact ⟨extra, RunnerSpec.extraSpecsOf_ok_iff.1 extras, RunnerSpec.firstGiven_eq _ _, refers⟩

theorem taggedBy_of_tags (accepts : admitted controllerId config bootstrap = .ok spec)
    {request : Request} (tagged : request.body.field "tags" = spec.tags.toValue) :
    spec.imageReference.TaggedBy request := by
  constructor
  · rw [tagged]
    exact reservedTag_of_admitted accepts rfl
  · rw [tagged]
    exact reservedTag_of_admitted accepts rfl

end Creation

/-- A text names an image exactly when it has three colons and none of its four parts is blank; the
image then has no empty field, no colon and no blank end in one, and its fields with colons between
them name the same image. Four parts that are not blank and have no colon name the image that has
them without their blank ends. And a creation that calls for the VM has read one such text once: what
the VM is made from, the tags of the VM and of its group, and the runner that is given in the end all
tell of the same image. -/
theorem image_named :
    (∀ urn : Text, (∃ image, ImageReference.ofUrn urn = .ok image) ↔
      urn.points.count (.char ':') = 3 ∧
        ∀ part ∈ urn.points.splitOn (.char ':'), Text.Visible part) ∧
    (∀ urn image, ImageReference.ofUrn urn = .ok image →
      image.Sound ∧ ImageReference.ofUrn image.urn = .ok image) ∧
    (∀ publisher offer sku version : Text,
      (∀ part ∈ [publisher, offer, sku, version],
        .char ':' ∉ part.points ∧ Text.Visible part.points) →
      ImageReference.ofUrn (publisher ++ ":" ++ offer ++ ":" ++ sku ++ ":" ++ version) =
        .ok ⟨Text.trimmed publisher, Text.trimmed offer, Text.trimmed sku, Text.trimmed version⟩ ∧
      ∀ part ∈ [publisher, offer, sku, version],
        Text.TrimsTo Text.isBlank part.points (Text.trimmed part).points) ∧
    ∀ (controllerId : Text) (config : ProviderConfig) (bootstrap : Bootstrap) (session : Session),
      let run := create controllerId config bootstrap session
      ∀ request ∈ Event.requests run.events, request.method = .createMachine →
        ∃ extra image, ExtraSpecs.ofFields (bootstrap.extraSpecs.getD []) = .accepted extra ∧
          ImageReference.ofUrn (RunnerSpec.effectiveImage extra bootstrap config) = .ok image ∧
          image.OrderedBy request ∧
          (∀ tagged ∈ Event.requests run.events,
            tagged.method = .createGroup ∨ tagged.method = .createMachine →
              image.TaggedBy tagged) ∧
          ∀ runner, run.outcome = .ok runner →
            runner.osName = image.sku ∧ runner.osVersion = image.version := by
  refine ⟨?named, ?again, ?parts, ?creation⟩
  case named =>
    intro urn
    simp only [ImageReference.ofUrn_eq_ok_iff]
    exact ImageReference.exists_ofUrn?_iff
  case again =>
    intro urn image reads
    have sound := ImageReference.sound_of_ofUrn? (ImageReference.ofUrn_eq_ok_iff.1 reads)
    exact ⟨sound, ImageReference.ofUrn_eq_ok_iff.2 (ImageReference.ofUrn?_urn sound)⟩
  case parts =>
    intro publisher offer sku version parts
    refine ⟨ImageReference.ofUrn_eq_ok_iff.2 (ImageReference.ofUrn?_eq_some_iff.2
      ⟨publisher, offer, sku, version, rfl, parts, rfl⟩), fun part _ => ?_⟩
    rw [Text.points_trimmed]
    exact Text.trimsTo_trimmedChars Text.isBlank part.points
  case creation =>
    intro controllerId config bootstrap session run request member isMachine
    cases accepts : admitted controllerId config bootstrap with
    | error failure =>
        have nothing : run = ⟨.error (.failed failure), [], session⟩ :=
          create_of_refused accepts session
        rw [nothing] at member
        cases member
    | ok spec =>
        have runs : run = createFrom config.location spec session := by
          show create controllerId config bootstrap session = _
          rw [create_of_admitted accepts]
        have course := createFrom_course config.location spec session
        rw [← runs] at course
        obtain ⟨extra, overrides, image, reads⟩ := image_of_admitted accepts
        rw [image] at reads
        refine ⟨extra, spec.imageReference, overrides, reads, ?_, ?_, ?_⟩
        · obtain ⟨diskSizeGb, -, rfl⟩ := course.ordered_machine member isMachine
          exact rfl
        · intro tagged made tags
          obtain ⟨diskSizeGb, access, first⟩ := course.constructive_prefix
          have constructs : tagged ∈ constructive run.events :=
            List.mem_filter.2 ⟨made, by rcases tags with same | same <;> simp [same]⟩
          exact taggedBy_of_tags accepts ((plan_wired first).tags tagged constructs tags)
        · intro runner gives
          rw [(course.constructive_of_ok gives).2]
          exact ⟨rfl, rfl⟩

/-- Blanks stand around the parts, and a separator of information is one of them. -/
example : ImageReference.ofUrn " Canonical:server\t: 22_04-lts :\u001clatest\n" =
    .ok ⟨"Canonical", "server", "22_04-lts", "latest"⟩ := by
  decide +kernel

end Provision

end RunnerCloud
