import Mathlib.Data.List.TakeWhile
import RunnerCloud.Proofs.Spec.Overrides
import RunnerCloud.Spec.RunnerSpec

/-!
Contract: which requests have a spec.

Owns:
- `effectiveImage` and `effectiveNetwork`, what the overrides, the request and the configuration
  come to;
- `Servable`, everything that is asked of a request, and `exists_build_iff`: exactly the servable
  requests have a spec;
- `build_rereads`: the image and the open ports of a spec are read again without a complaint.

Does not own: the architecture of a request, and cancellations.
-/

namespace RunnerCloud

theorem Text.trimmed_isEmpty_iff (text : Text) :
    (Text.trimmed text).isEmpty = true ↔ ∀ point ∈ text.points, Text.isBlank point = true := by
  unfold trimmed trimmedBy trimmedChars
  rw [Text.isEmpty_iff, ← Text.points_eq_nil_iff, Text.points_ofPoints, List.reverse_eq_nil_iff,
    List.dropWhile_eq_nil_iff]
  simp only [List.mem_reverse]
  constructor
  · intro blankBehind point member
    rw [← List.takeWhile_append_dropWhile (p := Text.isBlank) (l := text.points),
      List.mem_append] at member
    exact member.elim List.mem_takeWhile_imp (blankBehind point)
  · intro blank point member
    exact blank point ((List.dropWhile_sublist _).mem member)

theorem Text.trimmed_isEmpty_eq_false_iff (text : Text) :
    (Text.trimmed text).isEmpty = false ↔
      ∃ point ∈ text.points, Text.isBlank point = false := by
  simpa using not_congr (trimmed_isEmpty_iff text)

namespace Bootstrap

/-- The install script of the request has no half of a surrogate pair. -/
def Encodable (bootstrap : Bootstrap) : Prop :=
  ∃ script : String, bootstrap.installScript = .ok script

theorem userdata_of_script {bootstrap : Bootstrap} {script : Text}
    (linux : bootstrap.osType = .linux) (renders : bootstrap.installScript = .ok script) :
    bootstrap.userdata = (script.utf8?.mapError .unencodable).map fun written =>
      Payload.documentHeader ++ Json.indented (Payload.document bootstrap written) := by
  unfold userdata encodableScript
  rw [if_neg (by simp [linux]), renders]
  rfl

/-- A request for tools that it has gets a script. -/
theorem installScript_ok_iff {bootstrap : Bootstrap} :
    (∃ script, bootstrap.installScript = .ok script) ↔
      ∃ archive, bootstrap.selectTools = .ok archive := by
  unfold installScript
  cases bootstrap.selectTools <;> simp [Except.map]

theorem userdata_ok_iff (bootstrap : Bootstrap) :
    (∃ document, bootstrap.userdata = .ok document) ↔
      bootstrap.osType = .linux ∧ bootstrap.Encodable := by
  by_cases linux : bootstrap.osType = .linux
  · rw [and_iff_right linux]
    unfold Encodable
    cases renders : bootstrap.installScript with
    | error problem =>
        unfold userdata encodableScript
        rw [if_neg (by simp [linux]), renders]
        exact iff_of_false (fun ⟨_, given⟩ => nomatch given) fun ⟨_, given⟩ => nomatch given
    | ok script =>
        rw [userdata_of_script linux renders]
        cases script <;> simp [Text.utf8?, Except.map, Except.mapError]
  · unfold userdata
    rw [if_pos (by simpa using linux)]
    simp [linux]

theorem servable_of_unencodable_userdata {bootstrap : Bootstrap} {place : Text.Unencodable}
    (refuses : bootstrap.userdata = .error (.unencodable place)) :
    bootstrap.osType = .linux ∧ ∃ archive, bootstrap.selectTools = .ok archive := by
  unfold userdata at refuses
  split at refuses
  · cases refuses
  · rename_i linux
    refine ⟨by simpa using linux, ?_⟩
    unfold encodableScript installScript at refuses
    cases selects : bootstrap.selectTools with
    | ok archive => exact ⟨archive, rfl⟩
    | error problem =>
        rw [selects] at refuses
        unfold selectTools at selects
        split at selects
        · split at selects <;> cases selects
          cases refuses
        · cases selects
          cases refuses

end Bootstrap

namespace RunnerSpec

/-- The first text that is not empty; the empty text when all are. -/
def firstNonEmpty (texts : List Text) : Text :=
  (texts.find? (!·.isEmpty)).getD ""

theorem firstGiven_eq (texts : List Text) (last : Text) :
    firstGiven texts last = firstNonEmpty (texts ++ [last]) := by
  induction texts with
  | nil =>
      cases empty : last.isEmpty with
      | true => simp [firstGiven, firstNonEmpty, Text.isEmpty_iff.1 empty]
      | false => simp [firstGiven, firstNonEmpty, empty]
  | cons text rest inductionHypothesis =>
      unfold firstGiven
      rw [inductionHypothesis]
      cases empty : text.isEmpty <;> simp [firstNonEmpty, empty]

/-- The image of a runner, as it is written. -/
def effectiveImage (extra : ExtraSpecs) (bootstrap : Bootstrap) (config : ProviderConfig) : Text :=
  firstNonEmpty [extra.image.getD "", bootstrap.image, config.image]

/-- The network of a runner, as it is written. -/
def effectiveNetwork (extra : ExtraSpecs) (config : ProviderConfig) : Text :=
  firstNonEmpty [extra.virtualNetworkCidr.getD "", config.virtualNetworkCidr]

/-- What is asked of a request, but for its architecture. -/
structure Servable (controllerId : Text) (config : ProviderConfig) (bootstrap : Bootstrap) :
    Prop where
  named : bootstrap.name ≠ ""
  controlled : controllerId ≠ ""
  overrides : ∃ extra,
    ExtraSpecs.ofFields (bootstrap.extraSpecs.getD []) = .accepted extra ∧
      (ImageReference.ofUrn? (effectiveImage extra bootstrap config)).isSome = true ∧
      ∃ point ∈ (effectiveNetwork extra config).points, Text.isBlank point = false
  system : bootstrap.osType = .linux
  tools : ∃ archive, bootstrap.selectTools = .ok archive

variable {controllerId : Text} {config : ProviderConfig} {bootstrap : Bootstrap}

/-! ## The parts of a spec -/

theorem extraSpecsOf_ok_iff {extra : ExtraSpecs} :
    extraSpecsOf bootstrap = .ok extra ↔
      ExtraSpecs.ofFields (bootstrap.extraSpecs.getD []) = .accepted extra := by
  unfold extraSpecsOf
  cases ExtraSpecs.ofFields (bootstrap.extraSpecs.getD []) <;> simp

theorem ofUrn_ok_iff (urn : Text) :
    (∃ image, ImageReference.ofUrn urn = .ok image) ↔
      (ImageReference.ofUrn? urn).isSome = true := by
  unfold ImageReference.ofUrn
  cases ImageReference.ofUrn? urn <;> simp

theorem networkOf_ok_iff (extra : ExtraSpecs) (config : ProviderConfig) :
    (∃ network, networkOf extra config = .ok network) ↔
      ∃ point ∈ (effectiveNetwork extra config).points, Text.isBlank point = false := by
  have written : firstGiven [extra.virtualNetworkCidr.getD ""] config.virtualNetworkCidr =
      effectiveNetwork extra config := firstGiven_eq _ _
  unfold networkOf
  rw [written, ← Text.trimmed_isEmpty_eq_false_iff]
  dsimp only
  cases (Text.trimmed (effectiveNetwork extra config)).isEmpty <;> simp

/-! ## Requests that have a spec -/

/-- Where every other part is there, the user data decide. -/
theorem build_of_parts {extra : ExtraSpecs} {reference : ImageReference} {network : Text}
    (named : bootstrap.name ≠ "") (controlled : controllerId ≠ "")
    (extras : extraSpecsOf bootstrap = .ok extra)
    (refers : ImageReference.ofUrn (effectiveImage extra bootstrap config) = .ok reference)
    (networks : networkOf extra config = .ok network) :
    build bootstrap controllerId config = bootstrap.userdata.map (assemble bootstrap controllerId
      config extra (effectiveImage extra bootstrap config) reference network) := by
  have written : firstGiven [extra.image.getD "", bootstrap.image] config.image =
      effectiveImage extra bootstrap config := firstGiven_eq _ _
  have nameGiven : ¬ bootstrap.name.isEmpty = true := fun empty => named (Text.isEmpty_iff.1 empty)
  have controllerGiven : ¬ controllerId.isEmpty = true :=
    fun empty => controlled (Text.isEmpty_iff.1 empty)
  unfold build
  rw [if_neg nameGiven, if_neg controllerGiven, extras]
  show (ImageReference.ofUrn _ >>= _) = _
  rw [written, refers, networks]
  cases bootstrap.userdata <;> rfl

theorem build_of_servable (servable : Servable controllerId config bootstrap) :
    ∃ assembled : String → RunnerSpec,
      build bootstrap controllerId config = bootstrap.userdata.map assembled := by
  obtain ⟨extra, extras, image, visible⟩ := servable.overrides
  obtain ⟨reference, refers⟩ := (ofUrn_ok_iff _).2 image
  obtain ⟨network, networks⟩ := (networkOf_ok_iff extra config).2 visible
  exact ⟨_, build_of_parts servable.named servable.controlled (extraSpecsOf_ok_iff.2 extras) refers
    networks⟩

/-- Exactly the servable requests with a script that can be encoded have a spec. -/
theorem exists_build_iff :
    (∃ spec, build bootstrap controllerId config = .ok spec) ↔
      Servable controllerId config bootstrap ∧ bootstrap.Encodable := by
  constructor
  · rintro ⟨spec, builds⟩
    obtain ⟨extra, reference, network, userdata, named, controlled, extras, refers, networks,
      renders, _⟩ := build_ok builds
    obtain ⟨linux, script, written⟩ := bootstrap.userdata_ok_iff.1 ⟨userdata, renders⟩
    rw [firstGiven_eq] at refers
    refine ⟨?_, script, written⟩
    exact
      { named := fun empty => by simp [empty] at named
        controlled := fun empty => by simp [empty] at controlled
        overrides := ⟨extra, extraSpecsOf_ok_iff.1 extras, (ofUrn_ok_iff _).1 ⟨reference, refers⟩,
          (networkOf_ok_iff extra config).1 ⟨network, networks⟩⟩
        system := linux
        tools := Bootstrap.installScript_ok_iff.1 ⟨_, written⟩ }
  · rintro ⟨servable, encodable⟩
    obtain ⟨assembled, builds⟩ := build_of_servable servable
    obtain ⟨userdata, renders⟩ := bootstrap.userdata_ok_iff.2 ⟨servable.system, encodable⟩
    rw [builds, renders]
    exact ⟨_, rfl⟩

/-- A servable request has nothing else at fault than its script. -/
theorem unencodable_of_servable {problem : SpecProblem}
    (servable : Servable controllerId config bootstrap)
    (refuses : build bootstrap controllerId config = .error problem) :
    ∃ place, problem = .unencodable place := by
  obtain ⟨assembled, builds⟩ := build_of_servable servable
  obtain ⟨script, renders⟩ := Bootstrap.installScript_ok_iff.2 servable.tools
  rw [builds, Bootstrap.userdata_of_script servable.system renders] at refuses
  cases encoded : script.utf8? with
  | ok written =>
      rw [encoded] at refuses
      cases refuses
  | error place =>
      rw [encoded] at refuses
      cases refuses
      exact ⟨place, rfl⟩

/-- A problem of the first of two parts, or of the second one. -/
theorem bind_eq_error {ε α β : Type} {first : Except ε α} {next : α → Except ε β} {problem : ε}
    (fails : (first >>= next) = .error problem) :
    first = .error problem ∨ ∃ middle, first = .ok middle ∧ next middle = .error problem := by
  cases first with
  | error reason =>
      cases fails
      exact Or.inl rfl
  | ok middle => exact Or.inr ⟨middle, rfl, fails⟩

/-- The encoding of the script is what is tried last. -/
theorem servable_of_unencodable {place : Text.Unencodable}
    (refuses : build bootstrap controllerId config = .error (.unencodable place)) :
    Servable controllerId config bootstrap := by
  unfold build at refuses
  cases named : bootstrap.name.isEmpty with
  | true =>
      rw [if_pos named] at refuses
      cases refuses
  | false => ?_
  rw [if_neg (by simp [named])] at refuses
  cases controlled : controllerId.isEmpty with
  | true =>
      rw [if_pos controlled] at refuses
      cases refuses
  | false => ?_
  rw [if_neg (by simp [controlled])] at refuses
  rcases bind_eq_error refuses with invalid | ⟨extra, extras, refuses⟩
  · unfold extraSpecsOf at invalid
    split at invalid <;> cases invalid
  rcases bind_eq_error refuses with malformed | ⟨reference, refers, refuses⟩
  · unfold ImageReference.ofUrn at malformed
    split at malformed <;> cases malformed
  rcases bind_eq_error refuses with blank | ⟨network, networks, refuses⟩
  · unfold networkOf at blank
    dsimp only at blank
    split at blank <;> cases blank
  rcases bind_eq_error refuses with unencodable | ⟨_, _, impossible⟩
  · obtain ⟨linux, tools⟩ := Bootstrap.servable_of_unencodable_userdata unencodable
    rw [firstGiven_eq] at refers
    exact
      { named := Text.isEmpty_eq_false_iff.1 named
        controlled := Text.isEmpty_eq_false_iff.1 controlled
        overrides := ⟨extra, extraSpecsOf_ok_iff.1 extras, (ofUrn_ok_iff _).1 ⟨reference, refers⟩,
          (networkOf_ok_iff extra config).1 ⟨network, networks⟩⟩
        system := linux
        tools := tools }
  · cases impossible

/-- What is read again later, the image for the VM and the protocols for the security group, is
read without a complaint. -/
theorem build_rereads {spec : RunnerSpec} (builds : build bootstrap controllerId config = .ok spec) :
    ImageReference.ofUrn spec.image = .ok spec.imageReference ∧
      ∀ entry ∈ spec.openInboundPorts, ∃ protocol, Protocol.ofText? entry.1 = some protocol := by
  obtain ⟨extra, reference, network, userdata, _, _, extras, refers, _, _, rfl⟩ := build_ok builds
  refine ⟨refers, fun entry member => ?_⟩
  have accepts := extraSpecsOf_ok_iff.1 extras
  exact OpenPorts.protocol_of_refusal?_eq_none (ExtraSpecs.ports_of_accepted accepts entry member)

end RunnerSpec

end RunnerCloud
