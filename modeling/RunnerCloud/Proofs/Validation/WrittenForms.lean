import RunnerCloud.Proofs.Config.CredentialSources
import RunnerCloud.Proofs.Spec.Overrides
import RunnerCloud.Proofs.Validation.RunnerForms
import RunnerCloud.Proofs.Validation.Spellings

/-!
Contract: models read back from their written forms.

Owns:
- that every kind of optional field reads what it writes, null included;
- `Bootstrap.ofValue_toValue`, `ExtraSpecs.ofValue_toValue_of_accepted` and
  `ProviderConfig.ofValue_toValue_of_accepted`: a written model is accepted, as it was;
- `accepted_models_read_back`: this for all models, and that the spelling of a request's keys does
  not matter.

Does not own: the written forms of runners.
-/

namespace RunnerCloud

open Validation

/-! ## Fields -/

namespace Checked

variable {α β : Type} {f : Checked (α → β)} {g : α → β} {checked : Checked α} {value : α}

theorem map_of_accepted (read : checked = .accepted value) : g <$> checked = .accepted (g value) :=
  map_eq_accepted_iff.2 ⟨value, read, rfl⟩

theorem seq_of_accepted (made : f = .accepted g) (read : checked = .accepted value) :
    f <*> checked = .accepted (g value) :=
  seq_eq_accepted_iff.2 ⟨g, value, made, read, rfl⟩

end Checked

namespace Validation

variable {α : Type} {fields : Fields} {name : FieldName} {spelling : Text} {written : Value}
  {value default : α} {check : Value → Checked α}

/-- A field that is held is what its check reads. -/
theorem field_of_found {absent : Checked α} (found : name.find? fields = some (spelling, written))
    (reads : check written = .accepted value) :
    field fields name absent check = .accepted value := by
  unfold field
  rw [found]
  exact Checked.under_eq_accepted_iff.2 reads

theorem list_text_map (items : List Text) :
    list text (.list (items.map .text)) = .accepted items :=
  list_map fun _ _ => rfl

end Validation

open Checked

/-! ## Requests -/

theorem ToolArchive.ofValue_toValue (archive : ToolArchive) :
    ofValue archive.toValue = .accepted archive := by
  obtain ⟨os, architecture, downloadUrl, filename, checksum, token⟩ := archive
  show ofFields _ = _
  unfold ofFields
  refine seq_of_accepted (seq_of_accepted (seq_of_accepted (seq_of_accepted (seq_of_accepted
    (map_of_accepted ?_) ?_) ?_) ?_) ?_) ?_
  all_goals exact field_of_found rfl (Credentials.nullable_text_ofText? _)

namespace Bootstrap

theorem ofValue_toValue (bootstrap : Bootstrap) :
    ofValue bootstrap.toValue = .accepted bootstrap := by
  obtain ⟨name, tools, repoUrl, callbackUrl, metadataUrl, instanceToken, sshKeys, extraSpecs,
    runnerGroup, caCertBundle, osType, arch, flavor, image, labels, poolId, jitConfigEnabled⟩ :=
    bootstrap
  have toolsRead : list ToolArchive.ofValue (.list (tools.map ToolArchive.toValue)) =
      .accepted tools := list_map fun archive _ => archive.ofValue_toValue
  have extraRead : nullable anyDict ((extraSpecs.map .dict).getD .null) = .accepted extraSpecs := by
    cases extraSpecs <;> rfl
  have osTypeRead : choice OsType.texts OsType.ofText? (.text osType.text) = .accepted osType :=
    choice_text osType.isPlain_text osType.ofText?_text
  have archRead : choice Arch.texts Arch.ofText? (.text arch.text) = .accepted arch :=
    choice_text arch.isPlain_text arch.ofText?_text
  show ofFields _ = _
  unfold ofFields
  repeat' first | apply seq_of_accepted | apply map_of_accepted
  -- Every field is held under its own name; which law reads it depends on its kind only.
  all_goals apply field_of_found rfl
  all_goals first
    | rfl
    | exact toolsRead
    | exact list_text_map _
    | exact extraRead
    | exact Credentials.nullable_text_ofText? _
    | exact osTypeRead
    | exact archRead

end Bootstrap

/-! ## Overrides -/

theorem OpenPorts.ofValue_toValue {ports : OpenPorts}
    (permitted : ∀ entry ∈ ports, refusal? entry = none) :
    ofValue ports.toValue = .accepted ports := by
  apply ensure_eq_accepted_iff.2 ⟨ports, ?read, ?checked⟩
  case read =>
    apply dict_eq_accepted_iff.2 ⟨_, rfl, ?_⟩
    rw [List.map_map]
    apply List.map_congr_left
    intro entry _
    have numbers : list int (.list (entry.2.map .int)) = .accepted entry.2 :=
      list_map fun _ _ => rfl
    rw [Function.comp_apply, numbers]
  case checked =>
    unfold check
    rw [List.findSome?_eq_none_iff.2 permitted]

namespace ExtraSpecs

theorem nullable_bool_flagValue (flag : Option Bool) :
    nullable bool (flagValue flag) = .accepted flag := by
  cases flag <;> rfl

theorem dict_text_map (tags : List (Text × Text)) :
    dict text (.dict (tags.map fun tag => (tag.1, .text tag.2))) = .accepted tags := by
  apply dict_eq_accepted_iff.2 ⟨_, rfl, ?_⟩
  rw [List.map_map]
  rfl

theorem nullable_nonNegativeInt_int {size : Option Int}
    (large : ∀ sizeGb, size = some sizeGb → 0 ≤ sizeGb) :
    nullable nonNegativeInt ((size.map .int).getD .null) = .accepted size := by
  cases size with
  | none => rfl
  | some sizeGb =>
      have read : nonNegativeInt (.int sizeGb) = .accepted sizeGb :=
        ensure_eq_accepted_iff.2 ⟨sizeGb, rfl, if_pos (large sizeGb rfl)⟩
      show (nonNegativeInt (.int sizeGb)).map some = _
      rw [read]
      rfl

theorem ofValue_toValue_of_accepted {given : Value} {extra : ExtraSpecs}
    (accepts : ofValue given = .accepted extra) : ofValue extra.toValue = .accepted extra := by
  obtain ⟨fields, rfl, read⟩ := record_eq_accepted_iff.1 accepts
  have ports := OpenPorts.ofValue_toValue (ports_of_accepted read)
  have size := nullable_nonNegativeInt_int fun _ asked => disk_size_of_accepted read asked
  clear accepts read
  obtain ⟨allocatePublicIp, confidential, openInboundPorts, storageAccountType, diskSizeGb,
    extraTags, sshPublicKeys, useEphemeralStorage, useAcceleratedNetworking, virtualNetworkCidr,
    vmSize, image⟩ := extra
  refine record_eq_accepted_iff.2 ⟨_, rfl, ?_⟩
  unfold ofFields
  apply (closed_eq_accepted_iff (by decide)).2 ⟨?_, rfl⟩
  repeat' first | apply seq_of_accepted | apply map_of_accepted
  all_goals apply field_of_found rfl
  all_goals first
    | rfl
    | exact ports
    | exact size
    | exact dict_text_map _
    | exact list_text_map _
    | exact nullable_bool_flagValue _
    | exact Credentials.nullable_text_ofText? _

end ExtraSpecs

/-! ## Configurations -/

namespace ProviderConfig

theorem ofValue_toValue_of_accepted {environment : Environment} {given : Value}
    {config : ProviderConfig} (accepts : ofValue environment given = .accepted config) :
    ofValue environment config.toValue = .accepted config := by
  obtain ⟨fields, rfl, read⟩ := record_eq_accepted_iff.1 accepts
  have credentialsRead := Credentials.ofValue_toValue_of_accepted (credentials_of_accepted read)
  have networkKept : checkNetwork config = .accepted config := by
    obtain ⟨other, _, checked⟩ := ensure_eq_accepted_iff.1 read
    rw [eq_of_checkNetwork checked] at checked
    exact checked
  clear accepts read
  obtain ⟨location, useEphemeralStorage, useAcceleratedNetworking, virtualNetworkCidr, vmSize,
    image, credentials⟩ := config
  apply ensure_eq_accepted_iff.2 ⟨_, ?_, networkKept⟩
  apply (closed_eq_accepted_iff (by decide)).2 ⟨?_, rfl⟩
  apply seq_of_accepted
  · repeat' first | apply seq_of_accepted | apply map_of_accepted
    all_goals exact field_of_found rfl rfl
  · exact under_eq_accepted_iff.2 credentialsRead

end ProviderConfig

/-! ## All models -/

/-- Every accepted model is accepted again in its written form, nulls and defaults included, and comes
out as it was; a configuration does so in the environment that it was read in. A request comes to the
same whichever of its keys every field is given under, if none is given under both: to the same model,
or to as many issues. -/
theorem accepted_models_read_back (environment : Environment) :
    (∀ bootstrap : Bootstrap, Bootstrap.ofValue bootstrap.toValue = .accepted bootstrap) ∧
    (∀ runner : RunnerInstance, RunnerInstance.ofValue runner.toValue = .accepted runner) ∧
    (∀ given extra, ExtraSpecs.ofValue given = .accepted extra →
      ExtraSpecs.ofValue extra.toValue = .accepted extra) ∧
    (∀ given config, ProviderConfig.validate environment given = .ok config →
      ProviderConfig.validate environment config.toValue = .ok config) ∧
    ∀ fields rename, Respells Bootstrap.fieldNames rename →
      (∀ field ∈ Bootstrap.fieldNames, field.GivenOnce fields) →
      let given := Bootstrap.ofValue (.dict fields)
      let respelt := Bootstrap.ofValue (.dict (respelled rename fields))
      (∃ bootstrap, given = .accepted bootstrap ∧ respelt = .accepted bootstrap) ∨
        ∃ issues others, given = .rejected issues ∧ respelt = .rejected others ∧
          others.length = issues.length := by
  refine ⟨Bootstrap.ofValue_toValue, RunnerInstance.ofValue_toValue,
    fun _ _ => ExtraSpecs.ofValue_toValue_of_accepted, ?configurations, ?spellings⟩
  case configurations =>
    intro given config accepts
    rw [ProviderConfig.validate_eq_ok_iff] at accepts ⊢
    exact ProviderConfig.ofValue_toValue_of_accepted accepts
  case spellings =>
    intro fields rename respells once given respelt
    have same : given.Matches respelt := Bootstrap.ofFields_matches respells once
    generalize given = outcome at same ⊢
    generalize respelt = other at same ⊢
    cases same with
    | accepted bootstrap => exact Or.inl ⟨bootstrap, rfl, rfl⟩
    | rejected kinds =>
        have counted := congrArg List.length kinds
        rw [List.length_map, List.length_map] at counted
        exact Or.inr ⟨_, _, rfl, rfl, counted.symm⟩

example : Bootstrap.ofValue (.dict [("name", .text "runner"), ("callback-url", .text "there")]) =
    Bootstrap.ofValue (.dict [("name", .text "runner"), ("callback_url", .text "there")]) :=
  rfl

end RunnerCloud
