import RunnerCloud.ExtraSpecs

/-!
Contract: what accepted overrides promise.

Owns:
- `ExtraSpecs.disk_size_of_accepted`: a disk size is not negative;
- `ExtraSpecs.ports_of_accepted`: no list of open ports is one that is refused.

Does not own: how overrides combine with the request and the configuration.
-/

namespace RunnerCloud

open Validation

/-- An optional field has its default or a value that passed the check. -/
theorem Validation.optional_of_accepted {α : Type} {fields : Fields} {name : FieldName}
    {default value : α} {check : Value → Checked α}
    (accepts : optional fields name default check = .accepted value) :
    value = default ∨ ∃ given, check given = .accepted value := by
  unfold optional field at accepts
  split at accepts
  · exact Or.inr ⟨_, Checked.under_eq_accepted_iff.1 accepts⟩
  · cases accepts
    exact Or.inl rfl

/-- A field that is given has a value that passed the check. -/
theorem Validation.optional_of_given {α : Type} {fields : Fields} {name : Text} {given : Value}
    {default value : α} {check : Value → Checked α} (gives : fields.get? name = some given)
    (accepts : optional fields (.plain name) default check = .accepted value) :
    check given = .accepted value := by
  have found : (FieldName.plain name).find? fields = some (name, given) := by
    simp [FieldName.find?, FieldName.plain, gives]
  unfold optional field at accepts
  rw [found] at accepts
  exact Checked.under_eq_accepted_iff.1 accepts

theorem Validation.nullable_of_accepted {α : Type} {given : Value} {value : α}
    {present : Value → Checked α} (accepts : nullable present given = .accepted (some value)) :
    present given = .accepted value := by
  unfold nullable at accepts
  split at accepts
  · cases accepts
  · obtain ⟨_, read, same⟩ := Checked.map_eq_accepted_iff.1 accepts
    rw [read, Option.some.inj same]

namespace OpenPorts

theorem protocol_of_refusal?_eq_none {entry : Text × List Int} (passes : refusal? entry = none) :
    ∃ protocol, Protocol.ofText? entry.1 = some protocol := by
  unfold refusal? at passes
  split at passes
  · cases passes
  · rename_i protocol named
    exact ⟨protocol, named⟩

theorem refusal?_of_accepted {given : Value} {ports : OpenPorts}
    (accepts : OpenPorts.ofValue given = .accepted ports) :
    ∀ entry ∈ ports, refusal? entry = none := by
  obtain ⟨read, _, checked⟩ := Checked.ensure_eq_accepted_iff.1 accepts
  unfold check at checked
  split at checked
  · cases checked
  · rename_i passes
    cases checked
    exact List.findSome?_eq_none_iff.1 passes

end OpenPorts

namespace ExtraSpecs

variable {fields : Fields} {extra : ExtraSpecs}

/-- The two overrides whose values are restricted, as they were read. -/
theorem restricted_of_accepted (accepts : ofFields fields = .accepted extra) :
    optional fields (.plain "open_inbound_ports") [] OpenPorts.ofValue =
        .accepted extra.openInboundPorts ∧
      optional fields (.plain "disk_size_gb") none (nullable nonNegativeInt) =
        .accepted extra.diskSizeGb := by
  -- The readings are peeled off from the last field to the first.
  obtain ⟨read, _⟩ := (closed_eq_accepted_iff rfl).1 accepts
  obtain ⟨_, image, read, _, made⟩ := Checked.seq_eq_accepted_iff.1 read
  obtain ⟨_, vmSize, read, _, made⟩ := Checked.seq_eq_accepted_iff.1 read
  obtain ⟨_, network, read, _, made⟩ := Checked.seq_eq_accepted_iff.1 read
  obtain ⟨_, accelerated, read, _, made⟩ := Checked.seq_eq_accepted_iff.1 read
  obtain ⟨_, ephemeral, read, _, made⟩ := Checked.seq_eq_accepted_iff.1 read
  obtain ⟨_, keys, read, _, made⟩ := Checked.seq_eq_accepted_iff.1 read
  obtain ⟨_, tags, read, _, made⟩ := Checked.seq_eq_accepted_iff.1 read
  obtain ⟨_, diskSize, read, diskSizeRead, made⟩ := Checked.seq_eq_accepted_iff.1 read
  obtain ⟨_, storageType, read, _, made⟩ := Checked.seq_eq_accepted_iff.1 read
  obtain ⟨_, ports, read, portsRead, made⟩ := Checked.seq_eq_accepted_iff.1 read
  obtain ⟨_, confidential, read, _, made⟩ := Checked.seq_eq_accepted_iff.1 read
  obtain ⟨publicIp, _, made⟩ := Checked.map_eq_accepted_iff.1 read
  subst_vars
  exact ⟨portsRead, diskSizeRead⟩

theorem ports_of_accepted (accepts : ofFields fields = .accepted extra) :
    ∀ entry ∈ extra.openInboundPorts, OpenPorts.refusal? entry = none := by
  rcases optional_of_accepted (restricted_of_accepted accepts).1 with none | ⟨given, read⟩
  · simp [none]
  · exact OpenPorts.refusal?_of_accepted read

theorem disk_size_of_accepted (accepts : ofFields fields = .accepted extra) {sizeGb : Int}
    (asked : extra.diskSizeGb = some sizeGb) : 0 ≤ sizeGb := by
  rcases optional_of_accepted (restricted_of_accepted accepts).2 with none | ⟨given, read⟩
  · rw [asked] at none
    cases none
  · rw [asked] at read
    obtain ⟨number, _, large⟩ := Checked.ensure_eq_accepted_iff.1 (nullable_of_accepted read)
    split at large
    · rename_i enough
      cases large
      exact enough
    · cases large

end ExtraSpecs

end RunnerCloud
