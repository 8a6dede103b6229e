import RunnerCloud.Instance
import RunnerCloud.Proofs.Json.Writing
import RunnerCloud.Proofs.Text.Joining

/-!
Contract: the written forms of runners.

Owns:
- that every vocabulary reads its own spellings, and a list what its items read;
- `RunnerInstance.ofValue_toValue`: a written runner is read back as it was;
- `RunnerInstance.joined`, a runner whose texts are joined, which runners stay the same, and
  `joined_toValue`: it is what the written runner is read as from JSON;
- `RunnerInstance.isTextual_toValue`: a written runner holds nothing that JSON could not show.

Does not own: the texts of JSON; `Json` does.
-/

namespace RunnerCloud

/-! ## Vocabularies -/

theorem OsType.ofText?_text (osType : OsType) : ofText? osType.text = some osType := by
  cases osType <;> rfl

theorem Arch.ofText?_text (arch : Arch) : ofText? arch.text = some arch := by
  cases arch <;> rfl

theorem InstanceStatus.ofText?_text (status : InstanceStatus) : ofText? status.text = some status := by
  cases status <;> rfl

theorem OsType.isPlain_text (osType : OsType) : osType.text.isPlain = true := by
  cases osType <;> rfl

theorem Arch.isPlain_text (arch : Arch) : arch.text.isPlain = true := by
  cases arch <;> rfl

theorem AddressKind.isPlain_text (kind : AddressKind) : kind.text.isPlain = true := by
  cases kind <;> rfl

theorem InstanceStatus.isPlain_text (status : InstanceStatus) : status.text.isPlain = true := by
  cases status <;> rfl

namespace Validation

variable {α : Type}

theorem spelled_of_isPlain {read : Text → Checked α} {written : Text}
    (whole : written.isPlain = true) : spelled read written = read written := by
  cases written with
  | plain written => rfl
  | broken written half rest => cases whole

theorem choice_text {choices : List Text} {read : Text → Option α} {written : Text} {value : α}
    (whole : written.isPlain = true) (reads : read written = some value) :
    choice choices read (.text written) = .accepted value := by
  simp only [choice, spelled_of_isPlain whole, chosen, reads]

/-- Null stands for nothing, and everything else for what it is read as. -/
theorem nullable_ofText? {read : Value → Checked α} {write : α → Text} {given : Option α}
    (reads : ∀ value, read (.text (write value)) = .accepted value) :
    nullable read (.ofText? (given.map write)) = .accepted given := by
  cases given with
  | none => rfl
  | some value =>
      show (read (.text (write value))).map some = _
      rw [reads]
      rfl

theorem list_map {read : Value → Checked α} {write : α → Value} {items : List α}
    (reads : ∀ item ∈ items, read (write item) = .accepted item) :
    list read (.list (items.map write)) = .accepted items := by
  refine list_eq_accepted_iff.2 ⟨_, rfl, ?_⟩
  rw [List.map_map]
  exact List.map_congr_left reads

end Validation

/-! ## Runners -/

theorem Address.ofValue_toValue (address : Address) : ofValue address.toValue = .accepted address := by
  obtain ⟨written, kind⟩ := address
  cases kind <;> rfl

theorem Address.isTextual_toValue (address : Address) : address.toValue.isTextual = true := by
  simp [toValue, Value.isTextual, Value.textualEntries]

/-- The address with its text joined. -/
def Address.joined (address : Address) : Address :=
  { address with address := address.address.joined }

theorem Address.joined_toValue (address : Address) :
    address.toValue.joined = address.joined.toValue := by
  have kind := Text.joined_of_isPlain address.kind.isPlain_text
  have distinct : (["address", "type"] : List Text).Nodup := by decide
  refine (Value.joined_dict ?_ ?_).trans ?_
  · rfl
  · exact distinct
  · simp only [toValue, joined, Value.joined, kind, List.map_cons, List.map_nil]

namespace RunnerInstance

open Validation

theorem ofValue_toValue (runner : RunnerInstance) : ofValue runner.toValue = .accepted runner := by
  obtain ⟨providerId, name, osType, osArch, osName, osVersion, status, addresses⟩ := runner
  have osTypes : nullable (choice OsType.texts OsType.ofText?) (.ofText? (osType.map OsType.text)) =
      .accepted osType := nullable_ofText? fun value => choice_text value.isPlain_text value.ofText?_text
  have arches : nullable (choice Arch.texts Arch.ofText?) (.ofText? (osArch.map Arch.text)) =
      .accepted osArch := nullable_ofText? fun value => choice_text value.isPlain_text value.ofText?_text
  have statuses : choice InstanceStatus.texts InstanceStatus.ofText? (.text status.text) =
      .accepted status :=
    choice_text status.isPlain_text status.ofText?_text
  have listed : list Address.ofValue (.list (addresses.map Address.toValue)) = .accepted addresses :=
    list_map fun address _ => address.ofValue_toValue
  show (((((((Checked.map RunnerInstance.mk (.accepted providerId)).apply (.accepted name)).apply
    ((nullable (choice OsType.texts OsType.ofText?)
      (.ofText? (osType.map OsType.text))).under (.key "os_type"))).apply
    ((nullable (choice Arch.texts Arch.ofText?)
      (.ofText? (osArch.map Arch.text))).under (.key "os_arch"))).apply (.accepted osName)).apply
    (.accepted osVersion)).apply
    ((choice InstanceStatus.texts InstanceStatus.ofText? (.text status.text)).under
      (.key "status"))).apply
    ((list Address.ofValue (.list (addresses.map Address.toValue))).under (.key "addresses")) = _
  rw [osTypes, arches, statuses, listed]
  rfl

theorem isTextual_toValue (runner : RunnerInstance) : runner.toValue.isTextual = true := by
  have word : ∀ given : Option Text, (Value.ofText? given).isTextual = true := by
    intro given
    cases given <;> rfl
  have listed : Value.textualItems (runner.addresses.map Address.toValue) = true := by
    rw [Value.textualItems_eq_all, List.all_map, List.all_eq_true]
    exact fun address _ => address.isTextual_toValue
  unfold toValue
  simp only [Value.isTextual, Value.textualEntries, word, listed, Bool.and_true]

theorem keys_nodup : (["provider_id", "name", "os_type", "os_arch", "os_name", "os_version", "status",
    "addresses"] : List Text).Nodup := by
  decide

/-- The runner with its texts joined. -/
def joined (runner : RunnerInstance) : RunnerInstance :=
  { runner with
    providerId := runner.providerId.joined
    name := runner.name.joined
    osName := runner.osName.joined
    osVersion := runner.osVersion.joined
    addresses := runner.addresses.map Address.joined }

/-- The texts of a runner that are not of a vocabulary. -/
def texts (runner : RunnerInstance) : List Text :=
  [runner.providerId, runner.name, runner.osName, runner.osVersion] ++
    runner.addresses.map Address.address

/-- Exactly the runners in whose texts no high half stands directly before a low one stay the same. -/
theorem joined_eq_self_iff (runner : RunnerInstance) :
    runner.joined = runner ↔ ∀ text ∈ runner.texts, ¬ CodePoint.Paired text.points := by
  obtain ⟨providerId, name, osType, osArch, osName, osVersion, status, addresses⟩ := runner
  have kept : addresses.map Address.joined = addresses ↔
      ∀ address ∈ addresses, ¬ CodePoint.Paired address.address.points := by
    have self : addresses.map Address.joined = addresses.map id ↔ _ := List.map_inj_left
    rw [List.map_id] at self
    rw [self]
    refine forall₂_congr fun address _ => ?_
    rw [← Text.joined_eq_self_iff]
    cases address
    simp [Address.joined]
  simp only [joined, texts, mk.injEq, Text.joined_eq_self_iff, kept, List.forall_mem_append,
    List.forall_mem_map, List.forall_mem_cons, true_and]
  simp [and_assoc]

/-- Joining the texts of a written runner is joining those of the runner. -/
theorem joined_toValue (runner : RunnerInstance) : runner.toValue.joined = runner.joined.toValue := by
  have word {α : Type} {write : α → Text} (whole : ∀ value, (write value).isPlain = true)
      (given : Option α) :
      (Value.ofText? (given.map write)).joined = .ofText? (given.map write) := by
    cases given with
    | none => rfl
    | some value => exact congrArg Value.text (Text.joined_of_isPlain (whole value))
  have status := Text.joined_of_isPlain runner.status.isPlain_text
  have addresses : Value.joined ∘ Address.toValue = Address.toValue ∘ Address.joined :=
    funext Address.joined_toValue
  refine (Value.joined_dict ?_ ?_).trans ?_
  · rfl
  · exact keys_nodup
  · simp only [toValue, joined, Value.joined, Value.joinedItems_eq_map, word OsType.isPlain_text,
      word Arch.isPlain_text, status, addresses, List.map_cons, List.map_nil, List.map_map]

end RunnerInstance

end RunnerCloud
