import RunnerCloud.Cloud.MachineRecord
import RunnerCloud.Proofs.Provision.Preparation
import RunnerCloud.Provision.Lifecycle

/-!
Contract: what the host gets to see of the cloud's records of VMs.

Owns:
- `Tags.field?_toValue`, what a VM is tagged with under a key;
- `Value.IsTextual`, the values that are texts or missing;
- `RunnerInstance.ofMachine_of_tags`, the view of a record with the tags of a runner, and
  `RunnerInstance.name_of_view`, by which a view has the name of its record;
- `tagMisuse?` and `isKept`, by which `listedFor_eq` says what a listing keeps for a pool;
- `poolViews`, the views of the records of a pool, and `get_outcome` and `listPool_outcome`, by which
  the provider reports views of what the cloud answers.

Does not own: which tags a VM is created with.
-/

namespace RunnerCloud

/-! ## Tags -/

namespace Tags

theorem field?_toValue (tags : Tags) (key : Text) :
    tags.toValue.field? key = (tags.lookup key).map .text := by
  show List.lookup key (tags.map fun tag => (tag.1, Value.text tag.2)) = _
  induction tags with
  | nil => rfl
  | cons tag rest inductionHypothesis =>
      rw [List.map_cons, List.lookup_cons, List.lookup_cons]
      cases key == tag.1 with
      | true => rfl
      | false => exact inductionHypothesis

end Tags

/-- A text, or nothing. -/
def Value.IsTextual (value : Value) : Prop :=
  value = .null ∨ ∃ written, value = .text written

instance (value : Value) : Decidable value.IsTextual :=
  match value with
  | .null => .isTrue (.inl rfl)
  | .text written => .isTrue (.inr ⟨written, rfl⟩)
  | .bool _ | .int _ | .float _ | .moment _ | .list _ | .dict _ =>
      .isFalse (by rintro (same | ⟨_, same⟩) <;> cases same)

/-! ## The view of a record -/

theorem mapError_eq_ok_iff {ε δ α : Type} {given : Except ε α} {wrap : ε → δ} {value : α} :
    given.mapError wrap = .ok value ↔ given = .ok value := by
  cases given <;> simp

theorem mapError_eq_error_iff {ε δ α : Type} {given : Except ε α} {wrap : ε → δ} {problem : δ} :
    given.mapError wrap = .error problem ↔ ∃ cause, given = .error cause ∧ wrap cause = problem := by
  cases given <;> simp

theorem InstanceStatus.ofMachine_running {record : MachineRecord} {state : Text}
    {power : Option Text} (provisioned : record.provisioningState = .text state)
    (steady : state.toLower ∈ (["succeeded", "creating", "updating"] : List Text))
    (told : record.powerState? = .ok power)
    (running : ∀ code, power = some code →
      code ∈ (["PowerState/running", "PowerState/starting"] : List Text)) :
    InstanceStatus.ofMachine (some record) = .ok .running := by
  have provisioning : ofProvisioningState state = .running := by
    unfold ofProvisioningState
    simp only [List.mem_cons, List.not_mem_nil, or_false] at steady
    rcases steady with same | same | same <;> (rw [same]; rfl)
  simp only [ofMachine, provisioned]
  show ofStates (ofProvisioningState state) record.powerState? = _
  rw [provisioning, told]
  cases power with
  | none => rfl
  | some code =>
      have known := running code rfl
      simp only [List.mem_cons, List.not_mem_nil, or_false] at known
      rcases known with rfl | rfl <;> rfl

theorem Validation.text_eq_accepted {value : Value} {written : Text}
    (reads : Validation.text value = .accepted written) : value = .text written := by
  cases value with
  | text other =>
      cases reads
      rfl
  | _ => cases reads

namespace RunnerInstance

theorem ofFields_tagged (name : Text) (osType : OsType) (arch : Arch) (osName osVersion : Text)
    (status : InstanceStatus) :
    ofFields [
        ("provider_id", .text name),
        ("name", .text name),
        ("os_type", .text osType.text),
        ("os_arch", .text arch.text),
        ("os_name", .text osName),
        ("os_version", .text osVersion),
        ("status", .text status.text)] =
      .accepted ⟨name, name, some osType, some arch, osName, osVersion, status, []⟩ := by
  cases osType <;> cases arch <;> cases status <;> rfl

/-- The view of a record with the tags of a runner; its states only make a difference to the status. -/
theorem ofMachine_of_tags {record : MachineRecord} {tags : Fields} {name : Text}
    {osType : OsType} {arch : Arch} {osName osVersion : Text} {status : InstanceStatus}
    (named : record.name = .text name) (present : name ≠ "")
    (tagged : record.tags.givenEntries = .ok tags)
    (osTypeTag : tags.get? Tags.osType = some (.text osType.text))
    (archTag : tags.get? Tags.osArch = some (.text arch.text))
    (osNameTag : tags.get? Tags.osName = some (.text osName))
    (osVersionTag : tags.get? Tags.osVersion = some (.text osVersion))
    (stated : InstanceStatus.ofMachine (some record) = .ok status) :
    ofMachine (some record) =
      .ok ⟨name, name, some osType, some arch, osName, osVersion, status, []⟩ := by
  have fields : fieldsOfMachine (.text name) tags status = ([
      ("provider_id", .text name),
      ("name", .text name),
      ("os_type", .text osType.text),
      ("os_arch", .text arch.text),
      ("os_name", .text osName),
      ("os_version", .text osVersion),
      ("status", .text status.text)] : Fields) := by
    simp only [fieldsOfMachine, osTypeTag, archTag, osNameTag, osVersionTag, Option.getD_some]
  have visible : (Value.text name).isEmptyLike = false := by
    simp [Value.isEmptyLike, present]
  simp only [ofMachine]
  rw [named, visible, tagged, stated]
  show ofParts (.text name) tags status = _
  unfold ofParts
  rw [fields, ofFields_tagged]

/-- Of a record that has a view, the name, the tags and the status can be read. -/
theorem parts_of_view {record : MachineRecord} {view : RunnerInstance}
    (views : ofMachine (some record) = .ok view) :
    ∃ tags status, record.tags.givenEntries = .ok tags ∧
      InstanceStatus.ofMachine (some record) = .ok status ∧
      ofParts record.name tags status = .ok view := by
  simp only [ofMachine] at views
  split at views
  · cases views
  · obtain ⟨tags, tagged, views⟩ := RunnerSpec.exists_of_bind_eq_ok views
    obtain ⟨status, stated, views⟩ := RunnerSpec.exists_of_bind_eq_ok views
    exact ⟨tags, status, mapError_eq_ok_iff.1 tagged, mapError_eq_ok_iff.1 stated, views⟩

theorem name_of_parts {name : Value} {tags : Fields} {status : InstanceStatus}
    {view : RunnerInstance} (views : ofParts name tags status = .ok view) :
    name = .text view.name := by
  unfold ofParts at views
  split at views
  · rename_i viewed read
    cases views
    unfold ofFields at read
    obtain ⟨_, addresses, read, _, made⟩ := Checked.seq_eq_accepted_iff.1 read
    obtain ⟨_, status, read, _, made⟩ := Checked.seq_eq_accepted_iff.1 read
    obtain ⟨_, osVersion, read, _, made⟩ := Checked.seq_eq_accepted_iff.1 read
    obtain ⟨_, osName, read, _, made⟩ := Checked.seq_eq_accepted_iff.1 read
    obtain ⟨_, osArch, read, _, made⟩ := Checked.seq_eq_accepted_iff.1 read
    obtain ⟨_, osType, read, _, made⟩ := Checked.seq_eq_accepted_iff.1 read
    obtain ⟨_, written, read, nameRead, made⟩ := Checked.seq_eq_accepted_iff.1 read
    obtain ⟨providerId, _, made⟩ := Checked.map_eq_accepted_iff.1 read
    subst made
    have nameText : (Validation.text name).under (.key "name") = .accepted written := nameRead
    rw [Validation.text_eq_accepted (Checked.under_eq_accepted_iff.1 nameText)]
    subst_vars
    rfl
  · split at views <;> cases views

/-- What a record is refused for: it is not as a VM is reported, or a part of it is used in a way that
its kind does not allow, or its name cannot be written. -/
theorem refusal_cases {record : Option MachineRecord} {failure : Failure}
    (refuses : ofMachine record = .error failure) :
    (∃ problem, failure = .unreadableRecord problem) ∨ (∃ misuse, failure = .misused misuse) ∨
      failure = .unwritableInteger := by
  cases record with
  | none =>
      cases refuses
      exact Or.inl ⟨_, rfl⟩
  | some record =>
      simp only [ofMachine] at refuses
      split at refuses
      · cases refuses
        exact Or.inl ⟨_, rfl⟩
      cases tagged : record.tags.givenEntries with
      | error misuse =>
          rw [tagged] at refuses
          cases refuses
          exact Or.inr (Or.inl ⟨_, rfl⟩)
      | ok tags =>
          rw [tagged] at refuses
          cases stated : InstanceStatus.ofMachine (some record) with
          | error misuse =>
              rw [stated] at refuses
              cases refuses
              exact Or.inr (Or.inl ⟨_, rfl⟩)
          | ok status =>
              rw [stated] at refuses
              change ofParts record.name tags status = _ at refuses
              unfold ofParts at refuses
              split at refuses
              · cases refuses
              · split at refuses <;> cases refuses
                · exact Or.inl ⟨_, rfl⟩
                · exact Or.inr (Or.inr rfl)

/-- A view has the name of its record. -/
theorem name_of_view {record : MachineRecord} {view : RunnerInstance}
    (views : ofMachine (some record) = .ok view) : record.name = .text view.name := by
  obtain ⟨_, _, _, _, made⟩ := parts_of_view views
  exact name_of_parts made

end RunnerInstance

namespace Provision

open Operation

/-! ## What the provider reports -/

section Reports

variable {session : Session}

theorem call_outcome {request : Request} (sound : (session.script.next request.method).fault = none) :
    (call request session).outcome = .ok (session.script.next request.method) := by
  rw [call_of_sound sound]

/-- An inspection fails for its call, or as the record that the cloud answers is refused. -/
theorem outcome_get (name : Text) (session : Session) :
    (get name session).outcome =
      match (session.script.next .getMachine).fault with
      | some fault => .error (.failed (Cloud.reported (.getMachine name) (.fault fault)))
      | none => (RunnerInstance.ofMachine
          (MachineRecord.ofValue? (session.script.answer .getMachine))).mapError .failed := by
  unfold get
  cases called : (session.script.next .getMachine).fault with
  | some fault =>
      have stops : (Cloud.getMachine name name session).outcome =
          .error (.failed (Cloud.reported (.getMachine name) (.fault fault))) := by
        have met : call (.getMachine name name) session = _ := call_of_fault called
        unfold Cloud.getMachine submit
        rw [guarded_apply, bind_apply_of_error (by rw [met])]
        rfl
      rw [bind_apply_of_error stops]
  | none =>
      have fetched : (Cloud.getMachine name name session).outcome =
          .ok (session.script.answer .getMachine) := by
        have met : (call (.getMachine name name) session).outcome = _ := call_outcome called
        unfold Cloud.getMachine submit
        rw [guarded_apply, Execution.renamed_ok_iff, bind_apply_of_ok met]
        rfl
      rw [bind_apply_of_ok fetched]
      exact outcome_ofExcept _ _ _

/-- The provider reports the view of the record that the cloud answers. -/
theorem get_outcome {name : Text} {view : RunnerInstance}
    (sound : (session.script.next .getMachine).fault = none)
    (views : RunnerInstance.ofMachine
      (MachineRecord.ofValue? (session.script.answer .getMachine)) = .ok view) :
    (get name session).outcome = .ok view := by
  rw [outcome_get, sound, views]
  rfl

/-- The record has a view. -/
def HasView (item : Value) : Prop :=
  ∃ view, RunnerInstance.ofMachine (MachineRecord.ofValue? item) = .ok view

/-- The item carries the tag of a pool. -/
def isTagged (poolId : Text) (item : Value) : Bool :=
  ((item.field "tags").entries.get? Tags.poolId).bind Value.text? == some poolId

/-- A listing for a pool passes over the items that are there and do not carry its tag. -/
def isKept (poolId : Text) : Value → Bool
  | .null => true
  | item => isTagged poolId item

/-- What is wrong with looking for a tag of an item, if anything is. -/
def tagMisuse? : Value → Option Misuse
  | .null => none
  | .dict entries =>
    match ((Value.dict entries).field "tags").givenEntries with
    | .ok _ => none
    | .error misuse => some misuse
  | item => some (item.lacks "tags")

theorem givenEntries_ok {value : Value} {entries : Fields}
    (given : value.givenEntries = .ok entries) : entries = value.entries := by
  cases value with
  | dict others => exact (Except.ok.inj given).symm
  | _ =>
      simp only [Value.givenEntries] at given
      split at given <;> cases given
      rfl

theorem isListedFor_eq (poolId : Text) (item : Value) :
    Cloud.isListedFor poolId item =
      match tagMisuse? item with
      | some misuse => .error misuse
      | none => .ok (isKept poolId item) := by
  cases item with
  | dict entries =>
      simp only [Cloud.isListedFor, tagMisuse?, isKept, isTagged]
      cases given : ((Value.dict entries).field "tags").givenEntries with
      | error misuse => rfl
      | ok tags =>
          rw [← givenEntries_ok given]
          rfl
  | _ => rfl

/-- The first item of which a tag cannot be looked for stops a listing. -/
theorem listedFor_eq (poolId : Text) (items : List Value) :
    Cloud.listedFor poolId items =
      match items.findSome? tagMisuse? with
      | some misuse => .error misuse
      | none => .ok (items.filter (isKept poolId)) := by
  induction items with
  | nil => rfl
  | cons item rest inductionHypothesis =>
      unfold Cloud.listedFor
      rw [isListedFor_eq, inductionHypothesis, List.findSome?_cons]
      cases tagMisuse? item with
      | some misuse => rfl
      | none =>
          cases rest.findSome? tagMisuse? with
          | some misuse => rfl
          | none =>
              show Except.ok (if isKept poolId item = true then _ else _) = Except.ok _
              rw [List.filter_cons]

theorem tagMisuse?_of_view {item : Value} (views : HasView item) : tagMisuse? item = none := by
  obtain ⟨view, viewed⟩ := views
  cases item with
  | null => rfl
  | dict entries =>
      obtain ⟨tags, _, tagged, _⟩ := RunnerInstance.parts_of_view viewed
      have given : ((Value.dict entries).field "tags").givenEntries = .ok tags := tagged
      simp only [tagMisuse?, given]
  | _ => cases viewed

/-- The views of the items of a pool in a listing, where they have one. -/
def poolViews (poolId : Text) (items : List Value) : List RunnerInstance :=
  (items.filter (isKept poolId)).filterMap fun item =>
    (RunnerInstance.ofMachine (MachineRecord.ofValue? item)).toOption

theorem poolViews_append (poolId : Text) (earlier later : List Value) :
    poolViews poolId (earlier ++ later) = poolViews poolId earlier ++ poolViews poolId later := by
  simp [poolViews]

theorem viewsOf_eq {items : List Value} (views : ∀ item ∈ items, HasView item) :
    viewsOf items = .ok (items.filterMap fun item =>
      (RunnerInstance.ofMachine (MachineRecord.ofValue? item)).toOption) := by
  unfold viewsOf
  induction items with
  | nil => rfl
  | cons item rest inductionHypothesis =>
      obtain ⟨view, viewed⟩ := views item (by simp)
      have restViews := inductionHypothesis fun other member => views other (by simp [member])
      rw [List.mapM_cons, restViews, viewed, List.filterMap_cons, viewed]
      rfl

theorem outcome_listMachines_of_sound (poolId : Text)
    (sound : (session.script.next .listMachines).fault = none)
    (complete : (session.script.next .listMachines).itemsFault = none)
    (readable : ∀ item ∈ (session.script.next .listMachines).items, tagMisuse? item = none) :
    (Cloud.listMachines poolId session).outcome =
      .ok ((session.script.next .listMachines).items.filter (isKept poolId)) := by
  have called : (list .listMachines session).outcome =
      .ok ⟨(session.script.next .listMachines).items, none⟩ := by
    rw [← complete]
    exact outcome_list_of_sound _ sound
  have readableAll :
      (session.script.next .listMachines).items.findSome? tagMisuse? = none := by
    rw [List.findSome?_eq_none_iff]
    exact readable
  unfold Cloud.listMachines
  rw [guarded_apply, Execution.renamed_ok_iff, bind_apply_of_ok called]
  show ((ofExcept .misused (Cloud.listedFor poolId _) >>= _) _).outcome = _
  rw [listedFor_eq, readableAll]
  rfl

/-- The provider reports the views of the records of a pool. -/
theorem listPool_outcome {poolId : Text}
    (sound : (session.script.next .listMachines).fault = none)
    (complete : (session.script.next .listMachines).itemsFault = none)
    (readable : ∀ item ∈ (session.script.next .listMachines).items, tagMisuse? item = none)
    (views : ∀ item ∈ (session.script.next .listMachines).items,
      isKept poolId item = true → HasView item) :
    (listPool poolId session).outcome =
      .ok (poolViews poolId (session.script.next .listMachines).items) := by
  unfold listPool
  rw [bind_apply_of_ok (outcome_listMachines_of_sound poolId sound complete readable)]
  have viewed : viewsOf ((session.script.next .listMachines).items.filter (isKept poolId)) = _ :=
    viewsOf_eq fun item member => views item (List.mem_filter.1 member).1 (List.mem_filter.1 member).2
  rw [viewed]
  rfl

end Reports

end Provision

end RunnerCloud
