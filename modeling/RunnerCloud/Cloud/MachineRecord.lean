import RunnerCloud.Failure
import RunnerCloud.Instance
import RunnerCloud.Spec.RunnerSpec

/-!
Contract: the cloud's record of a VM, and the view of it that the host gets.

Owns:
- `MachineRecord`, with its reader;
- `InstanceStatus.ofMachine`, the status that follows from the provisioning state and the first
  power state of a record;
- `RunnerInstance.ofMachine`, the view of a record, whose details come from the tags that were
  written when the VM was created.

Does not own: fetching records.
-/

namespace RunnerCloud

/-- What a record says, each part as the cloud gives it. -/
structure MachineRecord where
  name : Value
  provisioningState : Value
  tags : Value
  statuses : Value
deriving DecidableEq, Repr

namespace MachineRecord

/-- Reads a record; null is none. -/
def ofValue? : Value → Option MachineRecord
  | .null => none
  | value =>
    some
      { name := value.field "name"
        provisioningState := value.field "provisioning_state"
        tags := value.field "tags"
        statuses := (value.field "instance_view").field "statuses" }

end MachineRecord

/-- What the codes of power states start with. -/
def powerStateMark : Text := "PowerState/"

def isPowerState (code : Text) : Bool :=
  powerStateMark.points.isPrefixOf code.points

/-- The first power state that statuses tell by their codes. -/
def powerStateAmong? : List Value → Except Misuse (Option Text)
  | [] => .ok none
  | status :: rest =>
    match status.field "code" with
    | .text code => if isPowerState code then .ok (some code) else powerStateAmong? rest
    | code => if code.isEmptyLike then powerStateAmong? rest else .error (code.lacks "startswith")

/-- The first power state of a record. -/
def MachineRecord.powerState? (record : MachineRecord) : Except Misuse (Option Text) := do
  powerStateAmong? (← record.statuses.givenItems)

namespace InstanceStatus

/-- The status that a provisioning state, in any letter case, stands for. -/
def ofProvisioningState (state : Text) : InstanceStatus :=
  match state.toLower with
  | .plain "succeeded" => .running
  | .plain "creating" => .running
  | .plain "updating" => .running
  | .plain "failed" => .error
  | .plain "deleting" => .deleting
  | _ => .unknown

/-- The status that a power state stands for, letter for letter. -/
def ofPowerState? : Text → Option InstanceStatus
  | .plain "PowerState/running" => some .running
  | .plain "PowerState/starting" => some .running
  | .plain "PowerState/stopped" => some .stopped
  | .plain "PowerState/stopping" => some .stopped
  | .plain "PowerState/deallocated" => some .stopped
  | .plain "PowerState/deallocating" => some .stopped
  | _ => none

/-- A failed or vanishing VM is reported as such; otherwise the power state decides. -/
def ofStates (provisioning : InstanceStatus) (powerState : Except Misuse (Option Text)) :
    Except Misuse InstanceStatus :=
  match provisioning with
  | .error => .ok .error
  | .deleting => .ok .deleting
  | other => powerState.map fun power => (power.bind ofPowerState?).getD other

/-- The status of a record; nothing is known without one. -/
def ofMachine : Option MachineRecord → Except Misuse InstanceStatus
  | some record => do
    let state ← record.provisioningState.givenText
    ofStates (ofProvisioningState state) record.powerState?
  | none => .ok .unknown

end InstanceStatus

namespace RunnerInstance

/-- The entries from which the view of a record is read. -/
def fieldsOfMachine (name : Value) (tags : Fields) (status : InstanceStatus) : Fields :=
  let tag (key : Text) (absent : Value) := (tags.get? key).getD absent
  [ ("provider_id", name),
    ("name", name),
    ("os_type", tag Tags.osType .null),
    ("os_arch", tag Tags.osArch .null),
    ("os_name", tag Tags.osName (.text "")),
    ("os_version", tag Tags.osVersion (.text "")),
    ("status", .text status.text)]

/-- The view of a VM with a name, or why it has none. -/
def ofParts (name : Value) (tags : Fields) (status : InstanceStatus) :
    Except Failure RunnerInstance :=
  match ofFields (fieldsOfMachine name tags status) with
  | .accepted runner => .ok runner
  | .rejected issues =>
    if name.isWritable then .error (.unreadableRecord (.invalid name issues))
    else .error .unwritableInteger

/-- The view of a record, or why it has none. -/
def ofMachine : Option MachineRecord → Except Failure RunnerInstance
  | none => .error (.unreadableRecord .noRecord)
  | some record =>
    if record.name.isEmptyLike then .error (.unreadableRecord .noName)
    else do
      let tags ← record.tags.givenEntries.mapError .misused
      let status ← (InstanceStatus.ofMachine (some record)).mapError .misused
      ofParts record.name tags status

end RunnerInstance

end RunnerCloud
