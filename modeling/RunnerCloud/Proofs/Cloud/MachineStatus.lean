import RunnerCloud.Proofs.Provision.Reports
import RunnerCloud.Proofs.Spec.ToolSelection

/-!
Contract: what the status of a VM depends on.

Owns:
- `statusesOf`, `provisioningOf` and `FirstPower`, what a record of the cloud tells about the states
  of its VM, whatever of it is missing;
- `ReadableStates`, the records whose states are texts or missing;
- `powerStateAmong?_eq` and `firstPower_iff`: the power state that is looked for is the first one;
- `StatusRule`, the status by the provisioning state and the first power state, and
  `InstanceStatus.ofMachine_rule`, by which every such record has the status that the rules give it;
- `status_normalised`: which records have which status, and what of a record makes no difference.

Does not own: the other details of a record.
-/

namespace RunnerCloud

/-! ## The states that a record tells -/

/-- The statuses of a record; without an instance view there are none. -/
def statusesOf (item : Value) : List Value :=
  ((item.field "instance_view").field "statuses").items

/-- The provisioning state of a record in lower case, empty when there is none. -/
def provisioningOf (item : Value) : Text :=
  ((item.field "provisioning_state").text?.getD "").toLower

/-- What a record tells about states is text, as far as it is there. -/
structure ReadableStates (item : Value) : Prop where
  provisioning : (item.field "provisioning_state").IsTextual
  statuses : (item.field "instance_view").field "statuses" = .null ∨
    (item.field "instance_view").field "statuses" = .list (statusesOf item)
  codes : ∀ status ∈ statusesOf item, (status.field "code").IsTextual

/-- A status tells a power state by its code. -/
structure TellsPower (status : Value) (code : Text) : Prop where
  given : status.field "code" = .text code
  marked : Text.points "PowerState/" <+: code.points

/-- The first status that tells a power state tells this one. -/
def FirstPower (item : Value) (code : Text) : Prop :=
  ∃ status, IsFirst (fun candidate => ∃ told, TellsPower candidate told) (statusesOf item) status ∧
    TellsPower status code

/-- The first power state that statuses tell. -/
def firstPowerOf (statuses : List Value) : Option Text :=
  (statuses.filterMap fun status => (status.field "code").text?).find? isPowerState

theorem text?_eq_some_iff {value : Value} {written : Text} :
    value.text? = some written ↔ value = .text written := by
  cases value <;> simp [Value.text?]

theorem isPowerState_iff {code : Text} :
    isPowerState code = true ↔ Text.points "PowerState/" <+: code.points :=
  List.isPrefixOf_iff_prefix

theorem tellsPower_iff {status : Value} {code : Text} : TellsPower status code ↔
    (status.field "code").text? = some code ∧ isPowerState code = true := by
  rw [text?_eq_some_iff, isPowerState_iff]
  exact ⟨fun tells => ⟨tells.given, tells.marked⟩, fun tells => ⟨tells.1, tells.2⟩⟩

theorem firstPower_iff {item : Value} {code : Text} :
    FirstPower item code ↔ firstPowerOf (statusesOf item) = some code := by
  have decides : ∀ status : Value,
      ((status.field "code").text?).any isPowerState = true ↔ ∃ told, TellsPower status told := by
    intro status
    simp only [Option.any_eq_true, tellsPower_iff]
  unfold firstPowerOf FirstPower
  rw [List.find?_filterMap, Option.bind_eq_some_iff]
  constructor
  · rintro ⟨status, first, tells⟩
    exact ⟨status, (find?_eq_some_iff_isFirst decides).2 first, (tellsPower_iff.1 tells).1⟩
  · rintro ⟨status, finds, given⟩
    have first := (find?_eq_some_iff_isFirst decides).1 finds
    obtain ⟨told, tells⟩ := first.holds
    obtain rfl : told = code := Option.some.inj ((tellsPower_iff.1 tells).1.symm.trans given)
    exact ⟨status, first, tells⟩

/-! ## Statuses that make no difference -/

section Statuses

variable {before after : List Value}

/-- Where all codes are texts or missing, the first power state is found. -/
theorem powerStateAmong?_eq {statuses : List Value}
    (codes : ∀ status ∈ statuses, (status.field "code").IsTextual) :
    powerStateAmong? statuses = .ok (firstPowerOf statuses) := by
  induction statuses with
  | nil => rfl
  | cons status rest inductionHypothesis =>
      have later := inductionHypothesis fun other member => codes other (by simp [member])
      unfold powerStateAmong? firstPowerOf
      rw [List.filterMap_cons]
      rcases codes status (by simp) with missing | ⟨code, given⟩
      · rw [missing]
        exact later
      · rw [given]
        show (if isPowerState code then _ else _) = Except.ok (List.find? _ (code :: _))
        rw [List.find?_cons]
        cases isPowerState code with
        | true => rfl
        | false => exact later

theorem firstPowerOf_append (earlier later : List Value) :
    firstPowerOf (earlier ++ later) = (firstPowerOf earlier).or (firstPowerOf later) := by
  unfold firstPowerOf
  rw [List.filterMap_append, List.find?_append]

theorem firstPowerOf_eq_none {statuses : List Value}
    (silent : ∀ status ∈ statuses, ∀ code, ¬ TellsPower status code) :
    firstPowerOf statuses = none := by
  unfold firstPowerOf
  rw [List.find?_eq_none]
  intro code member power
  obtain ⟨status, inStatuses, given⟩ := List.mem_filterMap.1 member
  exact silent status inStatuses code (tellsPower_iff.2 ⟨given, power⟩)

theorem firstPowerOf_insert {extra : List Value}
    (silent : ∀ status ∈ extra, ∀ code, ¬ TellsPower status code) :
    firstPowerOf (before ++ (extra ++ after)) = firstPowerOf (before ++ after) := by
  rw [firstPowerOf_append, firstPowerOf_append extra, firstPowerOf_eq_none silent, Option.none_or,
    firstPowerOf_append]

/-- Behind a status that tells a power state, nothing makes a difference. -/
theorem firstPowerOf_cons {status : Value} {code : Text} (tells : TellsPower status code) :
    firstPowerOf (before ++ status :: after) = (firstPowerOf before).or (some code) := by
  have first : firstPowerOf (status :: after) = some code := by
    obtain ⟨given, power⟩ := tellsPower_iff.1 tells
    unfold firstPowerOf
    rw [List.filterMap_cons, given]
    exact List.find?_cons_of_pos power
  rw [firstPowerOf_append, first]

end Statuses

/-! ## The table of statuses -/

def runningPowers : List Text := ["PowerState/running", "PowerState/starting"]

def stoppedPowers : List Text := [
  "PowerState/stopped", "PowerState/stopping", "PowerState/deallocated", "PowerState/deallocating"]

/-- The provisioning states, in lower case, of a VM that is there or on its way. -/
def steadyStates : List Text := ["succeeded", "creating", "updating"]

/-- The rules for the status of a VM, by its provisioning state and its first power state. -/
inductive StatusRule (state : Text) (power : Option Text) : InstanceStatus → Prop
  | failed (fails : state = "failed") : StatusRule state power .error
  | deleting (vanishes : state = "deleting") : StatusRule state power .deleting
  | running {code : Text} (stays : state ∉ (["failed", "deleting"] : List Text))
      (told : power = some code)
      (known : code ∈ runningPowers) : StatusRule state power .running
  | stopped {code : Text} (stays : state ∉ (["failed", "deleting"] : List Text))
      (told : power = some code)
      (known : code ∈ stoppedPowers) : StatusRule state power .stopped
  /-- Without a power state that is known, the provisioning state decides. -/
  | steady (stays : state ∉ (["failed", "deleting"] : List Text))
      (untold : ∀ code, power = some code → code ∉ runningPowers ++ stoppedPowers)
      (isSteady : state ∈ steadyStates) : StatusRule state power .running
  | unknown (stays : state ∉ (["failed", "deleting"] : List Text))
      (untold : ∀ code, power = some code → code ∉ runningPowers ++ stoppedPowers)
      (unsteady : state ∉ steadyStates) : StatusRule state power .unknown

theorem StatusRule.of_untold {state : Text} {power : Option Text}
    (stays : state ∉ (["failed", "deleting"] : List Text))
    (untold : ∀ code, power = some code → code ∉ runningPowers ++ stoppedPowers) :
    StatusRule state power (if state ∈ steadyStates then .running else .unknown) := by
  split
  · exact .steady stays untold ‹_›
  · exact .unknown stays untold ‹_›

/-- The rules leave no choice. -/
theorem StatusRule.unique {state : Text} {power : Option Text} {one other : InstanceStatus}
    (first : StatusRule state power one) (second : StatusRule state power other) : one = other := by
  have apart : ∀ code, code ∈ runningPowers → code ∉ stoppedPowers := by decide
  cases first <;> cases second <;> simp_all

namespace InstanceStatus

theorem ofProvisioningState_eq (written : Text) :
    ofProvisioningState written =
      if written.toLower = "failed" then .error
      else if written.toLower = "deleting" then .deleting
      else if written.toLower ∈ steadyStates then .running
      else .unknown := by
  unfold ofProvisioningState steadyStates
  split <;> simp_all

theorem ofPowerState?_eq (code : Text) :
    ofPowerState? code =
      if code ∈ runningPowers then some .running
      else if code ∈ stoppedPowers then some .stopped
      else none := by
  unfold ofPowerState? runningPowers stoppedPowers
  split <;> simp_all

theorem givenText_of_textual {value : Value} (textual : value.IsTextual) :
    value.givenText = .ok (value.text?.getD "") := by
  rcases textual with rfl | ⟨written, rfl⟩ <;> rfl

theorem powerState?_of_readable {item : Value} {record : MachineRecord}
    (readable : ReadableStates item)
    (same : record.statuses = (item.field "instance_view").field "statuses") :
    record.powerState? = .ok (firstPowerOf (statusesOf item)) := by
  unfold MachineRecord.powerState?
  rw [same]
  rcases readable.statuses with missing | given
  · unfold statusesOf
    rw [missing]
    rfl
  · rw [given]
    exact powerStateAmong?_eq readable.codes

/-- The status of a record, with and without a VM, from the states that it tells. -/
theorem ofMachine_eq {item : Value} (readable : ReadableStates item) :
    ofMachine (MachineRecord.ofValue? item) =
      ofStates (ofProvisioningState ((item.field "provisioning_state").text?.getD ""))
        (.ok (firstPowerOf (statusesOf item))) := by
  have recorded : ∀ record : MachineRecord,
      record.provisioningState = item.field "provisioning_state" →
      record.statuses = (item.field "instance_view").field "statuses" →
      ofMachine (some record) = ofStates
        (ofProvisioningState ((item.field "provisioning_state").text?.getD ""))
        (.ok (firstPowerOf (statusesOf item))) := by
    intro record sameState sameStatuses
    simp only [ofMachine, sameState, givenText_of_textual readable.provisioning]
    rw [← powerState?_of_readable readable sameStatuses]
    rfl
  cases item with
  | null =>
      have nothing : ofProvisioningState "" = .unknown := by decide +kernel
      show Except.ok unknown = ofStates (ofProvisioningState "") (.ok none)
      rw [nothing]
      rfl
  | _ => exact recorded _ rfl rfl

/-- Every record has the status that the rules give it. -/
theorem ofMachine_rule {item : Value} (readable : ReadableStates item) :
    ∃ status, ofMachine (MachineRecord.ofValue? item) = .ok status ∧
      StatusRule (provisioningOf item) (firstPowerOf (statusesOf item)) status := by
  rw [ofMachine_eq readable, ofProvisioningState_eq]
  change ∃ status, ofStates (if provisioningOf item = "failed" then .error
    else if provisioningOf item = "deleting" then .deleting
    else if provisioningOf item ∈ steadyStates then .running else .unknown) _ = .ok status ∧ _
  by_cases fails : provisioningOf item = "failed"
  · rw [if_pos fails]
    exact ⟨.error, rfl, .failed fails⟩
  by_cases vanishes : provisioningOf item = "deleting"
  · rw [if_neg fails, if_pos vanishes]
    exact ⟨.deleting, rfl, .deleting vanishes⟩
  have stays : provisioningOf item ∉ (["failed", "deleting"] : List Text) := by simp [fails, vanishes]
  have undecided : ∀ power, ofStates (if provisioningOf item ∈ steadyStates then .running
      else .unknown) (.ok power) = .ok ((power.bind ofPowerState?).getD
        (if provisioningOf item ∈ steadyStates then .running else .unknown)) := by
    intro power
    split <;> rfl
  rw [if_neg fails, if_neg vanishes, undecided]
  refine ⟨_, rfl, ?_⟩
  cases told : firstPowerOf (statusesOf item) with
  | none => exact .of_untold stays (by simp)
  | some code =>
      rw [Option.bind_some, ofPowerState?_eq]
      by_cases runs : code ∈ runningPowers
      · rw [if_pos runs]
        exact .running stays rfl runs
      by_cases stops : code ∈ stoppedPowers
      · rw [if_neg runs, if_pos stops]
        exact .stopped stays rfl stops
      · rw [if_neg runs, if_neg stops]
        refine .of_untold stays ?_
        intro other same
        rw [← Option.some.inj same]
        simp [runs, stops]

end InstanceStatus

/-- The status of a VM whose record tells its states as texts, as far as it tells them: an error or a
deletion by its provisioning state alone, in any letter case; else what its first power state stands
for, if that is known, and else what its provisioning state stands for. The VM is stopped only by its
first power state. Nothing else makes a difference: no status without a power state, wherever it
stands, and nothing behind a status that tells one. -/
theorem status_normalised (item : Value) (readable : ReadableStates item) :
    ∃ status, InstanceStatus.ofMachine (MachineRecord.ofValue? item) = .ok status ∧
      let state := provisioningOf item
      (status = .error ↔ state = "failed") ∧
      (status = .deleting ↔ state = "deleting") ∧
      (state ∉ (["failed", "deleting"] : List Text) →
        (∀ code ∈ runningPowers, FirstPower item code → status = .running) ∧
        (∀ code ∈ stoppedPowers, FirstPower item code → status = .stopped) ∧
        ((∀ code, FirstPower item code → code ∉ runningPowers ++ stoppedPowers) →
          status = if state ∈ steadyStates then .running else .unknown)) ∧
      (status = .stopped ↔
        state ∉ (["failed", "deleting"] : List Text) ∧ ∃ code ∈ stoppedPowers, FirstPower item code) ∧
      ∀ other : Value, ReadableStates other → provisioningOf other = state →
        let sameStatus := InstanceStatus.ofMachine (MachineRecord.ofValue? other) = .ok status
        ((∀ code, FirstPower other code ↔ FirstPower item code) → sameStatus) ∧
        (∀ before extra after, statusesOf item = before ++ after →
          statusesOf other = before ++ (extra ++ after) →
          (∀ added ∈ extra, ∀ code, ¬ TellsPower added code) → sameStatus) ∧
        ∀ before first after otherAfter code, statusesOf item = before ++ first :: after →
          statusesOf other = before ++ first :: otherAfter → TellsPower first code →
          sameStatus := by
  obtain ⟨status, stated, rule⟩ := InstanceStatus.ofMachine_rule readable
  have alike : ∀ {other : Value}, ReadableStates other → provisioningOf other = provisioningOf item →
      firstPowerOf (statusesOf other) = firstPowerOf (statusesOf item) →
        InstanceStatus.ofMachine (MachineRecord.ofValue? other) = .ok status := by
    intro other otherReadable sameState samePower
    obtain ⟨otherStatus, otherStated, otherRule⟩ := InstanceStatus.ofMachine_rule otherReadable
    rw [sameState, samePower] at otherRule
    rw [otherStated, otherRule.unique rule]
  simp only [firstPower_iff]
  refine ⟨status, stated, ⟨?failed, fun fails => rule.unique (.failed fails)⟩,
    ⟨?deleting, fun vanishes => rule.unique (.deleting vanishes)⟩,
    fun stays => ⟨?running, ?stopped, fun untold => rule.unique (.of_untold stays untold)⟩,
    ⟨?stops, ?stopping⟩, fun other otherReadable sameState => ⟨?power, ?insertion, ?behind⟩⟩
  case failed =>
    intro same
    rw [same] at rule
    cases rule with
    | failed fails => exact fails
  case deleting =>
    intro same
    rw [same] at rule
    cases rule with
    | deleting vanishes => exact vanishes
  case running => exact fun code known told => rule.unique (.running stays told known)
  case stopped => exact fun code known told => rule.unique (.stopped stays told known)
  case stops =>
    intro same
    rw [same] at rule
    cases rule with
    | stopped stays told known => exact ⟨stays, _, known, told⟩
  case stopping =>
    rintro ⟨stays, code, known, told⟩
    exact rule.unique (.stopped stays told known)
  case power =>
    intro samePower
    exact alike otherReadable sameState (Option.ext samePower)
  case insertion =>
    intro before extra after whole otherWhole silent
    apply alike otherReadable sameState
    rw [whole, otherWhole, firstPowerOf_insert silent]
  case behind =>
    intro before first after otherAfter code whole otherWhole tells
    apply alike otherReadable sameState
    rw [whole, otherWhole, firstPowerOf_cons tells, firstPowerOf_cons tells]

/-- A VM whose first power state is not known. -/
def hiddenStop : Value :=
  .dict [
    ("provisioning_state", .text "UPDATING"),
    ("instance_view", .dict [("statuses", .list [
      .null,
      .dict [("code", .text "ProvisioningState/failed")],
      .dict [("code", .text "PowerState/unknown")],
      .dict [("code", .text "PowerState/stopped")]])])]

/-- A power state that is not known hides the ones behind it. -/
theorem status_normalised_of_hiddenStop :
    InstanceStatus.ofMachine (MachineRecord.ofValue? hiddenStop) = .ok .running := by
  have readable : ReadableStates hiddenStop :=
    ⟨Or.inr ⟨_, rfl⟩, Or.inr rfl, by decide +kernel⟩
  have stays : provisioningOf hiddenStop ∉ (["failed", "deleting"] : List Text) := by decide +kernel
  have steady : provisioningOf hiddenStop ∈ steadyStates := by decide +kernel
  have first : firstPowerOf (statusesOf hiddenStop) = some "PowerState/unknown" := by
    decide +kernel
  obtain ⟨status, stated, _, _, decided, _⟩ := status_normalised hiddenStop readable
  have running := (decided stays).2.2 fun code told => by
    rw [firstPower_iff, first] at told
    rw [← Option.some.inj told]
    decide
  rw [stated, running, if_pos steady]

end RunnerCloud
