import Mathlib.Data.List.Basic
import RunnerCloud.Proofs.Provision.Course

/-!
Contract: when a creation removes its group.

Owns:
- `deletions`, the calls of a run that delete groups;
- `rollback_exactly_once`: a creation that fails after its group was created deletes that group
  once, as its last call, and fetches the result of the deletion, unless it fails for a size that is
  too long to be written; no other creation deletes anything;
- `unwritable_size_not_rolled_back`, a creation that fails for such a size.

Does not own: which groups a creation leaves behind.
-/

namespace RunnerCloud.Provision

open Operation

def deletions (events : List Event) : List Request :=
  (Event.requests events).filter fun request => request.method == .deleteGroup

@[simp]
theorem deletions_append (earlier later : List Event) :
    deletions (earlier ++ later) = deletions earlier ++ deletions later := by
  simp [deletions]

theorem deletions_eq_nil {events : List Event}
    (within : Event.Within (fun request => request.method ≠ .deleteGroup) events) :
    deletions events = [] := by
  unfold deletions
  rw [List.filter_eq_nil_iff]
  intro request member
  simpa using within.requests member

section Parts

variable {location : Text} {spec : RunnerSpec} {session : Session}

theorem deletions_removed (diskSizeGb : Int) :
    deletions (removed location spec session diskSizeGb).events = [deletion spec.name] := by
  unfold deletions
  rw [(removed_removes location spec session diskSizeGb).requests]
  rfl

/-- What happens to the deletion happens in the removal. -/
theorem mem_removed {diskSizeGb : Int} {event : Event}
    (subject : event.subject? = some (deletion spec.name))
    (member : event ∈ (prepared location spec session).events ++
      ((filled location spec session diskSizeGb).events ++
        (removed location spec session diskSizeGb).events)) :
    event ∈ (removed location spec session diskSizeGb).events := by
  have deletes : ¬ (deletion spec.name).method ≠ .deleteGroup := by simp [deletion, Request.method]
  rw [List.mem_append, List.mem_append] at member
  rcases member with early | early | late
  · exact absurd early (within_prepared.not_mem subject deletes)
  · exact absurd early ((within_filled diskSizeGb).not_mem subject deletes)
  · exact late

/-- The SDK gives a public address as a text, or it gives none. -/
def TextualAddress (answers : CloudMethod → Value) : Prop :=
  (answers .createPublicIp).field "ip_address" = .null ∨
    ∃ written, (answers .createPublicIp).field "ip_address" = .text written

theorem addressesOf_granted {answers : CloudMethod → Value} (textual : TextualAddress answers)
    (spec : RunnerSpec) : ∃ addresses, addressesOf (grantedIp answers spec).address = .ok addresses := by
  unfold grantedIp
  split
  · rcases textual with absent | ⟨written, given⟩
    · rw [absent]
      exact ⟨[], rfl⟩
    · rw [given]
      exact ⟨_, addressesOf_text written⟩
  · exact ⟨[], rfl⟩

/-- A creation whose group was created and that failed. -/
def Undone (execution : Execution RunnerInstance) : Prop :=
  GroupCreated execution.events ∧ ∃ failure, execution.outcome = .error (.failed failure)

/-- What removes the group of an undone creation. -/
structure UndoneBy (name : Text) (events : List Event) : Prop where
  once : deletions events = [deletion name]
  last : (Event.requests events).getLast? = some (deletion name)
  fetches : .returned (deletion name) ∈ events →
    ∃ succeeded, .fetched (deletion name) succeeded ∈ events

theorem undoneBy_removed (diskSizeGb : Int) :
    UndoneBy spec.name ((prepared location spec session).events ++
      ((filled location spec session diskSizeGb).events ++
        (removed location spec session diskSizeGb).events)) where
  once := by
    simp [deletions_eq_nil within_prepared, deletions_eq_nil (within_filled diskSizeGb),
      deletions_removed]
  last := by
    rw [Event.requests_append, Event.requests_append,
      (removed_removes location spec session diskSizeGb).requests]
    simp
  fetches := by
    intro returned
    have removes := removed_removes location spec session diskSizeGb
    obtain ⟨succeeded, fetched⟩ := removes.fetches (mem_removed rfl returned)
    exact ⟨succeeded, by simp [fetched]⟩

theorem groupCreated_of_ready {diskSizeGb : Int} (later : List Event)
    (ready : (prepared location spec session).outcome = .ok diskSizeGb) :
    GroupCreated ((prepared location spec session).events ++ later) := by
  rw [groupCreated_append, groupCreated_prepared_iff]
  exact Or.inl ⟨diskSizeGb, ready⟩

theorem undone_of_ready {diskSizeGb : Int} {later : List Event} {failure : Failure}
    {after : Session} (ready : (prepared location spec session).outcome = .ok diskSizeGb) :
    Undone ⟨.error (.failed failure), (prepared location spec session).events ++ later, after⟩ :=
  ⟨groupCreated_of_ready later ready, failure, rfl⟩

/-- The VM is ordered with a disk whose size is too long to be written. -/
def OrdersUnwritable (events : List Event) : Prop :=
  ∃ order, .createMachine order ∈ Event.requests events ∧ Number.fits order.diskSizeGb = false

theorem ordersUnwritable_of_filled {diskSizeGb : Int} {address : Value}
    (ready : (prepared location spec session).outcome = .ok diskSizeGb)
    (fills : (filled location spec session diskSizeGb).outcome = .ok address)
    (tooLong : Number.fits diskSizeGb = false) :
    OrdersUnwritable ((prepared location spec session).events ++
      (filled location spec session diskSizeGb).events) := by
  obtain ⟨⟨_, usable, _⟩, planned, _⟩ := (filled_progress ready).completed _ fills
  refine ⟨spec.machineOrder location ((session.script.answer .createInterface).field "id")
    spec.tags diskSizeGb (accessFrom spec session.draws), ?_, tooLong⟩
  rw [Event.requests_append, planned]
  unfold resourcesPlan attachmentPlan
  simp [usable]

/-- How a creation ends decides about its deletions. -/
theorem Course.deletions_cases {execution : Execution RunnerInstance}
    (course : Course location spec session execution)
    (textual : TextualAddress session.script.answer) :
    (Undone execution ∧ execution.outcome ≠ .error (.failed .unwritableInteger)) ∧
        UndoneBy spec.name execution.events ∨
      (Undone execution ∧ execution.outcome = .error (.failed .unwritableInteger)) ∧
        OrdersUnwritable execution.events ∧ deletions execution.events = [] ∨
      ¬ Undone execution ∧ deletions execution.events = [] := by
  cases course with
  | unprepared stops =>
      refine Or.inr (Or.inr ⟨?_, deletions_eq_nil within_prepared⟩)
      rintro ⟨created, _⟩
      rw [groupCreated_prepared_iff, stops] at created
      obtain ⟨_, impossible⟩ := created
      cases impossible
  | failed ready fails removes =>
      refine Or.inl ⟨⟨undone_of_ready ready, ?_⟩, undoneBy_removed _⟩
      intro same
      cases same
      exact filled_not_late ready fails (by simp [lateFailures])
  | interrupted ready fails stops =>
      rcases (removed_removes location spec session _).ends with ended | ⟨text, interrupted, _⟩
      · rw [ended] at stops
        cases stops
      · rw [interrupted] at stops
        cases stops
        exact Or.inl ⟨⟨undone_of_ready ready, by simp⟩, undoneBy_removed _⟩
  | hung ready hangs =>
      refine Or.inr (Or.inr ⟨?_, ?_⟩)
      · rintro ⟨_, failure, impossible⟩
        cases impossible
      · simp [deletions_eq_nil within_prepared, deletions_eq_nil (within_filled _)]
  | unreported ready fills refuses =>
      rcases conclusion_error refuses with ⟨unreadable, _⟩ | ⟨rfl, tooLong⟩
      · obtain ⟨⟨granted, _⟩, _, _⟩ := (filled_progress ready).completed _ fills
        obtain ⟨addresses, reads⟩ := addressesOf_granted textual spec
        rw [granted, reads] at unreadable
        cases unreadable
      · refine Or.inr (Or.inl ⟨⟨undone_of_ready ready, rfl⟩, ?_, ?_⟩)
        · exact ordersUnwritable_of_filled ready fills tooLong
        · simp [deletions_eq_nil within_prepared, deletions_eq_nil (within_filled _)]
  | created ready fills concludes =>
      refine Or.inr (Or.inr ⟨?_, ?_⟩)
      · rintro ⟨_, failure, impossible⟩
        cases impossible
      · simp [deletions_eq_nil within_prepared, deletions_eq_nil (within_filled _)]
        rfl

end Parts

/-- A creation that fails once its group was created deletes the group of the spec, by force, as its
last call, and fetches the result of the deletion whatever the cancel token says. The one exception
are creations that have ordered everything and then cannot write down the size of the disk: they keep
the group. No other creation deletes a group. -/
theorem rollback_exactly_once (controllerId : Text) (config : ProviderConfig)
    (bootstrap : Bootstrap) (session : Session) (textual : TextualAddress session.script.answer) :
    let run := create controllerId config bootstrap session
    (Undone run ∧ run.outcome ≠ .error (.failed .unwritableInteger) →
      ∃ spec, admitted controllerId config bootstrap = .ok spec ∧
      (deletions run.events).map (fun request => (request.arguments, request.options)) =
        [([.text spec.name],
          ([("force_deletion_types", .text Request.forcedDeletionTypes)] : Fields))] ∧
      (Event.requests run.events).getLast? = some (deletion spec.name) ∧
      (.returned (deletion spec.name) ∈ run.events →
        ∃ succeeded, .fetched (deletion spec.name) succeeded ∈ run.events)) ∧
    (Undone run ∧ run.outcome = .error (.failed .unwritableInteger) →
      OrdersUnwritable run.events ∧ deletions run.events = []) ∧
    (¬ Undone run → deletions run.events = []) := by
  dsimp only
  cases accepts : admitted controllerId config bootstrap with
  | error failure =>
      rw [create_of_refused accepts]
      have unmade : ¬ GroupCreated [] := by
        rintro ⟨request, _, impossible⟩
        cases impossible
      exact ⟨fun undone => absurd undone.1.1 unmade, fun undone => absurd undone.1.1 unmade,
        fun _ => rfl⟩
  | ok spec =>
      rw [create_of_admitted accepts]
      rcases (createFrom_course config.location spec session).deletions_cases textual with
        ⟨⟨undone, writable⟩, by_⟩ | ⟨⟨undone, untold⟩, orders, none⟩ | ⟨notUndone, none⟩
      · refine ⟨fun _ => ⟨spec, rfl, ?_, by_.last, by_.fetches⟩,
          fun untold => absurd untold.2 writable, fun notUndone => absurd undone notUndone⟩
        rw [by_.once]
        rfl
      · exact ⟨fun told => absurd untold told.2, fun _ => ⟨orders, none⟩,
          fun notUndone => absurd undone notUndone⟩
      · exact ⟨fun undone => absurd undone.1 notUndone, fun undone => absurd undone.1 notUndone,
          fun _ => none⟩

def brokenNetwork : CloudScript :=
  fun method => if method = .createNetwork then [{ fault := some (.runtime "refused") }] else []

theorem rollback_exactly_once_of_brokenNetwork :
    TextualAddress brokenNetwork.answer ∧ Undone (sampleRun brokenNetwork) ∧
      (deletions (sampleRun brokenNetwork).events).length = 1 := by
  have textual : TextualAddress brokenNetwork.answer := Or.inl rfl
  have once := rollback_exactly_once "controller-1" sampleConfig sampleBootstrap
    (sampleSession brokenNetwork) textual
  have deletes : deletions (sampleRun brokenNetwork).events ≠ [] := by
    decide +kernel
  have undone : Undone (sampleRun brokenNetwork) :=
    Classical.byContradiction fun notUndone => deletes (once.2.2 notUndone)
  have told : (sampleRun brokenNetwork).outcome ≠ .error (.failed .unwritableInteger) :=
    fun untold => deletes (once.2.1 ⟨undone, untold⟩).2
  obtain ⟨spec, _, forced, _⟩ := once.1 ⟨undone, told⟩
  refine ⟨textual, undone, ?_⟩
  have counted := congrArg List.length forced
  rwa [List.length_map] at counted

/-- Everything is created, nothing fails in the cloud, and yet the creation fails and deletes
nothing. -/
theorem unwritable_size_not_rolled_back :
    let run := create "controller-1" sampleConfig (unwritableBootstrap false)
      (sampleSession fun _ => [])
    TextualAddress (CloudScript.answer fun _ => []) ∧ Undone run ∧ deletions run.events = [] := by
  refine ⟨Or.inl rfl, ⟨⟨sampleGroup, rfl, ?_⟩, .unwritableInteger, ?_⟩, ?_⟩
  · decide +kernel
  · decide +kernel
  · decide +kernel

end RunnerCloud.Provision
