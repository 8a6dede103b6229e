import Mathlib.Logic.Relation
import RunnerCloud.Background.Await

/-!
Contract: a task and the worker that it awaits, step by step, with one cancellation.

Owns:
- `Joint`, the state of both, with how far the worker has got in its run;
- `Joint.Step`, what either of them does next, in any order, and `Joint.Reached`, where that leads;
- `Joint.Lawful`, which every step keeps, and from it what a caller that receives something can
  rely on;
- `Joint.reached_cancelledBehind`: the cancellation can come at any place of a run.

A run says by an event when it gets to know that the token is set, and that event waits for the task
to set it. A run may overlook a token that is set: what holds of all these interleavings holds of
those in which every look at the token is in time.

Does not own: which runs there are.
-/

namespace RunnerCloud

variable {α : Type}

/-- A worker ends unless it waits forever. -/
theorem Execution.ending_iff (run : Execution α) :
    (∃ outcome, .workerEnded outcome ∈ run.ending) ↔ run.outcome ≠ .error .hung := by
  unfold Execution.ending
  rcases run.outcome with (failure | _) | value <;> simp

namespace Background

structure Joint (α : Type) where
  task : Task (Except Failure α)
  /-- What the worker has done. -/
  done : List Event
  /-- What the worker will do. -/
  left : List Event
  /-- The one cancellation is still to come. -/
  cancellable : Bool

namespace Joint

def start (run : Execution α) : Joint α :=
  ⟨Task.start, [], run.events, true⟩

inductive Step (run : Execution α) (joint : Joint α) : Joint α → Prop
  /-- The worker goes on; it knows of the token only what the task has done with it. -/
  | works {event : Event} {rest : List Event} (next : joint.left = event :: rest)
      (known : event = .tokenSet → joint.task.tokenSet = true) :
      Step run joint { joint with done := joint.done ++ [event], left := rest }
  /-- The worker ends, unless it waits forever. -/
  | ends {outcome : Except Failure α} (idle : joint.left = [])
      (gives : .workerEnded outcome ∈ run.ending) :
      Step run joint { joint with task := joint.task.step (.workerEnded outcome) }
  | cancels (pending : joint.cancellable = true) :
      Step run joint { joint with task := joint.task.step .cancelled, cancellable := false }
  | resumes : Step run joint { joint with task := joint.task.step .resumed }

/-- The states that the steps of both lead to. -/
def Reached (run : Execution α) : Joint α → Prop :=
  Relation.ReflTransGen (Step run) (start run)

/-! ## What every step keeps -/

/-- The phases in which a cancellation has arrived, and the task has not ended yet. -/
def IsCancelling : Phase (Except Failure α) → Prop
  | .cancelling => True
  | .unwinding => True
  | _ => False

structure Lawful (run : Execution α) (joint : Joint α) : Prop where
  split : joint.done ++ joint.left = run.events
  worker : ∀ outcome, joint.task.worker = some outcome →
    joint.left = [] ∧ .workerEnded outcome ∈ run.ending
  /-- There is no second cancellation, on which the task would leave the worker alone. -/
  waits : joint.task.phase ≠ .abandoning
  once : IsCancelling joint.task.phase → joint.cancellable = false
  received : ∀ received, joint.task.phase = .ended received →
    joint.task.worker.isSome = true ∧
      ∀ outcome, received = .outcome outcome → joint.task.worker = some outcome

theorem lawful_start (run : Execution α) : Lawful run (start run) where
  split := rfl
  worker := by simp [start, Task.start]
  waits := by simp [start, Task.start]
  once := False.elim
  received := by simp [start, Task.start]

theorem Lawful.works {run : Execution α} {joint : Joint α} {event : Event} {rest : List Event}
    (lawful : Lawful run joint) (next : joint.left = event :: rest) :
    Lawful run { joint with done := joint.done ++ [event], left := rest } := by
  refine { lawful with split := ?_, worker := ?_ }
  · have split := lawful.split
    rw [next] at split
    simpa using split
  · intro outcome ended
    have idle := (lawful.worker outcome ended).1
    rw [next] at idle
    cases idle

theorem Lawful.ends {run : Execution α} {joint : Joint α} {outcome : Except Failure α}
    (lawful : Lawful run joint) (idle : joint.left = [])
    (gives : .workerEnded outcome ∈ run.ending) :
    Lawful run { joint with task := joint.task.endWorker outcome } := by
  refine { lawful with worker := ?_, received := ?_ }
  · intro other ended
    rcases Option.or_eq_some_iff.1 ended with before | ⟨-, now⟩
    · exact lawful.worker other before
    · cases now
      exact ⟨idle, gives⟩
  · intro received phase
    obtain ⟨ended, same⟩ := lawful.received received phase
    refine ⟨by simp [Task.endWorker], fun other is => ?_⟩
    simp [Task.endWorker, same other is]

theorem Lawful.cancels {run : Execution α} {joint : Joint α} (lawful : Lawful run joint)
    (pending : joint.cancellable = true) :
    Lawful run { joint with task := joint.task.cancel, cancellable := false } := by
  obtain ⟨⟨phase, tokenSet, worker⟩, done, left, cancellable⟩ := joint
  cases phase with
  | awaiting =>
      exact { lawful with
        waits := by simp [Task.cancel]
        once := fun _ => rfl
        received := by simp [Task.cancel] }
  | unwinding =>
      have spent : cancellable = false := lawful.once True.intro
      rw [spent] at pending
      cases pending
  | cancelling => exact { lawful with once := fun _ => rfl }
  | abandoning => exact { lawful with once := fun _ => rfl }
  | ended received => exact { lawful with once := fun _ => rfl }

theorem Lawful.resumes {run : Execution α} {joint : Joint α} (lawful : Lawful run joint) :
    Lawful run { joint with task := joint.task.resume } := by
  obtain ⟨⟨phase, tokenSet, worker⟩, done, left, cancellable⟩ := joint
  cases phase with
  | awaiting =>
      cases worker with
      | none => exact lawful
      | some outcome =>
          exact { lawful with
            waits := by simp [Task.resume]
            once := False.elim
            received := by simp [Task.resume] }
  | cancelling =>
      exact { lawful with
        waits := by simp [Task.resume]
        once := fun _ => lawful.once True.intro
        received := by simp [Task.resume] }
  | unwinding =>
      cases worker with
      | none => exact lawful
      | some outcome =>
          exact { lawful with
            waits := by simp [Task.resume]
            once := False.elim
            received := by simp [Task.resume] }
  | abandoning => exact absurd rfl lawful.waits
  | ended received => exact lawful

theorem Step.lawful {run : Execution α} {joint next : Joint α} (step : Step run joint next)
    (lawful : Lawful run joint) : Lawful run next := by
  cases step with
  | works next known => exact lawful.works next
  | ends idle gives => exact lawful.ends idle gives
  | cancels pending => exact lawful.cancels pending
  | resumes => exact lawful.resumes

theorem Reached.lawful {run : Execution α} {joint : Joint α} (reached : Reached run joint) :
    Lawful run joint := by
  induction reached with
  | refl => exact lawful_start run
  | tail _ step inductionHypothesis => exact step.lawful inductionHypothesis

/-- What the caller receives, it receives when the run is over; an outcome is that of the worker. -/
theorem Reached.finished {run : Execution α} {joint : Joint α} (reached : Reached run joint)
    {received : Received (Except Failure α)} (receives : joint.task.received? = some received) :
    joint.done = run.events ∧ ∃ outcome, .workerEnded outcome ∈ run.ending ∧
      ∀ given, received = .outcome given → given = outcome := by
  have lawful := reached.lawful
  obtain ⟨hasEnded, same⟩ := lawful.received received (Task.phase_of_received receives)
  obtain ⟨outcome, ended⟩ := Option.isSome_iff_exists.1 hasEnded
  obtain ⟨idle, gives⟩ := lawful.worker outcome ended
  refine ⟨?_, outcome, gives, fun given is => ?_⟩
  · have split := lawful.split
    rwa [idle, List.append_nil] at split
  · exact Option.some.inj ((same given is).symm.trans ended)

/-! ## Where a cancellation can come -/

/-- The worker does some of what is left. -/
theorem reached_works {run : Execution α} {task : Task (Except Failure α)}
    {done now rest : List Event} {cancellable : Bool}
    (reached : Reached run ⟨task, done, now ++ rest, cancellable⟩)
    (known : .tokenSet ∈ now → task.tokenSet = true) :
    Reached run ⟨task, done ++ now, rest, cancellable⟩ := by
  induction now generalizing done with
  | nil => simpa using reached
  | cons event now inductionHypothesis =>
      have step : Step run ⟨task, done, event :: (now ++ rest), cancellable⟩
          ⟨task, done ++ [event], now ++ rest, cancellable⟩ :=
        .works rfl fun same => known (by simp [same])
      have reachedNext := inductionHypothesis (reached.tail step) fun member =>
        known (List.mem_cons_of_mem event member)
      simpa using reachedNext

/-- The cancellation can come behind any part of a run that ends, as long as the run does not know
of the token in that part: in the end the caller receives the cancellation. -/
theorem reached_cancelledBehind {run : Execution α} {before after : List Event}
    {outcome : Except Failure α} (split : run.events = before ++ after)
    (unknown : .tokenSet ∉ before) (gives : .workerEnded outcome ∈ run.ending) :
    Reached run ⟨⟨.ended .cancellation, true, some outcome⟩, run.events, [], false⟩ := by
  have starts : Reached run ⟨Task.start, [], before ++ (after ++ []), true⟩ := by
    rw [List.append_nil, ← split]
    exact .refl
  have worked := reached_works starts fun member => absurd member unknown
  have cancelled := worked.tail (.cancels rfl)
  have told := cancelled.tail .resumes
  have finished := reached_works told fun _ => rfl
  have ended := finished.tail (.ends rfl gives)
  rw [split]
  exact ended.tail .resumes

theorem exists_cancelledBehind {run : Execution α} {before after : List Event}
    {outcome : Except Failure α} (split : run.events = before ++ after)
    (unknown : .tokenSet ∉ before) (gives : .workerEnded outcome ∈ run.ending) :
    ∃ joint, Reached run joint ∧ joint.task.received? = some .cancellation ∧
      joint.task.worker = some outcome ∧ joint.done = run.events :=
  ⟨_, reached_cancelledBehind split unknown gives, rfl, rfl, rfl⟩

end Joint

end Background

end RunnerCloud
