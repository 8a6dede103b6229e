import RunnerCloud.Background.Task
import RunnerCloud.Cloud.Operation

/-!
Contract: operations awaited by a task that may be cancelled.

Owns:
- `CancelToken.ofTask`, the token of an operation that a task awaits;
- `Execution.course`, the course of the task that awaited a run, and `Execution.awaited`, what the
  awaiting caller gets of it.

Does not own: the rules of tasks; `Background.Task` states them.
-/

namespace RunnerCloud

open Background

variable {α : Type}

/-- The token under which a task runs an operation: the one that its caller holds, if any. The task
may be cancelled once the operation waits for something endless. -/
def CancelToken.ofTask (held : Option Bool) (cancelled : Bool) : CancelToken :=
  ⟨held.getD false, held.isSome, cancelled⟩

def Event.isTaskCancelled : Event → Bool
  | .taskCancelled => true
  | _ => false

namespace Execution

/-- How the worker that made the run ended; it does not end when it waits forever. -/
def ending (execution : Execution α) : List (Moment (Except Failure α)) :=
  match execution.outcome with
  | .ok value => [.workerEnded (.ok value), .resumed]
  | .error (.failed failure) => [.workerEnded (.error failure), .resumed]
  | .error .hung => []

/-- The course of the task: a cancellation reaches it while the worker is running. -/
def course (execution : Execution α) : List (Moment (Except Failure α)) :=
  if execution.events.any Event.isTaskCancelled then
    .cancelled :: .resumed :: execution.ending
  else execution.ending

/-- What the caller that awaited the operation gets. -/
def awaited (execution : Execution α) : Except Stop α :=
  match (Task.start.run execution.course).received? with
  | some (.outcome (.ok value)) => .ok value
  | some (.outcome (.error failure)) => .error (.failed failure)
  | some .cancellation => .error (.failed .taskCancelled)
  | none => .error .hung

end Execution

end RunnerCloud
