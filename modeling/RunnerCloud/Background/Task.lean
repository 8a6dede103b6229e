/-!
Contract: a task that awaits a worker, and its cancellation.

Owns:
- `Task`, the state of the task, of its worker and of the cancel token between them;
- `Task.step`, what each `Moment` changes, and `Task.run`, what a course of moments leads to. The
  first cancellation sets the token once the task gets to run, and the task then waits for the
  worker to end; a further one ends the task without that wait.

Does not own: what the worker does with the token.
-/

namespace RunnerCloud.Background

variable {α : Type}

/-- What can happen while a task awaits a worker whose outcomes are in `α`. -/
inductive Moment (α : Type) where
  /-- Someone cancels the task. -/
  | cancelled
  /-- The worker ends. -/
  | workerEnded (outcome : α)
  /-- The task gets to run. -/
  | resumed
deriving DecidableEq, Repr

/-- What the caller that awaits the task receives. -/
inductive Received (α : Type) where
  | outcome (outcome : α)
  | cancellation
deriving DecidableEq, Repr

inductive Phase (α : Type) where
  /-- The task waits for the outcome of the worker. -/
  | awaiting
  /-- The task was cancelled and has not run since. -/
  | cancelling
  /-- The task has set the token and waits for the worker to end. -/
  | unwinding
  /-- The task was cancelled once more while it waited for the worker to end. -/
  | abandoning
  | ended (received : Received α)
deriving DecidableEq, Repr

structure Task (α : Type) where
  phase : Phase α
  tokenSet : Bool
  /-- The outcome of the worker once it has ended. -/
  worker : Option α
deriving DecidableEq, Repr

namespace Task

/-- A task that has just started its worker. -/
def start : Task α :=
  ⟨.awaiting, false, none⟩

def cancel (task : Task α) : Task α :=
  match task.phase with
  | .awaiting => { task with phase := .cancelling }
  | .unwinding => { task with phase := .abandoning }
  | _ => task

/-- The first outcome of the worker is its outcome. -/
def endWorker (task : Task α) (outcome : α) : Task α :=
  { task with worker := task.worker.or (some outcome) }

def resume (task : Task α) : Task α :=
  match task.phase, task.worker with
  | .awaiting, some outcome => { task with phase := .ended (.outcome outcome) }
  | .cancelling, _ => { task with phase := .unwinding, tokenSet := true }
  | .unwinding, some _ => { task with phase := .ended .cancellation }
  | .abandoning, _ => { task with phase := .ended .cancellation }
  | _, _ => task

def step (task : Task α) : Moment α → Task α
  | .cancelled => task.cancel
  | .workerEnded outcome => task.endWorker outcome
  | .resumed => task.resume

/-- The state that a course of moments leads to. -/
def run (task : Task α) (course : List (Moment α)) : Task α :=
  course.foldl step task

/-- What the caller has received, if the task has ended. -/
def received? (task : Task α) : Option (Received α) :=
  match task.phase with
  | .ended received => some received
  | _ => none

@[simp]
theorem received?_cancel (task : Task α) : task.cancel.received? = task.received? := by
  obtain ⟨phase, tokenSet, worker⟩ := task
  cases phase <;> rfl

@[simp]
theorem received?_endWorker (task : Task α) (outcome : α) :
    (task.endWorker outcome).received? = task.received? :=
  rfl

@[simp]
theorem worker_cancel (task : Task α) : task.cancel.worker = task.worker := by
  obtain ⟨phase, tokenSet, worker⟩ := task
  cases phase <;> rfl

@[simp]
theorem worker_resume (task : Task α) : task.resume.worker = task.worker := by
  obtain ⟨phase, tokenSet, worker⟩ := task
  cases phase <;> cases worker <;> rfl

theorem phase_of_received {task : Task α} {received : Received α}
    (receives : task.received? = some received) : task.phase = .ended received := by
  unfold received? at receives
  split at receives
  · rename_i found ended
    rw [ended, Option.some.inj receives]
  · cases receives

end Task

end RunnerCloud.Background
