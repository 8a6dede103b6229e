import Mathlib.Data.List.Basic
import Mathlib.Logic.Relation
import RunnerCloud.Background.Await
import RunnerCloud.Proofs.Provision.LateCancellation

/-!
Contract: a task that awaits a blocking function, and is cancelled any number of times.

Owns:
- `Blocking`, a blocking function that takes a cancel token, by what it may do next, and
  `Blocking.ofRun`, the function that makes a given run;
- `Attended`, such a function and the task that awaits it, with `Attended.Step`, what any of those
  concerned does next, and `Attended.Reached`, where that leads;
- `Phase.untilAbandoned`, the moments after which a task no longer waits for its worker;
- `cancellation_delivered`: the token is set before the caller receives a cancellation, and the
  function is over, unless a cancellation followed on one that the task had already acted upon.

Does not own: what a task that is cancelled once can rely on.
-/

namespace RunnerCloud.Background

variable {σ α : Type}

/-! ## The task alone -/

/-- What is still to come, in this order and with anything between, until a task leaves its worker
alone: a cancellation, on which the task sets the token, and another cancellation. -/
def Phase.untilAbandoned : Phase α → List (Moment α)
  | .awaiting => [.cancelled, .resumed, .cancelled]
  | .cancelling => [.resumed, .cancelled]
  | .unwinding => [.cancelled]
  | .abandoning => []
  | .ended _ => []

/-- The phases that come after the task has set the token. -/
def Phase.IsPastSetting : Phase α → Prop
  | .unwinding => True
  | .abandoning => True
  | .ended .cancellation => True
  | _ => False

namespace Task

variable {task : Task α}

/-- A caller that gets to know of the cancellation had a task that was cancelled a second time, or
one the worker of which had ended. -/
theorem phase_of_resume (waits : task.received? = none)
    (told : task.resume.received? = some .cancellation) :
    task.phase = .abandoning ∨ task.phase = .unwinding ∧ task.worker.isSome = true := by
  obtain ⟨phase, tokenSet, worker⟩ := task
  cases phase with
  | awaiting => cases worker <;> cases told
  | cancelling => cases told
  | unwinding =>
      cases worker with
      | none => cases told
      | some outcome => exact Or.inr ⟨rfl, rfl⟩
  | abandoning => exact Or.inl rfl
  | ended received => cases waits

/-- A task that has left its worker alone tells its caller so when it gets to run. -/
theorem received?_resume_of_untilAbandoned (waits : task.received? = none)
    (nothingLeft : task.phase.untilAbandoned = []) :
    task.resume.received? = some .cancellation := by
  obtain ⟨phase, tokenSet, worker⟩ := task
  cases phase with
  | abandoning => rfl
  | ended received => cases waits
  | _ => cases nothingLeft

theorem step_isPastSetting (moment : Moment α)
    (known : task.phase.IsPastSetting → task.tokenSet = true)
    (past : (task.step moment).phase.IsPastSetting) : (task.step moment).tokenSet = true := by
  obtain ⟨phase, tokenSet, worker⟩ := task
  cases moment with
  | workerEnded outcome => exact known past
  | cancelled =>
      cases phase with
      | awaiting => exact past.elim
      | unwinding => exact known True.intro
      | _ => exact known past
  | resumed =>
      cases phase with
      | awaiting =>
          cases worker with
          | none => exact known past
          | some outcome => exact past.elim
      | cancelling => rfl
      | unwinding => cases worker <;> exact known True.intro
      | abandoning => exact known True.intro
      | ended received => exact known past

theorem run_isPastSetting (course : List (Moment α))
    (known : task.phase.IsPastSetting → task.tokenSet = true)
    (past : (task.run course).phase.IsPastSetting) : (task.run course).tokenSet = true := by
  induction course generalizing task with
  | nil => exact known past
  | cons moment course inductionHypothesis =>
      exact inductionHypothesis (step_isPastSetting moment known) past

/-- A worker that has not ended did not end before. -/
theorem worker_of_run {course : List (Moment α)} (running : (task.run course).worker = none) :
    task.worker = none ∧ ∀ outcome, .workerEnded outcome ∉ course := by
  induction course generalizing task with
  | nil => exact ⟨running, by simp⟩
  | cons moment course inductionHypothesis =>
      obtain ⟨before, after⟩ := inductionHypothesis running
      cases moment with
      | cancelled => simp_all [step]
      | resumed => simp_all [step]
      | workerEnded outcome => simp [step, endWorker] at before

/-- As long as the worker is running, a moment takes off what is to come, or it changes nothing. -/
theorem untilAbandoned_step {moment : Moment α} {course : List (Moment α)}
    (running : task.worker = none) (other : ∀ outcome, moment ≠ .workerEnded outcome) :
    task.phase.untilAbandoned.Sublist (moment :: course) ↔
      (task.step moment).phase.untilAbandoned.Sublist course := by
  obtain ⟨phase, tokenSet, worker⟩ := task
  obtain rfl : worker = none := running
  cases moment with
  | workerEnded outcome => exact absurd rfl (other outcome)
  | cancelled =>
      cases phase with
      | awaiting => exact List.cons_sublist_cons
      | cancelling => simp [Phase.untilAbandoned, step, cancel, List.cons_sublist_cons']
      | unwinding => exact List.cons_sublist_cons
      | _ => simp [Phase.untilAbandoned, step, cancel]
  | resumed =>
      cases phase with
      | awaiting => simp [Phase.untilAbandoned, step, resume, List.cons_sublist_cons']
      | cancelling => exact List.cons_sublist_cons
      | unwinding => simp [Phase.untilAbandoned, step, resume, List.cons_sublist_cons']
      | _ => simp [Phase.untilAbandoned, step, resume]

/-- As long as the worker is running, a task has left it alone exactly when everything that had to
come for that has come. -/
theorem untilAbandoned_run {course : List (Moment α)} (running : task.worker = none)
    (goesOn : ∀ outcome, .workerEnded outcome ∉ course) :
    (task.run course).phase.untilAbandoned = [] ↔ task.phase.untilAbandoned.Sublist course := by
  induction course generalizing task with
  | nil => exact List.sublist_nil.symm
  | cons moment course inductionHypothesis =>
      have other : ∀ outcome, moment ≠ .workerEnded outcome := by
        rintro outcome rfl
        exact goesOn outcome List.mem_cons_self
      have still : (task.step moment).worker = none := by
        cases moment with
        | workerEnded outcome => exact absurd rfl (other outcome)
        | cancelled => exact (worker_cancel task).trans running
        | resumed => exact (worker_resume task).trans running
      rw [untilAbandoned_step running other]
      exact inductionHypothesis still fun outcome member =>
        goesOn outcome (List.mem_cons_of_mem _ member)

end Task

/-! ## The task and the function that it awaits -/

/-- How a blocking function ends. -/
inductive Ending (α : Type) where
  /-- It returns or raises what the task gets of it. -/
  | outcome (outcome : α)
  /-- It raises the error that stands for a cancellation. -/
  | cancelled
deriving DecidableEq, Repr

/-- A blocking function that takes a cancel token, with states in `σ`. What it does may depend on
whether the token is set. -/
structure Blocking (σ α : Type) where
  start : σ
  works (tokenSet : Bool) (state next : σ) : Prop
  ends (tokenSet : Bool) (state : σ) (ending : Ending α) : Prop

structure Attended (σ α : Type) where
  task : Task (Ending α)
  /-- Where the function is, or where it ended. -/
  state : σ
  /-- What has happened to the task. -/
  course : List (Moment (Ending α))
  /-- Someone else who holds the token has set it. -/
  setElsewhere : Bool

namespace Attended

def start (blocking : Blocking σ α) : Attended σ α :=
  ⟨Task.start, blocking.start, [], false⟩

def tokenSet (attended : Attended σ α) : Bool :=
  attended.task.tokenSet || attended.setElsewhere

def meets (attended : Attended σ α) (moment : Moment (Ending α)) : Attended σ α :=
  { attended with
    task := attended.task.step moment
    course := attended.course ++ [moment] }

/-- A task that waits for the outcome of a function is cancelled by a function that ends as if it
was cancelled. -/
def endedBy (attended : Attended σ α) (ending : Ending α) : Attended σ α :=
  match attended.task.phase, ending with
  | .awaiting, .cancelled => (attended.meets (.workerEnded .cancelled)).meets .cancelled
  | _, _ => attended.meets (.workerEnded ending)

/-- The function runs until it has ended; cancellations come at any time and in any number. -/
inductive Step (blocking : Blocking σ α) (attended : Attended σ α) : Attended σ α → Prop
  | works {next : σ} (running : attended.task.worker = none)
      (able : blocking.works attended.tokenSet attended.state next) :
      Step blocking attended { attended with state := next }
  | ends {ending : Ending α} (running : attended.task.worker = none)
      (able : blocking.ends attended.tokenSet attended.state ending) :
      Step blocking attended (attended.endedBy ending)
  | sets : Step blocking attended { attended with setElsewhere := true }
  | cancels : Step blocking attended (attended.meets .cancelled)
  | resumes : Step blocking attended (attended.meets .resumed)

/-- The states that the steps lead to. -/
def Reached (blocking : Blocking σ α) : Attended σ α → Prop :=
  Relation.ReflTransGen (Step blocking) (start blocking)

variable {blocking : Blocking σ α} {attended next : Attended σ α}

/-- The task is where its course leads. -/
def IsLed (attended : Attended σ α) : Prop :=
  attended.task = Task.start.run attended.course

theorem IsLed.meets (led : attended.IsLed) (moment : Moment (Ending α)) :
    (attended.meets moment).IsLed := by
  unfold IsLed at *
  simp [Attended.meets, Task.run, led]

theorem IsLed.endedBy (led : attended.IsLed) (ending : Ending α) :
    (attended.endedBy ending).IsLed := by
  unfold Attended.endedBy
  split
  · exact (led.meets _).meets _
  · exact led.meets _

theorem Step.isLed (step : Step blocking attended next) (led : attended.IsLed) : next.IsLed := by
  cases step with
  | works running able => exact led
  | ends running able => exact led.endedBy _
  | sets => exact led
  | cancels => exact led.meets _
  | resumes => exact led.meets _

theorem Reached.isLed (reached : Reached blocking attended) : attended.IsLed := by
  induction reached with
  | refl => rfl
  | tail _ step inductionHypothesis => exact step.isLed inductionHypothesis

theorem Reached.isPastSetting (reached : Reached blocking attended)
    (past : attended.task.phase.IsPastSetting) : attended.task.tokenSet = true := by
  rw [reached.isLed] at past ⊢
  exact Task.run_isPastSetting _ False.elim past

/-- As long as the function is running, the task has left it alone exactly when it was cancelled,
got to run, and was cancelled again. -/
theorem Reached.untilAbandoned (reached : Reached blocking attended)
    (running : attended.task.worker = none) :
    attended.task.phase.untilAbandoned = [] ↔
      [.cancelled, .resumed, .cancelled].Sublist attended.course := by
  have led : attended.task = Task.start.run attended.course := reached.isLed
  rw [led] at running ⊢
  exact Task.untilAbandoned_run rfl (Task.worker_of_run running).2

theorem received?_endedBy (attended : Attended σ α) (ending : Ending α) :
    (attended.endedBy ending).task.received? = attended.task.received? := by
  unfold endedBy
  split <;> simp [meets, Task.step]

/-- Only a task that gets to run tells its caller anything. -/
theorem Step.resumes_of_received (step : Step blocking attended next)
    (waits : attended.task.received? = none) {received : Received (Ending α)}
    (told : next.task.received? = some received) : next = attended.meets .resumed := by
  cases step with
  | works running able => simp [waits] at told
  | ends running able => simp [received?_endedBy, waits] at told
  | sets => simp [waits] at told
  | cancels => simp [meets, Task.step, waits] at told
  | resumes => rfl

end Attended

open Attended

/-- Whatever the function does and however often its task is cancelled: the caller receives a
cancellation only once the token is set, and from a function that is still running only if the task
was cancelled, set the token, and was cancelled again. Then it can receive it at once. -/
theorem cancellation_delivered (blocking : Blocking σ α) {attended : Attended σ α}
    (reached : Reached blocking attended) (waits : attended.task.received? = none) :
    (∀ next, Attended.Step blocking attended next → next.task.received? = some .cancellation →
      attended.task.tokenSet = true ∧
        (attended.task.worker = none →
          [.cancelled, .resumed, .cancelled].Sublist attended.course)) ∧
    (attended.task.worker = none → [.cancelled, .resumed, .cancelled].Sublist attended.course →
      ∃ next, Attended.Step blocking attended next ∧ next.task.worker = none ∧
        next.task.received? = some .cancellation) := by
  constructor
  · intro next step told
    rw [step.resumes_of_received waits told] at told
    rcases Task.phase_of_resume waits told with phase | ⟨phase, ended⟩
    · refine ⟨reached.isPastSetting ?_, fun running => (reached.untilAbandoned running).1 ?_⟩
      · rw [phase]
        exact True.intro
      · rw [phase]
        rfl
    · refine ⟨reached.isPastSetting ?_, fun running => ?_⟩
      · rw [phase]
        exact True.intro
      · rw [running] at ended
        cases ended
  · intro running abandoned
    have nothingLeft := (reached.untilAbandoned running).2 abandoned
    refine ⟨_, .resumes, (Task.worker_resume _).trans running, ?_⟩
    exact Task.received?_resume_of_untilAbandoned waits nothingLeft

/-! ## The function that makes a given run -/

/-- The function does what the events say, and sees the token set only when it is. -/
def Blocking.ofRun (run : Execution α) : Blocking (List Event) (Except Failure α) where
  start := run.events
  works tokenSet left rest :=
    ∃ event, left = event :: rest ∧ (event = .tokenSet → tokenSet = true)
  ends _ left ending :=
    left = [] ∧ ∃ outcome, ending = .outcome outcome ∧ .workerEnded outcome ∈ run.ending

namespace Attended

/-- The function does some of what is left and does not look at the token meanwhile. -/
theorem reached_worked {run : Execution α} {task : Task (Ending (Except Failure α))}
    {now rest : List Event} {course : List (Moment (Ending (Except Failure α)))}
    {setElsewhere : Bool} (running : task.worker = none) (unknown : .tokenSet ∉ now)
    (reached : Reached (.ofRun run) ⟨task, now ++ rest, course, setElsewhere⟩) :
    Reached (.ofRun run) ⟨task, rest, course, setElsewhere⟩ := by
  induction now with
  | nil => exact reached
  | cons event now inductionHypothesis =>
      rw [List.mem_cons, not_or] at unknown
      have able : (Blocking.ofRun run).works (task.tokenSet || setElsewhere)
          (event :: (now ++ rest)) (now ++ rest) :=
        ⟨event, rfl, fun same => absurd same.symm unknown.1⟩
      exact inductionHypothesis unknown.2 (reached.tail (.works running able))

/-- A run can be left alone behind any part of it in which it does not know of the token. -/
theorem reached_abandonedBehind {run : Execution α} {before after : List Event}
    (split : run.events = before ++ after) (unknown : .tokenSet ∉ before) :
    Reached (.ofRun run)
      ⟨⟨.abandoning, true, none⟩, after, [.cancelled, .resumed, .cancelled], false⟩ := by
  have starts : Reached (.ofRun run) ⟨Task.start, before ++ after, [], false⟩ := by
    rw [← split]
    exact .refl
  have worked := reached_worked rfl unknown starts
  have cancelled := worked.tail .cancels
  have told := cancelled.tail .resumes
  exact told.tail .cancels

end Attended

open Provision

/-- The part of the sample run that does not know of a cancellation creates the group, and the rest
removes it. -/
theorem sampleRun_split :
    ∃ before after, (sampleRun cancellingSubnet).events = before ++ after ∧ .tokenSet ∉ before ∧
      .returned sampleGroup ∈ before ∧ .called (deletion "runner-1") ∈ after := by
  have unheard : Event.tokenSet ∉
      (sampleRun cancellingSubnet).events.takeWhile (· != .tokenSet) := by
    intro heard
    simpa using List.mem_takeWhile_imp heard
  have created : .returned sampleGroup ∈
      (sampleRun cancellingSubnet).events.takeWhile (· != .tokenSet) := by
    decide +kernel
  have removes : .called (deletion "runner-1") ∈
      (sampleRun cancellingSubnet).events.dropWhile (· != .tokenSet) := by
    decide +kernel
  exact ⟨_, _, List.takeWhile_append_dropWhile.symm, unheard, created, removes⟩

theorem cancellation_delivered_of_cancellingSubnet :
    ∃ attended, Reached (.ofRun (sampleRun cancellingSubnet)) attended ∧
      attended.task.received? = none ∧ attended.task.worker = none ∧
      ∃ next, Attended.Step (.ofRun (sampleRun cancellingSubnet)) attended next ∧
        next.task.worker = none ∧ next.task.received? = some .cancellation := by
  obtain ⟨before, after, split, unheard, -, -⟩ := sampleRun_split
  have reached := reached_abandonedBehind split unheard
  have delivered := (cancellation_delivered _ reached rfl).2 rfl
  exact ⟨_, reached, rfl, rfl, delivered (List.Sublist.refl _)⟩

/-- The caller receives the cancellation when the group is created and its removal is still to
come. -/
theorem cancellation_precedes_removal :
    ∃ attended done, Reached (.ofRun (sampleRun cancellingSubnet)) attended ∧
      attended.task.received? = some .cancellation ∧ attended.task.worker = none ∧
      (sampleRun cancellingSubnet).events = done ++ attended.state ∧
      .returned sampleGroup ∈ done ∧ .called (deletion "runner-1") ∈ attended.state := by
  obtain ⟨before, after, split, unheard, created, removes⟩ := sampleRun_split
  have told := (reached_abandonedBehind split unheard).tail .resumes
  exact ⟨_, before, told, rfl, rfl, split, created, removes⟩

end RunnerCloud.Background
