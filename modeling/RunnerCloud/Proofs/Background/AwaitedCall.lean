import RunnerCloud.Background.Variant
import RunnerCloud.Proofs.Background.Abandonment

/-!
Contract: a call that a task awaits while nobody cancels the task.

Owns:
- `Attended.ReachedUncancelled`, where the task and its worker get without a cancellation, and
  `Attended.Calm`, which each of their steps keeps;
- `Blocking.CanEnd`, how a blocking function can end, with `received_iff`: that is what the caller can
  receive of it;
- `Blocking.ofCall`, the worker that makes a call, and keeps a list of the calls it has made;
- `Makes`, for what is awaited as if it was a given call: that call is made once, and the caller
  receives how it ends; and `makes_iff`.

Does not own: which call a variant makes.
-/

namespace RunnerCloud.Background

variable {V σ α : Type}

/-! ## How a function ends -/

/-- What the caller receives of a function that ends so. -/
def Ending.received : Ending α → Received (Ending α)
  | .outcome result => .outcome (.outcome result)
  | .cancelled => .cancellation

namespace Blocking

/-- Where the function gets, and whether its token is set by then. -/
inductive Runs (blocking : Blocking σ α) : Bool → σ → Prop
  | start : Runs blocking false blocking.start
  | works {tokenSet : Bool} {state next : σ} (runs : Runs blocking tokenSet state)
      (able : blocking.works tokenSet state next) : Runs blocking tokenSet next
  | tokenIsSet {tokenSet : Bool} {state : σ} (runs : Runs blocking tokenSet state) :
      Runs blocking true state

theorem Runs.ofStart (blocking : Blocking σ α) (tokenSet : Bool) :
    blocking.Runs tokenSet blocking.start := by
  cases tokenSet with
  | false => exact .start
  | true => exact .tokenIsSet .start

/-- Some run of the function ends so. -/
def CanEnd (blocking : Blocking σ α) (ending : Ending α) : Prop :=
  ∃ tokenSet state, blocking.Runs tokenSet state ∧ blocking.ends tokenSet state ending

end Blocking

/-! ## The task without a cancellation -/

/-- A task that nobody cancels is only cancelled by a function that ends as if it was cancelled. -/
def Task.IsCalm : Task (Ending α) → Prop
  | ⟨.awaiting, tokenSet, worker⟩ => tokenSet = false ∧ worker ≠ some .cancelled
  | ⟨.cancelling, _, worker⟩ => worker = some .cancelled
  | ⟨.unwinding, _, worker⟩ => worker = some .cancelled
  | ⟨.abandoning, _, _⟩ => False
  | ⟨.ended received, _, worker⟩ => ∃ ending, worker = some ending ∧ received = ending.received

namespace Task

variable {task : Task (Ending α)} {ending : Ending α}

theorem IsCalm.awaits (calm : task.IsCalm) (running : task.worker = none) :
    task.phase = .awaiting ∧ task.tokenSet = false := by
  obtain ⟨phase, tokenSet, worker⟩ := task
  obtain rfl : worker = none := running
  cases phase with
  | awaiting => exact ⟨rfl, calm.1⟩
  | cancelling => cases calm
  | unwinding => cases calm
  | abandoning => exact calm.elim
  | ended received =>
      obtain ⟨ending, ended, -⟩ := calm
      cases ended

theorem IsCalm.resume (calm : task.IsCalm) : task.resume.IsCalm := by
  obtain ⟨phase, tokenSet, worker⟩ := task
  cases phase with
  | awaiting =>
      cases worker with
      | none => exact calm
      | some ending =>
          cases ending with
          | outcome outcome => exact ⟨.outcome outcome, rfl, rfl⟩
          | cancelled => exact absurd rfl calm.2
  | cancelling => exact calm
  | unwinding =>
      obtain rfl : worker = some .cancelled := calm
      exact ⟨.cancelled, rfl, rfl⟩
  | abandoning => exact calm.elim
  | ended received => exact calm

theorem IsCalm.of_received (calm : task.IsCalm) {received : Received (Ending α)}
    (told : task.received? = some received) :
    ∃ ending, task.worker = some ending ∧ received = ending.received := by
  obtain ⟨phase, tokenSet, worker⟩ := task
  obtain rfl : phase = .ended received := phase_of_received told
  exact calm

/-- Once the function has ended the caller is told so when the task gets to run, at the latest when
it does so for the second time. -/
theorem IsCalm.received?_resume_resume (calm : task.IsCalm) (ended : task.worker = some ending) :
    task.resume.resume.received? = some ending.received := by
  obtain ⟨phase, tokenSet, worker⟩ := task
  obtain rfl : worker = some ending := ended
  cases phase with
  | awaiting =>
      cases ending with
      | outcome outcome => rfl
      | cancelled => exact absurd rfl calm.2
  | cancelling =>
      cases calm
      rfl
  | unwinding =>
      cases calm
      rfl
  | abandoning => exact calm.elim
  | ended received =>
      obtain ⟨other, same, rfl⟩ := calm
      cases same
      rfl

end Task

/-! ## The task and the function -/

namespace Attended

variable {blocking : Blocking σ α} {attended next : Attended σ α} {ending : Ending α}

/-- The states that the steps lead to as long as nobody cancels the task. -/
def ReachedUncancelled (blocking : Blocking σ α) : Attended σ α → Prop :=
  Relation.ReflTransGen
    (fun attended next => Step blocking attended next ∧ next ≠ attended.meets .cancelled)
    (start blocking)

structure Calm (blocking : Blocking σ α) (attended : Attended σ α) : Prop where
  task : attended.task.IsCalm
  running : attended.task.worker = none → blocking.Runs attended.setElsewhere attended.state
  ended : ∀ ending, attended.task.worker = some ending →
    ∃ tokenSet, blocking.Runs tokenSet attended.state ∧
      blocking.ends tokenSet attended.state ending

theorem calm_start (blocking : Blocking σ α) : Calm blocking (start blocking) where
  task := ⟨rfl, nofun⟩
  running := fun _ => .start
  ended := nofun

theorem worker_endedBy (attended : Attended σ α) (ending : Ending α) :
    (attended.endedBy ending).task.worker = attended.task.worker.or (some ending) := by
  unfold endedBy
  split <;> simp [meets, Task.step, Task.endWorker]

theorem state_endedBy (attended : Attended σ α) (ending : Ending α) :
    (attended.endedBy ending).state = attended.state := by
  unfold endedBy
  split <;> rfl

theorem isCalm_endedBy (calm : attended.task.IsCalm) (running : attended.task.worker = none)
    (ending : Ending α) : (attended.endedBy ending).task.IsCalm := by
  obtain ⟨awaiting, unset⟩ := calm.awaits running
  obtain ⟨⟨phase, tokenSet, worker⟩, state, course, setElsewhere⟩ := attended
  obtain rfl : phase = .awaiting := awaiting
  obtain rfl : worker = none := running
  cases ending with
  | outcome outcome => exact ⟨unset, nofun⟩
  | cancelled => exact rfl

theorem Step.calm (step : Step blocking attended next)
    (uncancelled : next ≠ attended.meets .cancelled) (calm : Calm blocking attended) :
    Calm blocking next := by
  cases step with
  | works running able =>
      have unset : attended.tokenSet = attended.setElsewhere := by
        simp [tokenSet, (calm.task.awaits running).2]
      rw [unset] at able
      refine ⟨calm.task, fun _ => (calm.running running).works able, fun ending ended => ?_⟩
      cases running.symm.trans ended
  | @ends ending running able =>
      have unset : attended.tokenSet = attended.setElsewhere := by
        simp [tokenSet, (calm.task.awaits running).2]
      have worker : (attended.endedBy ending).task.worker = some ending := by
        rw [worker_endedBy, running, Option.none_or]
      refine ⟨isCalm_endedBy calm.task running ending, fun still => ?_, fun other ended => ?_⟩
      · cases worker.symm.trans still
      · cases worker.symm.trans ended
        rw [state_endedBy]
        exact ⟨attended.setElsewhere, calm.running running, unset ▸ able⟩
  | sets => exact { calm with running := fun running => (calm.running running).tokenIsSet }
  | cancels => exact absurd rfl uncancelled
  | resumes =>
      have worker : attended.task.resume.worker = attended.task.worker := Task.worker_resume _
      exact ⟨calm.task.resume, fun running => calm.running (worker ▸ running),
        fun ending ended => calm.ended ending (worker ▸ ended)⟩

theorem ReachedUncancelled.calm (reached : ReachedUncancelled blocking attended) :
    Calm blocking attended := by
  induction reached with
  | refl => exact calm_start blocking
  | tail _ step inductionHypothesis => exact step.1.calm step.2 inductionHypothesis

/-! ### What can be reached -/

theorem ne_meets_of_course (course : next.course ≠ attended.course ++ [.cancelled]) :
    next ≠ attended.meets .cancelled := by
  rintro rfl
  exact course rfl

theorem reachedUncancelled_of_runs {tokenSet : Bool} {state : σ}
    (runs : blocking.Runs tokenSet state) :
    ReachedUncancelled blocking ⟨Task.start, state, [], tokenSet⟩ := by
  induction runs with
  | start => exact .refl
  | works runs able inductionHypothesis =>
      exact inductionHypothesis.tail ⟨.works rfl able, ne_meets_of_course (by simp)⟩
  | tokenIsSet runs inductionHypothesis =>
      exact inductionHypothesis.tail ⟨.sets, ne_meets_of_course (by simp)⟩

theorem ReachedUncancelled.resumes (reached : ReachedUncancelled blocking attended) :
    ReachedUncancelled blocking (attended.meets .resumed) :=
  reached.tail ⟨.resumes, ne_meets_of_course (by simp [meets])⟩

theorem ReachedUncancelled.ends (reached : ReachedUncancelled blocking attended)
    (running : attended.task.worker = none)
    (able : blocking.ends attended.tokenSet attended.state ending) :
    ReachedUncancelled blocking (attended.endedBy ending) := by
  refine reached.tail ⟨.ends running able, ne_meets_of_course ?_⟩
  unfold endedBy
  split <;> simp [meets]

/-- What a caller can receive of a function, and where that ends: just what its runs lead to. -/
theorem received_iff {state : σ} {received : Received (Ending α)} :
    (∃ attended, ReachedUncancelled blocking attended ∧ attended.state = state ∧
        attended.task.received? = some received) ↔
      ∃ tokenSet ending, blocking.Runs tokenSet state ∧ blocking.ends tokenSet state ending ∧
        received = ending.received := by
  constructor
  · rintro ⟨attended, reached, rfl, told⟩
    obtain ⟨ending, ended, rfl⟩ := reached.calm.task.of_received told
    obtain ⟨tokenSet, runs, ends⟩ := reached.calm.ended ending ended
    exact ⟨tokenSet, ending, runs, ends, rfl⟩
  · rintro ⟨tokenSet, ending, runs, ends, rfl⟩
    have ended : ReachedUncancelled blocking (endedBy ⟨Task.start, state, [], tokenSet⟩ ending) :=
      (reachedUncancelled_of_runs runs).ends rfl (by simpa [Attended.tokenSet, Task.start])
    have worker : (endedBy ⟨Task.start, state, [], tokenSet⟩ ending).task.worker = some ending :=
      worker_endedBy _ _
    refine ⟨_, ended.resumes.resumes, ?_, ended.calm.task.received?_resume_resume worker⟩
    exact state_endedBy _ _

end Attended

/-! ## The worker that makes a call -/

structure Work (V σ : Type) where
  /-- The calls that the worker has made. -/
  calls : List (Call V)
  /-- Where the method is that it has called. -/
  inside : Option σ

section Worker

variable (body : Call V → Blocking σ α) (refusal : α) (call? : Option (Call V))

inductive Work.Goes (tokenSet : Bool) : Work V σ → Work V σ → Prop
  | makes {call : Call V} {calls : List (Call V)} (fits : call? = some call) :
      Goes tokenSet ⟨calls, none⟩ ⟨calls ++ [call], some (body call).start⟩
  | goesOn {call : Call V} {calls : List (Call V)} {state next : σ} (fits : call? = some call)
      (able : (body call).works tokenSet state next) :
      Goes tokenSet ⟨calls, some state⟩ ⟨calls, some next⟩

inductive Work.Ends (tokenSet : Bool) : Work V σ → Ending α → Prop
  | refuses {work : Work V σ} (misfits : call? = none) : Ends tokenSet work (.outcome refusal)
  | ends {call : Call V} {calls : List (Call V)} {state : σ} {ending : Ending α}
      (fits : call? = some call) (able : (body call).ends tokenSet state ending) :
      Ends tokenSet ⟨calls, some state⟩ ending

/-- The worker that makes a call, if the arguments of a variant fit; `refusal` is its outcome if they
do not. -/
def Blocking.ofCall : Blocking (Work V σ) α where
  start := ⟨[], none⟩
  works := Work.Goes body call?
  ends := Work.Ends body refusal call?

/-- How the worker of a call can end. -/
def Answers (ending : Ending α) : Prop :=
  match call? with
  | none => ending = .outcome refusal
  | some call => (body call).CanEnd ending

/-- A caller awaits the call while nobody cancels the task: these calls have been made when it
receives this. -/
def Awaited (calls : List (Call V)) (received : Received (Ending α)) : Prop :=
  ∃ attended, Attended.ReachedUncancelled (.ofCall body refusal call?) attended ∧
    attended.state.calls = calls ∧ attended.task.received? = some received

variable {body refusal call?}

/-- Before the worker makes its call it has made none, and it makes no second one. -/
theorem Blocking.of_runs_ofCall {tokenSet : Bool} {work : Work V σ}
    (runs : (Blocking.ofCall body refusal call?).Runs tokenSet work) :
    work = ⟨[], none⟩ ∨
      ∃ call state, call? = some call ∧ work = ⟨[call], some state⟩ ∧
        (body call).Runs tokenSet state := by
  induction runs with
  | start => exact Or.inl rfl
  | @works tokenSet work next runs able inductionHypothesis =>
      rcases inductionHypothesis with rfl | ⟨call, state, fits, rfl, inside⟩
      · cases able with
        | makes fits => exact Or.inr ⟨_, _, fits, rfl, .ofStart _ _⟩
      · cases able with
        | goesOn alsoFits able =>
            cases fits.symm.trans alsoFits
            exact Or.inr ⟨call, _, fits, rfl, inside.works able⟩
  | tokenIsSet runs inductionHypothesis =>
      refine inductionHypothesis.imp_right ?_
      rintro ⟨call, state, fits, rfl, inside⟩
      exact ⟨call, state, fits, rfl, inside.tokenIsSet⟩

theorem Blocking.runs_ofCall {tokenSet : Bool} {call : Call V} {state : σ}
    (runs : (body call).Runs tokenSet state) :
    (Blocking.ofCall body refusal (some call)).Runs tokenSet ⟨[call], some state⟩ := by
  induction runs with
  | start => exact Runs.start.works (.makes rfl)
  | works runs able inductionHypothesis => exact inductionHypothesis.works (.goesOn rfl able)
  | tokenIsSet runs inductionHypothesis => exact inductionHypothesis.tokenIsSet

theorem Blocking.ofCall_ends_iff {calls : List (Call V)} {ending : Ending α} :
    (∃ tokenSet work, (Blocking.ofCall body refusal call?).Runs tokenSet work ∧
        work.calls = calls ∧ (Blocking.ofCall body refusal call?).ends tokenSet work ending) ↔
      calls = call?.toList ∧ Answers body refusal call? ending := by
  constructor
  · rintro ⟨tokenSet, work, runs, rfl, ends⟩
    cases ends with
    | refuses misfits =>
        rcases of_runs_ofCall runs with rfl | ⟨call, state, fits, -, -⟩
        · rw [misfits]
          exact ⟨rfl, rfl⟩
        · cases fits.symm.trans misfits
    | @ends call calls state ending fits able =>
        rcases of_runs_ofCall runs with none_ | ⟨other, inner, alsoFits, same, inside⟩
        · cases none_
        · cases same
          cases fits.symm.trans alsoFits
          rw [fits]
          exact ⟨rfl, tokenSet, state, inside, able⟩
  · rintro ⟨rfl, answers⟩
    cases call? with
    | none =>
        obtain rfl : ending = .outcome refusal := answers
        exact ⟨false, _, .start, rfl, .refuses rfl⟩
    | some call =>
        obtain ⟨tokenSet, state, runs, ends⟩ := answers
        exact ⟨tokenSet, _, runs_ofCall runs, rfl, .ends rfl ends⟩

/-- The call is made once, and the caller receives how it ends. -/
theorem awaited_iff {calls : List (Call V)} {received : Received (Ending α)} :
    Awaited body refusal call? calls received ↔
      calls = call?.toList ∧
        ∃ ending, Answers body refusal call? ending ∧ received = ending.received := by
  constructor
  · rintro ⟨attended, reached, made, told⟩
    obtain ⟨tokenSet, ending, runs, ends, rfl⟩ :=
      Attended.received_iff.1 ⟨attended, reached, rfl, told⟩
    obtain ⟨once, answers⟩ := Blocking.ofCall_ends_iff.1 ⟨tokenSet, _, runs, made, ends⟩
    exact ⟨once, ending, answers, rfl⟩
  · rintro ⟨once, ending, answers, rfl⟩
    obtain ⟨tokenSet, work, runs, made, ends⟩ := Blocking.ofCall_ends_iff.2 ⟨once, answers⟩
    obtain ⟨attended, reached, rfl, told⟩ :=
      Attended.received_iff.2 ⟨tokenSet, ending, runs, ends, rfl⟩
    exact ⟨attended, reached, made, told⟩

end Worker

/-- Whatever methods do: the call is made once, and the caller receives how the method ends. -/
def Makes (call? : Option (Call V)) (call : Call V) : Prop :=
  ∀ (σ α : Type) (body : Call V → Blocking σ α) (refusal : α) (calls : List (Call V))
    (received : Received (Ending α)),
    Awaited body refusal call? calls received ↔
      calls = [call] ∧ ∃ ending, (body call).CanEnd ending ∧ received = ending.received

/-- A method that returns at once. -/
def Blocking.idle : Blocking Unit Unit where
  start := ()
  works _ _ _ := False
  ends _ _ ending := ending = .outcome ()

theorem makes_iff {call? : Option (Call V)} {call : Call V} :
    Makes call? call ↔ call? = some call := by
  constructor
  · intro makes
    have canEnd : Blocking.idle.CanEnd (.outcome ()) := ⟨false, (), .start, rfl⟩
    have awaited := (makes Unit Unit (fun _ => .idle) () [call] (.outcome (.outcome ()))).2
      ⟨rfl, .outcome (), canEnd, rfl⟩
    have once := (awaited_iff.1 awaited).1
    cases call? with
    | none => cases once
    | some other =>
        cases once
        rfl
  · rintro rfl σ α body refusal calls received
    exact awaited_iff

end RunnerCloud.Background
