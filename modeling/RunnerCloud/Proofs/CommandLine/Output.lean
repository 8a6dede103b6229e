import Mathlib.Data.List.Forall2
import RunnerCloud.CommandLine.Report
import RunnerCloud.Proofs.CommandLine.Invocation
import RunnerCloud.Proofs.Provision.Course
import RunnerCloud.Proofs.Validation.RunnerForms

/-!
Contract: what the host can rely on when it reads the outputs of a command.

Owns:
- `Shows` and `ShowsAll`, by which a text is JSON for one runner, or for a list of them;
- `Prints`, what each command prints, in terms of what its operation of the provider gives: the texts
  of runners are joined when the JSON is read, and `halves_printed_as_character` is a runner that
  differs from what is read;
- `output_protocol`: only a command that succeeds prints, and it prints just that; a failure that the
  host is told about is written on the error output; and a command that was called in a wrong way
  has done nothing.

Does not own: interrupts and errors beside the services, of which there is no report.
-/

namespace RunnerCloud.CommandLine

open Operation

variable {host : Host} {session : Session} {printed : Text}

/-! ## Texts for runners -/

/-- The text is JSON from which the runner is read. -/
def Shows (printed : Text) (runner : RunnerInstance) : Prop :=
  ∃ written, Json.IsText printed.points written ∧ Json.parse printed = .ok written ∧
    RunnerInstance.ofValue written = .accepted runner

/-- The text is a JSON list from whose items the runners are read, in their order. -/
def ShowsAll (printed : Text) (runners : List RunnerInstance) : Prop :=
  ∃ items, Json.IsText printed.points (.list items) ∧ Json.parse printed = .ok (.list items) ∧
    List.Forall₂ (fun item runner => RunnerInstance.ofValue item = .accepted runner) items runners

/-- A value on indented lines, with the line break that ends the last of them. -/
theorem isText_line {value : Value} (textual : value.isTextual = true) :
    Json.IsText (Text.points (Json.indented value ++ "\n")) value.joined := by
  obtain ⟨before, inside, after, split, beforeBlank, afterBlank, denotes⟩ :=
    Json.isText_indented textual
  refine ⟨before, inside, after ++ [.char '\n'], ?_, beforeBlank, ?_, denotes⟩
  · rw [Text.points_append, split]
    simp
  · intro c member
    rcases List.mem_append.1 member with inAfter | ends
    · exact afterBlank c inAfter
    · rw [List.mem_singleton.1 ends]
      rfl

theorem shows_single (runner : RunnerInstance) :
    Shows (Report.resultText (.single runner)) runner.joined := by
  have isText := isText_line runner.isTextual_toValue
  rw [runner.joined_toValue] at isText
  exact ⟨runner.joined.toValue, isText, Json.parse_of_isText isText, runner.joined.ofValue_toValue⟩

/-- A text is JSON for one runner at most. -/
theorem Shows.unique {one other : RunnerInstance} (first : Shows printed one)
    (second : Shows printed other) : one = other := by
  obtain ⟨_, _, parsed, read⟩ := first
  obtain ⟨_, _, parsedAgain, readAgain⟩ := second
  cases parsed.symm.trans parsedAgain
  exact Checked.accepted.inj (read.symm.trans readAgain)

theorem showsAll_several (runners : List RunnerInstance) :
    ShowsAll (Report.resultText (.several runners)) (runners.map RunnerInstance.joined) := by
  have textual : (Value.list (runners.map RunnerInstance.toValue)).isTextual = true := by
    rw [Value.isTextual, Value.textualItems_eq_all, List.all_map, List.all_eq_true]
    exact fun runner _ => runner.isTextual_toValue
  have isText := isText_line textual
  have joins : (Value.list (runners.map RunnerInstance.toValue)).joined =
      .list ((runners.map RunnerInstance.joined).map RunnerInstance.toValue) := by
    rw [Value.joined, Value.joinedItems_eq_map, List.map_map, List.map_map]
    exact congrArg Value.list (List.map_congr_left fun runner _ => runner.joined_toValue)
  rw [joins] at isText
  refine ⟨_, isText, Json.parse_of_isText isText, ?_⟩
  rw [List.forall₂_map_left_iff]
  exact List.forall₂_same.2 fun runner _ => runner.ofValue_toValue

/-! ## What commands print -/

/-- What a command that succeeds prints. -/
inductive Prints (host : Host) (session : Session) (printed : Text) : Prop
  | created {provider : Provider} {bootstrap : Bootstrap} {runner : RunnerInstance}
      (asked : commandOf host = .ok .createInstance) (provides : providerOf host = .ok provider)
      (requests : requestOf host = .ok bootstrap)
      (gives : (provider.createInstance bootstrap session).outcome = .ok runner)
      (shows : Shows printed runner.joined)
  | found {provider : Provider} {name : Text} {runner : RunnerInstance}
      (asked : commandOf host = .ok .getInstance) (provides : providerOf host = .ok provider)
      (named : require host instanceVariable = .ok name)
      (gives : (provider.getInstance name session).outcome = .ok runner)
      (shows : Shows printed runner.joined)
  | listed {provider : Provider} {poolId : Text} {runners : List RunnerInstance}
      (asked : commandOf host = .ok .listInstances) (provides : providerOf host = .ok provider)
      (named : require host poolVariable = .ok poolId)
      (gives : (provider.listInstances poolId session).outcome = .ok runners)
      (shows : ShowsAll printed (runners.map RunnerInstance.joined))
  | silent {command : Command} (asked : commandOf host = .ok command)
      (gives : command ∈ [.deleteInstance, .stop, .start, .removeAllInstances])
      (nothing : printed = "")
  | version (asked : commandOf host = .ok .getVersion)
      (shows : printed = CommandLine.version ++ "\n")

theorem mem_of_alteration {command : Command} {alter : Provider → Text → Operation Unit}
    (alters : alteration? command = some alter) :
    command ∈ [.deleteInstance, .stop, .start, .removeAllInstances] := by
  cases command with
  | deleteInstance | stop | start => decide
  | _ => cases alters

theorem Invocation.prints {execution : Execution CommandResult} {result : CommandResult}
    (invocation : Invocation host session execution) (succeeds : execution.outcome = .ok result) :
    Prints host session (Report.resultText result) := by
  cases invocation with
  | refused failure => cases succeeds
  | version asked =>
      cases succeeds
      exact .version asked rfl
  | removed asked provides =>
      obtain ⟨_, _, rfl⟩ := Execution.mapped_ok_iff.1 succeeds
      exact .silent asked (by decide) rfl
  | created asked provides requests =>
      obtain ⟨runner, gives, rfl⟩ := Execution.mapped_ok_iff.1 succeeds
      exact .created asked provides requests gives (shows_single runner)
  | found asked provides named =>
      obtain ⟨runner, gives, rfl⟩ := Execution.mapped_ok_iff.1 succeeds
      exact .found asked provides named gives (shows_single runner)
  | listed asked provides named =>
      obtain ⟨runners, gives, rfl⟩ := Execution.mapped_ok_iff.1 succeeds
      exact .listed asked provides named gives (showsAll_several runners)
  | altered asked alters provides named =>
      obtain ⟨_, _, rfl⟩ := Execution.mapped_ok_iff.1 succeeds
      exact .silent asked (mem_of_alteration alters) rfl

/-! ## Reports -/

/-- Nothing but a result is printed on the output. -/
theorem ok_of_output {words : ErrorWords} {outcome : Except Stop CommandResult} {report : Report}
    (reported : Report.ofOutcome words outcome = .ok report) (prints : report.output ≠ "") :
    ∃ result, outcome = .ok result := by
  rcases outcome with (failure | _) | result
  · simp only [Report.ofOutcome] at reported
    split at reported
    · cases reported
      exact absurd rfl prints
    · cases reported
  · cases reported
  · exact ⟨result, rfl⟩

theorem covers_iff (failure : Failure) :
    Report.covers failure = true ↔
      failure.category.isWithin .usage ∨ failure.category.isWithin .provider ∨
        failure.category.isWithin .badValue := by
  simp [Report.covers]

/-- Only a command that succeeds prints on the output: the runner that its operation gives, as JSON
that is read as this runner with its texts joined, or the runners in their order, or the version, and
nothing where there is nothing to say. Joining leaves exactly those runners as they are in whose texts
no high half of a pair stands directly before a low one. A failure that is an error in the call, an
error of the provider or a value that cannot be read leaves the output empty; its text, in whatever
words the libraries have for their errors, is written on the error output, and the exit status is one.
After an error in the call nothing was done. -/
theorem output_protocol (words : ErrorWords) (host : Host) (session : Session) :
    let execution := run host session
    let report := Report.ofOutcome words execution.outcome
    (∀ shown, report = .ok shown → shown.output ≠ "" →
      ∃ result, execution.outcome = .ok result) ∧
    (∀ result, execution.outcome = .ok result →
      ∃ printed, report = .ok ⟨0, printed, ""⟩ ∧ Prints host session printed) ∧
    (∀ runner : RunnerInstance,
      runner.joined = runner ↔ ∀ text ∈ runner.texts, ¬ CodePoint.Paired text.points) ∧
    ∀ failure, execution.outcome = .error (.failed failure) →
      (failure.category.isWithin .usage ∨ failure.category.isWithin .provider ∨
          failure.category.isWithin .badValue →
        report = .ok ⟨1, "", "Error: " ++ failure.text words ++ "\n"⟩) ∧
      (failure.category.isWithin .usage → execution.events = []) := by
  have invocation := run_invocation host session
  refine ⟨fun shown => ok_of_output, fun result succeeds => ?_,
    RunnerInstance.joined_eq_self_iff, fun failure fails => ⟨?_, ?_⟩⟩
  · refine ⟨Report.resultText result, ?_, invocation.prints succeeds⟩
    rw [succeeds]
    rfl
  · intro told
    rw [fails]
    exact if_pos ((covers_iff failure).2 told)
  · exact invocation.events_of_usage fails

/-- A request for a runner, in which the SKU of the image is one half of a surrogate pair and the
spelling of the other half. -/
def halvesRequest : Text :=
  .broken "\x7b\"name\": \"runner-1\", \"image\": \"Canonical:jammy:" ⟨61, by decide⟩
    "\\ude00:latest\", \"tools\": [\x7b\"os\": \"linux\", \"architecture\": \"x64\",
      \"download_url\": \"https://example.com/runner.tar.gz\", \"filename\": \"runner.tar.gz\"\x7d]\x7d"

/-- A host that asks for the runner of a request, with further variables. -/
def requestingHost (input : Text) (further : Environment) : Host :=
  { settings := [
      (commandVariable, Command.createInstance.text),
      (configVariable, "azure.toml"),
      (controllerVariable, "controller-1")] ++ further
    input := input
    fileContent := fun _ => some (.text
      "location = \"westeurope\"\n[credentials]\nsubscription_id = \"sub\"\n")
    environment := [] }

/-- The name of the system on the runner that a command gives. -/
def osName? : Except Stop CommandResult → Option Text
  | .ok (.single runner) => some runner.osName
  | _ => none

theorem exists_of_osName? {outcome : Except Stop CommandResult} {osName : Text}
    (named : osName? outcome = some osName) :
    ∃ runner, outcome = .ok (.single runner) ∧ runner.osName = osName := by
  unfold osName? at named
  split at named
  · exact ⟨_, rfl, Option.some.inj named⟩
  · cases named

/-- The runner of such a request holds the two halves, and what is printed for it is read as a runner
with the one character that they make. -/
theorem halves_printed_as_character :
    let host := requestingHost halvesRequest []
    ∃ runner, commandOf host = .ok .createInstance ∧
      (run host (Provision.sampleSession .accepting)).outcome = .ok (.single runner) ∧
      runner.osName = .broken "" 61 (.broken "" 1536 "") ∧ runner.joined.osName = "😀" ∧
      ¬ Shows (Report.resultText (.single runner)) runner := by
  intro host
  obtain ⟨runner, gives, named⟩ : ∃ runner,
      (run host (Provision.sampleSession .accepting)).outcome = .ok (.single runner) ∧
        runner.osName = .broken "" 61 (.broken "" 1536 "") :=
    exists_of_osName? (by decide +kernel)
  have joins : runner.joined.osName = "😀" := by
    show runner.osName.joined = _
    rw [named]
    decide +kernel
  refine ⟨runner, rfl, gives, named, joins, fun shows => ?_⟩
  have same := congrArg RunnerInstance.osName (shows.unique (shows_single runner))
  rw [joins, named] at same
  cases same

end RunnerCloud.CommandLine
