import RunnerCloud.CommandLine.Command

/-!
Contract: what the host sees of a command.

Owns:
- `Report`, the two outputs and the exit status;
- `Report.ofOutcome`, which prints results as indented JSON, the version as it is, and the texts of
  failures on the error output, in the words of the libraries; interrupts and errors beside the
  services are not reported.

Does not own: writing the outputs.
-/

namespace RunnerCloud

structure Report where
  exitCode : Nat
  output : Text
  errors : Text
deriving DecidableEq, Repr

namespace Report

/-- What a result prints; a command without a result prints nothing. -/
def resultText : CommandResult → Text
  | .nothing => ""
  | .version written => written ++ "\n"
  | result => Json.indented result.toValue ++ "\n"

def ofResult (result : CommandResult) : Report :=
  ⟨0, resultText result, ""⟩

def ofFailure (words : ErrorWords) (failure : Failure) : Report :=
  ⟨1, "", "Error: " ++ failure.text words ++ "\n"⟩

/-- Whether a failure is one that the host is told about. -/
def covers (failure : Failure) : Bool :=
  [ErrorCategory.usage, .provider, .badValue].any failure.category.isWithin

/-- The report on an outcome, or the stop that no report is made of. -/
def ofOutcome (words : ErrorWords) : Except Stop CommandResult → Except Stop Report
  | .ok result => .ok (ofResult result)
  | .error (.failed failure) =>
    if covers failure then .ok (ofFailure words failure) else .error (.failed failure)
  | .error .hung => .error .hung

end Report

end RunnerCloud
