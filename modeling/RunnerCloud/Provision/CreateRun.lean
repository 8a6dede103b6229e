import RunnerCloud.Cloud.Client
import RunnerCloud.Provision.Step

/-!
Contract: what the steps of one creation share.

Owns:
- `CreateRun`, the name of the instance and the identifier of the creation's log records;
- `CreateRun.step`, which looks for a cancellation, logs the step, performs its action, and reports
  a failure of the cloud as a failure of the step;
- `CreateRun.rollingBack`, which removes what was created when a later part fails.

Does not own: which steps a creation has.
-/

namespace RunnerCloud

open Operation

structure CreateRun where
  name : Text
  serial : Nat
deriving DecidableEq, Repr

namespace CreateRun

variable {α : Type}

/-- The name under which log records show a creation. -/
def operationName : Text := "CreateInstance"

/-- The name under which log records show the removal after a failure. -/
def rollbackStep : Text := "rollback"

/-- A record of the creation. -/
def record (run : CreateRun) (level : Int) (message : Text) (step : Option Text) : LogRecord :=
  { level := level
    logger := LogRecord.providerLogger
    message := message
    correlation := .generated run.serial
    instanceName := .text run.name
    step := .ofText? step
    operation := .text operationName
    exception := none }

def log (run : CreateRun) (level : Int) (message : Text) (step : Option Text) :
    Operation Unit :=
  emit (.logged (run.record level message step))

/-- Fails when the token is set. -/
def checkCancelled (run : CreateRun) (boundary : Boundary) : Operation Unit := do
  if ← isCancelled then fail (.cancelledBefore run.name boundary)

/-- What a step makes of a failure: a failure of the cloud becomes a failure of the step. -/
def attributed (step : Step) : Failure → Failure
  | .cloud problem => .stepFailed step problem
  | failure => failure

/-- Performs the action of a step, to which its failures are attributed. -/
def inStep (step : Step) (operation : Operation α) : Operation α :=
  operation.recover fun failure => fail (attributed step failure)

/-- Performs a step, unless the creation was cancelled before. -/
def step (run : CreateRun) (step : Step) (operation : Operation α) : Operation α := do
  run.checkCancelled (.before step)
  run.log LogLevel.debug step.action (some step.name)
  inStep step operation

/-- The identifier of a resource that a step created. -/
def resourceId (step : Step) (resource : Value) : Operation Value :=
  let identifier := resource.field "id"
  if identifier.isEmptyLike then fail (.missingResourceId step) else pure identifier

/-- What the log says when the removal itself fails. -/
def removalFailed (run : CreateRun) (failure : Failure) : Text :=
  "failed to remove resource group " ++ run.name ++ ": " ++ failure.message

/-- Removes the group of the instance; an error is logged, an interrupt is passed on. -/
def rollback (run : CreateRun) : Operation Unit := do
  run.log LogLevel.info "provisioning failed, removing resource group" (some rollbackStep)
  (Cloud.deleteGroup run.name true).recover fun failure =>
    if failure.isInterrupt then fail failure
    else run.log LogLevel.warning (run.removalFailed failure) (some rollbackStep)

/-- Performs a part of a creation; when it fails, what was created before is removed. -/
def rollingBack (run : CreateRun) (operation : Operation α) : Operation α :=
  operation.recover fun failure => do
    run.rollback
    fail failure

end CreateRun

end RunnerCloud
