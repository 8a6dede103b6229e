import RunnerCloud.CommandLine.Report

/-!
Contract: the provider as a program.

Owns:
- `main`, which reads the environment, the input and the configuration file, runs one command,
  writes the log to the error output, and reports. The cloud that it talks to accepts every call,
  so a run shows what would be asked of a real one.

Does not own: what commands do.
-/

namespace RunnerCloud.Program

/-- The variables that a command reads. -/
def variableNames : List Text := [
  CommandLine.commandVariable, CommandLine.configVariable, CommandLine.controllerVariable,
  CommandLine.poolVariable, CommandLine.instanceVariable, "AZURE_SUBSCRIPTION_ID",
  "AZURE_TENANT_ID", "AZURE_CLIENT_ID", "AZURE_CLIENT_SECRET"]

/-- The variable that holds the level of the log. -/
def levelVariable : String := "GARM_AZURE_LOG_LEVEL"

def readEnvironment : IO Environment :=
  variableNames.filterMapM fun name => do
    return (← IO.getEnv name.escaped).map (name, ·)

/-- What is in the file at a path, if there is such a file. -/
def readFile? (path : Text) : IO (Option FileContent) := do
  try
    let bytes ← IO.FS.readBinFile path.escaped
    return some ((String.fromUTF8? bytes).elim .undecodable .text)
  catch _ => return none

/-- The input; commands other than the creation of a runner do not read it. -/
def readInput (environment : Environment) : IO Text := do
  if environment.get? CommandLine.commandVariable == some Command.createInstance.text then
    (← IO.getStdin).readToEnd
  else return ""

/-- The milliseconds since the program's clock started, as a time stamp. -/
def timestamp : IO String := do
  return (← IO.monoMsNow).repr

def writeLog (level : Int) (records : List LogRecord) : IO Unit :=
  records.forM fun record => do
    if LogLevel.passes level record.level then IO.eprintln (record.line (← timestamp))

/-- Random numbers for passwords. -/
def randomDraws : IO (Nat → Nat) := do
  let numbers ← (List.range Password.standardLength).mapM fun _ => IO.rand 0 0xFFFFFF
  return fun position => numbers.getD position 0

/-- Runs one command; the result is the exit status. -/
def runCommand (level : Int) : IO UInt32 := do
  let environment ← readEnvironment
  let input ← readInput environment
  let configContent ← readFile? ((environment.get? CommandLine.configVariable).getD "")
  let firstSerial ← IO.rand 0 0xFFFFFFFFFFFF
  let session := Session.start .accepting firstSerial (← randomDraws)
  let execution := CommandLine.run ⟨environment, input, fun _ => configContent, environment⟩ session
  writeLog level (Event.logRecords execution.events)
  match Report.ofOutcome .abridged execution.outcome with
  | .error _ => return 1
  | .ok report =>
    IO.print report.output.escaped
    IO.eprint report.errors.escaped
    return UInt32.ofNat report.exitCode

/-- Runs one command at the level of log that the environment asks for. -/
def run : IO UInt32 := do
  let level : Option Text := (← IO.getEnv levelVariable).map .plain
  match LogLevel.ofText (level.getD (LogLevel.name LogLevel.info)) with
  | .ok level => runCommand level
  | .error unknown =>
    IO.eprintln unknown.message.escaped
    return 1

end RunnerCloud.Program

def main : IO UInt32 :=
  RunnerCloud.Program.run
