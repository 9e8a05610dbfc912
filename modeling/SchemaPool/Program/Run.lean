import SchemaPool.Client.Command
import SchemaPool.CommandLine.Parse
import SchemaPool.Log.Filter

/-! # The program

A run reads the command line and the environment, starts a client, runs the
command and closes the pool.  It ends with an exit status, what it prints, and
what it tells about itself: what its log comes to under the filter, and the
failure where the log cannot tell it.

The filter is read before anything is done, in whatever way the log is filtered
(`runFiltered`); the program filters its log by plain filters (`runProgram`). -/

namespace SchemaPool

/-- The end of a run. -/
structure RunResult where
  status : UInt8
  output : String
  -- The lines of the log and of the last word on a failure.
  remarks : List String
  around : Surroundings

namespace RunResult

def versionLine : String := "strata 0.1.0\n"

def usage : String :=
  "Usage: strata [OPTIONS] <COMMAND>\n\nCommands:\n" ++
    "  check  Initialize the pool and report the active schema and pool status\n" ++
    "  exec   Execute a single SQL statement and print the number of affected rows\n" ++
    "  help   Print this message or the help of the given command\n\nOptions:\n" ++
    String.join (CliOption.all.map fun o =>
      "  --" ++ o.flag ++ " <VALUE>  [env: " ++ o.variableName ++ "]\n")

def ofStop (stop : UsageStop) (around : Surroundings) : RunResult :=
  match stop with
  | .help => ⟨0, usage, [], around⟩
  | .version => ⟨0, versionLine, [], around⟩
  | _ => ⟨2, "", [usage], around⟩

/-- The last word on a failure that the log does not tell. -/
def lastWord (messages : List String) : String := "Error: " ++ ": ".intercalate messages

def successEntry : LogEntry := ⟨.info, .shutdown, "application terminated successfully", []⟩

def failureEntry (f : CommandFailure) : LogEntry :=
  ⟨.error, .shutdown, "application terminated with error", [("error", .text f.context)]⟩

/-- The name of the program, under which it asks the filter whether errors are
logged at all. -/
def programName : String := "strata"

/-- The status of a program that breaks down. -/
def crashStatus : UInt8 := 101

def ofOutcome {Filter : Type} (filtering : Filtering Filter) (filter : Filter)
    (outcome : Except CommandFailure String) (around : Surroundings) : RunResult :=
  let logged (last : List LogEntry) : List String :=
    filtering.lines filter (around.timeline.entries ++ last)
  match outcome with
  | .ok output => ⟨0, output, logged [successEntry], around⟩
  | .error f =>
    if filtering.admits filter .error programName then
      ⟨1, "", logged [failureEntry f], around⟩
    else ⟨1, "", logged [] ++ [lastWord f.chain], around⟩

end RunResult

def Invocation.run (i : Invocation) (around : Surroundings) :
    Except CommandFailure String × Surroundings :=
  match Client.connect i.settings .log (around.note [i.settings.entry]) with
  | .refused f around => (.error (.ofFailure "failed to initialize database client" f), around)
  | .ready client =>
    let (outcome, client) := (do
      let outcome ← Client.dispatch i.command
      Client.close
      return outcome : ClientM (Except CommandFailure String)) client
    (outcome, client.around)

def runFiltered {Filter : Type} (filtering : Filtering Filter) (args : List String)
    (environment : List (String × String)) (server : Server) : RunResult :=
  let around := Surroundings.ofServer server
  match Invocation.parse args environment with
  | .error stop => .ofStop stop around
  | .ok invocation =>
    let setting := environment.lookup "RUST_LOG"
    match filtering.read (LogSetting.written setting) with
    | .crashed remarks => ⟨RunResult.crashStatus, "", remarks, around⟩
    | .refused messages =>
      ⟨1, "", [RunResult.lastWord (LogSetting.refusal setting :: messages)], around⟩
    | .read filter =>
      let (outcome, around) := invocation.run around
      .ofOutcome filtering filter outcome around

def runProgram (args : List String) (environment : List (String × String)) (server : Server) :
    RunResult :=
  runFiltered LogFilter.plain args environment server

/-! ## The stages of a run -/

namespace RunResult

variable {Filter : Type} (filtering : Filtering Filter) (filter : Filter)
  (outcome : Except CommandFailure String) (around : Surroundings)

theorem status_ofOutcome_eq_zero_iff :
    (ofOutcome filtering filter outcome around).status = 0 ↔ ∃ output, outcome = .ok output := by
  cases outcome with
  | ok output => exact iff_of_true rfl ⟨output, rfl⟩
  | error f =>
    refine iff_of_false ?_ nofun
    rw [ofOutcome]
    split <;> exact nofun

/-- A run that fails prints nothing. -/
theorem ofOutcome_of_failed (failed : (ofOutcome filtering filter outcome around).status ≠ 0) :
    (ofOutcome filtering filter outcome around).status = 1 ∧
      (ofOutcome filtering filter outcome around).output = "" := by
  cases outcome with
  | ok output => exact absurd rfl failed
  | error f =>
    rw [ofOutcome]
    split <;> exact ⟨rfl, rfl⟩

@[simp] theorem around_ofOutcome :
    (ofOutcome filtering filter outcome around).around = around := by
  cases outcome with
  | ok output => rfl
  | error f =>
    rw [ofOutcome]
    split <;> rfl

end RunResult

/-- A client runs its command and is closed, however the command has ended. -/
theorem Invocation.run_of_ready {i : Invocation} {around : Surroundings} {client : Client}
    (ready : Client.connect i.settings .log (around.note [i.settings.entry]) = .ready client) :
    i.run around = ((Client.dispatch i.command client).1,
      (Client.close (Client.dispatch i.command client).2).2.around) := by
  rw [run, ready]
  rfl

theorem Invocation.run_of_refused {i : Invocation} {around around' : Surroundings} {f : Failure}
    (refused : Client.connect i.settings .log (around.note [i.settings.entry]) =
      .refused f around') :
    i.run around =
      (.error (.ofFailure "failed to initialize database client" f), around') := by
  rw [run, refused]

section

variable {Filter : Type} {filtering : Filtering Filter} {args : List String}
  {environment : List (String × String)} {i : Invocation} (server : Server)
  (parsed : Invocation.parse args environment = .ok i)

include parsed

theorem runFiltered_of_read {filter : Filter}
    (read : filtering.read (LogSetting.written (environment.lookup "RUST_LOG")) = .read filter) :
    runFiltered filtering args environment server =
      .ofOutcome filtering filter (i.run (.ofServer server)).1 (i.run (.ofServer server)).2 := by
  simp only [runFiltered, parsed, read]

/-- Without a filter the program does nothing. -/
theorem runFiltered_of_not_read
    (unread : ∀ filter,
      filtering.read (LogSetting.written (environment.lookup "RUST_LOG")) ≠ .read filter) :
    let r := runFiltered filtering args environment server
    (r.status = 1 ∨ r.status = RunResult.crashStatus ∧ ∃ remarks,
        filtering.read (LogSetting.written (environment.lookup "RUST_LOG")) = .crashed remarks) ∧
      r.output = "" ∧ r.around = .ofServer server := by
  intro r
  cases reading : filtering.read (LogSetting.written (environment.lookup "RUST_LOG")) with
  | read filter => exact absurd reading (unread filter)
  | refused messages => simp [r, runFiltered, parsed, reading]
  | crashed remarks => simp [r, runFiltered, parsed, reading]

end

end SchemaPool
