import HubLink.Command.Load
import HubLink.Command.Send
import HubLink.Config.Render
import HubLink.Log.Settings

namespace HubLink.Command

open Mqtt

/-- The result of a command with its output, log and packets. -/
structure Performance where
  result : Except Failure Unit
  transcript : Transcript
  /-- The packets that the broker has read. -/
  packets : List Outgoing := []

/-- Validates the configuration, and prints it if `isShown`. -/
def showConfig (config : Config) (isShown : Bool) : Performance :=
  let done : Entry := .line ⟨.info, .command, "Configuration validation complete", []⟩
  if isShown then
    match config.toRedactedToml with
    | .ok text => { result := .ok (), transcript := [.output (text ++ "\n"), done] }
    | .error e => { result := .error (.config e), transcript := [] }
  else { result := .ok (), transcript := [done] }

/-- Executes a command. -/
def perform (s : Surroundings) (config : Config) : Action → Performance
  | .send messages seconds =>
    let (result, transcript, packets) := send s config messages seconds
    { result, transcript, packets }
  | .config isShown => showConfig config isShown

/-- The exit code and the transcript of a run. -/
structure Outcome where
  exitCode : Nat
  transcript : Transcript
  packets : List Outgoing := []

/-- The output of `--version`. -/
def versionLine : String := "iothub-send 0.1.0\n"

/-- The outcome of arguments without a command to execute. -/
def Stop.outcome : Stop → Outcome
  | .misuse => { exitCode := 2, transcript := [] }
  | .help => { exitCode := 0, transcript := [] }
  | .version => { exitCode := 0, transcript := [.output versionLine] }

/-- The log line of an error. -/
def errorEntry (context message : String) : Entry :=
  .line ⟨.error, .command, context ++ message, []⟩

/-- A run with parsed arguments, before the log is filtered. -/
def runWith (s : Surroundings) (a : Arguments) : Outcome :=
  match load s a with
  | .error e =>
    { exitCode := 1
      transcript :=
        loadTranscript s a ++ [errorEntry "Failed to load configuration: " e.message] }
  | .ok config =>
    let p := perform s config a.action
    let transcript := loadTranscript s a ++ p.transcript
    match p.result with
    | .ok () => { exitCode := 0, transcript, packets := p.packets }
    | .error e =>
      { exitCode := 1
        transcript := transcript ++ [errorEntry "Command failed: " e.message]
        packets := p.packets }

/-- The outcome of a run that panics. -/
def brokenOff : Outcome where
  exitCode := 101
  transcript := []

/-- A run of the program. It panics if logging cannot be set up. -/
def run (s : Surroundings) (arguments : List String) : Outcome :=
  match Arguments.read s.env arguments with
  | .error stop => stop.outcome
  | .ok a =>
    match Log.Settings.ofEnvironment? s.env with
    | some settings =>
      let outcome := runWith s a
      { outcome with transcript := outcome.transcript.under settings }
    | none => brokenOff

end HubLink.Command
