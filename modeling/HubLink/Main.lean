import HubLink.Command.Program
import HubLink.Log.Layout
import Std.Time.DateTime.Timestamp

namespace HubLink.Main

open Command

/-- The fault for an error of the file system. -/
def faultOf : IO.Error → Config.FileFault
  | .noFileOrDirectory .. => .notFound
  | .inappropriateType _ 20 _ => .notDirectory
  | .inappropriateType _ 21 _ => .isDirectory
  | e => .other e.toString

/-- The content of the file at a path, or the fault of reading it. -/
def look (path : String) : IO (Except Config.FileFault Bytes) := do
  try
    return .ok (← IO.FS.readBinFile path).data.toList
  catch e =>
    return .error (faultOf e)

/-- The variables with the given names that are set in the environment. -/
def valuesOf (names : List String) : IO Config.Environment :=
  names.filterMapM fun name => do return (← IO.getEnv name).map (name, ·)

/-- The variables that every run reads. -/
def usualVariables : List String :=
  [connectionVariable, "LOG_LEVEL", "LOG_FORMAT", "LOG_SPANS", "RUST_LOG"]

/-- The surroundings of a run: the files that it may read and the variables that it may use. There is
no broker, so every connection is refused. -/
def surroundings (arguments : List String) : IO Surroundings := do
  let env ← valuesOf usualVariables
  let now := Int64.ofInt (← Std.Time.Timestamp.now).toSecondsSinceUnixEpoch.val
  match Arguments.read env arguments with
  | .error _ => return { env, now, fileAt := fun _ => .error .notFound }
  | .ok a =>
    let paths := a.configFile.toList ++ usualFiles
    let found ← paths.mapM fun path => do return (path, ← look path)
    let s : Surroundings := { env, now, fileAt := fun path => (found.lookup path).getD (.error .notFound) }
    let named := match given s a with
      | .ok config => config.device.connectionStringEnv.toList
      | .error _ => []
    return { s with env := env ++ (← valuesOf named) }

/-- Prints an entry of a transcript. -/
def print (format : Log.Format) : Entry → IO Unit
  | .output text => IO.print text
  | .line line _ => IO.println (format.write line)
  | .span _ _ _ => pure ()

/-- The usage text. -/
def usage : String :=
  "Usage: iothub-send [--config FILE] [--connection-string TEXT] COMMAND\n\n" ++
  "Commands:\n" ++
  "  send [--timeout-secs N] MESSAGE...  Publish messages and wait for their acknowledgements\n" ++
  "  config [--show]                     Check the configuration, and perhaps print it\n" ++
  "  help                                Print this help\n"

end HubLink.Main

/-- The program. -/
def main (arguments : List String) : IO UInt32 := do
  let s ← HubLink.Main.surroundings arguments
  let format := HubLink.Log.Format.ofEnvironment s.env
  match HubLink.Command.Arguments.read s.env arguments with
  | .error .help => IO.print HubLink.Main.usage
  | .error .misuse => IO.eprint HubLink.Main.usage
  | _ => pure ()
  let outcome := HubLink.Command.run s arguments
  outcome.transcript.forM (HubLink.Main.print format)
  return UInt32.ofNat outcome.exitCode
