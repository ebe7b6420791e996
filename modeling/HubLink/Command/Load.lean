import HubLink.Command.Arguments
import HubLink.Command.Surroundings
import HubLink.Config.Decode

namespace HubLink.Command

/-- The errors of loading a configuration. -/
inductive LoadError where
  | config (error : Config.Error)
  /-- Neither a file nor a connection string is given. -/
  | nothing
  deriving DecidableEq

/-- The text of an error. -/
def LoadError.message : LoadError → String
  | .config error => error.message
  | .nothing =>
    "no configuration found; pass --config, --connection-string or create device.toml"

/-- The default paths of the configuration file, in the order of the search. -/
def usualFiles : List String :=
  ["device.toml", "config/device.toml"]

/-- The path of the configuration file: the given one, or the first default path that exists. -/
def configFile? (s : Surroundings) (a : Arguments) : Option String :=
  match a.configFile with
  | some path => some path
  | none => usualFiles.find? s.hasPath

/-- The configuration before validation: that of the file, with the given connection string in place
of its own, or one with the given connection string alone. -/
def given (s : Surroundings) (a : Arguments) : Except LoadError Config :=
  match configFile? s a, a.connectionString with
  | some path, text =>
    match Config.ofFile (s.fileAt path) with
    | .ok config => .ok (match text with
      | some text => config.override text
      | none => config)
    | .error e => .error (.config e)
  | none, some text => .ok (Config.ofConnectionString text)
  | none, none => .error .nothing

/-- Validates a configuration and parses its connection string. -/
def check (env : Config.Environment) (config : Config) : Except LoadError Config :=
  match config.validate with
  | .error e => .error (.config e)
  | .ok () =>
    match config.signer env with
    | .error e => .error (.config e)
    | .ok _ => .ok config

/-- Loads and validates the configuration. -/
def load (s : Surroundings) (a : Arguments) : Except LoadError Config := do
  check s.env (← given s a)

/-- The log lines of loading. -/
def loadTranscript (s : Surroundings) (a : Arguments) : Transcript :=
  match configFile? s a with
  | some path => [.line ⟨.info, .command, "Loading configuration from: " ++ path, []⟩]
  | none => []

end HubLink.Command
