import HubLink.Credential.Redaction
import HubLink.Credential.Signer
import HubLink.Text.Segments

namespace HubLink.Config

open Credential

/-- The section `device`. -/
structure DeviceSection where
  /-- The connection string. -/
  connectionString : Option String := none
  /-- The environment variable with the connection string. -/
  connectionStringEnv : Option String := none
  /-- The lifetime of tokens in seconds. -/
  tokenLifetime : UInt64 := 3600
  deriving DecidableEq

/-- The section `mqtt`. -/
structure MqttSection where
  port : UInt16 := 8883
  /-- The keep-alive in seconds. -/
  keepAlive : UInt64 := 60
  useTls : Bool := true
  /-- The capacity of the request channel. -/
  channelCapacity : UInt64 := 10
  apiVersion : String := "2018-06-30"
  deriving DecidableEq

/-- The section `transport`. -/
structure TransportSection where
  /-- Whether `send` starts a connection in the disconnected state. -/
  connectOnSend : Bool := true
  deriving DecidableEq

end Config

/-- The configuration of a device. -/
structure Config where
  device : Config.DeviceSection
  mqtt : Config.MqttSection := {}
  transport : Config.TransportSection := {}
  deriving DecidableEq

namespace Config

open Credential

/-- The environment variables with their values. -/
abbrev Environment := List (String × String)

/-- The value of a variable: what follows the first equals sign behind the name in an entry
`NAME=value`. A name that contains an equals sign can match an entry of another variable. -/
def Environment.value? (env : Environment) (name : String) : Option String :=
  env.findSome? fun (key, value) =>
    (Text.after? (name.toList ++ ['=']) (key.toList ++ '=' :: value.toList)).map String.ofList

/-- The faults of a configuration. -/
inductive Fault where
  | twoSources
  | noSource
  | zeroLifetime
  | zeroCapacity
  /-- No source is set when the connection string is resolved. -/
  | unresolved
  deriving DecidableEq

/-- The text of a fault. -/
def Fault.detail : Fault → String
  | .twoSources => "[device] sets both connection_string and connection_string_env"
  | .noSource => "[device] requires connection_string or connection_string_env"
  | .zeroLifetime => "token_ttl_secs must be greater than zero"
  | .zeroCapacity => "channel_capacity must be greater than zero"
  | .unresolved => "no connection string configured"

/-- The faults of reading a file. -/
inductive FileFault where
  | notFound
  | notDirectory
  | isDirectory
  | nameTooLong
  | nulInName
  | notUtf8
  /-- Any other fault, with the text of the operating system. -/
  | other (words : String)
  deriving DecidableEq

/-- The text of a fault, with the error number of the operating system. -/
def FileFault.detail : FileFault → String
  | .notFound => "No such file or directory (os error 2)"
  | .notDirectory => "Not a directory (os error 20)"
  | .isDirectory => "Is a directory (os error 21)"
  | .nameTooLong => "File name too long (os error 36)"
  | .nulInName => "file name contained an unexpected NUL byte"
  | .notUtf8 => "stream did not contain valid UTF-8"
  | .other words => words

/-- The errors of a configuration. -/
inductive Error where
  | fileRead (fault : FileFault)
  /-- The text is not TOML, or has a value of a wrong type or range; only the latter has a text. -/
  | badToml (misfit : Option String)
  /-- A number exceeds the range of TOML integers. -/
  | unwritable
  | environment (name : String)
  | invalid (fault : Fault)
  | credential (error : Credential.Error)
  deriving DecidableEq

/-- The text of an error. -/
def Error.message : Error → String
  | .fileRead fault => "Failed to read config file: " ++ fault.detail
  | .badToml _ => "Failed to parse TOML:"
  | .unwritable => "Failed to render TOML:"
  | .environment name => "Environment variable not found: " ++ name
  | .invalid fault => "Invalid configuration: " ++ fault.detail
  | .credential error => "Invalid connection string: " ++ error.message

/-- The configuration with a given connection string and default values. -/
def ofConnectionString (text : String) : Config :=
  { device := { connectionString := some text } }

/-- Validates a configuration: exactly one source of the connection string, then no limit of zero. -/
def validate (c : Config) : Except Error Unit :=
  match c.device.connectionString, c.device.connectionStringEnv with
  | some _, some _ => .error (.invalid .twoSources)
  | none, none => .error (.invalid .noSource)
  | _, _ =>
    if c.device.tokenLifetime = 0 then .error (.invalid .zeroLifetime)
    else if c.mqtt.channelCapacity = 0 then .error (.invalid .zeroCapacity)
    else .ok ()

/-- The configuration with its source replaced by the given connection string. -/
def override (c : Config) (text : String) : Config :=
  { c with device := { c.device with connectionString := some text, connectionStringEnv := none } }

/-- The connection string, from the configuration or from the environment. -/
def connectionString (c : Config) (env : Environment) : Except Error String :=
  match c.device.connectionString, c.device.connectionStringEnv with
  | some text, _ => .ok text
  | none, some name =>
    match env.value? name with
    | some text => .ok text
    | none => .error (.environment name)
  | none, none => .error (.invalid .unresolved)

/-- The signer of the configured device. -/
def signer (c : Config) (env : Environment) : Except Error Signer := do
  match Signer.ofConnectionString (← c.connectionString env) with
  | .ok signer => return { signer with lifetime := c.device.tokenLifetime }
  | .error error => .error (.credential error)

end Config
end HubLink
