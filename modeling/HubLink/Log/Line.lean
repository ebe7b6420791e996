namespace HubLink.Log

/-- The level of a line. -/
inductive Level where
  | error
  | warn
  | info
  | debug
  | trace
  deriving DecidableEq

/-- The name of a level. -/
def Level.name : Level → String
  | .error => "ERROR"
  | .warn => "WARN"
  | .info => "INFO"
  | .debug => "DEBUG"
  | .trace => "TRACE"

/-- The rank of a level, 1 for the most severe one. -/
def Level.rank : Level → Nat
  | .error => 1
  | .warn => 2
  | .info => 3
  | .debug => 4
  | .trace => 5

/-- The module that writes a line. -/
inductive Origin where
  | command
  | machine
  | task
  | notifications
  | session
  | signer
  | logging
  /-- The MQTT library, whose lines are passed on from its own logging. -/
  | protocol
  deriving DecidableEq

/-- The target of a module in log filters. -/
def Origin.target : Origin → String
  | .command => "iothub_send"
  | .machine => "iothub_device::transport::state_machine"
  | .task => "iothub_device::transport::client"
  | .notifications => "iothub_device::transport::provider"
  | .session => "iothub_device::transport::rumqttc_provider"
  | .signer => "iothub_device::auth::symmetric_key"
  | .logging => "iothub_device::observability::logging"
  | .protocol => "rumqttc::state"

/-- The names of the values that every line of a module has in addition to its own. -/
def Origin.names : Origin → List String
  | .protocol => ["log.target", "log.module_path", "log.file", "log.line"]
  | _ => []

/-- A log line. Its values are in the order of their names. -/
structure Line where
  level : Level
  origin : Origin
  message : String
  fields : List (String × String) := []
  deriving DecidableEq

/-- Whether a line has a value with the given name; the message is one of its values. -/
def Line.hasValue (line : Line) (name : String) : Bool :=
  name = "message" || line.fields.any (·.1 = name) || line.origin.names.contains name

/-- The text of a line: level, message and values. -/
def Line.text (line : Line) : String :=
  line.level.name ++ " " ++ line.message ++
    String.join (line.fields.map fun (name, value) => " " ++ name ++ "=" ++ value)

end HubLink.Log
