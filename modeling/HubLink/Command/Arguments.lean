import HubLink.Config.Basic
import HubLink.Text.Decimal
import HubLink.Text.Segments

namespace HubLink.Command

open Text

/-- The command to execute. -/
inductive Action where
  /-- Send messages and wait up to `timeout` seconds for their acknowledgements. -/
  | send (messages : List String) (timeout : UInt64)
  /-- Validate the configuration, and print it if `isShown`. -/
  | config (isShown : Bool)
  deriving DecidableEq

/-- The parsed arguments of the program. -/
structure Arguments where
  /-- The path of the configuration file. -/
  configFile : Option String
  connectionString : Option String
  action : Action
  deriving DecidableEq

/-- The reasons for which no command is executed. -/
inductive Stop where
  | misuse
  | help
  | version
  deriving DecidableEq

/-- The options of the program and of its commands. -/
inductive Key where
  | configFile
  | connectionString
  | timeout
  | showConfig
  | help
  | version
  deriving DecidableEq

namespace Key

/-- Whether an option has a value. -/
def takesValue : Key → Bool
  | .configFile | .connectionString | .timeout => true
  | .showConfig | .help | .version => false

/-- Whether a value is valid for an option. -/
def accepts (key : Key) (value : String) : Bool :=
  match key with
  | .configFile => value ≠ ""
  | .timeout => (boundedDecimal? UInt64.size value.toList).isSome
  | _ => true

end Key

/-- The arguments allowed at one level of the command line. -/
structure Level where
  long : List (String × Key)
  short : List (Char × Key)
  /-- Whether positional arguments are allowed. -/
  takesWords : Bool := false
  /-- The names of the commands that end the level. -/
  commands : List String := []

namespace Level

/-- The arguments before the command. -/
def program : Level where
  long := [("config", .configFile), ("connection-string", .connectionString), ("help", .help),
    ("version", .version)]
  short := [('c', .configFile), ('h', .help), ('V', .version)]
  commands := ["send", "config", "help"]

/-- The arguments after `send`. -/
def send : Level where
  long := [("timeout-secs", .timeout), ("help", .help)]
  short := [('h', .help)]
  takesWords := true

/-- The arguments after `config`. -/
def config : Level where
  long := [("show", .showConfig), ("help", .help)]
  short := [('h', .help)]

/-- The option with a long name. -/
def ofLong? (l : Level) (name : List Char) : Option Key :=
  (l.long.find? fun entry => entry.1.toList = name).map (·.2)

/-- The option with a letter. -/
def ofShort? (l : Level) (letter : Char) : Option Key :=
  (l.short.find? (·.1 = letter)).map (·.2)

end Level

/-- The state of reading one level. -/
structure Scan where
  /-- The option whose value was not validated yet; the value may still be missing. -/
  pending : Option (Key × Option String) := none
  /-- The options given so far with their values; a flag has an empty value. -/
  given : List (Key × String) := []
  /-- The positional arguments, in order. -/
  words : List String := []

namespace Scan

/-- Records the value of an option. An option given twice is a misuse. -/
def give (s : Scan) (key : Key) (value : String) : Except Stop Scan :=
  if key.accepts value && !s.given.any (·.1 = key) then
    .ok { s with given := s.given ++ [(key, value)] }
  else .error .misuse

/-- Validates the pending value. It is validated only at the next argument that is not a value or at
the end, so `--help` in between takes precedence over an invalid value. -/
def resolve (s : Scan) : Except Stop Scan :=
  match s.pending with
  | none => .ok s
  | some (_, none) => .error .misuse
  | some (key, some value) => { s with pending := none }.give key value

/-- Reads an option, with its value if it was written with an equals sign. -/
def option (s : Scan) (key : Key) (value : Option String) : Except Stop Scan := do
  if !key.takesValue && value.isSome then .error .misuse
  else
    let s ← s.resolve
    match key, value with
    | .help, _ => .error .help
    | .version, _ => .error .version
    | .showConfig, _ => s.give .showConfig ""
    | key, some value => s.give key value
    | key, none => return { s with pending := some (key, none) }

/-- Reads a positional argument. -/
def word (s : Scan) (l : Level) (w : String) : Except Stop Scan := do
  if l.takesWords then
    let s ← s.resolve
    return { s with words := s.words ++ [w] }
  else .error .misuse

/-- The value of an option. -/
def value? (s : Scan) (key : Key) : Option String :=
  (s.given.find? (·.1 = key)).map (·.2)

end Scan

/-- The syntactic form of an argument. -/
inductive Shape where
  /-- The argument `--`, after which all arguments are positional. -/
  | dashes
  /-- An argument `--name` or `--name=value`. -/
  | long (name : List Char) (value : Option String)
  /-- An argument that starts with a single dash and a letter. -/
  | short (letter : Char) (rest : List Char)
  | plain

/-- The form of an argument. A single dash is positional. -/
def Shape.of (argument : String) : Shape :=
  match argument.toList with
  | ['-', '-'] => .dashes
  | '-' :: '-' :: name =>
    match cut? '=' name with
    | some (name, value) => .long name (some (String.ofList value))
    | none => .long name none
  | '-' :: letter :: rest => .short letter rest
  | _ => .plain

/-- The value written directly behind a letter, without an equals sign in front. -/
def valueBehindLetter (rest : List Char) : Option String :=
  match rest with
  | [] => none
  | '=' :: value => some (String.ofList value)
  | value => some (String.ofList value)

/-- Reads an argument of the form of an option. -/
def Scan.option? (s : Scan) (l : Level) : Shape → Option (Except Stop Scan)
  | .long name value =>
    match l.ofLong? name with
    | some key => some (s.option key value)
    | none => some (.error .misuse)
  | .short letter rest =>
    match l.ofShort? letter with
    | some key =>
      some (s.option key (if key.takesValue then valueBehindLetter rest else none))
    | none => some (.error .misuse)
  | .dashes | .plain => none

/-- Reads the arguments after `--`. -/
def Level.readWords (l : Level) : Scan → List String → Except Stop Scan
  | s, [] => .ok s
  | s, w :: rest => do l.readWords (← s.word l w) rest

/-- Reads a level up to the end of the arguments or to the name of a command, which is returned with
the arguments behind it. -/
def Level.read (l : Level) :
    Scan → List String → Except Stop (Scan × Option (String × List String))
  | s, [] => .ok (s, none)
  | s, w :: rest =>
    match s.pending, Shape.of w with
    | _, .dashes => do return (← l.readWords s rest, none)
    | some (key, none), .plain => l.read { s with pending := some (key, some w) } rest
    | _, .plain =>
      if w ∈ l.commands then .ok (s, some (w, rest)) else do l.read (← s.word l w) rest
    | _, shape =>
      match s.option? l shape with
      | some result => do l.read (← result) rest
      | none => .error .misuse

/-- The value of the timeout option as a number of seconds. -/
def seconds (value : Option String) : UInt64 :=
  match value.bind fun v => boundedDecimal? UInt64.size v.toList with
  | some n => UInt64.ofNat n
  | none => 30

/-- Reads the arguments of a command. -/
def Action.read (command : String) (arguments : List String) : Except Stop Action :=
  match command with
  | "send" => do
    let (s, _) ← Level.send.read {} arguments
    let s ← s.resolve
    if s.words.isEmpty then .error .misuse else return .send s.words (seconds (s.value? .timeout))
  | "config" => do
    let (s, _) ← Level.config.read {} arguments
    let s ← s.resolve
    return .config (s.value? .showConfig).isSome
  | _ =>
    match arguments with
    | [] => .error .help
    | [topic] => if topic ∈ Level.program.commands then .error .help else .error .misuse
    | _ => .error .misuse

/-- The environment variable for the option `--connection-string`. -/
def connectionVariable : String := "IOTHUB_DEVICE_CONNECTION_STRING"

/-- Reads all arguments. Without the option, the connection string is taken from the environment. -/
def Arguments.read (env : Config.Environment) (arguments : List String) :
    Except Stop Arguments := do
  let (s, command) ← Level.program.read {} arguments
  match command with
  | none => .error .misuse
  | some (command, rest) =>
    let action ← Action.read command rest
    let s ← s.resolve
    return { configFile := s.value? .configFile
             connectionString :=
               match s.value? .connectionString with
               | some text => some text
               | none => env.value? connectionVariable
             action }

end HubLink.Command
