import HubLink.Config.Basic
import HubLink.Text.Quoted
import HubLink.Toml.Reader

namespace HubLink.Config

open Text Toml

/-- The description of a value in error texts. -/
def describe : Value → String
  | .string text => "string " ++ quote text
  | .integer n => "integer \x60" ++ String.ofList (decimalInt n) ++ "\x60"
  | .float x => "floating point \x60" ++ x.text ++ "\x60"
  | .boolean b => "boolean \x60" ++ showBool b ++ "\x60"
  | .moment | .table _ => "map"
  | .array _ => "sequence"

/-- The errors of decoding a document. -/
inductive Misfit where
  | missing (key : String)
  | wrongType (found : Value) (expected : String)
  | outOfRange (found : Value) (expected : String)

/-- The text of an error. -/
def Misfit.message : Misfit → String
  | .missing key => "missing field \x60" ++ key ++ "\x60"
  | .wrongType found expected => "invalid type: " ++ describe found ++ ", expected " ++ expected
  | .outOfRange found expected => "invalid value: " ++ describe found ++ ", expected " ++ expected

/-- A value as a string. -/
def asString : Value → Except Misfit String
  | .string text => .ok text
  | other => .error (.wrongType other "a string")

/-- A value as a boolean. -/
def asBool : Value → Except Misfit Bool
  | .boolean b => .ok b
  | other => .error (.wrongType other "a boolean")

/-- A value as a natural number below `bound`. -/
def asNat (bound : Nat) (expected : String) : Value → Except Misfit Nat
  | .integer n =>
    if 0 ≤ n ∧ n < bound then .ok n.toNat else .error (.outOfRange (.integer n) expected)
  | other => .error (.wrongType other expected)

/-- A value as an unsigned 64-bit integer. -/
def asWord (expected : String) (v : Value) : Except Misfit UInt64 :=
  (asNat UInt64.size expected v).map UInt64.ofNat

/-- A value as a port. -/
def asPort (v : Value) : Except Misfit UInt16 :=
  (asNat UInt16.size "u16" v).map UInt16.ofNat

/-- The layout of a section: its name, its keys in order, and the field that each key sets. -/
structure Layout (α : Type) where
  name : String
  keys : List String
  set : String → Value → α → Except Misfit α

/-- Reads a section over its default values. Unknown keys are ignored; an array gives the values in
the order of the keys, and a date counts as an empty table. -/
def Layout.read {α : Type} (layout : Layout α) (defaults : α) : Value → Except Misfit α
  | .table entries => entries.foldlM (fun s (key, value) => layout.set key value s) defaults
  | .array items =>
    (layout.keys.zip items).foldlM (fun s (key, value) => layout.set key value s) defaults
  | .moment => .ok defaults
  | other => .error (.wrongType other ("struct " ++ layout.name))

/-- The layout of the section `device`. -/
def DeviceSection.layout : Layout DeviceSection where
  name := "DeviceSection"
  keys := ["connection_string", "connection_string_env", "token_ttl_secs"]
  set key value s :=
    match key with
    | "connection_string" => do return { s with connectionString := some (← asString value) }
    | "connection_string_env" => do return { s with connectionStringEnv := some (← asString value) }
    | "token_ttl_secs" => do return { s with tokenLifetime := ← asWord "u64" value }
    | _ => .ok s

/-- The layout of the section `mqtt`. -/
def MqttSection.layout : Layout MqttSection where
  name := "MqttSection"
  keys := ["port", "keep_alive_secs", "use_tls", "channel_capacity", "api_version"]
  set key value s :=
    match key with
    | "port" => do return { s with port := ← asPort value }
    | "keep_alive_secs" => do return { s with keepAlive := ← asWord "u64" value }
    | "use_tls" => do return { s with useTls := ← asBool value }
    | "channel_capacity" => do return { s with channelCapacity := ← asWord "usize" value }
    | "api_version" => do return { s with apiVersion := ← asString value }
    | _ => .ok s

/-- The layout of the section `transport`. -/
def TransportSection.layout : Layout TransportSection where
  name := "TransportSection"
  keys := ["connect_on_send"]
  set key value s :=
    match key with
    | "connect_on_send" => do return { s with connectOnSend := ← asBool value }
    | _ => .ok s

/-- The sections read so far; only `device` has no default. -/
structure Sections where
  device : Option DeviceSection := none
  mqtt : MqttSection := {}
  transport : TransportSection := {}

/-- Reads one key of the document. -/
def Sections.set (s : Sections) (key : String) (value : Value) : Except Misfit Sections :=
  match key with
  | "device" => do return { s with device := some (← DeviceSection.layout.read {} value) }
  | "mqtt" => do return { s with mqtt := ← MqttSection.layout.read {} value }
  | "transport" => do return { s with transport := ← TransportSection.layout.read {} value }
  | _ => .ok s

/-- The configuration of the entries of a document; an error without `device`. -/
def ofEntries (entries : List (String × Value)) : Except Misfit Config := do
  let s ← entries.foldlM (fun s (key, value) => Sections.set s key value) {}
  match s.device with
  | some device => return { device, mqtt := s.mqtt, transport := s.transport }
  | none => .error (.missing "device")

/-- Reads a configuration from TOML without validating it. -/
def decode (text : String) : Except Error Config :=
  match Toml.read? text with
  | none => .error (.badToml none)
  | some entries =>
    match ofEntries entries with
    | .ok config => .ok config
    | .error misfit => .error (.badToml (some misfit.message))

/-- Reads and validates a configuration from TOML. -/
def ofToml (text : String) : Except Error Config := do
  let config ← decode text
  config.validate
  return config

/-- Reads a configuration from the result of reading a file. -/
def ofFile : Except FileFault Bytes → Except Error Config
  | .error fault => .error (.fileRead fault)
  | .ok bytes =>
    match ofUtf8? bytes with
    | some text => ofToml text
    | none => .error (.fileRead .notUtf8)

end HubLink.Config
