import HubLink.Config.Basic
import HubLink.Text.Decimal
import HubLink.Toml.Quoting
import HubLink.Toml.Value

namespace HubLink.Config

open Text Toml Credential

/-- The line of a key and its value. -/
def line (key : String) (value : List Char) : List Char :=
  key.toList ++ [' ', '=', ' '] ++ value ++ ['\n']

/-- The line of an optional string. -/
def optionalLine (key : String) : Option String → List Char
  | some text => line key (writeString text)
  | none => []

/-- The text of a boolean. -/
def writeBool (b : Bool) : List Char :=
  if b then "true".toList else "false".toList

/-- The table `device`. -/
def DeviceSection.write (s : DeviceSection) : List Char :=
  "[device]\n".toList ++ optionalLine "connection_string" s.connectionString ++
    optionalLine "connection_string_env" s.connectionStringEnv ++
    line "token_ttl_secs" (decimal s.tokenLifetime.toNat)

/-- The table `mqtt`. -/
def MqttSection.write (s : MqttSection) : List Char :=
  "[mqtt]\n".toList ++ line "port" (decimal s.port.toNat) ++
    line "keep_alive_secs" (decimal s.keepAlive.toNat) ++
    line "use_tls" (writeBool s.useTls) ++
    line "channel_capacity" (decimal s.channelCapacity.toNat) ++
    line "api_version" (writeString s.apiVersion)

/-- The table `transport`. -/
def TransportSection.write (s : TransportSection) : List Char :=
  "[transport]\n".toList ++ line "connect_on_send" (writeBool s.connectOnSend)

/-- Whether all limits fit into a signed 64-bit integer, the range of TOML integers. -/
def isWritable (c : Config) : Bool :=
  [c.device.tokenLifetime, c.mqtt.keepAlive, c.mqtt.channelCapacity].all fun n =>
    isInteger n.toNat

/-- The configuration with the shared access key redacted. -/
def redacted (c : Config) : Config :=
  { c with device := { c.device with connectionString := c.device.connectionString.map redactKey } }

/-- Writes a configuration as TOML; an error if a limit is out of range. -/
def toToml (c : Config) : Except Error String :=
  if c.isWritable then
    .ok (String.ofList (c.device.write ++ '\n' :: c.mqtt.write ++ '\n' :: c.transport.write))
  else .error .unwritable

/-- Writes a configuration as TOML with the shared access key redacted. -/
def toRedactedToml (c : Config) : Except Error String :=
  c.redacted.toToml

end HubLink.Config
