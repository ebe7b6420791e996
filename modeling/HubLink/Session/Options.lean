import HubLink.Config.Basic
import HubLink.Transport.Machine

namespace HubLink.Session

open Transport

/-- The options of a network provider. -/
structure Options where
  /-- The host to connect to. -/
  hostName : String
  deviceId : String
  port : UInt16 := 8883
  /-- The keep-alive in seconds. -/
  keepAlive : UInt64 := 60
  useTls : Bool := true
  /-- The capacity of the request channel. -/
  channelCapacity : UInt64 := 10
  apiVersion : String := "2018-06-30"
  deriving DecidableEq

/-- The maximum packet size, in bytes. -/
def maxPacketSize : Nat := 256 * 1024

/-- The data of one connection attempt. -/
structure Login where
  clientId : String
  host : String
  port : UInt16
  userName : String
  password : String
  /-- The keep-alive in seconds. -/
  keepAlive : UInt64
  useTls : Bool
  /-- Whether the broker discards the session state of the device. -/
  cleanSession : Bool := false
  /-- Whether a last will is set. -/
  hasLastWill : Bool := false
  deriving DecidableEq

namespace Options

/-- The options from a configuration and the signer of its device. -/
def ofConfig (config : Config) (signer : Credential.Signer) : Options where
  hostName := signer.connectionString.connectHost
  deviceId := signer.connectionString.deviceId
  port := config.mqtt.port
  keepAlive := config.mqtt.keepAlive
  useTls := config.mqtt.useTls
  channelCapacity := config.mqtt.channelCapacity
  apiVersion := config.mqtt.apiVersion

/-- The MQTT user name, built from host, device id and API version. -/
def userName (o : Options) : String :=
  Transport.userName o.hostName o.deviceId o.apiVersion

/-- The login for a token; `none` if the device id is empty. -/
def login? (o : Options) (token : String) : Option Login :=
  if o.deviceId = "" then none
  else some
    { clientId := o.deviceId
      host := o.hostName
      port := o.port
      userName := o.userName
      password := token
      keepAlive := o.keepAlive
      useTls := o.useTls }

/-- The debug text of the options, given that of the port. -/
def shown (o : Options) (port : String) : String :=
  Text.showRecord "ProviderOptions"
    [("hostname", Text.quote o.hostName),
     ("device_id", Text.quote o.deviceId),
     ("port", port),
     ("keep_alive", Text.showSeconds o.keepAlive.toNat),
     ("use_tls", Text.showBool o.useTls),
     ("channel_capacity", toString o.channelCapacity.toNat),
     ("api_version", Text.quote o.apiVersion)]

/-- The debug text of a provider, which shows its options only. -/
def shownProvider (o : Options) (port : String) : String :=
  Text.showPartOf "RumqttcProvider" [("options", o.shown port)]

end Options

/-- The machine for a configured device, before its first connection. -/
def machineOf {κ : Type} (config : Config) (signer : Credential.Signer) : Machine κ where
  deviceId := signer.deviceId
  policy := .ofFlag config.transport.connectOnSend

end HubLink.Session
