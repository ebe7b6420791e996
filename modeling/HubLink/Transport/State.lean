import HubLink.Text.Quoted

namespace HubLink.Transport

/-- The state of the connection to the hub. -/
inductive ConnectionState where
  /-- There is no connection, and none was asked for. -/
  | disconnected
  /-- A connect request was accepted; the connection is not established yet. -/
  | connecting
  /-- The connection is established, and events can be published. -/
  | connected
  /-- A disconnect request was accepted; the connection is not lost yet. -/
  | disconnecting
  deriving DecidableEq

namespace ConnectionState

/-- The name of a state in messages. -/
def name : ConnectionState → String
  | .disconnected => "disconnected"
  | .connecting => "connecting"
  | .connected => "connected"
  | .disconnecting => "disconnecting"

/-- The debug text of a state. -/
def shown : ConnectionState → String
  | .disconnected => "Disconnected"
  | .connecting => "Connecting"
  | .connected => "Connected"
  | .disconnecting => "Disconnecting"

/-- Whether events can be published: connected only. -/
def canPublish (s : ConnectionState) : Bool :=
  s == .connected

/-- Whether a connect request is made: disconnected only. -/
def canStartConnect (s : ConnectionState) : Bool :=
  s == .disconnected

/-- Whether a disconnect request is made: connecting or connected. -/
def canStartDisconnect (s : ConnectionState) : Bool :=
  s == .connecting || s == .connected

/-- All states. -/
def all : List ConnectionState :=
  [.disconnected, .connecting, .connected, .disconnecting]

/-- Reads the name of a state. -/
def ofName? (name : String) : Option ConnectionState :=
  all.find? (·.name = name)

end ConnectionState

/-- The argument of the observers for an established and for a lost connection. -/
inductive Status where
  | connected
  | disconnected
  deriving DecidableEq

/-- The name of a status in messages. -/
def Status.name : Status → String
  | .connected => "connected"
  | .disconnected => "disconnected"

/-- The debug text of a status. -/
def Status.shown : Status → String
  | .connected => "Connected"
  | .disconnected => "Disconnected"

/-- Whether an event sent while disconnected starts a connection. -/
inductive ConnectPolicy where
  /-- The event is queued after an accepted connect request. -/
  | onSend
  /-- The event is only queued. -/
  | never
  deriving DecidableEq

/-- The policy for the setting `connect_on_send`. -/
def ConnectPolicy.ofFlag (connectOnSend : Bool) : ConnectPolicy :=
  if connectOnSend then .onSend else .never

/-- The debug text of a policy. -/
def ConnectPolicy.shown : ConnectPolicy → String
  | .onSend => "OnSend"
  | .never => "Never"

/-- The identity that a provider gives to a published message. The acknowledgement carries it. -/
structure MessageId where
  number : UInt64
  deriving DecidableEq

/-- The decimal text of an identity. -/
def MessageId.text (id : MessageId) : String :=
  toString id.number.toNat

/-- The debug text of an identity. -/
def MessageId.shown (id : MessageId) : String :=
  "MessageId(" ++ id.text ++ ")"

/-- The next identity. The count is a 64-bit word and wraps. -/
def MessageId.next (id : MessageId) : MessageId :=
  ⟨id.number + 1⟩

/-- A notification of the provider. -/
inductive Notification where
  /-- The connection is established. -/
  | connected
  /-- The connection is lost or was ended. -/
  | disconnected
  /-- The hub has acknowledged this message. -/
  | published (id : MessageId)
  deriving DecidableEq

/-- The debug text of a notification. -/
def Notification.shown : Notification → String
  | .connected => "Connected"
  | .disconnected => "Disconnected"
  | .published id => "Published(" ++ id.shown ++ ")"

/-- The topic to which a device publishes its events. -/
def telemetryTopic (deviceId : String) : String :=
  "devices/" ++ deviceId ++ "/messages/events/"

/-- The MQTT user name of a device: host name, device and API version. -/
def userName (hostName deviceId apiVersion : String) : String :=
  hostName ++ "/" ++ deviceId ++ "/?api-version=" ++ apiVersion

end HubLink.Transport
