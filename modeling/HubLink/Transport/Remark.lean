import HubLink.Log.Span
import HubLink.Transport.Error

namespace HubLink.Transport

/-- A log message of the transport, by its cause and values. The wording is `Remark.line`. -/
inductive Remark where
  /-- Connect was called in a state other than disconnected. -/
  | connectIgnored (state : ConnectionState)
  /-- Disconnect was called in a state without a connection to end. -/
  | disconnectIgnored (state : ConnectionState)
  | transition (deviceId : String) (before after : ConnectionState)
  /-- An event was queued; the count includes it. -/
  | queued (count : Nat) (state : ConnectionState)
  | rejected (topic : String)
  | unexpectedConnected (state : ConnectionState)
  | unexpectedDisconnected
  /-- Publishing the queue was refused; this many events stay queued. -/
  | queueWaits (count : Nat)
  | abandoned (inFlight pending : Nat)
  | untrackedAcknowledgement (id : MessageId)
  | acknowledged (id : MessageId) (remaining : Nat)
  | reusedId (id : MessageId)
  | published (id : MessageId) (inFlight : Nat)
  | queuedPublishFailed (error : ProviderError) (count : Nat)
  | tokenSigned (deviceId : String) (expiry : Int64)
  /-- A notification was raised after its mailbox was closed. -/
  | undelivered (notification : Notification)
  | taskStarted (topic : String)
  | notified (notification : Notification)
  | taskStopped (state : ConnectionState)
  /-- The task with this number ended because a hook failed with a message. -/
  | taskFailed (number : Nat) (message : String)
  | sessionStarted (host : String) (port : Nat)
  | publishRequested (id : MessageId) (topic : String)
  | sessionAccepted
  | sessionRefused (code : Nat)
  | sessionLost
  | sessionEnded
  | unboundAcknowledgement (packetId : Nat)
  /-- A publish packet was written, with its number and the size of its message. -/
  | packetPublished (topic : String) (packetId size : Nat)
  /-- A publish packet is held back because its number is still in use. -/
  | packetCollided (packetId : Nat)
  | packetDisconnected
  deriving DecidableEq

/-- The log line of a remark: level, target, message and fields. -/
def Remark.line : Remark → Log.Line
  | .connectIgnored state => ⟨.debug, .machine, "Connect ignored", [("state", state.name)]⟩
  | .disconnectIgnored state => ⟨.debug, .machine, "Disconnect ignored", [("state", state.name)]⟩
  | .transition deviceId before after =>
    ⟨.info, .machine, "Transport state transition",
      [("device_id", deviceId), ("from", before.name), ("to", after.name)]⟩
  | .queued count state =>
    ⟨.debug, .machine, "Event queued until connected",
      [("queued", toString count), ("state", state.name)]⟩
  | .rejected topic => ⟨.warn, .machine, "Event rejected while disconnecting", [("topic", topic)]⟩
  | .unexpectedConnected state =>
    ⟨.warn, .machine, "Unexpected connected notification ignored", [("state", state.name)]⟩
  | .unexpectedDisconnected =>
    ⟨.warn, .machine, "Unexpected disconnected notification ignored", []⟩
  | .queueWaits count =>
    ⟨.debug, .machine, "Queued events wait for the next send", [("queued", toString count)]⟩
  | .abandoned inFlight pending =>
    ⟨.warn, .machine, "Events abandoned on disconnect",
      [("in_flight", toString inFlight), ("pending", toString pending)]⟩
  | .untrackedAcknowledgement id =>
    ⟨.warn, .machine, "Acknowledgement for untracked message ignored", [("message_id", id.text)]⟩
  | .acknowledged id remaining =>
    ⟨.debug, .machine, "Event acknowledged",
      [("message_id", id.text), ("remaining", toString remaining)]⟩
  | .reusedId id =>
    ⟨.warn, .machine, "Provider reused an in-flight message id, previous callback dropped",
      [("message_id", id.text)]⟩
  | .published id inFlight =>
    ⟨.debug, .machine, "Event published",
      [("in_flight", toString inFlight), ("message_id", id.text)]⟩
  | .queuedPublishFailed error count =>
    ⟨.error, .machine, "Publishing queued event failed, keeping remaining events queued",
      [("error", error.message), ("queued", toString count)]⟩
  | .tokenSigned deviceId expiry =>
    ⟨.debug, .signer, "Computed SAS token",
      [("device_id", deviceId), ("expiry", toString expiry.toInt)]⟩
  | .undelivered notification =>
    ⟨.debug, .notifications, "Transport stopped, dropping provider notification",
      [("event", notification.shown)]⟩
  | .taskStarted topic => ⟨.info, .task, "Device transport started", [("topic", topic)]⟩
  | .notified notification =>
    ⟨.debug, .task, "Provider notification", [("event", notification.shown)]⟩
  | .taskStopped state => ⟨.info, .task, "Device transport stopped", [("state", state.name)]⟩
  | .taskFailed number message =>
    ⟨.debug, .task, "Transport task ended abnormally: task " ++ toString number ++
      " panicked with message " ++ Text.quote message, []⟩
  | .sessionStarted host port =>
    ⟨.info, .session, "Connecting to IoT Hub", [("host", host), ("port", toString port)]⟩
  | .publishRequested id topic =>
    ⟨.debug, .session, "Publish requested", [("message_id", id.text), ("topic", topic)]⟩
  | .sessionAccepted => ⟨.info, .session, "Connection acknowledged", []⟩
  | .sessionRefused code => ⟨.error, .session, "Connection refused", [("code", toString code)]⟩
  | .sessionLost => ⟨.warn, .session, "MQTT connection error", []⟩
  | .sessionEnded => ⟨.debug, .session, "Disconnect sent", []⟩
  | .unboundAcknowledgement packetId =>
    ⟨.debug, .session, "PubAck for unknown packet", [("pkid", toString packetId)]⟩
  | .packetPublished topic packetId size =>
    ⟨.debug, .protocol, "Publish. Topic = " ++ topic ++ ", Pkid = " ++ toString packetId ++
      ", Payload Size = " ++ toString size, []⟩
  | .packetCollided packetId =>
    ⟨.info, .protocol, "Collision on packet id = " ++ toString packetId, []⟩
  | .packetDisconnected => ⟨.debug, .protocol, "Disconnect", []⟩

/-- The span of a remark's line. The failure of a task is logged outside of any span. -/
def Remark.span? (deviceId : String) : Remark → Option Log.Span
  | .taskFailed _ _ => none
  | .undelivered _ | .sessionAccepted | .sessionRefused _ | .sessionLost | .sessionEnded
  | .unboundAcknowledgement _ | .packetPublished _ _ _ | .packetCollided _ | .packetDisconnected =>
    some (.session deviceId)
  | _ => some (.transport deviceId)

end HubLink.Transport
