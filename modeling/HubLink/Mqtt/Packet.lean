import HubLink.Text.Bytes

namespace HubLink.Mqtt

/-- The packet identifier of a session, between 1 and 65535. -/
abbrev PacketId := Nat

/-- The quality of service of a message. -/
inductive Quality where
  | atMostOnce
  | atLeastOnce
  | exactlyOnce
  deriving DecidableEq

/-- The number of a quality of service. -/
def Quality.number : Quality → Nat
  | .atMostOnce => 0
  | .atLeastOnce => 1
  | .exactlyOnce => 2

/-- The quality of service with a number. -/
def Quality.ofNumber? : Nat → Option Quality
  | 0 => some .atMostOnce
  | 1 => some .atLeastOnce
  | 2 => some .exactlyOnce
  | _ => none

/-- A connect packet. -/
structure Connect where
  clientId : String
  userName : String
  /-- The password; an empty one is not sent. -/
  password : Option String
  /-- The keep-alive in seconds. -/
  keepAlive : UInt16
  /-- Whether the broker discards the session state. -/
  cleanSession : Bool
  deriving DecidableEq

/-- The protocol name. -/
def protocolName : String := "MQTT"

/-- The protocol level of MQTT 3.1.1. -/
def protocolLevel : Nat := 4

/-- A publish packet of the device. -/
structure Publish where
  topic : String
  payload : Bytes
  packetId : PacketId
  quality : Quality := .atLeastOnce
  /-- Whether it was sent before. -/
  isDuplicate : Bool := false
  /-- Whether the broker retains it. -/
  isRetained : Bool := false
  deriving DecidableEq

/-- The packets that a device sends. -/
inductive Outgoing where
  | connect (connect : Connect)
  | publish (publish : Publish)
  | pubAck (id : PacketId)
  | pubRec (id : PacketId)
  | pubRel (id : PacketId)
  | pubComp (id : PacketId)
  | disconnect
  deriving DecidableEq

/-- The type number of a packet. -/
def Outgoing.typeNumber : Outgoing → Nat
  | .connect _ => 1
  | .publish _ => 3
  | .pubAck _ => 4
  | .pubRec _ => 5
  | .pubRel _ => 6
  | .pubComp _ => 7
  | .disconnect => 14

/-- The packets of a broker in an open session, reduced to the data that the device uses. -/
inductive Incoming where
  | publish (quality : Quality) (id : PacketId)
  | pubAck (id : PacketId)
  | pubRec (id : PacketId)
  | pubRel (id : PacketId)
  | pubComp (id : PacketId)
  /-- A packet without effect. -/
  | idle
  deriving DecidableEq

/-- The number of bytes of a remaining length. -/
def lengthSize (n : Nat) : Nat :=
  if n < 0x80 then 1 else if n < 0x4000 then 2 else if n < 0x200000 then 3 else 4

/-- The size of a publish packet without its packet id: header byte, remaining length, topic with its
length, and payload. -/
def messageSize (topic : String) (payload : Bytes) : Nat :=
  let length := 2 + (Text.utf8 topic).length + payload.length
  1 + lengthSize length + length

/-- The bytes of an acknowledgement. -/
def pubAckBytes (id : PacketId) : Bytes :=
  [0x40, 0x02, UInt8.ofNat (id / 256), UInt8.ofNat id]

end HubLink.Mqtt
