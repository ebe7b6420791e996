import HubLink.Mqtt.Packet

namespace HubLink.Mqtt

/-- The events of a session that its reader receives. -/
inductive Event where
  /-- The broker has accepted the session. -/
  | accepted
  /-- The broker has refused the session. -/
  | refused (code : Nat)
  /-- The broker has acknowledged a packet. -/
  | pubAck (id : PacketId)
  /-- The broker has ended the session. -/
  | disconnected
  /-- A publish packet was sent. -/
  | sentPublish (id : PacketId)
  | sentDisconnect
  /-- Any event that the reader ignores. -/
  | other
  /-- The connection has failed. -/
  | failed
  deriving DecidableEq

/-- The maximum number of messages in flight, and the largest packet id in use. -/
def windowSize : Nat := 100

/-- The state of the packet ids of a session. If the next packet id is still in flight, the new
message is held back as the collision, and nothing else is published until that id is acknowledged. -/
structure Window where
  /-- The packet id assigned last. -/
  lastId : PacketId := 0
  /-- The packet ids of sent messages that are not acknowledged. -/
  occupied : List PacketId := []
  /-- The packet ids of messages that were received by the broker and not completed. -/
  releasing : List PacketId := []
  /-- The number of messages in flight. -/
  count : Nat := 0
  /-- The message held back because its packet id is in flight. -/
  collision : Option Publish := none
  /-- The packet ids of messages from the broker that are not released. -/
  received : List PacketId := []
  deriving DecidableEq

namespace Window

/-- The result of an operation: the new window, the packets to send and the events. -/
structure Result where
  window : Window
  events : List Event := []
  packets : List Outgoing := []

/-- Whether no message can be published: the window is full or a message is held back. -/
def isBlocked (w : Window) : Bool :=
  windowSize ≤ w.count || w.collision.isSome

/-- The packet id after another one. -/
def nextId (last : PacketId) : PacketId :=
  last % windowSize + 1

/-- Publishes a message under the next packet id, or holds it back if that is in flight. -/
def publish (w : Window) (topic : String) (payload : Bytes) : Result :=
  let id := nextId w.lastId
  let message : Publish := { topic, payload, packetId := id }
  if id ∈ w.occupied then
    { window := { w with lastId := id, collision := some message }, events := [.other] }
  else
    { window := { w with lastId := id, occupied := id :: w.occupied, count := w.count + 1 }
      events := [.sentPublish id]
      packets := [.publish message] }

/-- The message held back for a packet id. -/
def released? (w : Window) (id : PacketId) : Option Publish :=
  w.collision.filter (·.packetId = id)

/-- Handles an acknowledgement; `none` if its packet id is not in flight. A message held back for this
packet id is sent. -/
def pubAck? (w : Window) (id : PacketId) : Option Result :=
  if id ∈ w.occupied then
    match w.released? id with
    | some message => some
      { window := { w with collision := none }
        events := [.sentPublish id, .pubAck id]
        packets := [.publish message] }
    | none => some
      { window := { w with occupied := w.occupied.erase id, count := w.count - 1 }
        events := [.pubAck id] }
  else none

/-- Handles PUBREC; `none` if its packet id is not in flight. -/
def pubRec? (w : Window) (id : PacketId) : Option Result :=
  if id ∈ w.occupied then some
    { window :=
        { w with occupied := w.occupied.erase id, releasing := id :: w.releasing.erase id }
      events := [.other, .other]
      packets := [.pubRel id] }
  else none

/-- Handles PUBCOMP; `none` if its packet id is not released. A message held back for this packet id
is sent, without counting as in flight. -/
def pubComp? (w : Window) (id : PacketId) : Option Result :=
  if id ∈ w.releasing then
    let w := { w with releasing := w.releasing.erase id, count := w.count - 1 }
    match w.released? id with
    | some message => some
      { window := { w with collision := none }
        events := [.sentPublish id, .other]
        packets := [.publish message] }
    | none => some { window := w, events := [.other] }
  else none

/-- Handles PUBREL; `none` if its packet id was not received. -/
def pubRel? (w : Window) (id : PacketId) : Option Result :=
  if id ∈ w.received then some
    { window := { w with received := w.received.erase id }
      events := [.other, .other]
      packets := [.pubComp id] }
  else none

/-- Handles a message from the broker, with the answer for its quality of service. -/
def receive (w : Window) (quality : Quality) (id : PacketId) : Result :=
  match quality with
  | .atMostOnce => { window := w, events := [.other] }
  | .atLeastOnce => { window := w, events := [.other, .other], packets := [.pubAck id] }
  | .exactlyOnce =>
    { window := { w with received := id :: w.received.erase id }
      events := [.other, .other]
      packets := [.pubRec id] }

/-- Handles a packet from the broker; `none` if it breaks the session. -/
def take? (w : Window) : Incoming → Option Result
  | .publish quality id => some (w.receive quality id)
  | .pubAck id => w.pubAck? id
  | .pubRec id => w.pubRec? id
  | .pubRel id => w.pubRel? id
  | .pubComp id => w.pubComp? id
  | .idle => some { window := w, events := [.other] }

end Window
end HubLink.Mqtt
