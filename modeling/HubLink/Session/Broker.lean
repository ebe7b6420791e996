import HubLink.Mqtt.Packet

namespace HubLink.Session

open Mqtt

/-- A broker with a fixed behaviour, used for programs run against it. -/
inductive Broker where
  /-- Acknowledges each message. -/
  | acknowledges
  /-- Accepts the session and acknowledges nothing. -/
  | silent
  /-- Refuses the session. -/
  | refuses
  /-- Closes the connection after the first message. -/
  | closes
  /-- Acknowledges the first of two messages and then closes the connection. -/
  | acknowledgesOne
  /-- Acknowledges nothing; the user interrupts the program at the first message. -/
  | interrupts
  deriving DecidableEq

/-- A reaction of a broker to a packet. -/
inductive Reaction where
  | accept
  | refuse (code : Nat)
  | acknowledge (id : PacketId)
  | close
  | interrupt
  deriving DecidableEq

/-- The return code for a device that is not authorized. -/
def notAuthorized : Nat := 5

/-- The reactions to a publish packet; `earlier` are the packet ids of those before it. -/
def Broker.reactToMessage (b : Broker) (earlier : List PacketId) (id : PacketId) : List Reaction :=
  match b, earlier with
  | .acknowledges, _ => [.acknowledge id]
  | .closes, [] => [.close]
  | .acknowledgesOne, [first] => [.acknowledge first, .close]
  | .interrupts, [] => [.interrupt]
  | _, _ => []

/-- The reactions to a packet; `earlier` are the packet ids of the publish packets before it. -/
def Broker.react (b : Broker) (earlier : List PacketId) : Outgoing → List Reaction
  | .connect _ => if b = .refuses then [.refuse notAuthorized] else [.accept]
  | .publish p => b.reactToMessage earlier p.packetId
  | _ => []

end HubLink.Session
