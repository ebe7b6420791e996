import HubLink.Mqtt.Frame
import HubLink.Session.Options
import HubLink.Session.Reader

namespace HubLink.Session

open Mqtt Transport

/-- A request of the provider to the event loop. -/
inductive Order where
  | publish (topic : String) (payload : Bytes)
  | disconnect
  deriving DecidableEq

/-- A connection to the broker with the state of its MQTT session. -/
structure Connection where
  /-- The login of its connect packet. -/
  login : Login
  /-- Whether the broker has accepted the session. -/
  isOpen : Bool := false
  window : Window := {}
  /-- The requests that are not executed yet, the oldest first. -/
  orders : List Order := []
  /-- The bytes received that do not make up a packet yet. -/
  buffer : Bytes := []
  /-- The packets sent that the broker has not read yet, the oldest first. -/
  due : List Outgoing := []
  reader : Reader := {}

/-- The connect packet. Its keep-alive has 16 bits. -/
def Login.connect (l : Login) : Connect where
  clientId := l.clientId
  userName := l.userName
  password := if l.password = "" then none else some l.password
  keepAlive := UInt16.ofNat l.keepAlive.toNat
  cleanSession := l.cleanSession

namespace Connection

/-- A new connection, whose connect packet is due. -/
def start (login : Login) : Connection :=
  { login, due := [.connect login.connect] }

/-- Whether the session has not ended. -/
def isAlive (c : Connection) : Bool :=
  !c.reader.isDone

/-- Passes events to the reader. If the session ends, its orders are dropped. -/
def hear (c : Connection) (events : List Event) : Connection × List Aside :=
  let (reader, asides) := c.reader.readAll events
  ({ c with reader, orders := if reader.isDone then [] else c.orders }, asides)

/-- Ends the session because the connection failed. -/
def fail (c : Connection) : Connection × List Aside :=
  c.hear [.failed]

/-- Takes over the result of an operation of the window. -/
def apply (c : Connection) (r : Window.Result) : Connection × List Aside :=
  { c with window := r.window, due := c.due ++ r.packets }.hear r.events

/-- The remark on a message that is published or kept back. -/
def publishRemark (r : Window.Result) (topic : String) (payload : Bytes) : Remark :=
  if r.packets.isEmpty then .packetCollided r.window.lastId
  else .packetPublished topic r.window.lastId payload.length

/-- Publishes a message. If it exceeds the packet size, the session fails. -/
def publish (c : Connection) (topic : String) (payload : Bytes) : Connection × List Aside :=
  if messageSize topic payload ≤ maxPacketSize then
    let r := c.window.publish topic payload
    let (c, asides) := c.apply r
    (c, .remark (publishRemark r topic payload) :: asides)
  else c.fail

/-- Sends the disconnect packet. -/
def leave (c : Connection) : Connection × List Aside :=
  let (c, asides) := { c with due := c.due ++ [Outgoing.disconnect] }.hear [.sentDisconnect]
  (c, .remark .packetDisconnected :: asides)

/-- Executes one order. -/
def fulfil (c : Connection) : Order → Connection × List Aside
  | .publish topic payload => c.publish topic payload
  | .disconnect => c.leave

/-- Executes orders until the session is closed or the window blocked; the rest stays. -/
def obey : List Order → Connection → Connection × List Aside
  | [], c => ({ c with orders := [] }, [])
  | order :: rest, c =>
    if !c.isOpen || c.window.isBlocked then ({ c with orders := order :: rest }, [])
    else
      let (c, asides) := c.fulfil order
      if c.isAlive then
        let (c, more) := obey rest c
        (c, asides ++ more)
      else ({ c with orders := [] }, asides)

/-- Executes the remaining orders. -/
def work (c : Connection) : Connection × List Aside :=
  obey c.orders c

/-- The broker accepts the session. -/
def accept (c : Connection) : Connection × List Aside :=
  let (c, asides) := { c with isOpen := true }.hear [.accepted]
  let (c, more) := c.work
  (c, asides ++ more)

/-- The broker refuses the session. -/
def refuse (c : Connection) (code : Nat) : Connection × List Aside :=
  c.hear [.refused code]

/-- Adds an order and executes what is possible. -/
def ask (c : Connection) (order : Order) : Connection × List Aside :=
  { c with orders := c.orders ++ [order] }.work

/-- The number of packets taken at a time. -/
def batchSize : Nat := 10

/-- A batch of packets: the window after them, the bytes left, and their events and answers. -/
structure Batch where
  window : Window
  rest : Bytes
  events : List Event := []
  packets : List Outgoing := []

/-- Takes at most `n` packets; `none` if one of them breaks the session. -/
def takeBatch? : Nat → Batch → Option Batch
  | 0, b => some b
  | n + 1, b =>
    match Frame.read b.rest with
    | .incomplete => some b
    | .broken => none
    | .packet packet rest =>
      match b.window.take? packet with
      | none => none
      | some r =>
        takeBatch? n
          { window := r.window, rest, events := b.events ++ r.events,
            packets := b.packets ++ r.packets }

/-- Takes all complete packets, in at most `n` batches. If a packet breaks the session, the events and
answers of its whole batch are lost. -/
def takeAll : Nat → Connection → Connection × List Aside
  | 0, c => (c, [])
  | n + 1, c =>
    match takeBatch? batchSize { window := c.window, rest := c.buffer } with
    | none => c.fail
    | some b =>
      if b.rest.length = c.buffer.length then (c, [])
      else
        let (c, asides) := { c with buffer := b.rest }.apply
          { window := b.window, events := b.events, packets := b.packets }
        let (c, more) := c.work
        let (c, last) := if c.isAlive then takeAll n c else (c, [])
        (c, asides ++ more ++ last)

/-- Receives bytes from the broker. -/
def receive (c : Connection) (bytes : Bytes) : Connection × List Aside :=
  if c.isAlive then
    let c := { c with buffer := c.buffer ++ bytes }
    c.takeAll (c.buffer.length + 1)
  else (c, [])

/-- The broker reads the next packet that is due. -/
def readDue (c : Connection) : Option Outgoing × Connection :=
  match c.due with
  | [] => (none, c)
  | packet :: rest => (some packet, { c with due := rest })

end Connection
end HubLink.Session
