import HubLink.Session.Connection
import HubLink.Transport.Signing

namespace HubLink.Session

open Mqtt Transport

/-- The network provider of a device, with at most one session that takes requests. -/
structure Provider where
  options : Options
  nextId : MessageId := ⟨0⟩
  session : Option Connection := none
  /-- The connections that were asked to end and have not ended yet. -/
  leaving : List Connection := []

namespace Provider

/-- The error text of a request over an ended session. -/
def lostCause : String := "Failed to send mqtt requests to eventloop"

/-- Starts a session and gives up the one before without a report; `none` if the device id is
empty. -/
def connect? (token : String) (p : Provider) : Option (Provider × List Aside) :=
  (p.options.login? token).map fun login =>
    ({ p with session := some (.start login) },
      [.remark (.sessionStarted p.options.hostName p.options.port.toNat)])

/-- Requests a message, which the reader notes first. The identity is used up even if the session has
ended. -/
def publish (topic : String) (payload : Bytes) (p : Provider) :
    Reply Provider ProviderError MessageId :=
  match p.session with
  | none => { result := .error .notConnected, world := p }
  | some c =>
    let id := p.nextId
    let p := { p with nextId := id.next }
    let ids := c.reader.ids.request id
    if c.isAlive then
      let (c, asides) := { c with reader := { c.reader with ids } }.ask (.publish topic payload)
      { result := .ok id
        world := { p with session := some c }
        asides := .remark (.publishRequested id topic) :: asides }
    else
      let c := { c with reader := { c.reader with ids := ids.forget id } }
      { result := .error (.publishFailed lostCause), world := { p with session := some c } }

/-- Asks the session to end and takes no more requests for it. If the session has ended already, the
request is refused and the session stays. -/
def disconnect (p : Provider) : Reply Provider ProviderError Unit :=
  match p.session with
  | none => { result := .error .notConnected, world := p }
  | some c =>
    if c.isAlive then
      let (c, asides) := c.ask .disconnect
      { result := .ok (), world := { p with session := none, leaving := p.leaving ++ [c] }, asides }
    else { result := .error (.disconnectFailed lostCause), world := p }

/-- Changes the first connection that satisfies `holds`. -/
def changeFirst (holds : Connection → Bool) (change : Connection → Connection × List Aside) :
    List Connection → List Connection × List Aside
  | [] => ([], [])
  | c :: rest =>
    if holds c then
      let (c, asides) := change c
      (c :: rest, asides)
    else
      let (rest, asides) := changeFirst holds change rest
      (c :: rest, asides)

/-- Whether a connection exists whose session has not ended. -/
def isLinked (p : Provider) : Bool :=
  p.session.any Connection.isAlive || p.leaving.any Connection.isAlive

/-- Changes the current session if it has not ended, or else the first one asked to end that has not. -/
def onLink (change : Connection → Connection × List Aside) (p : Provider) : Provider × List Aside :=
  match p.session.filter Connection.isAlive with
  | some c =>
    let (c, asides) := change c
    ({ p with session := some c }, asides)
  | none =>
    let (leaving, asides) := changeFirst Connection.isAlive change p.leaving
    ({ p with leaving }, asides)

/-- The broker reads the next packet that is due, of the current session or else of one that was asked
to end. -/
def readDue (p : Provider) : Option Outgoing × Provider :=
  match p.session with
  | some c =>
    let (packet, c) := c.readDue
    (packet, { p with session := some c })
  | none =>
    match p.leaving.filter fun c => !c.due.isEmpty with
    | [] => (none, { p with leaving := p.leaving.filter Connection.isAlive })
    | c :: rest =>
      let (packet, c) := c.readDue
      (packet, { p with leaving := c :: rest })

end Provider

/-- A device: its provider, its signer, and the clock. -/
structure Device where
  provider : Provider
  signer : Credential.Signer
  now : Int64

namespace Device

/-- A reply of the provider as one of the device. -/
def reply {ε α : Type} (d : Device) (r : Reply Provider ε α) : Reply Device ε α where
  result := r.result
  world := { d with provider := r.world }
  asides := r.asides

/-- Answers a connect request. -/
def connect (token : String) (d : Device) : Reply Device ProviderError Unit :=
  match d.provider.connect? token with
  | some (provider, asides) => { result := .ok (), world := { d with provider }, asides }
  | none => { result := .error (.connectionFailed "the device has no name"), world := d }

/-- A device as both collaborators of a machine. -/
def collaborators : Collaborators Device where
  token d := signedReply d.signer d.now d
  connect := connect
  publish topic payload d := d.reply (d.provider.publish topic payload)
  disconnect d := d.reply d.provider.disconnect

/-- Changes the current session if it has not ended, or else the first one asked to end that has not. -/
def onLink (change : Connection → Connection × List Aside) (d : Device) : Device × List Aside :=
  let (provider, asides) := d.provider.onLink change
  ({ d with provider }, asides)

/-- The broker reads the next packet that is due. -/
def readDue (d : Device) : Option Outgoing × Device :=
  let (packet, provider) := d.provider.readDue
  (packet, { d with provider })

end Device
end HubLink.Session
