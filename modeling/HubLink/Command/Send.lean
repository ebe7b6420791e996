import HubLink.Command.Surroundings
import HubLink.Session.Address
import HubLink.Session.Provider
import HubLink.Transport.Handle

namespace HubLink.Command

open Session Transport Mqtt

/-- The errors of a command. -/
inductive Failure where
  | transport (error : TransportError)
  | config (error : Config.Error)
  | unacknowledged (acknowledged total : Nat)
  | timedOut (seconds : UInt64)
  deriving DecidableEq

/-- The text of an error. -/
def Failure.message : Failure → String
  | .transport error => error.message
  | .config error => error.message
  | .unacknowledged acknowledged total =>
    "only " ++ toString acknowledged ++ " of " ++ toString total ++ " messages were acknowledged"
  | .timedOut seconds =>
    "timed out after " ++ toString seconds.toNat ++ "s waiting for acknowledgements"

/-- What answers a connection attempt. -/
inductive Network where
  /-- No broker: the connection attempt fails. -/
  | unreachable
  | broker (broker : Broker)
  deriving DecidableEq

/-- The broker that is reached with the given options: only one without TLS, at a local host or an
address. -/
def Network.of (broker : Option Broker) (options : Options) : Network :=
  match broker with
  | some b => if !options.useTls && isLocalOrAddress options.hostName then .broker b else .unreachable
  | none => .unreachable

/-- A transport with its network, and the happenings of both. All hooks write log lines. -/
structure Scene where
  handle : Handle Device Unit
  log : Transcript := []
  /-- The packets that the broker has read. -/
  packets : List Outgoing := []
  /-- The packet ids of the messages that the broker has read. -/
  messages : List PacketId := []
  isInterrupted : Bool := false
  /-- Whether the broker has closed the connection. -/
  isClosed : Bool := false

/-- The log line of a call of an observer. -/
def reportLine : Report → Option Log.Line
  | .status .connected => some ⟨.info, .command, "Device connected", [("status", "connected")]⟩
  | .status .disconnected =>
    some ⟨.info, .command, "Device disconnected", [("status", "disconnected")]⟩
  | .abandoned count =>
    some ⟨.warn, .command, "Unacknowledged messages abandoned", [("count", toString count)]⟩
  | .sent => none

/-- The log entries of a remark, with those of the spans that begin or end with it. -/
def remarkEntries (deviceId : String) (r : Remark) : List Entry :=
  let transport := Log.Span.transport deviceId
  let session := Log.Span.session deviceId
  let line : Entry := .line r.line (r.span? deviceId)
  match r with
  | .taskStarted _ => [.span .begun transport, line]
  | .taskStopped _ => [line, .span .ended transport]
  | .sessionStarted _ _ => [line, .span .begun session (some transport)]
  | .sessionRefused _ | .sessionLost | .sessionEnded => [line, .span .ended session (some transport)]
  | _ => [line]

/-- The log entries of a happening. Observers are called within the span of the transport. -/
def happeningEntries (deviceId : String) : Happening (Hook Unit) → List Entry
  | .effect (.aside (.remark r)) => remarkEntries deviceId r
  | .effect (.report _ report) =>
    ((reportLine report).map fun line => .line line (some (.transport deviceId))).toList
  | _ => []

namespace Scene

/-- No hook of the command fails. -/
def fails (_ : Effect (Hook Unit)) : Option String :=
  none

/-- The scene after some happenings. -/
def after (s : Scene) (handle : Handle Device Unit) (seen : List (Happening (Hook Unit))) : Scene :=
  let deviceId := handle.task.machine.deviceId
  { s with handle, log := s.log ++ seen.flatMap (happeningEntries deviceId) }

/-- Adds a log line of the command itself. -/
def write (s : Scene) (level : Log.Level) (message : String) (fields : List (String × String)) :
    Scene :=
  { s with log := s.log ++ [.line ⟨level, .command, message, fields⟩] }

/-- Makes a call of the handle. -/
def call (s : Scene) (call : Call Unit) : Outcome × Scene :=
  let (outcome, handle, seen) := s.handle.call fails Device.collaborators call
  (outcome, s.after handle seen)

/-- Applies a change to the connection. -/
def onLink (s : Scene) (change : Connection → Connection × List Aside) : Scene :=
  let (handle, seen) := s.handle.outside fails Device.collaborators (Device.onLink change)
  s.after handle seen

/-- Applies a reaction of the broker. -/
def react (s : Scene) : Reaction → Scene
  | .accept => s.onLink Connection.accept
  | .refuse code => s.onLink (·.refuse code)
  | .acknowledge id => s.onLink (·.receive (pubAckBytes id))
  | .close => { s.onLink Connection.fail with isClosed := true }
  | .interrupt => { s with isInterrupted := true }

/-- The scene after the broker has read a packet. -/
def read (s : Scene) (packet : Outgoing) (world : Device) : Scene :=
  { s with
    handle := { s.handle with task := { s.handle.task with world } }
    packets := s.packets ++ [packet]
    messages := match packet with
      | .publish p => s.messages ++ [p.packetId]
      | _ => s.messages }

/-- The broker reads at most `n` due packets and reacts to each. -/
def serve (b : Broker) : Nat → Scene → Scene
  | 0, s => s
  | n + 1, s =>
    if s.isClosed then s
    else
      match s.handle.task.world.readDue with
      | (none, _) => s
      | (some packet, world) =>
        serve b n ((b.react s.messages packet).foldl react (s.read packet world))

/-- Lets the network act; it reads at most `bound` packets. -/
def settle (network : Network) (bound : Nat) (s : Scene) : Scene :=
  match network with
  | .unreachable => if bound = 0 then s else s.onLink Connection.fail
  | .broker b => serve b bound s

/-- The occasions for which the command sets an observer. -/
def observed : List Occasion :=
  [.connected, .disconnected, .abandoned]

/-- The transport of a configured device, with the command's observers set. -/
def start (config : Config) (signer : Credential.Signer) (now : Int64) : Scene :=
  let provider : Provider := { options := .ofConfig config signer }
  let scene : Scene :=
    { handle := .ofMachine (machineOf config signer) { provider, signer, now } 0 }
  observed.foldl (fun s occasion => (s.call (.observe occasion ())).2) scene

/-- Sends messages up to the first that is refused. After each message the network reads as many
packets as `pauses` says, or 0 where it ends. -/
def submit (network : Network) : List Nat → List String → Scene → Except TransportError Unit × Scene
  | _, [], s => (.ok (), s)
  | pauses, message :: rest, s =>
    match s.call (.sendTracked (Text.utf8 message)) with
    | (.done (.error e), s) => (.error e, s)
    | (_, s) => submit network pauses.tail rest (s.settle network (pauses.headD 0))

/-- The number of acknowledged receipts. -/
def acknowledged (s : Scene) : Nat :=
  s.handle.receipts.count .acknowledged

/-- The result of waiting for the receipts, with its log line. -/
def conclude (seconds : UInt64) (s : Scene) : Except Failure Unit × Scene :=
  let total := s.handle.receipts.length
  if s.handle.receipts.contains .waiting then
    if s.isInterrupted then
      (.ok (), s.write .info "Received Ctrl-C, shutting down gracefully..." [])
    else (.error (.timedOut seconds), s)
  else if s.acknowledged = total then
    (.ok (), s.write .info "All messages acknowledged" [("total", toString total)])
  else (.error (.unacknowledged s.acknowledged total), s)

/-- The time limit for the end of the connection, in milliseconds. -/
def endTimeout : Nat := 5000

/-- Adds a warning if the call has failed. -/
def warnOf (context : String) (result : Outcome × Scene) : Scene :=
  match result with
  | (.done (.error e), s) => s.write .warn (context ++ e.message) []
  | (_, s) => s

/-- Disconnects, waits for the disconnected state, and shuts the transport down. -/
def finish (network : Network) (bound : Nat) (s : Scene) : Scene :=
  let s := warnOf "Disconnect failed: " (s.call (.request .disconnect))
  let s := s.settle network bound
  let s := warnOf "" (s.call (.wait .disconnected endTimeout))
  let (handle, seen) := s.handle.shutdown fails Device.collaborators
  s.after handle seen

end Scene

/-- Sends messages over a network and waits for their receipts. With `seconds = 0` the network does
not act before the end of the wait. -/
def sendOver (network : Network) (pauses : List Nat) (config : Config) (signer : Credential.Signer)
    (now : Int64) (messages : List String) (seconds : UInt64) : Except Failure Unit × Scene :=
  let bound := messages.length + 3
  match Scene.submit network pauses messages (.start config signer now) with
  | (.error e, scene) => (.error (.transport e), scene)
  | (.ok (), scene) =>
    let scene := if seconds = 0 then scene else scene.settle network bound
    let (result, scene) := scene.conclude seconds
    (result, scene.finish network bound)

/-- Sends messages over the network of the surroundings, which acts only after all messages were
sent. -/
def send (s : Surroundings) (config : Config) (messages : List String) (seconds : UInt64) :
    Except Failure Unit × Transcript × List Outgoing :=
  match config.signer s.env with
  | .error e => (.error (.config e), [], [])
  | .ok signer =>
    let network := Network.of s.broker (.ofConfig config signer)
    let (result, scene) := sendOver network [] config signer s.now messages seconds
    (result, scene.log, scene.packets)

end HubLink.Command
