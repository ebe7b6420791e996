import HubLink.Mqtt.Window
import HubLink.Session.PacketIds
import HubLink.Transport.Machine

namespace HubLink.Session

open Mqtt Transport

/-- The task that reads the events of one session and raises its notifications. -/
structure Reader where
  ids : PacketIds := {}
  /-- Whether the end was reported. -/
  isDone : Bool := false
  deriving DecidableEq

namespace Reader

/-- Reports the end of the session after a remark on its cause. -/
def finish (r : Reader) (cause : Remark) : Reader × List Aside :=
  ({ r with isDone := true }, [.remark cause, .raise .disconnected])

/-- Reads one event. A reader that is done ignores it. -/
def read (r : Reader) (e : Event) : Reader × List Aside :=
  if r.isDone then (r, [])
  else
    match e with
    | .accepted => (r, [.remark .sessionAccepted, .raise .connected])
    | .refused code => r.finish (.sessionRefused code)
    | .pubAck packet =>
      let (message, ids) := r.ids.acknowledged packet
      let r := { r with ids }
      match message with
      | some id => (r, [.raise (.published id)])
      | none => (r, [.remark (.unboundAcknowledgement packet)])
    | .disconnected | .failed => r.finish .sessionLost
    | .sentPublish packet => ({ r with ids := r.ids.sent packet }, [])
    | .sentDisconnect => r.finish .sessionEnded
    | .other => (r, [])

/-- Reads events in order. -/
def readAll (r : Reader) : List Event → Reader × List Aside
  | [] => (r, [])
  | e :: rest =>
    let (r, asides) := r.read e
    let (r, more) := r.readAll rest
    (r, asides ++ more)

end Reader
end HubLink.Session
