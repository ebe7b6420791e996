import HubLink.Transport.Error

namespace HubLink.Transport

/-- The view of a waiter on the transport. -/
structure Look where
  /-- The state that was published last. -/
  state : ConnectionState
  /-- Whether the task is alive, so that it can publish another state. -/
  isRunning : Bool
  /-- Whether the time limit has passed. -/
  isOver : Bool
  deriving DecidableEq

/-- The verdict of a look: success for the target state, else closed if the task has ended, else
timeout if the time limit has passed, else none. -/
def Look.verdict? (look : Look) (target : ConnectionState) : Option (Except TransportError Unit) :=
  if look.state = target then some (.ok ())
  else if !look.isRunning then some (.error .closed)
  else if look.isOver then some (.error (.timeout target))
  else none

/-- The verdict of the first look that has one. -/
def waitFor? (target : ConnectionState) (looks : List Look) : Option (Except TransportError Unit) :=
  looks.findSome? (·.verdict? target)

/-- The watch channel of published states. -/
structure Channel where
  /-- The state that was published last. -/
  state : ConnectionState
  /-- The number of states published so far. -/
  version : Nat
  /-- Whether the task is alive, so that it can publish another state. -/
  isOpen : Bool
  deriving DecidableEq

namespace Channel

/-- The answer of the channel to a reader that has seen a version. -/
inductive News where
  | changed
  | nothing
  | closed
  deriving DecidableEq

/-- The news since a version. A published state takes precedence over the closed channel. -/
def newsSince (ch : Channel) (version : Nat) : News :=
  if ch.version ≠ version then .changed
  else if ch.isOpen then .nothing
  else .closed

/-- The look at a channel. -/
def look (ch : Channel) (isOver : Bool) : Look where
  state := ch.state
  isRunning := ch.isOpen
  isOver := isOver

end Channel

/-- The position of a waiter in its loop. -/
inductive Waiter where
  /-- The waiter compares the state with its target next. -/
  | looking
  /-- The waiter has seen this version and waits for another one. -/
  | listening (version : Nat)
  deriving DecidableEq

namespace Waiter

/-- The result of a turn: the outcome, or the waiter for its next turn. -/
inductive Turn where
  | done (outcome : Except TransportError Unit)
  | pending (waiter : Waiter)

/-- Compares the state with the target. If they differ, the waiter listens from the current version
on. -/
def look (target : ConnectionState) (ch : Channel) : Turn :=
  if ch.state = target then .done (.ok ())
  else
    match ch.newsSince ch.version with
    | .closed => .done (.error .closed)
    | _ => .pending (.listening ch.version)

/-- One turn without a time limit. -/
def poll (target : ConnectionState) (ch : Channel) : Waiter → Turn
  | .looking => look target ch
  | .listening version =>
    match ch.newsSince version with
    | .changed => look target ch
    | .nothing => .pending (.listening version)
    | .closed => .done (.error .closed)

/-- One turn with a time limit, which is checked after the channel. -/
def turn (target : ConnectionState) (ch : Channel) (isOver : Bool) (w : Waiter) : Turn :=
  match w.poll target ch with
  | .done outcome => .done outcome
  | .pending w => if isOver then .done (.error (.timeout target)) else .pending w

/-- Gives turns to a waiter until it has an outcome, and counts the turns before that. -/
def attend (target : ConnectionState) :
    Waiter → List (Channel × Bool) → Option (Except TransportError Unit × Nat)
  | _, [] => none
  | w, (ch, isOver) :: rest =>
    match w.turn target ch isOver with
    | .done outcome => some (outcome, 0)
    | .pending w => (attend target w rest).map fun (outcome, n) => (outcome, n + 1)

end Waiter

end HubLink.Transport
