import HubLink.Transport.Task
import HubLink.Transport.Waiting

namespace HubLink.Transport

/-- A hook of a transport with receipts: one of the application's, or the callback that marks a
receipt as acknowledged. -/
inductive Hook (κ : Type) where
  | own (hook : κ)
  | receipt (number : Nat)
  deriving DecidableEq

/-- The fate of a tracked event: open, acknowledged, or abandoned. -/
inductive Receipt where
  | waiting
  | acknowledged
  | abandoned
  deriving DecidableEq

/-- A call of the application. -/
inductive Call (κ : Type) where
  | request (request : Request κ)
  | sendTracked (payload : Bytes)
  | snapshot
  | observe (occasion : Occasion) (hook : κ)
  /-- Waits until a state is published, for at most this many milliseconds. -/
  | wait (target : ConnectionState) (milliseconds : Nat)
  deriving DecidableEq

/-- The value that a call returns. -/
inductive Outcome where
  | done (result : Except TransportError Unit)
  | snapshot (snapshot : Snapshot)
  /-- A tracked event was accepted. The number is its index in `receipts`. -/
  | tracked (receipt : Nat)

/-- The outcome of a call whose command was discarded because the task has ended. -/
def Outcome.closed : Outcome :=
  .done (.error .closed)

/-- The application's side of a transport: its task, and the receipts of the tracked events. -/
structure Handle (σ κ : Type) where
  task : Task σ (Hook κ)
  /-- The receipts in the order in which tracked events were sent. -/
  receipts : List Receipt := []

/-- A call that was made, by what its outcome still depends on. -/
inductive Handle.Pending where
  | settled (outcome : Outcome)
  /-- The outcome is the answer with this ticket. -/
  | sent (ticket : Nat)
  | tracked (ticket receipt : Nat)
  /-- The looks so far had no verdict for the target. -/
  | waiting (target : ConnectionState)

namespace Handle

variable {σ κ : Type}

/-- The handle of a new task, without receipts. -/
def ofMachine (machine : Machine (Hook κ)) (world : σ) (number : Nat) : Handle σ κ :=
  { task := Task.ofMachine machine world number }

/-- Updates the receipts by one happening: a completed receipt callback acknowledges its receipt, a
discarded one abandons it. -/
def fill (receipts : List Receipt) : Happening (Hook κ) → List Receipt
  | .effect (.complete (.receipt n)) => receipts.set n .acknowledged
  | .effect (.discard (.receipt n)) => receipts.set n .abandoned
  | _ => receipts

/-- Replaces the task and updates the receipts by its happenings, in order. -/
def update (h : Handle σ κ) (task : Task σ (Hook κ)) (happenings : List (Happening (Hook κ))) :
    Handle σ κ :=
  { task, receipts := happenings.foldl fill h.receipts }

/-- The look of a waiter at the published state, with `isOver` for its time limit. -/
def look (h : Handle σ κ) (isOver : Bool) : Look where
  state := h.task.watched
  isRunning := h.task.isAlive
  isOver := isOver

/-- Sends a command to the task. -/
def submit (h : Handle σ κ) (command : Command (Hook κ)) :
    Handle σ κ × List (Happening (Hook κ)) :=
  let (task, happenings) := h.task.submit command
  (h.update task happenings, happenings)

/-- Wraps the callback of a request as a hook of the application. -/
def ownRequest : Request κ → Request (Hook κ)
  | .connect => .connect
  | .send payload callback => .send payload (callback.map .own)
  | .disconnect => .disconnect

/-- Makes a call, whose command carries the ticket, without waiting for its outcome. -/
def make (h : Handle σ κ) (ticket : Nat) (call : Call κ) :
    Pending × Handle σ κ × List (Happening (Hook κ)) :=
  match call with
  | .request request => (.sent ticket, h.submit (.request ticket (ownRequest request)))
  | .sendTracked payload =>
    let receipt := h.receipts.length
    let h := { h with receipts := h.receipts ++ [Receipt.waiting] }
    (.tracked ticket receipt,
      h.submit (.request ticket (.send payload (some (.receipt receipt)))))
  | .snapshot => (.sent ticket, h.submit (.snapshot ticket))
  | .observe occasion hook =>
    let result : Except TransportError Unit := if h.task.isAlive then .ok () else .error .closed
    (.settled (.done result), h.submit (.observe occasion (.own hook)))
  | .wait target milliseconds =>
    match (h.look (milliseconds = 0)).verdict? target with
    | some result => (.settled (.done result), h, [])
    | none => (.waiting target, h, [])

/-- Makes calls in order, with consecutive tickets, before the task works on any of them. -/
def makeAll (ticket : Nat) : List (Call κ) → Handle σ κ →
    List Pending × Handle σ κ × List (Happening (Hook κ))
  | [], h => ([], h, [])
  | call :: rest, h =>
    let (pending, h, happenings) := h.make ticket call
    let (pendings, h, more) := makeAll (ticket + 1) rest h
    (pending :: pendings, h, happenings ++ more)

/-- The first answer that carries a ticket. -/
def answer? (happenings : List (Happening (Hook κ))) (ticket : Nat) : Option Answer :=
  happenings.findSome? fun
    | .answer t answer => if t = ticket then some answer else none
    | _ => none

/-- The outcome of a call once the task has come to rest. Time passes only while the task rests, so a
waiter looks once then and once more at its time limit. -/
def Pending.outcome (h : Handle σ κ) (happenings : List (Happening (Hook κ))) : Pending → Outcome
  | .settled outcome => outcome
  | .sent ticket =>
    match answer? happenings ticket with
    | some (.done result) => .done result
    | some (.snapshot snapshot) => .snapshot snapshot
    | none => .closed
  | .tracked ticket receipt =>
    match answer? happenings ticket with
    | some (.done (.ok ())) => .tracked receipt
    | some (.done (.error e)) => .done (.error e)
    | _ => .closed
  | .waiting target =>
    match waitFor? target [h.look false, h.look true] with
    | some result => .done result
    | none => .closed

/-- Lets the task work until it waits or ends. -/
def settle (fails : Effect (Hook κ) → Option String) (c : Collaborators σ) (h : Handle σ κ) :
    Handle σ κ × List (Happening (Hook κ)) :=
  let (task, happenings) := h.task.settle fails c
  (h.update task happenings, happenings)

/-- Makes all calls, lets the task work, and returns their outcomes in order. -/
def burst (fails : Effect (Hook κ) → Option String) (c : Collaborators σ) (calls : List (Call κ))
    (h : Handle σ κ) : List Outcome × Handle σ κ × List (Happening (Hook κ)) :=
  let (pendings, h, first) := makeAll 0 calls h
  let (h, second) := h.settle fails c
  let happenings := first ++ second
  (pendings.map (Pending.outcome h happenings), h, happenings)

/-- Makes one call, lets the task work, and returns the outcome. -/
def call (fails : Effect (Hook κ) → Option String) (c : Collaborators σ) (call : Call κ)
    (h : Handle σ κ) : Outcome × Handle σ κ × List (Happening (Hook κ)) :=
  let (outcomes, h, happenings) := h.burst fails c [call]
  (outcomes.headD .closed, h, happenings)

/-- Changes the collaborators from outside, raises what that brings, and lets the task work. -/
def outside (fails : Effect (Hook κ) → Option String) (c : Collaborators σ)
    (change : σ → σ × List Aside) (h : Handle σ κ) : Handle σ κ × List (Happening (Hook κ)) :=
  let (world, asides) := change h.task.world
  let (task, first) := { h.task with world }.hear asides
  let (h, second) := (h.update task first).settle fails c
  (h, first ++ second)

/-- Raises notifications and lets the task work. -/
def notify (fails : Effect (Hook κ) → Option String) (c : Collaborators σ) (ns : List Notification)
    (h : Handle σ κ) : Handle σ κ × List (Happening (Hook κ)) :=
  h.outside fails c fun world => (world, ns.map .raise)

/-- Drops the handle: no more commands can come, and the task works until it ends. -/
def release (fails : Effect (Hook κ) → Option String) (c : Collaborators σ) (h : Handle σ κ) :
    Handle σ κ × List (Happening (Hook κ)) :=
  { h with task := h.task.close }.settle fails c

/-- Drops the handle, and remarks on the failure if the task has failed. -/
def shutdown (fails : Effect (Hook κ) → Option String) (c : Collaborators σ) (h : Handle σ κ) :
    Handle σ κ × List (Happening (Hook κ)) :=
  let (h, happenings) := h.release fails c
  match h.task.phase with
  | .failed message => (h, happenings ++ [.remark (.taskFailed h.task.number message)])
  | _ => (h, happenings)

end Handle
end HubLink.Transport
