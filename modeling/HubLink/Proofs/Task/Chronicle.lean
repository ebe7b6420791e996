import HubLink.Transport.Task

namespace HubLink.Transport

variable {σ κ : Type}

/-- A message that the machine of a task receives, or a change of its collaborators. -/
inductive Message (σ κ : Type) where
  | command (command : Command κ)
  | notification (notification : Notification)
  /-- The collaborators change their state by themselves. -/
  | drift (change : σ → σ)

/-- A machine with its collaborators and the happenings so far, without mailbox and command queue. It
is the reference for what a task does. -/
structure Bare (σ κ : Type) where
  machine : Machine κ
  world : σ
  seen : List (Happening κ) := []

namespace Bare

/-- The run of the machine for one message, with an empty trace. -/
def run (b : Bare σ κ) : Run σ κ :=
  { machine := b.machine, world := b.world }

/-- Takes over machine, collaborators and effects of a run. -/
def after (b : Bare σ κ) (r : Run σ κ) : Bare σ κ :=
  { machine := r.machine, world := r.world, seen := b.seen ++ r.effects.map .effect }

/-- Executes one message. -/
def take (c : Collaborators σ) (b : Bare σ κ) : Message σ κ → Bare σ κ
  | .command (.request ticket request) =>
    let (result, r) := b.run.perform c request
    let b := b.after r
    { b with seen := b.seen ++ [.answer ticket (.done result)] }
  | .command (.snapshot ticket) =>
    { b with seen := b.seen ++ [.answer ticket (.snapshot b.machine.snapshot)] }
  | .command (.observe occasion hook) =>
    { b with machine := { b.machine with observers := b.machine.observers.set occasion hook } }
  | .notification n => b.after (b.run.handle c n)
  | .drift change => { b with world := change b.world }

/-- Executes messages in order. -/
def takeAll (c : Collaborators σ) (b : Bare σ κ) (messages : List (Message σ κ)) : Bare σ κ :=
  messages.foldl (take c) b

/-- Destroys the machine: its callbacks are dropped. -/
def destroy (b : Bare σ κ) : Bare σ κ :=
  b.after b.run.destroy

@[simp] theorem takeAll_append (c : Collaborators σ) (b : Bare σ κ)
    (messages more : List (Message σ κ)) :
    b.takeAll c (messages ++ more) = (b.takeAll c messages).takeAll c more :=
  List.foldl_append

end Bare

/-- Whether a happening is visible outside: an answer, or an effect other than a remark. Published
states and remarks are not. -/
def Happening.isOutward : Happening κ → Bool
  | .answer _ _ => true
  | .effect (.aside (.remark _)) => false
  | .effect _ => true
  | .published _ => false

/-- The outward happenings, in order. -/
def outward (seen : List (Happening κ)) : List (Happening κ) :=
  seen.filter Happening.isOutward

/-- The notifications raised in the happenings, in order. -/
def raisedIn (seen : List (Happening κ)) : List Notification :=
  Trace.raised (Happening.effects seen)

/-- One event in the history of a task. -/
inductive Move (σ κ : Type) where
  | submit (command : Command κ)
  /-- A caller stops waiting for its answer. -/
  | leave (ticket : Nat)
  /-- The collaborators change their state and produce side effects. -/
  | outside (change : σ → σ × List Aside)
  /-- The task takes a step, if it can. -/
  | work
  /-- The handle is dropped. -/
  | close

/-- A task with the record of all moves so far. -/
structure Chronicle (σ κ : Type) where
  task : Task σ κ
  /-- The commands that were sent, each with the number of notifications raised before it. -/
  submitted : List (Command κ × Nat) := []
  /-- The tickets whose answers no caller waits for any more. -/
  left : List Nat := []
  /-- The notifications raised while the mailbox was open. -/
  raised : List Notification := []
  /-- The messages that the machine has received, in order. -/
  handled : List (Message σ κ) := []
  seen : List (Happening κ) := []

namespace Message

/-- The commands among the messages. -/
def commands (messages : List (Message σ κ)) : List (Command κ) :=
  messages.filterMap fun
    | .command asked => some asked
    | _ => none

/-- The notifications among the messages. -/
def notifications (messages : List (Message σ κ)) : List Notification :=
  messages.filterMap fun
    | .notification n => some n
    | _ => none

@[simp] theorem commands_append (messages more : List (Message σ κ)) :
    commands (messages ++ more) = commands messages ++ commands more :=
  List.filterMap_append

@[simp] theorem notifications_append (messages more : List (Message σ κ)) :
    notifications (messages ++ more) = notifications messages ++ notifications more :=
  List.filterMap_append

end Message

/-- The message that the next step of the task passes to the machine. -/
def Task.message? (t : Task σ κ) : Option (Message σ κ) :=
  match t.phase with
  | .running =>
    match t.mailbox.receive.1, t.commands with
    | .received n, _ => some (.notification n)
    | _, command :: _ => some (.command command)
    | _, [] => none
  | _ => none

namespace Chronicle

/-- A new task, before the first move. -/
def start (machine : Machine κ) (world : σ) (number : Nat) : Chronicle σ κ :=
  { task := Task.ofMachine machine world number }

/-- Makes a move. A command submitted after the handle was dropped is ignored. -/
def move (fails : Effect κ → Option String) (c : Collaborators σ) (h : Chronicle σ κ) :
    Move σ κ → Chronicle σ κ
  | .submit command =>
    if h.task.isOpen then
      let (task, seen) := h.task.submit command
      { h with
        task
        seen := h.seen ++ seen
        submitted :=
          if h.task.isAlive then h.submitted ++ [(command, h.raised.length)] else h.submitted }
    else h
  | .leave ticket => { h with left := h.left ++ [ticket] }
  | .outside change =>
    let (world, asides) := change h.task.world
    let (task, seen) := { h.task with world }.hear asides
    { h with
      task
      seen := h.seen ++ seen
      raised :=
        if h.task.mailbox.isOpen then h.raised ++ HubLink.Transport.notifications asides else h.raised
      handled := h.handled ++ [.drift fun world => (change world).1] }
  | .work =>
    match h.task.step? fails c with
    | none => h
    | some (task, seen) =>
      { h with
        task
        seen := h.seen ++ seen
        raised := h.raised ++ raisedIn seen
        handled := h.handled ++ h.task.message?.toList }
  | .close => { h with task := h.task.close }

/-- Makes moves in order. -/
def play (fails : Effect κ → Option String) (c : Collaborators σ) (moves : List (Move σ κ))
    (h : Chronicle σ κ) : Chronicle σ κ :=
  moves.foldl (move fails c) h

end Chronicle
end HubLink.Transport
