import HubLink.Transport.Mailbox
import HubLink.Transport.Trace

namespace HubLink.Transport

/-- The state of a machine with the sizes of its queue and of its map of messages in flight. -/
structure Snapshot where
  state : ConnectionState
  pending : Nat
  inFlight : Nat
  deriving DecidableEq

/-- Takes a snapshot. -/
def Machine.snapshot {κ : Type} (m : Machine κ) : Snapshot where
  state := m.state
  pending := m.pending.length
  inFlight := m.inFlight.length

/-- A command of the application. Requests and snapshots carry the ticket of their answer. -/
inductive Command (κ : Type) where
  | request (ticket : Nat) (request : Request κ)
  | snapshot (ticket : Nat)
  | observe (occasion : Occasion) (hook : κ)
  deriving DecidableEq

/-- The callbacks that a command carries. -/
def Command.callbacks {κ : Type} : Command κ → List κ
  | .request _ (.send _ callback) => callback.toList
  | _ => []

/-- The answer to a command. -/
inductive Answer where
  | done (result : Except TransportError Unit)
  | snapshot (snapshot : Snapshot)

/-- One thing that can be observed of a task. -/
inductive Happening (κ : Type) where
  | effect (effect : Effect κ)
  | answer (ticket : Nat) (answer : Answer)
  /-- A state was published to the waiters. -/
  | published (state : ConnectionState)

/-- The effects of the machine, in order. -/
def Happening.effects {κ : Type} (seen : List (Happening κ)) : Trace κ :=
  seen.filterMap fun
    | .effect e => some e
    | _ => none

/-- The happening for a remark of the task. -/
def Happening.remark {κ : Type} (r : Remark) : Happening κ :=
  .effect (.aside (.remark r))

/-- The phase of a task. -/
inductive Phase where
  /-- The task was spawned and has not begun. -/
  | created
  | running
  /-- No more commands could come, and both queues were empty. -/
  | stopped
  /-- A hook failed with this message. -/
  | failed (message : String)
  deriving DecidableEq

/-- The transport task: it owns the machine and reads the mailbox of notifications and the queue of
commands. Notifications go first, so a command is executed after all notifications that were raised
before it was sent. -/
structure Task (σ κ : Type) where
  /-- The number of the task among all tasks. -/
  number : Nat := 0
  machine : Machine κ
  /-- The state of the collaborators. -/
  world : σ
  mailbox : Mailbox := {}
  /-- The commands that were sent and not executed yet, the oldest first. -/
  commands : List (Command κ) := []
  /-- Whether more commands can be sent. -/
  isOpen : Bool := true
  /-- The state that was published last. -/
  watched : ConnectionState
  phase : Phase := .created

namespace Task

variable {σ κ : Type}

/-- A new task for a machine. The initial state of the machine counts as published. -/
def ofMachine (machine : Machine κ) (world : σ) (number : Nat) : Task σ κ :=
  { number, machine, world, watched := machine.state }

/-- Whether the task was not stopped and has not failed. -/
def isAlive (t : Task σ κ) : Bool :=
  t.phase = .created || t.phase = .running

/-- The message of the first effect that fails, given which effects do. -/
def failure? (fails : Effect κ → Option String) (effects : List (Effect κ)) : Option String :=
  effects.findSome? fails

/-- Takes the stages of a notification in order, up to and including the first in which a hook
fails. -/
def takeStages (fails : Effect κ → Option String) : List (Stage σ κ) → Run σ κ → Run σ κ
  | [], r => r
  | stage :: rest, r =>
    let r := stage.take r
    if (failure? fails r.effects).isSome then r else takeStages fails rest r

/-- The run of the machine for one message, with an empty trace. -/
def run (t : Task σ κ) : Run σ κ :=
  { machine := t.machine, world := t.world }

/-- Takes over the machine and the collaborators of a run, and appends to the mailbox what the
collaborators raised. -/
def absorb (t : Task σ κ) (r : Run σ κ) : Task σ κ :=
  { t with
    machine := r.machine
    world := r.world
    mailbox := { t.mailbox with queue := t.mailbox.queue ++ Trace.raised r.effects } }

/-- Publishes the state of the machine if it differs from the state published last. -/
def publishState (t : Task σ κ) : Task σ κ × List (Happening κ) :=
  if t.watched = t.machine.state then (t, [])
  else ({ t with watched := t.machine.state }, [.published t.machine.state])

/-- Ends the task in a phase: the mailbox is closed, and all callbacks of the machine and of the
waiting commands are dropped. -/
def finish (t : Task σ κ) (phase : Phase) : Task σ κ × List (Happening κ) :=
  let held := t.machine.callbacks ++ t.commands.flatMap Command.callbacks
  ({ t with
     machine := { t.machine with pending := [], inFlight := [] }
     mailbox := t.mailbox.close
     commands := []
     phase },
   held.map fun callback => .effect (.discard callback))

/-- Handles a notification, then publishes the state. If a hook fails, the task fails with its message
instead. -/
def handleNotification (fails : Effect κ → Option String) (c : Collaborators σ) (n : Notification)
    (t : Task σ κ) : Task σ κ × List (Happening κ) :=
  let r := takeStages fails (Run.stages c n t.machine) t.run
  let t := t.absorb r
  let (t, after) := match failure? fails r.effects with
    | some message => t.finish (.failed message)
    | none => t.publishState
  (t, .remark (.notified n) :: r.effects.map .effect ++ after)

/-- Executes a command and answers it. After a request the state is published. -/
def execute (c : Collaborators σ) (command : Command κ) (t : Task σ κ) :
    Task σ κ × List (Happening κ) :=
  match command with
  | .request ticket request =>
    let (result, r) := t.run.perform c request
    let (t, after) := (t.absorb r).publishState
    (t, r.effects.map .effect ++ .answer ticket (.done result) :: after)
  | .snapshot ticket => (t, [.answer ticket (.snapshot t.machine.snapshot)])
  | .observe occasion hook =>
    ({ t with machine := { t.machine with observers := t.machine.observers.set occasion hook } }, [])

/-- The notification that the next step of the task handles. -/
def next? (t : Task σ κ) : Option Notification :=
  match t.phase, t.mailbox.receive.1 with
  | .running, .received n => some n
  | _, _ => none

theorem next?_eq_some (t : Task σ κ) (n : Notification) :
    t.next? = some n ↔ t.phase = .running ∧ t.mailbox.receive.1 = .received n := by
  unfold next?
  split <;> simp_all

/-- One step of the task: it begins, handles the oldest notification, executes the oldest command if
there is no notification, or stops if no command can come any more. There is no step while the task
waits or after its end. Both polls of a turn of the loop, first of the mailbox and then of the
commands, are one step here. On a runtime with several threads a notification can be raised and a
command sent between the two polls, and the command is then executed first; these schedules are not
part of the model. -/
def step? (fails : Effect κ → Option String) (c : Collaborators σ) (t : Task σ κ) :
    Option (Task σ κ × List (Happening κ)) :=
  match t.phase with
  | .created =>
    some ({ t with phase := .running }, [.remark (.taskStarted t.machine.topic)])
  | .running =>
    match t.mailbox.receive with
    | (.received n, mailbox) => some ({ t with mailbox }.handleNotification fails c n)
    | _ =>
      match t.commands with
      | command :: rest => some ({ t with commands := rest }.execute c command)
      | [] =>
        if t.isOpen then none
        else
          let (t', happenings) := t.finish .stopped
          some (t', .remark (.taskStopped t.machine.state) :: happenings)
  | .stopped | .failed _ => none

/-- The steps of a task as a relation, each constructor with the condition of its case in `step?`. -/
inductive Steps (fails : Effect κ → Option String) (c : Collaborators σ) (t : Task σ κ) :
    Task σ κ → List (Happening κ) → Prop
  | begin (hphase : t.phase = .created) :
    Steps fails c t { t with phase := .running } [.remark (.taskStarted t.machine.topic)]
  | notification (hphase : t.phase = .running) {n : Notification} {mailbox : Mailbox}
      (hreceive : t.mailbox.receive = (.received n, mailbox)) :
    Steps fails c t ({ t with mailbox }.handleNotification fails c n).1
      ({ t with mailbox }.handleNotification fails c n).2
  | command (hphase : t.phase = .running) (hreceive : ∀ n, t.mailbox.receive.1 ≠ .received n)
      {command : Command κ} {rest : List (Command κ)} (hcommands : t.commands = command :: rest) :
    Steps fails c t ({ t with commands := rest }.execute c command).1
      ({ t with commands := rest }.execute c command).2
  | stop (hphase : t.phase = .running) (hreceive : ∀ n, t.mailbox.receive.1 ≠ .received n)
      (hcommands : t.commands = []) (hopen : t.isOpen = false) :
    Steps fails c t (t.finish .stopped).1
      (.remark (.taskStopped t.machine.state) :: (t.finish .stopped).2)

theorem steps_of_step? {fails : Effect κ → Option String} {c : Collaborators σ} {t t' : Task σ κ}
    {seen : List (Happening κ)} (h : t.step? fails c = some (t', seen)) :
    Steps fails c t t' seen := by
  unfold step? at h
  split at h
  case h_1 hphase =>
    cases h
    exact .begin hphase
  case h_2 hphase =>
    split at h
    case h_1 n mailbox hreceive =>
      cases h
      exact .notification hphase hreceive
    case h_2 hnone =>
      have hreceive (n : Notification) : t.mailbox.receive.1 ≠ .received n :=
        fun hn => hnone n t.mailbox.receive.2 (Prod.ext hn rfl)
      split at h
      case h_1 hcommands =>
        have hexecute := Option.some.inj h
        obtain rfl := congrArg Prod.fst hexecute
        obtain rfl := congrArg Prod.snd hexecute
        exact .command hphase hreceive hcommands
      case h_2 hcommands =>
        split at h
        case isTrue => cases h
        case isFalse hopen =>
          cases h
          exact .stop hphase hreceive hcommands (by simpa using hopen)
  case h_3 => cases h
  case h_4 => cases h

/-- Takes at most `n` steps. -/
def work (fails : Effect κ → Option String) (c : Collaborators σ) :
    Nat → Task σ κ → Task σ κ × List (Happening κ)
  | 0, t => (t, [])
  | n + 1, t =>
    match t.step? fails c with
    | none => (t, [])
    | some (t, happenings) =>
      let (t, more) := t.work fails c n
      (t, happenings ++ more)

/-- A number of steps after which the task waits or has ended, provided that no request raises more
than one notification. -/
def budget (t : Task σ κ) : Nat :=
  t.mailbox.queue.length + 4 * t.commands.length + 2 * t.machine.pending.length + 2

/-- Takes steps until the task waits or ends. -/
def settle (fails : Effect κ → Option String) (c : Collaborators σ) (t : Task σ κ) :
    Task σ κ × List (Happening κ) :=
  t.work fails c t.budget

/-- Sends a command. A task that has ended drops its callbacks. -/
def submit (t : Task σ κ) (command : Command κ) : Task σ κ × List (Happening κ) :=
  if t.isAlive then ({ t with commands := t.commands ++ [command] }, [])
  else (t, command.callbacks.map fun callback => .effect (.discard callback))

/-- Raises a notification into the mailbox. -/
def raise (t : Task σ κ) (n : Notification) : Task σ κ × List (Happening κ) :=
  let (mailbox, remarks) := t.mailbox.raise n
  ({ t with mailbox }, remarks.map .remark)

/-- Raises the notifications and records the remarks of the collaborators, in order. -/
def hear (t : Task σ κ) : List Aside → Task σ κ × List (Happening κ)
  | [] => (t, [])
  | .raise n :: rest =>
    let (t, happenings) := t.raise n
    let (t, more) := t.hear rest
    (t, happenings ++ more)
  | .remark r :: rest =>
    let (t, more) := t.hear rest
    (t, .remark r :: more)

/-- Hearing asides changes the mailbox only, and an open mailbox gains exactly their notifications. -/
theorem hear_task (t : Task σ κ) (asides : List Aside) :
    ∃ mailbox, (t.hear asides).1 = { t with mailbox } ∧ (t.mailbox.isOpen = true →
      mailbox = { t.mailbox with queue := t.mailbox.queue ++ notifications asides }) := by
  induction asides generalizing t with
  | nil => exact ⟨t.mailbox, rfl, by simp⟩
  | cons aside rest ih =>
    cases aside with
    | remark r => exact ih t
    | raise n =>
      obtain ⟨mailbox, htask, hmailbox⟩ := ih (t.raise n).1
      refine ⟨mailbox, htask, fun hopen => ?_⟩
      simp only [raise, Mailbox.raise, hopen, if_true] at hmailbox
      simpa [hopen] using hmailbox

/-- Hearing asides yields remarks only. -/
theorem hear_seen (t : Task σ κ) (asides : List Aside) :
    ∀ e ∈ (t.hear asides).2, ∃ r, e = .remark r := by
  induction asides generalizing t with
  | nil => simp [hear]
  | cons aside rest ih =>
    intro e he
    cases aside with
    | remark r =>
      obtain rfl | he := List.mem_cons.1 he
      · exact ⟨r, rfl⟩
      · exact ih t e he
    | raise n =>
      obtain he | he := List.mem_append.1 he
      · obtain ⟨r, -, rfl⟩ := List.mem_map.1 he
        exact ⟨r, rfl⟩
      · exact ih _ e he

/-- Closes the queue of commands. -/
def close (t : Task σ κ) : Task σ κ :=
  { t with isOpen := false }

end Task
end HubLink.Transport
