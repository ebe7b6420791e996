import HubLink.Proofs.Task.Refinement
import HubLink.Transport.Handle

namespace HubLink.Transport

variable {σ κ : Type}

/-- The result of `takeAll` depends on the earlier happenings only by appending to them. -/
theorem Bare.takeAll_eq (c : Collaborators σ) (b : Bare σ κ) (messages : List (Message σ κ)) :
    b.takeAll c messages =
      { machine := (takeAll c ⟨b.machine, b.world, []⟩ messages).machine
        world := (takeAll c ⟨b.machine, b.world, []⟩ messages).world
        seen := b.seen ++ (takeAll c ⟨b.machine, b.world, []⟩ messages).seen } := by
  induction messages generalizing b with
  | nil => simp [takeAll]
  | cons x rest ih =>
    have hfirst (b : Bare σ κ) : b.takeAll c (x :: rest) = (b.take c x).takeAll c rest := rfl
    rw [hfirst, hfirst, ih (b.take c x), ih (take c ⟨b.machine, b.world, []⟩ x), b.take_eq c x]
    simp

namespace Task

variable {fails : Effect κ → Option String} {c : Collaborators σ} {t t' : Task σ κ}
  {seen : List (Happening κ)} {queue : List Notification}

/-- The task is running with an open handle, no command waits, and the mailbox is `queue`. -/
structure Holds (t : Task σ κ) (queue : List Notification) : Prop where
  phase : t.phase = .running
  mailbox : t.mailbox = { queue }
  commands : t.commands = []
  isOpen : t.isOpen = true

/-- The task has empty queues, and its machine, its collaborators and its outward happenings are those
of the bare machine `b`. -/
structure Rests (t : Task σ κ) (seen : List (Happening κ)) (b : Bare σ κ) : Prop where
  holds : t.Holds []
  machine : t.machine = b.machine
  world : t.world = b.world
  seen : outward seen = outward b.seen

theorem work_of_holds_nil (h : t.Holds []) (n : Nat) : t.work fails c n = (t, []) := by
  have hrest : t.step? fails c = none := by
    simp [step?, h.phase, h.mailbox, Mailbox.receive, h.commands, h.isOpen]
  cases n with
  | zero => rfl
  | succ n => simp only [work, hrest]

/-- After a message that was the only one beside `queue`, the mailbox is `queue` with the raised
notifications appended. -/
theorem Takes.holds {x : Message σ κ} (h : Takes c x t t' seen) (hphase : t.phase = .running)
    (hcommands : t.commands = Message.commands [x]) (hisOpen : t.isOpen = true)
    (hqueue : t.mailbox.queue = Message.notifications [x] ++ queue) :
    t'.Holds (queue ++ raisedIn seen) := by
  refine ⟨h.phase.trans hphase, ?_, ?_, h.isOpen.trans hisOpen⟩
  · have hleft := h.queue
    rw [hqueue, List.append_assoc] at hleft
    exact congrArg₂ Mailbox.mk (List.append_cancel_left hleft) h.mailbox
  · have hleft := h.commands
    rw [hcommands] at hleft
    exact List.append_right_eq_self.1 hleft

variable (fails c) in
/-- A waiting task with one command executes it, and its mailbox then holds the raised
notifications. -/
theorem takes_command (h : t.Holds []) (command : Command κ) :
    ∃ t' seen, step? fails c { t with commands := [command] } = some (t', seen) ∧
      Takes c (.command command) { t with commands := [command] } t' seen ∧
      t'.Holds (raisedIn seen) := by
  have hstep : step? fails c { t with commands := [command] } =
      some (execute c command { t with commands := [] }) := by
    simp [step?, h.phase, h.mailbox, Mailbox.receive]
  have htakes : Takes c (.command command) { t with commands := [command] }
      (execute c command { t with commands := [] }).1
      (execute c command { t with commands := [] }).2 :=
    .command (by simp [h.mailbox]) (by simp [h.mailbox]) rfl rfl
  have hqueue : t.mailbox.queue = Message.notifications [(.command command : Message σ κ)] ++ [] := by
    rw [h.mailbox]
    rfl
  exact ⟨_, _, hstep, htakes, htakes.holds h.phase rfl h.isOpen hqueue⟩

theorem work_succ (hstep : t.step? fails c = some (t', seen)) (n : Nat) :
    t.work fails c (n + 1) = ((t'.work fails c n).1, seen ++ (t'.work fails c n).2) := by
  simp only [work, hstep]

theorem Takes.takeAll_cons {x : Message σ κ} (h : Takes c x t t' seen)
    (messages : List (Message σ κ)) :
    Bare.takeAll c ⟨t.machine, t.world, []⟩ (x :: messages) =
      { Bare.takeAll c ⟨t'.machine, t'.world, []⟩ messages with
        seen := (Bare.take c ⟨t.machine, t.world, []⟩ x).seen ++
          (Bare.takeAll c ⟨t'.machine, t'.world, []⟩ messages).seen } := by
  rw [h.machine, h.world]
  exact (Bare.take c ⟨t.machine, t.world, []⟩ x).takeAll_eq c messages

/-- If a step passes on `x` and the task then rests after `messages`, it rests after `x ::
messages`. -/
theorem Takes.rests {x : Message σ κ} {messages : List (Message σ κ)} {last : Task σ κ}
    {more : List (Happening κ)} (htakes : Takes c x t t' seen)
    (hrests : last.Rests more (Bare.takeAll c ⟨t'.machine, t'.world, []⟩ messages)) :
    last.Rests (seen ++ more) (Bare.takeAll c ⟨t.machine, t.world, []⟩ (x :: messages)) := by
  rw [htakes.takeAll_cons]
  exact ⟨hrests.holds, hrests.machine, hrests.world,
    by rw [outward_append, outward_append, htakes.seen, hrests.seen]⟩

variable (fails c) in
/-- A waiting task, or one that has not begun, executes `.observe` with no outward happening. -/
theorem settle_observe (hphase : t.phase = .created ∨ t.phase = .running)
    (hholds : Holds { t with phase := .running } []) (occasion : Occasion) (hook : κ) :
    ∃ seen, settle fails c { t with commands := [.observe occasion hook] } =
        ({ t with
          phase := .running
          machine := { t.machine with observers := t.machine.observers.set occasion hook } }, seen) ∧
      outward seen = [] := by
  let waiting : Task σ κ := { t with phase := .running, commands := [.observe occasion hook] }
  let noted : Task σ κ := { t with
    phase := .running
    machine := { t.machine with observers := t.machine.observers.set occasion hook } }
  have hmailbox : t.mailbox = {} := hholds.mailbox
  have hcommands : t.commands = [] := hholds.commands
  have hnoted (n : Nat) : work fails c (n + 1) waiting = (noted, []) := by
    have hstep : waiting.step? fails c = some (noted, []) := by
      simp [step?, waiting, hmailbox, Mailbox.receive, execute, noted, hcommands]
    have hrests : noted.Holds [] := ⟨rfl, hmailbox, hcommands, hholds.isOpen⟩
    rw [work_succ hstep, work_of_holds_nil hrests]
    rfl
  rw [settle, budget]
  obtain hphase | hphase := hphase
  · have hbegin : step? fails c { t with commands := [.observe occasion hook] } =
        some (waiting, [.remark (.taskStarted t.machine.topic)]) := by
      simp [step?, hphase, waiting]
    rw [work_succ hbegin, hnoted]
    exact ⟨_, rfl, rfl⟩
  · have hsame : { t with commands := [.observe occasion hook] } = waiting := by
      simp only [waiting, ← hphase]
    rw [hsame, hnoted]
    exact ⟨_, rfl, rfl⟩

section

variable (hfails : ∀ e, fails e = none)
include hfails

theorem phase_handleNotification (t : Task σ κ) (n : Notification) :
    (t.handleNotification fails c n).1.phase = t.phase := by
  unfold handleNotification
  have hnone (effects : List (Effect κ)) : failure? fails effects = none := by
    simp [failure?, hfails]
  simp only [hnone]
  obtain ⟨watched, htask, -⟩ :=
    publishState_spec (t.absorb (takeStages fails (Run.stages c n t.machine) t.run))
  rw [htask]
  rfl

/-- A task without failing hooks passes the head of its mailbox to the machine. -/
theorem takes_notification {n : Notification} (h : t.Holds (n :: queue)) :
    ∃ t' seen, t.step? fails c = some (t', seen) ∧ Takes c (.notification n) t t' seen ∧
      t'.Holds (queue ++ raisedIn seen) := by
  have hqueue : t.mailbox.queue = n :: queue := by rw [h.mailbox]
  have hopen : t.mailbox.isOpen = true := by rw [h.mailbox]
  let handled := handleNotification fails c n { t with mailbox := { t.mailbox with queue } }
  have hstep : t.step? fails c = some handled := by
    simp [step?, h.phase, h.mailbox, Mailbox.receive, handled]
  have hphase : handled.1.phase = t.phase := phase_handleNotification hfails _ n
  have htakes : Takes c (.notification n) t handled.1 handled.2 := by
    refine .notification hopen hqueue rfl fun m hm => ?_
    rw [hphase, h.phase] at hm
    cases hm
  exact ⟨_, _, hstep, htakes, htakes.holds h.phase h.commands h.isOpen hqueue⟩

/-- If handling `queue` raises nothing, `n ≥ queue.length` steps of `work` handle all of it. -/
theorem work_holds {n : Nat} (h : t.Holds queue) (hn : queue.length ≤ n)
    (hquiet : raisedIn
      (Bare.takeAll c ⟨t.machine, t.world, []⟩ (queue.map .notification)).seen = []) :
    (t.work fails c n).1.Rests (t.work fails c n).2
      (Bare.takeAll c ⟨t.machine, t.world, []⟩ (queue.map .notification)) := by
  induction queue generalizing t n with
  | nil =>
    rw [work_of_holds_nil h]
    exact ⟨h, rfl, rfl, rfl⟩
  | cons first rest ih =>
    obtain ⟨t', seen, hstep, htakes, hholds⟩ := takes_notification (c := c) hfails h
    rw [List.map_cons, htakes.takeAll_cons, raisedIn_append, List.append_eq_nil_iff,
      ← htakes.raised] at hquiet
    rw [hquiet.1, List.append_nil] at hholds
    -- The first notification raises nothing, so the steps that are left are enough for the others.
    cases n with
    | zero => simp at hn
    | succ n =>
      rw [work_succ hstep]
      exact htakes.rests (ih hholds (Nat.le_of_succ_le_succ hn) hquiet.2)

/-- If handling `queue` raises nothing, `settle` handles all of it. -/
theorem settle_holds (h : t.Holds queue)
    (hquiet : raisedIn
      (Bare.takeAll c ⟨t.machine, t.world, []⟩ (queue.map .notification)).seen = []) :
    (t.settle fails c).1.Rests (t.settle fails c).2
      (Bare.takeAll c ⟨t.machine, t.world, []⟩ (queue.map .notification)) := by
  refine work_holds hfails h ?_ hquiet
  simp only [budget, h.mailbox]
  omega

/-- If a command raises at most one notification and handling that raises nothing, `settle` executes
the command and handles the notification. -/
theorem settle_command (h : t.Holds []) (command : Command κ)
    (hraised : raisedIn (Bare.take c ⟨t.machine, t.world, []⟩ (.command command)).seen = queue)
    (hlength : queue.length ≤ 1)
    (hquiet : raisedIn (Bare.takeAll c ⟨t.machine, t.world, []⟩
      (.command command :: queue.map .notification)).seen = queue) :
    (settle fails c { t with commands := [command] }).1.Rests
      (settle fails c { t with commands := [command] }).2
      (Bare.takeAll c ⟨t.machine, t.world, []⟩ (.command command :: queue.map .notification)) := by
  obtain ⟨t', seen, hstep, htakes, hholds⟩ := takes_command fails c h command
  have hbudget : budget { t with commands := [command] } = (2 * t.machine.pending.length + 5) + 1 := by
    simp only [budget, h.mailbox, List.length_nil, List.length_singleton]
    omega
  rw [htakes.raised, hraised] at hholds
  rw [htakes.takeAll_cons, raisedIn_append, hraised, List.append_right_eq_self] at hquiet
  rw [settle, hbudget, work_succ hstep]
  exact htakes.rests (work_holds hfails hholds (by omega) hquiet)

end
end Task

namespace Handle

variable {fails : Effect (Hook κ) → Option String} {c : Collaborators σ} {h : Handle σ κ}

/-- Receipts depend only on the outward happenings. -/
theorem foldl_fill_outward (receipts : List Receipt) (seen : List (Happening (Hook κ))) :
    (outward seen).foldl fill receipts = seen.foldl fill receipts := by
  induction seen generalizing receipts with
  | nil => rfl
  | cons e rest ih =>
    rw [outward, List.filter_cons]
    split
    case isTrue => exact ih _
    case isFalse hoff =>
      have hsame : fill receipts e = receipts := by
        unfold Happening.isOutward at hoff
        split at hoff <;> first | rfl | exact absurd rfl hoff
      rw [List.foldl_cons, hsame]
      exact ih receipts

theorem answer?_outward (seen : List (Happening (Hook κ))) (ticket : Nat) :
    answer? (outward seen) ticket = answer? seen ticket := by
  induction seen with
  | nil => rfl
  | cons e rest ih =>
    unfold answer? at ih ⊢
    rw [outward, List.filter_cons, List.findSome?_cons]
    split
    case isTrue =>
      rw [List.findSome?_cons]
      split
      · rfl
      · exact ih
    case isFalse hoff =>
      unfold Happening.isOutward at hoff
      split at hoff <;> first | exact ih | exact absurd rfl hoff

variable (fails c) in
theorem call_observe (hphase : h.task.phase = .created ∨ h.task.phase = .running)
    (hholds : Task.Holds { h.task with phase := .running } []) (occasion : Occasion) (hook : κ) :
    ∃ seen, h.call fails c (.observe occasion hook) = (.done (.ok ()),
      { h with task := { h.task with
        phase := .running
        machine := { h.task.machine with
          observers := h.task.machine.observers.set occasion (.own hook) } } }, seen) := by
  have hcommands : h.task.commands = [] := hholds.commands
  have halive : h.task.isAlive = true := by
    obtain hphase | hphase := hphase <;> simp [Task.isAlive, hphase]
  have hsubmit : h.submit (.observe occasion (.own hook)) =
      ({ h with task := { h.task with commands := [.observe occasion (.own hook)] } }, []) := by
    simp [submit, Task.submit, halive, hcommands, update]
  obtain ⟨seen, hsettle, hseen⟩ := Task.settle_observe fails c hphase hholds occasion (.own hook)
  have hfill : seen.foldl fill h.receipts = h.receipts := by
    rw [← foldl_fill_outward, hseen]
    rfl
  refine ⟨seen, ?_⟩
  simp only [call, burst, makeAll, make, hsubmit, settle, hsettle, update, hfill, halive, if_true]
  rfl

theorem answer?_append (seen more : List (Happening (Hook κ))) (ticket : Nat) :
    answer? (seen ++ more) ticket = (answer? seen ticket).or (answer? more ticket) :=
  List.findSome?_append

theorem answer?_effects (effects : Trace (Hook κ)) (ticket : Nat) :
    answer? (effects.map .effect) ticket = none := by
  simp [answer?]

section

variable (hfails : ∀ e, fails e = none)
include hfails

/-- A request that raises at most one notification, which raises nothing, is answered with its result,
and the task waits again. -/
theorem settle_request (hholds : h.task.Holds []) {request : Request (Hook κ)}
    {result : Except TransportError Unit} {r : Run σ (Hook κ)} {queue : List Notification}
    (hperform : h.task.run.perform c request = (result, r))
    (hraised : Trace.raised r.effects = queue) (hlength : queue.length ≤ 1)
    (hquiet : raisedIn
      (Bare.takeAll c ⟨r.machine, r.world, []⟩ (queue.map .notification)).seen = []) :
    ∃ h' seen, (h.submit (.request 0 request)).1.settle fails c = (h', seen) ∧
      (h.submit (.request 0 request)).2 = [] ∧ answer? seen 0 = some (.done result) ∧
      h'.task.Rests seen (Bare.takeAll c
        ⟨r.machine, r.world, r.effects.map .effect ++ [.answer 0 (.done result)]⟩
        (queue.map .notification)) ∧
      h'.receipts = seen.foldl fill h.receipts := by
  have hsubmit : h.submit (.request 0 request) =
      ({ h with task := { h.task with commands := [.request 0 request] } }, []) := by
    simp [submit, Task.submit, Task.isAlive, hholds.phase, hholds.commands, update]
  let b : Bare σ (Hook κ) :=
    ⟨r.machine, r.world, r.effects.map .effect ++ [.answer 0 (.done result)]⟩
  have htake : Bare.take c ⟨h.task.machine, h.task.world, []⟩ (.command (.request 0 request)) = b := by
    have hrun : Bare.run ⟨h.task.machine, h.task.world, []⟩ = h.task.run := rfl
    simp only [Bare.take, hrun, hperform, Bare.after, List.nil_append, b]
  have hseen : raisedIn b.seen = queue := by
    rw [raisedIn_append, raisedIn_effects, hraised]
    exact List.append_nil queue
  have hall : Bare.takeAll c ⟨h.task.machine, h.task.world, []⟩
      (.command (.request 0 request) :: queue.map .notification) =
        b.takeAll c (queue.map .notification) := by
    rw [← htake]
    rfl
  have hrests := Task.settle_command hfails hholds (.request 0 request)
    (by rw [htake, hseen]) hlength
    (by rw [hall, b.takeAll_eq, raisedIn_append, hseen, hquiet, List.append_nil])
  rw [hall] at hrests
  refine ⟨_, _, rfl, by rw [hsubmit], ?_, ?_, ?_⟩
  · have hanswer : answer? b.seen 0 = some (.done result) := by
      rw [answer?_append, answer?_effects]
      rfl
    rw [hsubmit, ← answer?_outward]
    have houtward := hrests.seen
    rw [b.takeAll_eq] at houtward
    refine (congrArg (answer? · 0) houtward).trans ?_
    rw [answer?_outward, answer?_append, hanswer]
    rfl
  · rw [hsubmit]
    exact hrests
  · rw [hsubmit]
    rfl

/-- A tracked send that raises nothing gets the next receipt, and the task waits again. -/
theorem call_sendTracked (hholds : h.task.Holds []) (payload : Bytes) {r : Run σ (Hook κ)}
    (hsend : h.task.run.send c payload (some (.receipt h.receipts.length)) = (.ok (), r))
    (hraised : Trace.raised r.effects = []) :
    ∃ h' seen, h.call fails c (.sendTracked payload) = (.tracked h.receipts.length, h', seen) ∧
      h'.task.Holds [] ∧ h'.task.machine = r.machine ∧ h'.task.world = r.world ∧
      h'.receipts = (r.effects.map .effect).foldl fill (h.receipts ++ [.waiting]) := by
  let h₁ : Handle σ κ := { h with receipts := h.receipts ++ [.waiting] }
  have hperform : h₁.task.run.perform c (.send payload (some (.receipt h.receipts.length))) =
      (.ok (), r) := hsend
  obtain ⟨h', seen, hsettle, hsubmit, hanswer, hrests, hreceipts⟩ :=
    h₁.settle_request hfails hholds hperform hraised (Nat.zero_le 1) rfl
  refine ⟨h', seen, ?_, hrests.holds, hrests.machine, hrests.world, ?_⟩
  · simp only [call, burst, makeAll, make]
    simp only [h₁] at hsettle hsubmit
    simp only [hsettle, hsubmit, List.nil_append, List.map_cons, List.map_nil, List.headD_cons,
      Pending.outcome, hanswer]
  · rw [hreceipts, ← foldl_fill_outward, hrests.seen, foldl_fill_outward]
    simp [Bare.takeAll, h₁, fill]

/-- A call of a request that raises at most one notification, which raises nothing, returns its
result. -/
theorem call_request (hholds : h.task.Holds []) {request : Request κ}
    {result : Except TransportError Unit} {r : Run σ (Hook κ)} {queue : List Notification}
    (hperform : h.task.run.perform c (ownRequest request) = (result, r))
    (hraised : Trace.raised r.effects = queue) (hlength : queue.length ≤ 1)
    (hquiet : raisedIn
      (Bare.takeAll c ⟨r.machine, r.world, []⟩ (queue.map .notification)).seen = []) :
    ∃ h' seen, h.call fails c (.request request) = (.done result, h', seen) ∧
      h'.task.Holds [] ∧
      h'.task.world = (Bare.takeAll c ⟨r.machine, r.world, []⟩ (queue.map .notification)).world := by
  obtain ⟨h', seen, hsettle, hsubmit, hanswer, hrests, -⟩ := settle_request hfails hholds hperform
    hraised hlength hquiet
  refine ⟨h', seen, ?_, hrests.holds, ?_⟩
  · simp only [call, burst, makeAll, make]
    simp only [hsettle, hsubmit, List.nil_append, List.map_cons, List.map_nil, List.headD_cons,
      Pending.outcome, hanswer]
  · rw [hrests.world, Bare.takeAll_eq]

/-- An outside change that raises one notification, which raises nothing, leaves the task waiting with
the notification handled. -/
theorem outside_notification (hholds : h.task.Holds []) {change : σ → σ × List Aside} {world : σ}
    {asides : List Aside} {n : Notification} (hchange : change h.task.world = (world, asides))
    (hasides : notifications asides = [n]) {r : Run σ (Hook κ)}
    (hhandle : Run.handle c n { machine := h.task.machine, world } = r)
    (hraised : Trace.raised r.effects = []) :
    ∃ h' seen, h.outside fails c change = (h', seen) ∧ h'.task.Holds [] ∧
      h'.task.machine = r.machine ∧ h'.task.world = r.world ∧
      h'.receipts = (r.effects.map .effect).foldl fill h.receipts := by
  obtain ⟨mailbox, htask, hmailbox⟩ := Task.hear_task { h.task with world } asides
  have hheard : (Task.hear { h.task with world } asides).1.Holds [n] := by
    rw [htask, hmailbox (by simp [hholds.mailbox]), hasides]
    exact ⟨hholds.phase, by simp [hholds.mailbox], hholds.commands, hholds.isOpen⟩
  let heard := Task.hear { h.task with world } asides
  have hrun : Bare.takeAll c ⟨heard.1.machine, heard.1.world, []⟩ ([n].map .notification) =
      ⟨r.machine, r.world, r.effects.map .effect⟩ := by
    simp only [heard, htask, ← hhandle]
    rfl
  have hrests := Task.settle_holds (c := c) hfails hheard
    (by rw [hrun, raisedIn_effects, hraised])
  rw [hrun] at hrests
  have hfirst : heard.2.foldl fill h.receipts = h.receipts := by
    rw [← foldl_fill_outward, Task.outward_hear]
    rfl
  refine ⟨_, _, rfl, ?_, ?_, ?_, ?_⟩
  all_goals simp only [hchange]
  · exact hrests.holds
  · exact hrests.machine
  · exact hrests.world
  · have hreceipts : (settle fails c (h.update heard.1 heard.2)).1.receipts =
        (heard.1.settle fails c).2.foldl fill (heard.2.foldl fill h.receipts) := rfl
    refine hreceipts.trans ?_
    rw [hfirst, ← foldl_fill_outward, hrests.seen, foldl_fill_outward]

end
end Handle
end HubLink.Transport
