import HubLink.Proofs.Task.Chronicle
import Mathlib.Data.List.Basic

namespace HubLink.Transport

variable {σ κ : Type}

@[simp] theorem outward_append (seen more : List (Happening κ)) :
    outward (seen ++ more) = outward seen ++ outward more :=
  List.filter_append ..

@[simp] theorem outward_remark (r : Remark) (seen : List (Happening κ)) :
    outward (.remark r :: seen) = outward seen :=
  rfl

theorem outward_eq_nil {seen : List (Happening κ)} (h : ∀ e ∈ seen, e.isOutward = false) :
    outward seen = [] :=
  List.filter_eq_nil_iff.2 fun e he => by simp [h e he]

@[simp] theorem raisedIn_nil : raisedIn ([] : List (Happening κ)) = [] :=
  rfl

@[simp] theorem raisedIn_append (seen more : List (Happening κ)) :
    raisedIn (seen ++ more) = raisedIn seen ++ raisedIn more := by
  simp [raisedIn, Happening.effects]

@[simp] theorem raisedIn_remark (r : Remark) (seen : List (Happening κ)) :
    raisedIn (.remark r :: seen) = raisedIn seen :=
  rfl

@[simp] theorem raisedIn_effects (t : Trace κ) :
    raisedIn (t.map .effect : List (Happening κ)) = t.raised := by
  have heffects : Happening.effects (t.map .effect : List (Happening κ)) = t := by
    simp [Happening.effects, List.filterMap_map]
  rw [raisedIn, heffects]

namespace Task

variable {fails : Effect κ → Option String} {c : Collaborators σ} {t t' : Task σ κ}
  {seen : List (Happening κ)}

/-- If no hook fails, `takeStages` takes all stages of a notification. -/
theorem takeStages_eq_foldl {stages : List (Stage σ κ)} {r : Run σ κ}
    (h : failure? fails (takeStages fails stages r).effects = none) :
    takeStages fails stages r = stages.foldl (fun r stage => stage.take r) r := by
  induction stages generalizing r with
  | nil => rfl
  | cons stage rest ih =>
    simp only [takeStages] at h ⊢
    split at h
    case isTrue hfailure =>
      rw [h] at hfailure
      cases hfailure
    case isFalse hnone =>
      rw [if_neg hnone]
      exact ih h

/-- Publishing the state changes only `watched`, has no outward happening and raises nothing. -/
theorem publishState_spec (t : Task σ κ) :
    ∃ watched, t.publishState.1 = { t with watched } ∧ outward t.publishState.2 = [] ∧
      raisedIn t.publishState.2 = [] := by
  unfold publishState
  split
  · exact ⟨t.watched, rfl, rfl, rfl⟩
  · exact ⟨t.machine.state, rfl, rfl, rfl⟩

theorem handleNotification_spec {n : Notification}
    (h : t.handleNotification fails c n = (t', seen)) (hfailed : ∀ m, t'.phase ≠ .failed m) :
    ∃ watched, t' = { t.absorb (t.run.handle c n) with watched } ∧
      outward seen = outward ((t.run.handle c n).effects.map .effect) ∧
      raisedIn seen = Trace.raised (t.run.handle c n).effects := by
  unfold handleNotification at h
  dsimp only at h
  generalize hr : takeStages fails (Run.stages c n t.machine) t.run = r at h
  cases hfailure : failure? fails r.effects with
  | some message =>
    rw [hfailure] at h
    cases h
    exact absurd rfl (hfailed message)
  | none =>
    have hhandle : r = t.run.handle c n := by
      rw [← hr] at hfailure ⊢
      exact takeStages_eq_foldl hfailure
    rw [hfailure] at h
    obtain ⟨watched, htask, houtward, hraised⟩ := publishState_spec (t.absorb r)
    obtain ⟨rfl, rfl⟩ := Prod.mk.inj h
    subst hhandle
    exact ⟨watched, htask, by simp [houtward], by simp [hraised]⟩

theorem execute_request_spec (c : Collaborators σ) (t : Task σ κ) (ticket : Nat)
    (request : Request κ) :
    let (result, r) := t.run.perform c request
    ∃ watched, (t.execute c (.request ticket request)).1 = { t.absorb r with watched } ∧
      outward (t.execute c (.request ticket request)).2 =
        outward (r.effects.map .effect ++ [.answer ticket (.done result)]) ∧
      raisedIn (t.execute c (.request ticket request)).2 = Trace.raised r.effects := by
  unfold execute
  dsimp only
  generalize t.run.perform c request = performed
  obtain ⟨result, r⟩ := performed
  obtain ⟨watched, htask, houtward, hraised⟩ := publishState_spec (t.absorb r)
  refine ⟨watched, htask, ?_, ?_⟩
  · rw [List.append_cons, outward_append, houtward, List.append_nil]
  · rw [List.append_cons, raisedIn_append, hraised, raisedIn_append, raisedIn_effects]
    exact (List.append_nil _).trans (List.append_nil _)

/-- The step from `t` to `t'` passes the message `x` to the machine. It removes `x` from its queue,
appends the raised notifications to the mailbox, and has the machine, the collaborators and the
outward happenings that the bare machine has after `x`. -/
structure Takes (c : Collaborators σ) (x : Message σ κ) (t t' : Task σ κ)
    (seen : List (Happening κ)) : Prop where
  phase : t'.phase = t.phase
  isOpen : t'.isOpen = t.isOpen
  mailbox : t'.mailbox.isOpen = true
  commands : Message.commands [x] ++ t'.commands = t.commands
  queue : Message.notifications [x] ++ t'.mailbox.queue = t.mailbox.queue ++ raisedIn seen
  /-- A command is executed only with an empty mailbox. -/
  barrier : Message.commands [x] ≠ [] → t.mailbox.queue = []
  machine : t'.machine = (Bare.take c ⟨t.machine, t.world, []⟩ x).machine
  world : t'.world = (Bare.take c ⟨t.machine, t.world, []⟩ x).world
  seen : outward seen = outward (Bare.take c ⟨t.machine, t.world, []⟩ x).seen

theorem Takes.notification {n : Notification} {rest : List Notification}
    (hopen : t.mailbox.isOpen = true) (hqueue : t.mailbox.queue = n :: rest)
    (h : { t with mailbox := { t.mailbox with queue := rest } }.handleNotification fails c n = (t', seen))
    (hfailed : ∀ m, t'.phase ≠ .failed m) : Takes c (.notification n) t t' seen := by
  obtain ⟨watched, rfl, houtward, hraised⟩ := handleNotification_spec h hfailed
  refine ⟨rfl, rfl, hopen, rfl, ?_, by simp [Message.commands], rfl, rfl, houtward⟩
  rw [hqueue, hraised]
  rfl

theorem Takes.command {command : Command κ} {rest : List (Command κ)}
    (hopen : t.mailbox.isOpen = true) (hqueue : t.mailbox.queue = [])
    (hcommands : t.commands = command :: rest)
    (h : { t with commands := rest }.execute c command = (t', seen)) :
    Takes c (.command command) t t' seen := by
  cases command with
  | request ticket request =>
    have hspec := execute_request_spec c { t with commands := rest } ticket request
    rw [h] at hspec
    obtain ⟨watched, rfl, houtward, hraised⟩ := hspec
    refine ⟨rfl, rfl, hopen, hcommands.symm, ?_, fun _ => hqueue, rfl, rfl, houtward⟩
    rw [hraised]
    rfl
  | snapshot ticket =>
    cases h
    exact ⟨rfl, rfl, hopen, hcommands.symm, by simp [hqueue]; rfl, fun _ => hqueue, rfl, rfl, rfl⟩
  | observe occasion hook =>
    cases h
    exact ⟨rfl, rfl, hopen, hcommands.symm, by simp [hqueue]; rfl, fun _ => hqueue, rfl, rfl, rfl⟩

/-- Only outward happenings raise notifications. -/
theorem raisedIn_outward (seen : List (Happening κ)) : raisedIn (outward seen) = raisedIn seen := by
  unfold raisedIn outward Happening.effects Trace.raised
  rw [List.filterMap_filterMap, List.filterMap_filter, List.filterMap_filterMap]
  congr 1
  funext e
  cases e with
  | effect effect =>
    cases effect with
    | aside aside => cases aside <;> rfl
    | _ => rfl
  | _ => rfl

theorem Takes.raised {x : Message σ κ} (h : Takes c x t t' seen) :
    raisedIn seen = raisedIn (Bare.take c ⟨t.machine, t.world, []⟩ x).seen := by
  rw [← raisedIn_outward, h.seen, raisedIn_outward]

/-- The outcomes of a step without a failing hook: the task begins, passes a message on, or stops. -/
inductive Progress (c : Collaborators σ) (t : Task σ κ) : Task σ κ → List (Happening κ) → Prop
  | begin (hphase : t.phase = .created) :
    Progress c t { t with phase := .running } [.remark (.taskStarted t.machine.topic)]
  | takes (hphase : t.phase = .running) {x : Message σ κ} (hx : t.message? = some x) {t' : Task σ κ}
      {seen : List (Happening κ)} (htakes : Takes c x t t' seen) : Progress c t t' seen
  | stop (hphase : t.phase = .running) (hqueue : t.mailbox.queue = []) (hcommands : t.commands = [])
      (hclosed : t.isOpen = false) :
    Progress c t (t.finish .stopped).1
      (.remark (.taskStopped t.machine.state) :: (t.finish .stopped).2)

theorem raisedIn_finish (t : Task σ κ) (phase : Phase) : raisedIn (t.finish phase).2 = [] := by
  have hdiscards (callbacks : List κ) : Trace.raised (callbacks.map .discard) = [] :=
    List.filterMap_eq_nil_iff.2 fun e he => by
      obtain ⟨callback, -, rfl⟩ := List.mem_map.1 he
      rfl
  have hmap : (t.finish phase).2 =
      ((t.machine.callbacks ++ t.commands.flatMap Command.callbacks).map .discard : Trace κ).map
        .effect := (List.map_map ..).symm
  rw [hmap, raisedIn_effects, hdiscards]

theorem receive_of_open (hopen : t.mailbox.isOpen = true) :
    t.mailbox.receive = match t.mailbox.queue with
      | [] => (.empty, t.mailbox)
      | n :: rest => (.received n, { t.mailbox with queue := rest }) :=
  if_pos hopen

theorem progress (hopen : t.mailbox.isOpen = true) (h : t.step? fails c = some (t', seen))
    (hfailed : ∀ m, t'.phase ≠ .failed m) : Progress c t t' seen := by
  have hreceive := receive_of_open hopen
  -- A command is taken, or the task stopped, only when nothing is received.
  have hnone (hreceived : ∀ n, t.mailbox.receive.1 ≠ .received n) : t.mailbox.queue = [] := by
    cases hqueue : t.mailbox.queue with
    | nil => rfl
    | cons n rest =>
      rw [hqueue] at hreceive
      exact absurd (congrArg Prod.fst hreceive) (hreceived n)
  cases steps_of_step? h with
  | begin hphase => exact .begin hphase
  | notification hphase hreceived =>
    cases hqueue : t.mailbox.queue with
    | nil =>
      rw [hreceive, hqueue] at hreceived
      cases hreceived
    | cons n rest =>
      rw [hqueue] at hreceive
      obtain ⟨h₁, rfl⟩ := Prod.mk.inj (hreceive.symm.trans hreceived)
      obtain rfl := Mailbox.Reading.received.inj h₁
      refine .takes hphase ?_ (.notification hopen hqueue rfl hfailed)
      simp [message?, hphase, hreceive]
  | command hphase hreceived hcommands =>
    have hqueue := hnone hreceived
    refine .takes hphase ?_ (.command hopen hqueue hcommands rfl)
    rw [hqueue] at hreceive
    simp [message?, hphase, hreceive, hcommands]
  | stop hphase hreceived hcommands hclosed => exact .stop hphase (hnone hreceived) hcommands hclosed

end Task

namespace Bare

variable {c : Collaborators σ} {b : Bare σ κ}

/-- The result of `take` depends on the earlier happenings only by appending to them. -/
theorem take_eq (c : Collaborators σ) (b : Bare σ κ) (x : Message σ κ) :
    b.take c x =
      { machine := (take c ⟨b.machine, b.world, []⟩ x).machine
        world := (take c ⟨b.machine, b.world, []⟩ x).world
        seen := b.seen ++ (take c ⟨b.machine, b.world, []⟩ x).seen } := by
  cases x with
  | command command =>
    cases command with
    | request ticket request => simp [take, after, run]
    | snapshot ticket => rfl
    | observe occasion hook => simp [take]
  | notification n => simp [take, after, run]
  | drift change => simp [take]

end Bare

/-- Each command was handled when at least as many notifications had been handled as were raised
before it was sent, and commands were handled in the order in which they were sent. -/
def InTurn (submitted : List (Command κ × Nat)) (handled : List (Message σ κ)) : Prop :=
  ∀ front command back, handled = front ++ .command command :: back →
    ∃ n, submitted[(Message.commands front).length]? = some (command, n) ∧
      n ≤ (Message.notifications front).length

theorem InTurn.append {submitted : List (Command κ × Nat)} {handled : List (Message σ κ)}
    {x : Message σ κ} (h : InTurn submitted handled)
    (hx : ∀ command, x = .command command →
      ∃ n, submitted[(Message.commands handled).length]? = some (command, n) ∧
        n ≤ (Message.notifications handled).length) : InTurn submitted (handled ++ [x]) := by
  intro front command back hsplit
  obtain rfl | ⟨back, last, rfl⟩ := List.eq_nil_or_concat' back
  · obtain ⟨rfl, hlast⟩ := List.append_inj' hsplit rfl
    exact hx command (List.singleton_inj.1 hlast)
  · rw [← List.cons_append, ← List.append_assoc] at hsplit
    exact h front command back (List.append_inj' hsplit rfl).1

theorem InTurn.submit {submitted : List (Command κ × Nat)} {handled : List (Message σ κ)}
    (h : InTurn submitted handled) (more : List (Command κ × Nat)) :
    InTurn (submitted ++ more) handled := by
  intro front command back hsplit
  obtain ⟨n, hn, hle⟩ := h front command back hsplit
  obtain ⟨hlength, -⟩ := List.getElem?_eq_some_iff.1 hn
  exact ⟨n, by rwa [List.getElem?_append_left hlength], hle⟩

/-- The chronicle agrees with the bare machine: handled and waiting commands are those submitted, in
order; handled and waiting notifications are those raised, in order; commands are handled in turn; and
while the task is alive, machine and outward happenings are those of the bare machine for the handled
messages. A stopped task has empty queues, and its machine was destroyed. -/
structure Faithful (c : Collaborators σ) (b : Bare σ κ) (h : Chronicle σ κ) : Prop where
  commands : Message.commands h.handled ++ h.task.commands = h.submitted.map Prod.fst
  notifications : Message.notifications h.handled ++ h.task.mailbox.queue = h.raised
  counts : ∀ p ∈ h.submitted, p.2 ≤ h.raised.length
  inTurn : InTurn h.submitted h.handled
  world : h.task.world = (b.takeAll c h.handled).world
  alive : h.task.isAlive = true → h.task.mailbox.isOpen = true ∧
    h.task.machine = (b.takeAll c h.handled).machine ∧
    outward h.seen = outward (b.takeAll c h.handled).seen
  stopped : h.task.phase = .stopped → h.task.isOpen = false ∧ h.task.mailbox.isOpen = false ∧
    h.task.commands = [] ∧ h.task.mailbox.queue = [] ∧
    outward h.seen = outward (b.takeAll c h.handled).destroy.seen

namespace Task

variable {t : Task σ κ}

theorem alive_or_stopped (hfailed : ∀ m, t.phase ≠ .failed m) :
    t.isAlive = true ∨ t.phase = .stopped := by
  cases hphase : t.phase with
  | created => simp [isAlive, hphase]
  | running => simp [isAlive, hphase]
  | stopped => exact .inr rfl
  | failed m => exact absurd hphase (hfailed m)

theorem isAlive_of_running (h : t.phase = .running) : t.isAlive = true := by
  simp [isAlive, h]

theorem not_isAlive_of_stopped (h : t.phase = .stopped) : t.isAlive ≠ true := by
  simp [isAlive, h]

/-- A closed mailbox takes no notification. -/
theorem hear_of_closed (h : t.mailbox.isOpen = false) (asides : List Aside) :
    (t.hear asides).1 = t := by
  induction asides with
  | nil => rfl
  | cons aside rest ih =>
    cases aside with
    | remark r => exact ih
    | raise n => simpa [hear, raise, Mailbox.raise, h] using ih

theorem outward_hear (t : Task σ κ) (asides : List Aside) : outward (t.hear asides).2 = [] := by
  refine outward_eq_nil fun e he => ?_
  obtain ⟨r, rfl⟩ := hear_seen t asides e he
  rfl

end Task

namespace Faithful

variable {fails : Effect κ → Option String} {c : Collaborators σ} {b : Bare σ κ}
  {h : Chronicle σ κ}

theorem start (c : Collaborators σ) (machine : Machine κ) (world : σ) (number : Nat) :
    Faithful c ⟨machine, world, []⟩ (.start machine world number) where
  commands := rfl
  notifications := rfl
  counts := by simp [Chronicle.start]
  inTurn := fun front command back hsplit => by simp [Chronicle.start] at hsplit
  world := rfl
  alive _ := ⟨rfl, rfl, rfl⟩
  stopped := nofun

theorem submit (hf : Faithful c b h) (hfailed : ∀ m, h.task.phase ≠ .failed m) (command : Command κ) :
    Faithful c b (h.move fails c (.submit command)) := by
  unfold Chronicle.move
  dsimp only
  split
  case isFalse => exact hf
  case isTrue hopen =>
    obtain halive | hstopped := Task.alive_or_stopped hfailed
    · simp only [Task.submit, halive, if_true, List.append_nil]
      refine ⟨?_, hf.notifications, ?_, hf.inTurn.submit _, hf.world, fun _ => hf.alive halive, ?_⟩
      · simp [← List.append_assoc, hf.commands]
      · refine List.forall_mem_append.2 ⟨hf.counts, ?_⟩
        simp
      · exact fun hstopped => absurd halive (Task.not_isAlive_of_stopped hstopped)
    · rw [(hf.stopped hstopped).1] at hopen
      cases hopen

theorem outside (hf : Faithful c b h) (hfailed : ∀ m, h.task.phase ≠ .failed m)
    (change : σ → σ × List Aside) : Faithful c b (h.move fails c (.outside change)) := by
  let drift : Message σ κ := .drift fun world => (change world).1
  have hcommands : Message.commands (h.handled ++ [drift]) = Message.commands h.handled := by
    simp [drift, Message.commands]
  have hnotifications :
      Message.notifications (h.handled ++ [drift]) = Message.notifications h.handled := by
    simp [drift, Message.notifications]
  have hbare : b.takeAll c (h.handled ++ [drift]) =
      { b.takeAll c h.handled with world := (change (b.takeAll c h.handled).world).1 } :=
    Bare.takeAll_append ..
  have hturn : InTurn h.submitted (h.handled ++ [drift]) := hf.inTurn.append fun _ hx => nomatch hx
  have hworld : (change h.task.world).1 = (b.takeAll c (h.handled ++ [drift])).world := by
    rw [hbare, hf.world]
  have hseen := Task.outward_hear { h.task with world := (change h.task.world).1 } (change h.task.world).2
  obtain ⟨mailbox, htask, hmailbox⟩ :=
    Task.hear_task { h.task with world := (change h.task.world).1 } (change h.task.world).2
  unfold Chronicle.move
  dsimp only
  obtain halive | hstopped := Task.alive_or_stopped hfailed
  · obtain ⟨hopen, hmachine, houtward⟩ := hf.alive halive
    obtain rfl := hmailbox hopen
    rw [htask, hopen, if_pos rfl]
    refine ⟨?_, ?_, ?_, hturn, hworld, fun _ => ⟨hopen, ?_, ?_⟩, ?_⟩
    · rw [hcommands]
      exact hf.commands
    · rw [hnotifications, ← hf.notifications, List.append_assoc]
    · exact fun p hp => Nat.le_trans (hf.counts p hp) (by simp)
    · rw [hbare]
      exact hmachine
    · rw [outward_append, hseen, List.append_nil, houtward, hbare]
    · exact fun hstopped => absurd halive (Task.not_isAlive_of_stopped hstopped)
  · obtain ⟨hclosed, hopen, hempty, hqueue, houtward⟩ := hf.stopped hstopped
    rw [Task.hear_of_closed (by exact hopen), hopen, if_neg (by simp)]
    refine ⟨?_, ?_, hf.counts, hturn, hworld, ?_, fun _ => ⟨hclosed, hopen, hempty, hqueue, ?_⟩⟩
    · rw [hcommands]
      exact hf.commands
    · rw [hnotifications]
      exact hf.notifications
    · exact fun halive => absurd halive (Task.not_isAlive_of_stopped hstopped)
    · rw [outward_append, hseen, List.append_nil, houtward, hbare]
      rfl

theorem begin (hf : Faithful c b h) (hphase : h.task.phase = .created) :
    Faithful c b { h with
      task := { h.task with phase := .running }
      seen := h.seen ++ [.remark (.taskStarted h.task.machine.topic)] } := by
  have halive : h.task.isAlive = true := by simp [Task.isAlive, hphase]
  obtain ⟨hopen, hmachine, houtward⟩ := hf.alive halive
  refine ⟨hf.commands, hf.notifications, hf.counts, hf.inTurn, hf.world, fun _ => ⟨hopen, hmachine, ?_⟩,
    nofun⟩
  rw [outward_append, outward_remark, houtward]
  exact List.append_nil _

theorem takes (hf : Faithful c b h) (hphase : h.task.phase = .running) {x : Message σ κ}
    {task : Task σ κ} {seen : List (Happening κ)} (ht : Task.Takes c x h.task task seen) :
    Faithful c b { h with
      task
      seen := h.seen ++ seen
      raised := h.raised ++ raisedIn seen
      handled := h.handled ++ [x] } := by
  obtain ⟨hopen, hmachine, houtward⟩ := hf.alive (Task.isAlive_of_running hphase)
  have hbare : b.takeAll c (h.handled ++ [x]) = (b.takeAll c h.handled).take c x :=
    Bare.takeAll_append ..
  refine ⟨?_, ?_, ?_, hf.inTurn.append fun command hx => ?_, ?_, fun _ => ⟨ht.mailbox, ?_, ?_⟩, ?_⟩
  · rw [Message.commands_append, List.append_assoc, ht.commands]
    exact hf.commands
  · rw [Message.notifications_append, List.append_assoc, ht.queue, ← List.append_assoc,
      hf.notifications]
  · exact fun p hp => Nat.le_trans (hf.counts p hp) (by simp)
  · subst hx
    have hnext : (h.submitted.map Prod.fst)[(Message.commands h.handled).length]? = some command := by
      rw [← hf.commands, ← ht.commands]
      simp [Message.commands]
    obtain ⟨⟨command, n⟩, hn, rfl⟩ : ∃ p, h.submitted[(Message.commands h.handled).length]? = some p ∧
        p.1 = command := by simpa using hnext
    -- Notifications go first, so when a command is taken all that was raised has been handled.
    have hall : Message.notifications h.handled = h.raised := by
      rw [← hf.notifications, ht.barrier (by simp [Message.commands]), List.append_nil]
    exact ⟨n, hn, hall ▸ hf.counts _ (List.mem_of_getElem? hn)⟩
  · rw [hbare, Bare.take_eq, ← hmachine, ← hf.world]
    exact ht.world
  · rw [hbare, Bare.take_eq, ← hmachine, ← hf.world]
    exact ht.machine
  · rw [hbare, Bare.take_eq, ← hmachine, ← hf.world, outward_append, outward_append, houtward, ht.seen]
  · intro hstopped
    rw [ht.phase, hphase] at hstopped
    cases hstopped

theorem stop (hf : Faithful c b h) (hphase : h.task.phase = .running)
    (hqueue : h.task.mailbox.queue = []) (hcommands : h.task.commands = [])
    (hclosed : h.task.isOpen = false) :
    Faithful c b { h with
      task := (h.task.finish .stopped).1
      seen := h.seen ++ .remark (.taskStopped h.task.machine.state) :: (h.task.finish .stopped).2 } := by
  obtain ⟨hopen, hmachine, houtward⟩ := hf.alive (Task.isAlive_of_running hphase)
  have hnotifications := hf.notifications
  have hsubmitted := hf.commands
  rw [hqueue] at hnotifications
  rw [hcommands] at hsubmitted
  refine ⟨hsubmitted, hnotifications, hf.counts, hf.inTurn, hf.world, nofun,
    fun _ => ⟨hclosed, rfl, rfl, rfl, ?_⟩⟩
  have hheld : (h.task.finish .stopped).2 =
      (b.takeAll c h.handled).run.destroy.effects.map .effect := by
    simp [Task.finish, hcommands, Run.destroy, Run.discard, Bare.run, hmachine]
  rw [outward_append, outward_remark, houtward, hheld]
  exact (outward_append _ _).symm

theorem work (hf : Faithful c b h) (hfailed : ∀ m, (h.move fails c .work).task.phase ≠ .failed m) :
    Faithful c b (h.move fails c .work) := by
  unfold Chronicle.move at hfailed ⊢
  dsimp only at hfailed ⊢
  cases hstep : h.task.step? fails c with
  | none => exact hf
  | some next =>
    obtain ⟨task, seen⟩ := next
    rw [hstep] at hfailed
    have halive : h.task.isAlive = true := by
      cases Task.steps_of_step? hstep <;> simp_all [Task.isAlive]
    cases Task.progress (hf.alive halive).1 hstep hfailed with
    | begin hphase => simpa [Task.message?, hphase] using hf.begin hphase
    | takes hphase hx htakes => simpa [hx] using hf.takes hphase htakes
    | stop hphase hqueue hcommands hclosed =>
      have hraised := Task.raisedIn_finish h.task .stopped
      have hmessage : h.task.message? = none := by
        simp [Task.message?, hphase, Task.receive_of_open (hf.alive halive).1, hqueue, hcommands]
      simpa [hmessage, hraised] using hf.stop hphase hqueue hcommands hclosed

theorem move (hf : Faithful c b h) (m : Move σ κ)
    (hfailed : ∀ message, (h.move fails c m).task.phase ≠ .failed message)
    (hbefore : ∀ message, h.task.phase ≠ .failed message) : Faithful c b (h.move fails c m) := by
  cases m with
  | submit command => exact hf.submit hbefore command
  | leave ticket => exact ⟨hf.commands, hf.notifications, hf.counts, hf.inTurn, hf.world, hf.alive, hf.stopped⟩
  | outside change => exact hf.outside hbefore change
  | work => exact hf.work hfailed
  | close =>
    refine ⟨hf.commands, hf.notifications, hf.counts, hf.inTurn, hf.world, hf.alive, fun hstopped => ?_⟩
    exact ⟨rfl, (hf.stopped hstopped).2⟩

end Faithful

namespace Chronicle

variable {fails : Effect κ → Option String} {c : Collaborators σ} {b : Bare σ κ}
  {h : Chronicle σ κ}

/-- No move changes the phase or the published state of a task that has ended. -/
theorem move_of_ended (hended : h.task.isAlive = false) (m : Move σ κ) :
    (h.move fails c m).task.phase = h.task.phase ∧
      (h.move fails c m).task.watched = h.task.watched := by
  cases m with
  | submit command =>
    unfold move Task.submit
    dsimp only
    split
    case isTrue => simp [hended]
    case isFalse => exact ⟨rfl, rfl⟩
  | leave ticket => exact ⟨rfl, rfl⟩
  | outside change =>
    obtain ⟨mailbox, htask, -⟩ :=
      Task.hear_task { h.task with world := (change h.task.world).1 } (change h.task.world).2
    simp [move, htask]
  | work =>
    have hrest : h.task.step? fails c = none := by
      unfold Task.step?
      split <;> simp_all [Task.isAlive]
    unfold move
    simp only [hrest, and_self]
  | close => exact ⟨rfl, rfl⟩

theorem play_of_ended (hended : h.task.isAlive = false) (moves : List (Move σ κ)) :
    (h.play fails c moves).task.phase = h.task.phase ∧
      (h.play fails c moves).task.watched = h.task.watched := by
  induction moves generalizing h with
  | nil => exact ⟨rfl, rfl⟩
  | cons m rest ih =>
    obtain ⟨hphase, hwatched⟩ := move_of_ended hended m
    have hnext : (h.move fails c m).task.isAlive = false := by
      unfold Task.isAlive at hended ⊢
      rw [hphase, hended]
    obtain ⟨hphases, hstates⟩ := ih hnext
    exact ⟨hphases.trans hphase, hstates.trans hwatched⟩

theorem not_isAlive_of_failed {message : String} (hphase : h.task.phase = .failed message) :
    h.task.isAlive = false := by
  simp [Task.isAlive, hphase]

theorem move_of_failed {message : String} (hphase : h.task.phase = .failed message) (m : Move σ κ) :
    (h.move fails c m).task.phase = .failed message :=
  (move_of_ended (not_isAlive_of_failed hphase) m).1.trans hphase

theorem play_of_failed {message : String} (hphase : h.task.phase = .failed message)
    (moves : List (Move σ κ)) : (h.play fails c moves).task.phase = .failed message :=
  (play_of_ended (not_isAlive_of_failed hphase) moves).1.trans hphase

end Chronicle

theorem Faithful.play {fails : Effect κ → Option String} {c : Collaborators σ} {b : Bare σ κ}
    {h : Chronicle σ κ} (hf : Faithful c b h) (moves : List (Move σ κ))
    (hfailed : ∀ message, (h.play fails c moves).task.phase ≠ .failed message) :
    Faithful c b (h.play fails c moves) := by
  induction moves generalizing h with
  | nil => exact hf
  | cons m rest ih =>
    have hmove (message : String) : (h.move fails c m).task.phase ≠ .failed message :=
      fun hphase => hfailed message (Chronicle.play_of_failed hphase rest)
    have hbefore (message : String) : h.task.phase ≠ .failed message :=
      fun hphase => hmove message (Chronicle.move_of_failed hphase m)
    exact ih (hf.move m hmove hbefore) hfailed

end HubLink.Transport
