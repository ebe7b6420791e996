import HubLink.Proofs.Machine.Life
import HubLink.Proofs.Session.Work

namespace HubLink.Session

open Mqtt Transport

variable {L κ : Type}

/-- A task over an exchange, with the number of notifications that it has handled. -/
structure Scene (L κ : Type) where
  task : Task (Exchange L) κ
  handled : Nat := 0

/-- One move of a scene. -/
inductive Move (L κ : Type) where
  | submit (command : Command κ)
  /-- The application drops its handle. -/
  | close
  /-- News of the sessions arrive, and the network changes its state. -/
  | news (news : List News) (network : L)
  /-- The task takes a step, if there is one. -/
  | work

namespace Scene

/-- The scene before the first move. -/
def start (machine : Machine κ) (network : L) (number : Nat) : Scene L κ :=
  { task := Task.ofMachine machine { network } number }

/-- The scene after a move, with the happenings of the move. -/
def move (fails : Effect κ → Option String) (network : Network L) (s : Scene L κ) :
    Move L κ → Scene L κ × List (Happening κ)
  | .submit command =>
    let (task, seen) := s.task.submit command
    ({ s with task }, seen)
  | .close => ({ s with task := s.task.close }, [])
  | .news news network =>
    let (world, asides) := { s.task.world with network }.hearAll news
    let (task, seen) := { s.task with world }.hear asides
    ({ s with task }, seen)
  | .work =>
    match s.task.step? fails (Exchange.collaborators network) with
    | none => (s, [])
    | some (task, seen) => ({ task, handled := s.handled + s.task.next?.toList.length }, seen)

/-- The scene after a sequence of moves. -/
def moveAll (fails : Effect κ → Option String) (network : Network L) (s : Scene L κ)
    (moves : List (Move L κ)) : Scene L κ :=
  moves.foldl (fun s m => (s.move fails network m).1) s

/-- The sessions agree with the machine, and while the task is alive its mailbox holds exactly the
unhandled notifications. -/
structure Consistent (s : Scene L κ) : Prop where
  aligned : Aligned s.handled s.task.machine.state s.task.world
  alive : s.task.isAlive = true → Sound s.handled s.task.run ∧
    s.task.mailbox = { queue := s.task.world.unhandled s.handled }

/-- The happenings allowed for a step in a given state: no connect request unless it is disconnected,
and no answer `notConnected`. -/
def mayShow (state : ConnectionState) : Happening κ → Prop
  | .effect (.connect _ _) => state = .disconnected
  | .answer _ (.done (.error (.provider .notConnected))) => False
  | _ => True

namespace Consistent

variable {t : Task (Exchange L) κ} {handled : Nat} {P : Prop} {r : Run (Exchange L) κ}

/-- A task that takes over a run of its machine is consistent, if the run works. -/
theorem absorb (hle : handled ≤ t.world.raised.length)
    (hmailbox : t.mailbox = { queue := t.world.unhandled handled })
    (hworks : Works handled P t.run r) : Consistent { task := t.absorb r, handled } := by
  obtain ⟨new, heffects, hraised, -⟩ := hworks.records
  have hunhandled := Exchange.unhandled_append hle hraised
  have heffects : r.effects = new := heffects
  refine ⟨hworks.sound.aligned, fun _ => ⟨hworks.sound, ?_⟩⟩
  simp [Task.absorb, hmailbox, heffects, hunhandled]

theorem publishState (h : Consistent { task := t, handled }) :
    Consistent { task := t.publishState.1, handled } := by
  unfold Task.publishState
  split <;> exact ⟨h.aligned, h.alive⟩

/-- Ending the task preserves consistency. -/
theorem finish (h : Aligned handled t.machine.state t.world) {phase : Phase}
    (hphase : phase ≠ .created ∧ phase ≠ .running) :
    Consistent { task := (t.finish phase).1, handled } := by
  refine ⟨h, fun halive => ?_⟩
  simp [Task.isAlive, Task.finish, hphase] at halive

variable (fails : Effect κ → Option String) (network : Network L)

/-- Handling the notification taken from the mailbox preserves consistency. -/
theorem handleNotification (h : Sound handled t.run) {n : Notification} {rest : List Notification}
    (hnext : t.world.unhandled handled = n :: rest) (hmailbox : t.mailbox = { queue := rest }) :
    Consistent
      { task := (t.handleNotification fails (Exchange.collaborators network) n).1
        handled := handled + 1 } := by
  obtain ⟨-, hrest, -⟩ := h.aligned.next hnext
  obtain ⟨hlt, -⟩ := h.aligned.handled_lt hnext
  -- The mailbox has lost the notification, so it counts as handled while the machine works.
  have hworks : Works (handled + 1) False t.run _ := .notified network fails h hnext
  have habsorbed := absorb hlt (hrest.symm ▸ hmailbox) hworks
  simp only [Task.handleNotification]
  split
  case h_1 => exact finish habsorbed.aligned (by simp)
  case h_2 => exact habsorbed.publishState

/-- Executing a command preserves consistency. -/
theorem execute (h : Sound handled t.run)
    (hmailbox : t.mailbox = { queue := t.world.unhandled handled }) (command : Command κ) :
    Consistent { task := (t.execute (Exchange.collaborators network) command).1, handled } := by
  cases command with
  | request ticket request =>
    obtain ⟨hworks, -⟩ := Works.perform network request h
    exact (absorb h.aligned.handled_le hmailbox hworks).publishState
  | snapshot ticket => exact ⟨h.aligned, fun _ => ⟨h, hmailbox⟩⟩
  | observe occasion hook => exact ⟨h.aligned, fun _ => ⟨h, hmailbox⟩⟩

variable {s : Scene L κ}

/-- The next notification of the task is the first unhandled one. -/
theorem next (h : s.Consistent) {n : Notification} (hnext : s.task.next? = some n) :
    Sound s.handled s.task.run ∧ ∃ rest, s.task.world.unhandled s.handled = n :: rest ∧
      s.task.mailbox.receive = (.received n, { queue := rest }) := by
  obtain ⟨hphase, hreceive⟩ := (s.task.next?_eq_some n).1 hnext
  obtain ⟨hsound, hmailbox⟩ := h.alive (by simp [Task.isAlive, hphase])
  refine ⟨hsound, ?_⟩
  rw [hmailbox] at hreceive ⊢
  cases hunhandled : s.task.world.unhandled s.handled with
  | nil => simp [Mailbox.receive, hunhandled] at hreceive
  | cons first rest =>
    rw [hunhandled] at hreceive
    obtain rfl : first = n := by simpa [Mailbox.receive] using hreceive
    exact ⟨rest, rfl, rfl⟩

theorem submit (h : s.Consistent) (command : Command κ) :
    (s.move fails network (.submit command)).1.Consistent := by
  simp only [move, Task.submit]
  split <;> exact ⟨h.aligned, h.alive⟩

/-- News preserve consistency. -/
theorem hear (h : s.Consistent) (news : List News) (drifted : L) :
    (s.move fails network (.news news drifted)).1.Consistent := by
  let before : Exchange L := { s.task.world with network := drifted }
  have hears := before.hears_hearAll news
  obtain ⟨mailbox, htask, hmailbox⟩ :=
    Task.hear_task { s.task with world := (before.hearAll news).1 } (before.hearAll news).2
  have hmove : (s.move fails network (.news news drifted)).1 =
      { s with task := { s.task with world := (before.hearAll news).1, mailbox } } := by
    simp only [move, before, htask]
  rw [hmove]
  refine ⟨(h.aligned.recount _ _ _).hearAll news, fun halive => ?_⟩
  obtain ⟨hsound, hqueue⟩ := h.alive halive
  refine ⟨(hsound.drift drifted).hearAll news, ?_⟩
  have hunhandled : (before.hearAll news).1.unhandled s.handled =
      s.task.world.unhandled s.handled ++ notifications (before.hearAll news).2 :=
    Exchange.unhandled_append h.aligned.handled_le hears.raised
  simpa [hqueue, hunhandled] using hmailbox (by simp [hqueue])

/-- A step of the task preserves consistency. -/
theorem work (h : s.Consistent) : (s.move fails network .work).1.Consistent := by
  simp only [move]
  cases hstep : s.task.step? fails (Exchange.collaborators network) with
  | none => exact h
  | some stepped =>
    obtain ⟨task, seen⟩ := stepped
    simp only
    cases Task.steps_of_step? hstep with
    | begin hphase =>
      have hnext : s.task.next? = none := by simp [Task.next?, hphase]
      rw [hnext]
      exact ⟨h.aligned, fun _ => h.alive (by simp [Task.isAlive, hphase])⟩
    | notification hphase hreceive =>
      rename_i n mailbox
      have hnext : s.task.next? = some n := (s.task.next?_eq_some n).2 ⟨hphase, by rw [hreceive]⟩
      obtain ⟨hsound, rest, hunhandled, hrest⟩ := h.next hnext
      obtain rfl : mailbox = { queue := rest } := (Prod.mk.inj (hreceive.symm.trans hrest)).2
      rw [hnext]
      exact handleNotification (t := { s.task with mailbox := { queue := rest } }) fails network
        hsound hunhandled rfl
    | command hphase hreceive hcommands =>
      rename_i command rest
      have hnext : s.task.next? = none := Option.eq_none_iff_forall_ne_some.2 fun n hn =>
        hreceive n ((s.task.next?_eq_some n).1 hn).2
      obtain ⟨hsound, hmailbox⟩ := h.alive (by simp [Task.isAlive, hphase])
      rw [hnext]
      exact execute (t := { s.task with commands := rest }) network hsound hmailbox command
    | stop hphase hreceive hcommands hopen =>
      have hnext : s.task.next? = none := Option.eq_none_iff_forall_ne_some.2 fun n hn =>
        hreceive n ((s.task.next?_eq_some n).1 hn).2
      rw [hnext]
      exact finish h.aligned (by simp)

theorem move (h : s.Consistent) (m : Move L κ) : (s.move fails network m).1.Consistent := by
  cases m with
  | submit command => exact h.submit fails network command
  | close => exact ⟨h.aligned, h.alive⟩
  | news news drifted => exact h.hear fails network news drifted
  | work => exact h.work fails network

theorem moveAll (h : s.Consistent) (moves : List (Move L κ)) :
    (s.moveAll fails network moves).Consistent := by
  induction moves generalizing s with
  | nil => exact h
  | cons first rest ih => exact ih (h.move fails network first)

/-- The effects of a run that records its connect requests are allowed. -/
theorem mayShow_effects {state : ConnectionState} (hrecords : Records P t.run r)
    (hP : P → state = .disconnected) : ∀ e ∈ r.effects.map .effect, mayShow state e := by
  obtain ⟨new, heffects, -, hconnects⟩ := hrecords
  have heffects : r.effects = new := heffects
  intro e he
  obtain ⟨effect, heffect, rfl⟩ := List.mem_map.1 he
  rw [heffects] at heffect
  cases effect with
  | connect token result => exact hP (hconnects token result heffect)
  | _ => trivial

theorem mayShow_publishState (state : ConnectionState) :
    ∀ e ∈ t.publishState.2, mayShow state e := by
  unfold Task.publishState
  split <;> simp [mayShow]

theorem mayShow_finish (state : ConnectionState) (phase : Phase) :
    ∀ e ∈ (t.finish phase).2, mayShow state e := by
  intro e he
  obtain ⟨callback, -, rfl⟩ := List.mem_map.1 he
  trivial

/-- Handling a notification makes no connect request. -/
theorem mayShow_handleNotification (h : Sound handled t.run) {n : Notification}
    {rest : List Notification} (hnext : t.world.unhandled handled = n :: rest)
    (state : ConnectionState) :
    ∀ e ∈ (t.handleNotification fails (Exchange.collaborators network) n).2, mayShow state e := by
  have hworks : Works (handled + 1) False t.run _ := .notified network fails h hnext
  have heffects : ∀ e ∈ _, mayShow state e := mayShow_effects hworks.records False.elim
  intro e he
  simp only [Task.handleNotification] at he
  obtain he | he := List.mem_append.1 he
  · obtain rfl | he := List.mem_cons.1 he
    · trivial
    · exact heffects e he
  · split at he
    case h_1 => exact mayShow_finish state _ e he
    case h_2 => exact mayShow_publishState state e he

/-- Executing a command makes a connect request only in the disconnected state, and never answers
`notConnected`. -/
theorem mayShow_execute (h : Sound handled t.run) (command : Command κ) :
    ∀ e ∈ (t.execute (Exchange.collaborators network) command).2,
      mayShow t.machine.state e := by
  cases command with
  | request ticket request =>
    obtain ⟨hworks, hresult⟩ := Works.perform network request h
    have heffects := mayShow_effects hworks.records id
    intro e he
    obtain he | he := List.mem_append.1 he
    · exact heffects e he
    · obtain rfl | he := List.mem_cons.1 he
      · unfold mayShow
        split
        case h_1 heq => cases heq
        case h_2 heq =>
          obtain ⟨-, heq⟩ := Happening.answer.inj heq
          exact hresult (Answer.done.inj heq)
        case h_3 => trivial
      · exact mayShow_publishState _ e he
  | snapshot ticket => simp [Task.execute, mayShow]
  | observe occasion hook => simp [Task.execute]

/-- All happenings of a move are allowed in the state before it. -/
theorem mayShow_move (h : s.Consistent) (m : Move L κ) :
    ∀ e ∈ (s.move fails network m).2, mayShow s.task.machine.state e := by
  cases m with
  | submit command =>
    simp only [Scene.move, Task.submit]
    split <;> simp [mayShow]
  | close => simp [Scene.move]
  | news news drifted =>
    intro e he
    obtain ⟨remark, rfl⟩ := Task.hear_seen _ _ e he
    trivial
  | work =>
    simp only [Scene.move]
    cases hstep : s.task.step? fails (Exchange.collaborators network) with
    | none => simp
    | some stepped =>
      obtain ⟨task, seen⟩ := stepped
      simp only
      cases Task.steps_of_step? hstep with
      | begin hphase => simp [mayShow, Happening.remark]
      | notification hphase hreceive =>
        rename_i n mailbox
        have hnext : s.task.next? = some n := (s.task.next?_eq_some n).2 ⟨hphase, by rw [hreceive]⟩
        obtain ⟨hsound, rest, hunhandled, -⟩ := h.next hnext
        exact mayShow_handleNotification (t := { s.task with mailbox }) fails network hsound
          hunhandled _
      | command hphase hreceive hcommands =>
        rename_i command rest
        obtain ⟨hsound, -⟩ := h.alive (by simp [Task.isAlive, hphase])
        exact mayShow_execute (t := { s.task with commands := rest }) network hsound command
      | stop hphase hreceive hcommands hopen =>
        intro e he
        obtain rfl | he := List.mem_cons.1 he
        · trivial
        · exact mayShow_finish _ _ e he

end Consistent

/-- How the sessions of a scene agree with its machine. -/
structure InStep (s : Scene L κ) : Prop where
  /-- The number of handled ends is that of all sessions, less one unless the machine is
  disconnected. -/
  count : s.task.world.endsHandled s.handled +
    (if s.task.machine.state = .disconnected then 0 else 1) = s.task.world.lines.length
  /-- Only readers of ended sessions were stopped. -/
  stopped : ∀ l ∈ s.task.world.lines, l.isStopped = true → l.reader.isDone = true
  /-- The next notification was raised by the session started last. -/
  latest : ∀ n, s.task.next? = some n → ∃ k, s.task.world.raised[s.handled]? = some (k, n) ∧
    k + 1 = s.task.world.lines.length
  /-- The next notification is `disconnected` only if the machine is not disconnected. -/
  expected : s.task.next? = some .disconnected → s.task.machine.state ≠ .disconnected
  /-- The next notification is `published` only for a message in flight, if at most `2 ^ 64` messages
  were requested in the session. -/
  tracked : ∀ id, s.task.next? = some (.published id) →
    (s.task.machine.inFlight.find? id).isSome = true ∨ 2 ^ 64 < s.task.world.requested

theorem Consistent.inStep {s : Scene L κ} (h : s.Consistent) : s.InStep := by
  refine ⟨h.aligned.count, h.aligned.stopped, fun n hnext => ?_, fun hnext => ?_, fun id hnext => ?_⟩
  · obtain ⟨-, rest, hunhandled, -⟩ := h.next hnext
    exact (h.aligned.next hunhandled).1
  · obtain ⟨hsound, rest, hunhandled, -⟩ := h.next hnext
    exact (h.aligned.handled_lt hunhandled).2
  · obtain ⟨hsound, rest, hunhandled, -⟩ := h.next hnext
    rw [← InFlight.mem_ids_iff]
    by_cases hcount : s.task.world.requested ≤ 2 ^ 64
    · exact .inl ((hsound.handle_published hunhandled).1 hcount)
    · exact .inr (Nat.lt_of_not_le hcount)

end Scene

/-- At each point of each run of a task over any network, the sessions are in step with the machine. A
connect request is made only when `disconnected` was raised and handled for every earlier session, and
no call is answered with `notConnected`. -/
theorem sessions_in_step (fails : Effect κ → Option String) (network : Network L)
    (deviceId : String) (policy : ConnectPolicy) (observers : Observers κ) (origin : L)
    (number : Nat) (moves : List (Move L κ)) (m : Move L κ) :
    let s := (Scene.start (.fresh deviceId policy observers) origin number).moveAll fails network moves
    s.InStep ∧
      (∀ token result, .effect (.connect token result) ∈ (s.move fails network m).2 →
        (∀ k < s.task.world.lines.length,
          (k, .disconnected) ∈ s.task.world.raised.take s.handled) ∧
        s.task.world.endsHandled s.handled = s.task.world.lines.length) ∧
      ∀ ticket, .answer ticket (.done (.error (.provider .notConnected))) ∉
        (s.move fails network m).2 := by
  intro s
  have hstart : (Scene.start (.fresh deviceId policy observers) origin number).Consistent :=
    ⟨.fresh origin, fun _ => ⟨.fresh origin, rfl⟩⟩
  have hconsistent : s.Consistent := hstart.moveAll fails network moves
  have hshow := hconsistent.mayShow_move fails network m
  refine ⟨hconsistent.inStep, fun token result he => ?_, fun ticket he => hshow _ he⟩
  have hstate : s.task.machine.state = .disconnected := hshow _ he
  exact (hstate ▸ hconsistent.aligned).ended

end HubLink.Session
