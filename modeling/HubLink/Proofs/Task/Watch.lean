import HubLink.Proofs.Machine.Transitions
import HubLink.Proofs.Task.Quiescence
import Mathlib.Data.List.Chain

namespace HubLink.Transport

variable {σ κ : Type}

/-- The transitions along a list of states, starting from `s`. -/
def itinerary (s : ConnectionState) :
    List ConnectionState → List (ConnectionState × ConnectionState)
  | [] => []
  | next :: rest => (s, next) :: itinerary next rest

theorem itinerary_append (s : ConnectionState) (states more : List ConnectionState) :
    itinerary s (states ++ more) = itinerary s states ++ itinerary (states.getLastD s) more := by
  induction states generalizing s with
  | nil => rfl
  | cons next rest ih => simp only [List.cons_append, itinerary, ih, List.getLastD_cons]

theorem getLastD_append (s : ConnectionState) (states more : List ConnectionState) :
    (states ++ more).getLastD s = more.getLastD (states.getLastD s) := by
  induction states generalizing s with
  | nil => rfl
  | cons next rest ih => simp only [List.cons_append, List.getLastD_cons, ih]

/-- The state `s'` if it differs from `s`, and nothing otherwise. -/
def stops (s s' : ConnectionState) : List ConnectionState :=
  (wayTo s s').map (·.2)

@[simp] theorem itinerary_stops (s s' : ConnectionState) : itinerary s (stops s s') = wayTo s s' := by
  unfold stops wayTo
  split <;> rfl

@[simp] theorem getLastD_stops (s s' : ConnectionState) : (stops s s').getLastD s = s' := by
  unfold stops wayTo
  split
  case isTrue hsame => exact hsame
  case isFalse => rfl

@[simp] theorem stops_self (s : ConnectionState) : stops s s = [] := by
  simp [stops]

/-- A list without equal neighbours stays so if the stops from its last state are appended. -/
theorem isChain_append_stops {s : ConnectionState} {states : List ConnectionState}
    (h : (s :: states).IsChain (· ≠ ·)) (s' : ConnectionState) :
    (s :: (states ++ stops (states.getLastD s) s')).IsChain (· ≠ ·) := by
  induction states generalizing s with
  | nil =>
    by_cases hsame : s = s'
    · simp [stops, wayTo, hsame]
    · simp [stops, wayTo, hsame]
  | cons next rest ih =>
    obtain ⟨hne, hrest⟩ := List.isChain_cons_cons.1 h
    rw [List.getLastD_cons]
    exact List.isChain_cons_cons.2 ⟨hne, ih hrest⟩

namespace Happening

/-- The published states, in order. -/
def states (seen : List (Happening κ)) : List ConnectionState :=
  seen.filterMap fun
    | .published s => some s
    | _ => none

@[simp] theorem states_nil : states ([] : List (Happening κ)) = [] :=
  rfl

@[simp] theorem states_append (seen more : List (Happening κ)) :
    states (seen ++ more) = states seen ++ states more :=
  List.filterMap_append

@[simp] theorem states_cons_remark (r : Remark) (seen : List (Happening κ)) :
    states (.remark r :: seen) = states seen :=
  rfl

@[simp] theorem states_cons_answer (ticket : Nat) (answer : Answer) (seen : List (Happening κ)) :
    states (.answer ticket answer :: seen) = states seen :=
  rfl

theorem states_eq_nil {seen : List (Happening κ)} (h : ∀ e ∈ seen, ∃ effect, e = .effect effect) :
    states seen = [] := by
  refine List.filterMap_eq_nil_iff.2 fun e he => ?_
  obtain ⟨effect, rfl⟩ := h e he
  rfl

@[simp] theorem states_map_effect (t : Trace κ) : states (t.map .effect) = [] :=
  states_eq_nil fun _ he => (List.mem_map.1 he).imp fun _ hmem => hmem.2.symm

/-- Each snapshot shows the state published last before it, or `s` if none was. -/
def ShowsLast (s : ConnectionState) (seen : List (Happening κ)) : Prop :=
  ∀ front ticket snapshot back, seen = front ++ .answer ticket (.snapshot snapshot) :: back →
    snapshot.state = (states front).getLastD s

theorem ShowsLast.append {s : ConnectionState} {seen more : List (Happening κ)}
    (h : ShowsLast s seen)
    (hmore : ∀ ticket snapshot, .answer ticket (.snapshot snapshot) ∈ more →
      more = [.answer ticket (.snapshot snapshot)] ∧
        snapshot.state = (states seen).getLastD s) :
    ShowsLast s (seen ++ more) := by
  intro front ticket snapshot back hsplit
  have hanswer (hmem : .answer ticket (.snapshot snapshot) ∈ more) (hfront : front = seen ++ []) :
      snapshot.state = (states front).getLastD s := by
    rw [hfront, List.append_nil]
    exact (hmore ticket snapshot hmem).2
  obtain ⟨middle, rfl, hback⟩ | ⟨middle, rfl, hback⟩ := List.append_eq_append_iff.1 hsplit
  · -- The snapshot is among what is new, and so is all of it.
    have hmem : .answer ticket (.snapshot snapshot) ∈ more := by simp [hback]
    rw [(hmore ticket snapshot hmem).1, eq_comm, List.append_eq_singleton_iff] at hback
    obtain ⟨rfl, -⟩ | ⟨-, hnil⟩ := hback
    · exact hanswer hmem rfl
    · cases hnil
  · cases middle with
    | nil =>
      rw [List.nil_append] at hback
      exact hanswer (by simp [← hback]) (by simp)
    | cons first rest =>
      obtain ⟨rfl, -⟩ := List.cons.inj hback
      exact h front ticket snapshot rest rfl

end Happening

open Happening (states ShowsLast)

namespace Bare

variable (c : Collaborators σ) (b : Bare σ κ) (x : Message σ κ)

/-- Silent collaborators lead a message to the same machine and the same state of the
collaborators. -/
theorem take_silent :
    (b.take c.silent x).machine = (b.take c x).machine ∧
      (b.take c.silent x).world = (b.take c x).world := by
  cases hstep : x.step? b.machine with
  | none =>
    obtain ⟨hmachine, hworld, -⟩ := take_of_no_step (c := c) hstep
    obtain ⟨hmachine', hworld', -⟩ := take_of_no_step (c := c.silent) hstep
    exact ⟨hmachine'.trans hmachine.symm, hworld'.trans hworld.symm⟩
  | some s =>
    obtain ⟨hmachine, hworld, -⟩ := take_of_step (c := c) hstep
    obtain ⟨hmachine', hworld', -⟩ := take_of_step (c := c.silent) hstep
    obtain ⟨hafter, hlater⟩ := s.moment_silent c b.machine b.world
    rw [hmachine, hworld, hmachine', hworld', hafter, hlater]
    exact ⟨rfl, rfl⟩

theorem takeAll_silent (messages : List (Message σ κ)) :
    (b.takeAll c.silent messages).machine = (b.takeAll c messages).machine ∧
      (b.takeAll c.silent messages).world = (b.takeAll c messages).world := by
  induction messages using List.reverseRecOn with
  | nil => exact ⟨rfl, rfl⟩
  | append_singleton front x ih =>
    obtain ⟨hmachine, hworld⟩ := take_silent c (b.takeAll c.silent front) x
    rw [takeAll_append, takeAll_append]
    change (Bare.take ..).machine = (Bare.take ..).machine ∧ (Bare.take ..).world = (Bare.take ..).world
    rw [hmachine, hworld, take_eq c (b.takeAll c.silent front), take_eq c (b.takeAll c front), ih.1, ih.2]
    exact ⟨rfl, rfl⟩

/-- Taking a message makes exactly the transition from the state before it to the state after it, and
none if they are equal. -/
theorem transitions_take :
    Trace.transitions (Happening.effects (b.take c.silent x).seen) =
      Trace.transitions (Happening.effects b.seen) ++
        wayTo b.machine.state (b.take c.silent x).machine.state := by
  cases hstep : x.step? b.machine with
  | none =>
    obtain ⟨hmachine, -, heffects⟩ := take_of_no_step (c := c.silent) hstep
    rw [heffects, hmachine, wayTo_self, List.append_nil]
  | some s =>
    obtain ⟨hmachine, -, heffects⟩ := take_of_step (c := c.silent) hstep
    rw [heffects, hmachine, Trace.transitions_append, s.transitions_moment, (s.moment_silent ..).1]

end Bare

namespace Task

variable {fails : Effect κ → Option String} {c : Collaborators σ} {t t' : Task σ κ}
  {seen : List (Happening κ)}

/-- If no stage after the first changes the state, then taking all stages and taking them up to a
failing hook lead to the same state. -/
theorem takeStages_state_eq (fails : Effect κ → Option String) (first : Stage σ κ)
    {rest : List (Stage σ κ)}
    (hrest : ∀ stage ∈ rest, ∀ r : Run σ κ, (stage.take r).machine.state = r.machine.state)
    (r : Run σ κ) :
    (takeStages fails (first :: rest) r).machine.state = (first.take r).machine.state ∧
      ((first :: rest).foldl (fun r stage => stage.take r) r).machine.state =
        (first.take r).machine.state := by
  induction rest generalizing first r with
  | nil => simp [takeStages]
  | cons second rest ih =>
    have hsecond := hrest second List.mem_cons_self (first.take r)
    obtain ⟨htaken, hall⟩ := ih second
      (fun stage hstage => hrest stage (List.mem_cons_of_mem _ hstage)) (first.take r)
    refine ⟨?_, hall.trans hsecond⟩
    rw [takeStages]
    split
    case isTrue => rfl
    case isFalse => exact htaken.trans hsecond

/-- Only the first stage of a notification changes the state, so a failing hook leaves the machine in
the same state as the whole notification. -/
theorem takeStages_state (fails : Effect κ → Option String) (c : Collaborators σ) (n : Notification)
    (r : Run σ κ) :
    (takeStages fails (Run.stages c n r.machine) r).machine.state = (r.handle c n).machine.state := by
  have hsame {first : Stage σ κ} {rest : List (Stage σ κ)}
      (hrest : ∀ stage ∈ rest, ∀ r : Run σ κ, (stage.take r).machine.state = r.machine.state) :
      (takeStages fails (first :: rest) r).machine.state =
        ((first :: rest).foldl (fun r stage => stage.take r) r).machine.state := by
    obtain ⟨htaken, hall⟩ := takeStages_state_eq fails first hrest r
    exact htaken.trans hall.symm
  have hrelease (r : Run σ κ) : (r.releaseQueue c).machine.state = r.machine.state :=
    (Calls.releaseQueue c r).2
  unfold Run.handle
  cases n with
  | connected =>
    simp only [Run.stages]
    split <;> exact hsame (by simp [Stage.take, hrelease])
  | disconnected =>
    simp only [Run.stages]
    split <;> exact hsame (by simp [Stage.take])
  | published id =>
    simp only [Run.stages]
    cases r.machine.inFlight.find? id <;> exact hsame (by simp [Stage.take])

theorem publishState_watched (t : Task σ κ) :
    t.publishState.1.watched = t.publishState.1.machine.state ∧
      t.publishState.1.machine = t.machine ∧
      states t.publishState.2 = stops t.watched t.machine.state := by
  unfold publishState
  split
  case isTrue hsame => exact ⟨hsame, rfl, by simp [hsame]⟩
  case isFalse hne => exact ⟨rfl, rfl, by simp [states, stops, wayTo, hne]⟩

theorem states_finish (t : Task σ κ) (phase : Phase) : states (t.finish phase).2 = [] := by
  refine Happening.states_eq_nil fun e he => ?_
  obtain ⟨callback, -, rfl⟩ := List.mem_map.1 he
  exact ⟨_, rfl⟩

/-- The state of the machine after a step is that of the bare machine after the message of the
step. -/
theorem state_of_step? (h : t.step? fails c = some (t', seen)) :
    t'.machine.state = (Bare.takeAll c ⟨t.machine, t.world, []⟩ t.message?.toList).machine.state := by
  cases steps_of_step? h with
  | begin hphase => simp [message?, hphase, Bare.takeAll]
  | stop hphase hreceive hcommands hclosed =>
    have hmessage : t.message? = none := by
      unfold message?
      split
      · split <;> simp_all
      · rfl
    simp [hmessage, Bare.takeAll, finish]
  | @notification hphase n mailbox hreceive =>
    have hmessage : t.message? = some (.notification n) := by simp [message?, hphase, hreceive]
    have hstate := takeStages_state fails c n t.run
    rw [hmessage]
    unfold handleNotification
    dsimp only
    split
    · exact hstate
    · obtain ⟨-, hmachine, -⟩ := publishState_watched
        (absorb { t with mailbox } (takeStages fails (Run.stages c n t.machine) t.run))
      exact (congrArg Machine.state hmachine).trans hstate
  | @command hphase hreceive command rest hcommands =>
    have hmessage : t.message? = some (.command command) := by
      unfold message?
      rw [hphase, hcommands]
      dsimp only
      split <;> simp_all
    rw [hmessage]
    cases command with
    | request ticket request =>
      obtain ⟨-, hmachine, -⟩ := publishState_watched
        (absorb { t with commands := rest } (t.run.perform c request).2)
      exact congrArg Machine.state hmachine
    | snapshot ticket => rfl
    | observe occasion hook => rfl

/-- The transition of a step is that of the bare machine for the message of the step. -/
theorem transitions_of_step? (h : t.step? fails c = some (t', seen)) {b : Bare σ κ}
    (hmachine : b.machine = t.machine) (hworld : b.world = t.world) :
    let own := b.takeAll c.silent t.message?.toList
    own.machine.state = t'.machine.state ∧
      Trace.transitions (Happening.effects own.seen) =
        Trace.transitions (Happening.effects b.seen) ++ wayTo t.machine.state t'.machine.state := by
  have hstate := state_of_step? h
  cases hmessage : t.message? with
  | none =>
    rw [hmessage] at hstate
    have hstays : t'.machine.state = t.machine.state := hstate
    rw [hstays, wayTo_self, List.append_nil]
    exact ⟨congrArg Machine.state hmachine, rfl⟩
  | some x =>
    rw [hmessage] at hstate
    have hgoes : t'.machine.state = (b.take c.silent x).machine.state := by
      rw [(b.take_silent c x).1, Bare.take_eq, hmachine, hworld]
      exact hstate
    have htransitions := b.transitions_take c x
    rw [← hgoes, hmachine] at htransitions
    exact ⟨hgoes.symm, htransitions⟩

/-- A step publishes the new state of its machine if it differs from the old one. Only if a hook fails
is nothing published, and then the task has failed. -/
theorem watched_of_step? (h : t.step? fails c = some (t', seen)) (hwatched : t.watched = t.machine.state) :
    (t'.watched = t'.machine.state ∧ states seen = stops t.machine.state t'.machine.state) ∨
      t'.watched = t.watched ∧ states seen = [] ∧ ∃ message, t'.phase = .failed message := by
  cases steps_of_step? h with
  | begin hphase => exact .inl ⟨hwatched, by simp⟩
  | stop hphase hreceive hcommands hclosed =>
    refine .inl ⟨hwatched, ?_⟩
    rw [Happening.states_cons_remark, states_finish]
    exact (stops_self t.machine.state).symm
  | @notification hphase n mailbox hreceive =>
    unfold handleNotification
    dsimp only
    split
    case h_1 message hfailure =>
      exact .inr ⟨rfl, by simp [states_finish], message, rfl⟩
    case h_2 hfailure =>
      generalize takeStages fails _ _ = r
      obtain ⟨hnow, hmachine, hstates⟩ := publishState_watched (absorb { t with mailbox } r)
      refine .inl ⟨hnow, ?_⟩
      rw [hmachine]
      simpa [absorb, hwatched] using hstates
  | @command hphase hreceive command rest hcommands =>
    cases command with
    | snapshot ticket => exact .inl ⟨hwatched, by simp [execute]⟩
    | observe occasion hook => exact .inl ⟨hwatched, by simp [execute]⟩
    | request ticket request =>
      unfold execute
      dsimp only
      generalize Run.perform c request _ = performed
      obtain ⟨result, r⟩ := performed
      obtain ⟨hnow, hmachine, hstates⟩ := publishState_watched (absorb { t with commands := rest } r)
      refine .inl ⟨hnow, ?_⟩
      rw [hmachine]
      simpa [absorb, hwatched] using hstates

theorem getLastD_publishState (t : Task σ κ) :
    t.publishState.1.watched = (states t.publishState.2).getLastD t.watched := by
  obtain ⟨hwatched, hmachine, hstates⟩ := t.publishState_watched
  rw [hstates, getLastD_stops, hwatched, hmachine]

/-- After a step, the published state is the last one that the step published, and unchanged if it
published none. -/
theorem getLastD_of_step? (h : t.step? fails c = some (t', seen)) :
    t'.watched = (states seen).getLastD t.watched := by
  cases steps_of_step? h with
  | begin hphase => rfl
  | stop hphase hreceive hcommands hclosed =>
    rw [Happening.states_cons_remark, states_finish]
    rfl
  | @notification hphase n mailbox hreceive =>
    unfold handleNotification
    dsimp only
    rw [Happening.states_append, Happening.states_cons_remark, Happening.states_map_effect]
    split
    case h_1 message hfailure =>
      rw [states_finish]
      rfl
    case h_2 hfailure => exact getLastD_publishState _
  | @command hphase hreceive command rest hcommands =>
    cases command with
    | snapshot ticket => rfl
    | observe occasion hook => rfl
    | request ticket request =>
      unfold execute
      dsimp only
      rw [Happening.states_append, Happening.states_map_effect, Happening.states_cons_answer]
      exact getLastD_publishState _

end Task

namespace Chronicle

variable (fails : Effect κ → Option String) (c : Collaborators σ)

/-- A move only appends happenings, and the published state is the last one published in them. -/
theorem getLastD_move (h : Chronicle σ κ) (m : Move σ κ) :
    ∃ more, (h.move fails c m).seen = h.seen ++ more ∧
      (h.move fails c m).task.watched = (states more).getLastD h.task.watched := by
  cases m with
  | submit command =>
    unfold move Task.submit
    dsimp only
    split
    case isFalse => exact ⟨[], (List.append_nil _).symm, rfl⟩
    case isTrue =>
      refine ⟨_, rfl, ?_⟩
      split
      case isTrue => rfl
      case isFalse =>
        rw [Happening.states_eq_nil (by simp)]
        rfl
  | leave ticket => exact ⟨[], (List.append_nil _).symm, rfl⟩
  | outside change =>
    let drifted : Task σ κ := { h.task with world := (change h.task.world).1 }
    obtain ⟨mailbox, htask, -⟩ := drifted.hear_task (change h.task.world).2
    have hnone : states (drifted.hear (change h.task.world).2).2 = [] :=
      Happening.states_eq_nil fun e he => (drifted.hear_seen _ e he).imp' _ fun _ heq => heq
    have hsame : (drifted.hear (change h.task.world).2).1.watched = h.task.watched := by rw [htask]
    refine ⟨_, rfl, ?_⟩
    rw [hnone]
    exact hsame
  | work =>
    unfold move
    dsimp only
    split
    case h_1 hnone => exact ⟨[], (List.append_nil _).symm, rfl⟩
    case h_2 task seen hstep => exact ⟨seen, rfl, Task.getLastD_of_step? hstep⟩
  | close => exact ⟨[], (List.append_nil _).symm, rfl⟩

theorem getLastD_play (h : Chronicle σ κ) (moves : List (Move σ κ)) :
    ∃ more, (h.play fails c moves).seen = h.seen ++ more ∧
      (h.play fails c moves).task.watched = (states more).getLastD h.task.watched := by
  induction moves generalizing h with
  | nil => exact ⟨[], (List.append_nil _).symm, rfl⟩
  | cons m rest ih =>
    obtain ⟨first, hfirst, hnext⟩ := getLastD_move fails c h m
    obtain ⟨more, hmore, hlast⟩ := ih (h.move fails c m)
    refine ⟨first ++ more, ?_, ?_⟩
    · rw [← List.append_assoc, ← hfirst]
      exact hmore
    · rw [Happening.states_append, getLastD_append, ← hnext]
      exact hlast

end Chronicle

/-- The invariant between a chronicle and the bare machine `b` with silent collaborators: their states
agree, the transitions are those along the published states followed by the one to the current state,
no state is published twice in a row, and unless a hook failed the published state is the current one.
Snapshots show the state published last. -/
structure Chronicle.Watch (c : Collaborators σ) (b : Bare σ κ) (h : Chronicle σ κ) : Prop where
  state : (b.takeAll c.silent h.handled).machine.state = h.task.machine.state
  transitions : Trace.transitions (Happening.effects (b.takeAll c.silent h.handled).seen) =
    itinerary b.machine.state (states h.seen) ++ wayTo h.task.watched h.task.machine.state
  changes : (b.machine.state :: states h.seen).IsChain (· ≠ ·)
  last : h.task.watched = (states h.seen).getLastD b.machine.state
  current : (∀ message, h.task.phase ≠ .failed message) → h.task.watched = h.task.machine.state
  snapshots : ShowsLast b.machine.state h.seen

namespace Chronicle.Watch

variable {fails : Effect κ → Option String} {c : Collaborators σ} {b : Bare σ κ} {h : Chronicle σ κ}

theorem start (c : Collaborators σ) (machine : Machine κ) (world : σ) (number : Nat) :
    Watch c ⟨machine, world, []⟩ (.start machine world number) where
  state := rfl
  transitions := (wayTo_self machine.state).symm
  changes := .singleton _
  last := rfl
  current _ := rfl
  snapshots front ticket snapshot back hsplit := by simp [Chronicle.start] at hsplit

/-- A change that affects neither the machine's state nor the published states preserves the
invariant. -/
theorem aside (hw : Watch c b h) {task : Task σ κ} {seen : List (Happening κ)}
    {submitted : List (Command κ × Nat)} {left : List Nat} {raised : List Notification}
    {handled : List (Message σ κ)} (hmachine : task.machine = h.task.machine)
    (hwatched : task.watched = h.task.watched) (hphase : task.phase = h.task.phase)
    (hseen : ∀ e ∈ seen, ∃ effect, e = .effect effect)
    (hhandled : handled = h.handled ∨ ∃ change, handled = h.handled ++ [.drift change]) :
    Watch c b ⟨task, submitted, left, raised, handled, h.seen ++ seen⟩ := by
  have hstates : states (h.seen ++ seen) = states h.seen := by
    rw [Happening.states_append, Happening.states_eq_nil hseen, List.append_nil]
  have hown : (b.takeAll c.silent handled).machine = (b.takeAll c.silent h.handled).machine ∧
      (b.takeAll c.silent handled).seen = (b.takeAll c.silent h.handled).seen := by
    obtain rfl | ⟨change, rfl⟩ := hhandled
    · exact ⟨rfl, rfl⟩
    · rw [Bare.takeAll_append]
      exact ⟨rfl, rfl⟩
  refine ⟨?_, ?_, ?_, ?_, ?_, hw.snapshots.append fun ticket snapshot hanswer => ?_⟩
  · rw [hown.1, hw.state, hmachine]
  · rw [hown.2, hw.transitions, hstates, hwatched, hmachine]
  · rw [hstates]
    exact hw.changes
  · rw [hstates, hwatched, hw.last]
  · rw [hwatched, hmachine, hphase]
    exact hw.current
  · obtain ⟨effect, heffect⟩ := hseen _ hanswer
    cases heffect

theorem submit (hw : Watch c b h) (command : Command κ) :
    Watch c b (h.move fails c (.submit command)) := by
  unfold Chronicle.move
  dsimp only
  split
  case isFalse => exact hw
  case isTrue =>
    unfold Task.submit
    split
    case isTrue => exact hw.aside rfl rfl rfl (by simp) (.inl rfl)
    case isFalse => exact hw.aside rfl rfl rfl (by simp) (.inl rfl)

theorem outside (hw : Watch c b h) (change : σ → σ × List Aside) :
    Watch c b (h.move fails c (.outside change)) := by
  let drifted : Task σ κ := { h.task with world := (change h.task.world).1 }
  obtain ⟨mailbox, htask, -⟩ := drifted.hear_task (change h.task.world).2
  unfold Chronicle.move
  dsimp only
  rw [htask]
  refine hw.aside rfl rfl rfl (fun e he => ?_) (.inr ⟨_, rfl⟩)
  obtain ⟨r, rfl⟩ := drifted.hear_seen _ e he
  exact ⟨_, rfl⟩

theorem work (hw : Watch c b h) (hf : (∀ message, h.task.phase ≠ .failed message) → Faithful c b h) :
    Watch c b (h.move fails c .work) := by
  unfold Chronicle.move
  dsimp only
  cases hstep : h.task.step? fails c with
  | none => exact hw
  | some next =>
    obtain ⟨task, seen⟩ := next
    have halive : h.task.isAlive = true := by
      cases Task.steps_of_step? hstep <;> simp_all [Task.isAlive]
    have hbefore (message : String) : h.task.phase ≠ .failed message := by
      intro hphase
      simp [Task.isAlive, hphase] at halive
    obtain ⟨hopen, hmachine, -⟩ := (hf hbefore).alive halive
    have hworld := (hf hbefore).world
    have hwatched := hw.current hbefore
    have hown := b.takeAll_silent c h.handled
    obtain ⟨hstate, htransitions⟩ := Task.transitions_of_step? hstep (hown.1.trans hmachine.symm)
      (hown.2.trans hworld.symm)
    rw [← Bare.takeAll_append] at hstate htransitions
    rw [hw.transitions, hwatched, wayTo_self, List.append_nil] at htransitions
    have hshown : ShowsLast b.machine.state (h.seen ++ seen) := by
      refine hw.snapshots.append fun ticket snapshot hanswer => ?_
      obtain ⟨-, rfl, hall⟩ := Task.snapshot_of_step? hopen hstep hanswer
      exact ⟨hall, hwatched.symm.trans hw.last⟩
    have hlast : task.watched = (states (h.seen ++ seen)).getLastD b.machine.state := by
      rw [Happening.states_append, getLastD_append, ← hw.last]
      exact Task.getLastD_of_step? hstep
    obtain ⟨hnow, hstates⟩ | ⟨hkept, hnone, message, hfailed⟩ := Task.watched_of_step? hstep hwatched
    · have hall : states (h.seen ++ seen) =
          states h.seen ++ stops ((states h.seen).getLastD b.machine.state) task.machine.state := by
        rw [Happening.states_append, hstates, ← hw.last, hwatched]
      refine ⟨hstate, ?_, ?_, hlast, fun _ => hnow, hshown⟩
      · rw [htransitions, hall, itinerary_append, itinerary_stops, ← hw.last, hwatched, hnow,
          wayTo_self, List.append_nil]
      · rw [hall]
        exact isChain_append_stops hw.changes _
    · have hall : states (h.seen ++ seen) = states h.seen := by
        rw [Happening.states_append, hnone, List.append_nil]
      refine ⟨hstate, ?_, ?_, hlast, fun hrunning => absurd hfailed (hrunning message), hshown⟩
      · rw [htransitions, hall, hkept, hwatched]
      · rw [hall]
        exact hw.changes

theorem move (hw : Watch c b h) (hf : (∀ message, h.task.phase ≠ .failed message) → Faithful c b h)
    (m : Move σ κ) : Watch c b (h.move fails c m) := by
  cases m with
  | submit command => exact hw.submit command
  | leave ticket => exact ⟨hw.state, hw.transitions, hw.changes, hw.last, hw.current, hw.snapshots⟩
  | outside change => exact hw.outside change
  | work => exact hw.work hf
  | close => exact ⟨hw.state, hw.transitions, hw.changes, hw.last, hw.current, hw.snapshots⟩

/-- All moves preserve the invariant. -/
theorem play (hw : Watch c b h) (hf : (∀ message, h.task.phase ≠ .failed message) → Faithful c b h)
    (moves : List (Move σ κ)) : Watch c b (h.play fails c moves) := by
  induction moves generalizing h with
  | nil => exact hw
  | cons m rest ih =>
    refine ih (hw.move hf m) fun hafter => ?_
    have hbefore (message : String) : h.task.phase ≠ .failed message :=
      fun hphase => hafter message (Chronicle.move_of_failed hphase m)
    exact (hf hbefore).move m hafter hbefore

end Chronicle.Watch

/-- For a task after any moves, with `own` the bare machine that takes the same messages: the
transitions of `own` are those along the published states, starting from the first state, followed by
one more if a failing hook kept the last state from being published. No state is published twice in a
row. Unless a hook has failed, the published state is the state of the machine at every step, and each
snapshot shows the state published last before it. -/
theorem watch_follows_machine (fails : Effect κ → Option String) (c : Collaborators σ)
    (machine : Machine κ) (world : σ) (number : Nat) (moves : List (Move σ κ)) :
    let h := Chronicle.play fails c moves (.start machine world number)
    let own := Bare.takeAll c.silent ⟨machine, world, []⟩ h.handled
    own.machine = (Bare.takeAll c ⟨machine, world, []⟩ h.handled).machine ∧
      own.machine.state = h.task.machine.state ∧
      Trace.transitions (Happening.effects own.seen) =
        itinerary machine.state (states h.seen) ++ wayTo h.task.watched h.task.machine.state ∧
      ((∀ message, h.task.phase ≠ .failed message) → h.task.watched = h.task.machine.state) ∧
      (machine.state :: states h.seen).IsChain (· ≠ ·) ∧
      h.task.watched = (states h.seen).getLastD machine.state ∧
      ∀ front ticket snapshot back, h.seen = front ++ .answer ticket (.snapshot snapshot) :: back →
        snapshot.state = (states front).getLastD machine.state := by
  intro h own
  have hw : h.Watch c ⟨machine, world, []⟩ :=
    (Chronicle.Watch.start c machine world number).play (fun _ => .start c machine world number) moves
  have hsame := Bare.takeAll_silent c ⟨machine, world, []⟩ h.handled
  exact ⟨hsame.1, hw.state, hw.transitions, hw.current, hw.changes, hw.last, hw.snapshots⟩

end HubLink.Transport
