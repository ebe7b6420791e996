import HubLink.Proofs.Session.Numbering
import HubLink.Proofs.Task.Receipts
import HubLink.Proofs.Task.Rest
import HubLink.Proofs.Task.Watch

namespace HubLink.Transport

variable {σ κ : Type}

namespace Task

variable {fails : Effect κ → Option String} {c : Collaborators σ}

theorem phase_publishState (t : Task σ κ) : t.publishState.1.phase = t.phase := by
  unfold publishState
  split <;> rfl

theorem phase_execute (c : Collaborators σ) (command : Command κ) (t : Task σ κ) :
    (t.execute c command).1.phase = t.phase := by
  cases command with
  | request ticket request => exact phase_publishState _
  | _ => rfl

/-- If no hook fails and the handle is open, a step leaves the task alive. -/
theorem isAlive_of_step? {t t' : Task σ κ} {seen : List (Happening κ)} (hfails : ∀ e, fails e = none)
    (h : t.step? fails c = some (t', seen)) (hopen : t.isOpen = true) : t'.isAlive = true := by
  cases steps_of_step? h with
  | begin hphase => rfl
  | notification hphase hreceive =>
    exact isAlive_of_running ((phase_handleNotification hfails _ _).trans hphase)
  | command hphase hreceive hcommands => exact isAlive_of_running ((phase_execute c _ _).trans hphase)
  | stop hphase hreceive hcommands hclosed =>
    rw [hopen] at hclosed
    cases hclosed

end Task

namespace Chronicle

variable {fails : Effect κ → Option String} {c : Collaborators σ}

variable (fails c) in
theorem seen_move (h : Chronicle σ κ) (m : Move σ κ) :
    ∃ more, (h.move fails c m).seen = h.seen ++ more :=
  (getLastD_move fails c h m).imp fun _ => And.left

variable (fails c) in
theorem seen_play (h : Chronicle σ κ) (moves : List (Move σ κ)) :
    ∃ more, (h.play fails c moves).seen = h.seen ++ more :=
  (getLastD_play fails c h moves).imp fun _ => And.left

variable (fails c) in
/-- The `work` of `n` steps is the effect of `n` moves `.work`. -/
theorem play_work (n : Nat) (h : Chronicle σ κ) :
    (h.play fails c (.replicate n .work)).task = (h.task.work fails c n).1 ∧
      (h.play fails c (.replicate n .work)).seen = h.seen ++ (h.task.work fails c n).2 := by
  induction n generalizing h with
  | zero => exact ⟨rfl, (List.append_nil _).symm⟩
  | succ n ih =>
    obtain ⟨htask, hseen⟩ := ih (h.move fails c .work)
    change (h.play fails c (.replicate (n + 1) .work)).task = _ at htask
    change (h.play fails c (.replicate (n + 1) .work)).seen = _ at hseen
    rw [htask, hseen, Task.work]
    cases hstep : h.task.step? fails c with
    | none =>
      have hrest : h.move fails c .work = h := by simp only [move, hstep]
      have hidle : h.task.work fails c n = (h.task, []) := by
        cases n with
        | zero => rfl
        | succ n => simp only [Task.work, hstep]
      simp only [hrest, hidle, and_self]
    | some step =>
      obtain ⟨task, seen⟩ := step
      have hrest : (h.move fails c .work).task = task ∧
          (h.move fails c .work).seen = h.seen ++ seen := by
        simp only [move, hstep, and_self]
      rw [hrest.1, hrest.2, List.append_assoc]
      exact ⟨rfl, rfl⟩

end Chronicle

/-- The task of `h` is alive and its handle open, `h` is faithful to the bare machine `b`, exactly
`commands` were submitted, and every change of the collaborators is `allowed`. -/
structure Attended (c : Collaborators σ) (b : Bare σ κ) (allowed : (σ → σ) → Prop)
    (commands : List (Command κ)) (h : Chronicle σ κ) : Prop where
  faithful : Faithful c b h
  isAlive : h.task.isAlive = true
  isOpen : h.task.isOpen = true
  submitted : h.submitted.map Prod.fst = commands
  drifts : ∀ change, .drift change ∈ h.handled → allowed change

namespace Attended

variable {fails : Effect κ → Option String} {c : Collaborators σ} {b : Bare σ κ}
  {allowed : (σ → σ) → Prop} {commands : List (Command κ)} {h : Chronicle σ κ}

theorem not_failed (hh : Attended c b allowed commands h) (message : String) :
    h.task.phase ≠ .failed message := by
  intro hphase
  have halive := hh.isAlive
  simp [Task.isAlive, hphase] at halive

theorem start (c : Collaborators σ) (allowed : (σ → σ) → Prop) (machine : Machine κ) (world : σ)
    (number : Nat) : Attended c ⟨machine, world, []⟩ allowed [] (.start machine world number) :=
  ⟨.start c machine world number, rfl, rfl, rfl, nofun⟩

theorem submit (hh : Attended c b allowed commands h) (command : Command κ) :
    Attended c b allowed (commands ++ [command]) (h.move fails c (.submit command)) := by
  have hfaithful : Faithful c b (h.move fails c (.submit command)) :=
    hh.faithful.submit hh.not_failed command
  have hmove : h.move fails c (.submit command) = { h with
      task := { h.task with commands := h.task.commands ++ [command] }
      seen := h.seen ++ []
      submitted := h.submitted ++ [(command, h.raised.length)] } := by
    simp only [Chronicle.move, if_pos hh.isOpen, Task.submit, if_pos hh.isAlive]
  rw [hmove] at hfaithful ⊢
  refine ⟨hfaithful, hh.isAlive, hh.isOpen, ?_, hh.drifts⟩
  rw [List.map_append, hh.submitted]
  rfl

theorem outside (hh : Attended c b allowed commands h) {change : σ → σ × List Aside}
    (hchange : allowed fun world => (change world).1) :
    Attended c b allowed commands (h.move fails c (.outside change)) := by
  have hfaithful : Faithful c b (h.move fails c (.outside change)) :=
    hh.faithful.outside hh.not_failed change
  obtain ⟨mailbox, htask, -⟩ :=
    Task.hear_task { h.task with world := (change h.task.world).1 } (change h.task.world).2
  refine ⟨hfaithful, ?_, ?_, hh.submitted, fun drift hdrift => ?_⟩
  · simp only [Chronicle.move, htask]
    exact hh.isAlive
  · simp only [Chronicle.move, htask]
    exact hh.isOpen
  · obtain hold | hnew := List.mem_append.1 hdrift
    · exact hh.drifts drift hold
    · obtain rfl := Message.drift.inj (List.mem_singleton.1 hnew)
      exact hchange

theorem work (hh : Attended c b allowed commands h) (hfails : ∀ e, fails e = none) :
    Attended c b allowed commands (h.move fails c .work) := by
  have halive : (h.move fails c .work).task.isAlive = true := by
    unfold Chronicle.move
    dsimp only
    split
    case h_1 => exact hh.isAlive
    case h_2 hstep => exact Task.isAlive_of_step? hfails hstep hh.isOpen
  have hfaithful : Faithful c b (h.move fails c .work) := by
    refine hh.faithful.work fun message hphase => ?_
    simp [Task.isAlive, hphase] at halive
  refine ⟨hfaithful, halive, ?_, ?_, ?_⟩
  all_goals
    unfold Chronicle.move
    dsimp only
    split
  · exact hh.isOpen
  · rename_i hstep
    exact (Task.isOpen_of_step? hstep).trans hh.isOpen
  · exact hh.submitted
  · exact hh.submitted
  · exact hh.drifts
  · intro change hchange
    obtain hold | hnew := List.mem_append.1 hchange
    · exact hh.drifts change hold
    · unfold Task.message? at hnew
      split at hnew
      · split at hnew <;> simp at hnew
      · cases hnew

theorem commands_eq (hh : Attended c b allowed commands h) :
    Message.commands h.handled ++ h.task.commands = commands :=
  hh.faithful.commands.trans hh.submitted

/-- The outward happenings are those of the bare machine. -/
theorem outward_eq (hh : Attended c b allowed commands h) :
    outward h.seen = outward (b.takeAll c h.handled).seen :=
  (hh.faithful.alive hh.isAlive).2.2

theorem answers_eq (hh : Attended c b allowed commands h) :
    Happening.answers h.seen = Happening.answers (b.takeAll c h.handled).seen := by
  rw [← Happening.answers_outward, hh.outward_eq, Happening.answers_outward]

/-- The tickets answered, followed by those of the waiting commands, are the tickets of all commands
in order. -/
theorem tickets (hh : Attended c b allowed commands h) (hb : b.seen = []) :
    (Happening.answers h.seen).map (·.1) ++ h.task.commands.filterMap Command.ticket? =
      commands.filterMap Command.ticket? := by
  rw [hh.answers_eq, Bare.tickets_takeAll, hb, ← hh.commands_eq, List.filterMap_append]
  rfl

end Attended

theorem Command.sends_nothing {command : Command κ} (h : command.ticket? = none) :
    command.event? = none ∧ command.callbacks = [] := by
  cases command with
  | observe occasion hook => exact ⟨rfl, rfl⟩
  | _ => cases h

/-- The tickets of the commands are distinct, and each was answered with success. -/
structure Granted (commands : List (Command (Hook κ))) (seen : List (Happening (Hook κ))) : Prop where
  nodup : (commands.filterMap Command.ticket?).Nodup
  ok : ∀ ticket ∈ commands.filterMap Command.ticket?,
    Handle.answer? seen ticket = some (.done (.ok ()))

namespace Attended

variable {c : Collaborators σ} {b : Bare σ (Hook κ)} {allowed : (σ → σ) → Prop}
  {commands : List (Command (Hook κ))} {h : Chronicle σ (Hook κ)}

/-- If all commands were granted, no waiting command has a ticket. -/
theorem waiting (hh : Attended c b allowed commands h) (hb : b.seen = [])
    (hgranted : Granted commands h.seen) :
    ∀ command ∈ h.task.commands, command.ticket? = none := by
  intro command hcommand
  cases hticket : command.ticket? with
  | none => rfl
  | some ticket =>
    have htickets := hh.tickets hb
    have hwaits : ticket ∈ h.task.commands.filterMap Command.ticket? :=
      List.mem_filterMap.2 ⟨command, hcommand, hticket⟩
    have hnodup := hgranted.nodup
    rw [← htickets, List.nodup_append] at hnodup
    have hanswer := hgranted.ok ticket (by rw [← htickets]; exact List.mem_append_right _ hwaits)
    have hanswered : ticket ∈ (Happening.answers h.seen).map (·.1) :=
      List.mem_map.2 ⟨_, Handle.mem_answers_of_answer? hanswer, rfl⟩
    exact absurd rfl (hnodup.2.2 ticket hanswered ticket hwaits)

/-- If all commands were granted, the machine has accepted the events of the `send` commands and was
handed the callbacks of all commands. -/
theorem accepted (hh : Attended c b allowed commands h) (hb : b.seen = [])
    (hgranted : Granted commands h.seen) :
    (b.history c h.handled).accepted = commands.filterMap Command.event? ∧
      (b.history c h.handled).entrusted = commands.flatMap Command.callbacks := by
  have hwaiting := hh.waiting hb hgranted
  have hevents : h.task.commands.filterMap Command.event? = [] :=
    List.filterMap_eq_nil_iff.2 fun command hcommand =>
      (Command.sends_nothing (hwaiting command hcommand)).1
  have hcallbacks : h.task.commands.flatMap Command.callbacks = [] :=
    List.flatMap_eq_nil_iff.2 fun command hcommand =>
      (Command.sends_nothing (hwaiting command hcommand)).2
  have htickets := hh.tickets hb
  rw [← hh.commands_eq, List.filterMap_append, List.flatMap_append, hevents, hcallbacks,
    List.append_nil, List.append_nil]
  -- An error among the answers would carry the ticket of one of the commands, all of which succeeded.
  refine ⟨Bare.accepted_history h.handled fun ticket e hmem => ?_,
    Bare.entrusted_history c b h.handled⟩
  rw [← hh.answers_eq] at hmem
  have hnodup := hgranted.nodup
  rw [← htickets] at hnodup
  have hfound := Handle.answer?_of_mem_answers (List.nodup_append.1 hnodup).1 hmem
  have hticket : ticket ∈ commands.filterMap Command.ticket? := by
    rw [← htickets]
    exact List.mem_append_left _ (List.mem_map.2 ⟨_, hmem, rfl⟩)
  rw [hgranted.ok ticket hticket] at hfound
  cases hfound

end Attended

theorem Trace.ended_outward (seen : List (Happening κ)) :
    Trace.ended (Happening.effects (outward seen)) = Trace.ended (Happening.effects seen) := by
  unfold outward Happening.effects Trace.ended
  rw [List.filterMap_filter, List.filterMap_filterMap, List.filterMap_filterMap]
  congr 1
  funext x
  unfold Happening.isOutward
  split <;> rfl

/-- The events of tracked payloads: payload `i` with the receipt `i` as its callback. -/
def trackedEvents (payloads : List Bytes) : List (QueuedEvent (Hook κ)) :=
  payloads.mapIdx fun i payload => ⟨payload, some (.receipt i)⟩

theorem map_payload_trackedEvents (payloads : List Bytes) :
    (trackedEvents payloads : List (QueuedEvent (Hook κ))).map (·.payload) = payloads :=
  List.ext_getElem (by simp [trackedEvents]) fun i _ _ => by simp [trackedEvents]

theorem map_callback_trackedEvents (payloads : List Bytes) :
    (trackedEvents payloads : List (QueuedEvent (Hook κ))).map (·.callback) =
      (List.range payloads.length).map fun i => some (.receipt i) :=
  List.ext_getElem (by simp [trackedEvents]) fun i _ _ => by simp [trackedEvents]

/-- The commands with a ticket send `payloads` in order, payload `i` under ticket `i` with receipt
`i`; no other command carries an event or a callback. -/
structure Tracks (commands : List (Command (Hook κ))) (payloads : List Bytes) : Prop where
  tickets : commands.filterMap Command.ticket? = List.range payloads.length
  events : commands.filterMap Command.event? = trackedEvents payloads
  callbacks : commands.flatMap Command.callbacks = (List.range payloads.length).map .receipt

namespace Tracks

variable {commands : List (Command (Hook κ))} {payloads : List Bytes}

theorem nil : Tracks ([] : List (Command (Hook κ))) [] :=
  ⟨rfl, rfl, rfl⟩

theorem observe (h : Tracks commands payloads) (occasion : Occasion) (hook : Hook κ) :
    Tracks (commands ++ [.observe occasion hook]) payloads := by
  refine ⟨?_, ?_, ?_⟩
  · rw [List.filterMap_append, h.tickets]
    exact List.append_nil _
  · rw [List.filterMap_append, h.events]
    exact List.append_nil _
  · rw [List.flatMap_append, h.callbacks]
    exact List.append_nil _

theorem send (h : Tracks commands payloads) (payload : Bytes) :
    Tracks (commands ++ [.request payloads.length (.send payload (some (.receipt payloads.length)))])
      (payloads ++ [payload]) := by
  refine ⟨?_, ?_, ?_⟩
  · rw [List.filterMap_append, h.tickets, List.length_append, List.length_singleton, List.range_succ]
    rfl
  · rw [List.filterMap_append, h.events, trackedEvents, trackedEvents, List.mapIdx_append]
    simp [Command.event?]
  · rw [List.flatMap_append, h.callbacks, List.length_append, List.length_singleton,
      List.range_succ, List.map_append]
    rfl

theorem granted (h : Tracks commands payloads) {seen : List (Happening (Hook κ))}
    (hok : ∀ i < payloads.length, Handle.answer? seen i = some (.done (.ok ()))) :
    Granted commands seen := by
  constructor
  · rw [h.tickets]
    exact List.nodup_range
  · rw [h.tickets]
    exact fun ticket hticket => hok ticket (List.mem_range.1 hticket)

end Tracks

/-- Every change of the collaborators among the steps of the messages is one of the messages. -/
theorem Bare.mem_of_drift_mem_steps {c : Collaborators σ} {b : Bare σ κ} {change : σ → σ}
    {messages : List (Message σ κ)} (h : .drift change ∈ b.steps c messages) :
    .drift change ∈ messages := by
  induction messages generalizing b with
  | nil => cases h
  | cons x rest ih =>
    obtain hfirst | hrest := List.mem_append.1 h
    · have hx : x.step? b.machine = some (.drift change) := Option.mem_toList.1 hfirst
      unfold Message.step? at hx
      split at hx
      case h_5 =>
        obtain rfl := Step.drift.inj (Option.some.inj hx)
        exact List.mem_cons_self
      all_goals cases hx
    · exact List.mem_cons_of_mem _ (ih hrest)

namespace Attended

variable {c : Collaborators σ} {deviceId : String} {policy : ConnectPolicy}
  {observers : Observers (Hook κ)} {world : σ} {allowed : (σ → σ) → Prop}
  {commands : List (Command (Hook κ))} {payloads : List Bytes} {h : Chronicle σ (Hook κ)}

/-- If every payload was accepted, the ledger has the payloads in order, and receipt `i` is the one
for the fate of entry `i`. -/
theorem receipts_eq (hh : Attended c ⟨.fresh deviceId policy observers, world, []⟩ allowed commands h)
    (htracks : Tracks commands payloads)
    (hok : ∀ i < payloads.length, Handle.answer? h.seen i = some (.done (.ok ()))) :
    let ledger := (Bare.history c ⟨.fresh deviceId policy observers, world, []⟩ h.handled).ledger
    ledger.map (·.event.payload) = payloads ∧
      h.seen.foldl Handle.fill (.replicate payloads.length .waiting) =
        ledger.map (·.fate.receipt) := by
  intro ledger
  let b : Bare σ (Hook κ) := ⟨.fresh deviceId policy observers, world, []⟩
  obtain ⟨haccepted, hentrusted⟩ := hh.accepted rfl (htracks.granted hok)
  rw [htracks.events] at haccepted
  rw [htracks.callbacks] at hentrusted
  constructor
  · have hevents : ledger.map Entry.event = (b.history c h.handled).accepted :=
      History.map_event_ledger _
    rw [haccepted] at hevents
    have hpayloads := congrArg (List.map QueuedEvent.payload) hevents
    rwa [List.map_map, map_payload_trackedEvents] at hpayloads
  · rw [← Handle.foldl_fill_outward, hh.outward_eq, Handle.foldl_fill_outward]
    refine receipts_eq_fates c world deviceId policy observers (b.steps c h.handled) ?_ ?_ hentrusted
    · exact (b.takeAll_live c h.handled).2
    · have hcallbacks := congrArg (List.map QueuedEvent.callback) haccepted
      exact hcallbacks.trans (map_callback_trackedEvents payloads)

/-- Only receipts of payloads sent so far are called or dropped. -/
theorem lt_of_mem_ended
    (hh : Attended c ⟨.fresh deviceId policy observers, world, []⟩ allowed commands h)
    (htracks : Tracks commands payloads) {i : Nat}
    (hi : .receipt i ∈ Trace.ended (Happening.effects h.seen)) : i < payloads.length := by
  let b : Bare σ (Hook κ) := ⟨.fresh deviceId policy observers, world, []⟩
  have heffects : Happening.effects (b.takeAll c h.handled).seen =
      (b.history c h.handled).flatMap (·.effects) := (b.takeAll_live c h.handled).2
  rw [← Trace.ended_outward, hh.outward_eq, Trace.ended_outward, heffects, ← History.ended_eq] at hi
  let kept := (live c (b.steps c h.handled) b.machine b.world).machine.callbacks
  have hcustody : (kept : Multiset (Hook κ)) + (b.history c h.handled).ended =
      0 + (b.history c h.handled).entrusted :=
    live_custody c (b.steps c h.handled) b.machine b.world List.nodup_nil
  have hgiven : .receipt i ∈ (b.history c h.handled).entrusted := by
    rw [← Multiset.mem_coe, ← Multiset.zero_add (Multiset.ofList _), ← hcustody]
    exact Multiset.mem_add.2 (.inr hi)
  rw [b.entrusted_history] at hgiven
  have hsent : .receipt i ∈ commands.flatMap Command.callbacks := by
    rw [← hh.commands_eq, List.flatMap_append]
    exact List.mem_append_left _ hgiven
  rw [htracks.callbacks] at hsent
  simpa using hsent

/-- If the provider numbers its messages and at most `UInt64.size / 2` payloads are sent, no entry is
displaced. -/
theorem count_displaced
    (hh : Attended c ⟨.fresh deviceId policy observers, world, []⟩ allowed commands h)
    (htracks : Tracks commands payloads) {nextId : σ → MessageId} (hc : c.Numbers nextId)
    (hallowed : ∀ change, allowed change → ∀ w, nextId (change w) = nextId w)
    (hworld : nextId world = Session.Row.id 0) (hfew : 2 * payloads.length ≤ UInt64.size) :
    (Bare.history c ⟨.fresh deviceId policy observers, world, []⟩ h.handled).ledger.count
      Fate.isDisplaced = 0 := by
  let b : Bare σ (Hook κ) := ⟨.fresh deviceId policy observers, world, []⟩
  -- Only the commands that were handled have called the machine, and each of them has its ticket.
  have hcalls := b.calls_history_le c h.handled
  have htickets :
      ((Message.commands h.handled).filterMap Command.ticket?).length ≤ payloads.length := by
    have hall := htracks.tickets
    rw [← hh.commands_eq, List.filterMap_append] at hall
    have hlength := congrArg List.length hall
    rw [List.length_append, List.length_range] at hlength
    omega
  refine live_count_displaced hc (b.steps c h.handled) ?_ deviceId policy observers hworld ?_
  · rintro s hs change rfl
    exact hallowed change (hh.drifts change (Bare.mem_of_drift_mem_steps hs))
  · exact Nat.le_trans (Nat.mul_le_mul_left 2 (Nat.le_trans hcalls htickets)) hfew

/-- If every payload was accepted and one more is sent, the only further answer is the one to that
send. -/
theorem ticket_of_answer {b : Bare σ (Hook κ)} (hb : b.seen = [])
    (hh : Attended c b allowed commands h) (htracks : Tracks commands payloads)
    (hok : ∀ i < payloads.length, Handle.answer? h.seen i = some (.done (.ok ())))
    {commands' : List (Command (Hook κ))} {payload : Bytes} {h' : Chronicle σ (Hook κ)}
    (hh' : Attended c b allowed commands' h') (htracks' : Tracks commands' (payloads ++ [payload]))
    {seen : List (Happening (Hook κ))} (hseen : h'.seen = h.seen ++ seen) :
    (Happening.answers h.seen).map (·.1) = List.range payloads.length ∧
      ∀ a ∈ Happening.answers seen, a.1 = payloads.length := by
  have hidle : h.task.commands.filterMap Command.ticket? = [] :=
    List.filterMap_eq_nil_iff.2 (hh.waiting hb (htracks.granted hok))
  have hbefore := hh.tickets hb
  rw [hidle, List.append_nil, htracks.tickets] at hbefore
  have hafter := hh'.tickets hb
  rw [hseen, Happening.answers_append, List.map_append, hbefore, htracks'.tickets, List.length_append,
    List.length_singleton, List.range_succ, List.append_assoc, List.append_cancel_left_eq] at hafter
  refine ⟨hbefore, fun a ha => ?_⟩
  have hmem : a.1 ∈ [payloads.length] := by
    rw [← hafter]
    exact List.mem_append_left _ (List.mem_map.2 ⟨a, ha, rfl⟩)
  exact List.mem_singleton.1 hmem

end Attended

end HubLink.Transport
