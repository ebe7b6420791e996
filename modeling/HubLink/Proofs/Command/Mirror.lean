import HubLink.Proofs.Command.Report
import HubLink.Proofs.Task.Tickets

namespace HubLink.Command

open Session Transport Mqtt

/-- What the network does to the link of a device. -/
inductive LinkNews where
  | onLink (change : Connection → Connection × List Aside)
  /-- The broker reads a packet. -/
  | read

/-- A device with the changes of its link. -/
def Setting.device : Setting Device LinkNews where
  collaborators := Device.collaborators
  goOn
    | .onLink change => Device.onLink change
    | .read => fun d => (d.readDue.2, [])

namespace Setting

/-- Changes of the link do not change the message count. -/
theorem numbers_device : Setting.device.Numbers (·.provider.nextId) where
  collaborators := Device.numbers
  goOn news d := by
    cases news with
    | onLink change =>
      simp only [device, Device.onLink, Provider.onLink]
      split <;> rfl
    | read =>
      simp only [device, Device.readDue, Provider.readDue]
      split
      · rfl
      · split <;> rfl

variable {σ ν : Type} (s : Setting σ ν)

theorem pass_append (first more : List (Turn ν)) (h : Chronicle σ (Hook Unit)) :
    s.pass (first ++ more) h = s.pass more (s.pass first h) := by
  rw [pass, List.map_append, Chronicle.play, List.foldl_append]
  rfl

end Setting

/-- The single ticket under which a handle submits all its commands. -/
def onlyTicket (_ : Nat) : Nat :=
  0

/-- The handle's task is that of the chronicle with all tickets replaced by 0, and its receipts are
those of the first `count` messages. -/
structure Mirrors (k : Handle Device Unit) (h : Chronicle Device (Hook Unit)) (count : Nat) : Prop where
  task : k.task = h.task.relabel onlyTicket
  receipts : k.receipts = receiptsOf h.seen count

namespace Mirrors

variable {k : Handle Device Unit} {h h' : Chronicle Device (Hook Unit)} {count : Nat}

theorem update (hm : Mirrors k h count) {step : Task Device (Hook Unit) × List (Happening (Hook Unit))}
    (htask : h'.task = step.1) (hseen : h'.seen = h.seen ++ step.2) :
    Mirrors (k.update (step.1.relabel onlyTicket) (step.2.map (Happening.relabel onlyTicket))) h'
      count := by
  refine ⟨by rw [htask]; rfl, ?_⟩
  rw [Handle.update, Handle.foldl_fill_relabel, hm.receipts, receiptsOf, receiptsOf, hseen,
    List.foldl_append]

theorem settle (hm : Mirrors k h count) :
    ∃ turns seen, (Setting.device.pass turns h).seen = h.seen ++ seen ∧
      Mirrors (k.settle Scene.fails Device.collaborators).1 (Setting.device.pass turns h) count ∧
      (k.settle Scene.fails Device.collaborators).2 = seen.map (Happening.relabel onlyTicket) := by
  have hstep : k.task.settle Scene.fails Device.collaborators =
      Task.relabelStep onlyTicket (h.task.settle Scene.fails Device.collaborators) := by
    rw [hm.task, Task.settle_relabel]
  have hpass : Setting.device.pass (.replicate h.task.budget .work) h =
      h.play Scene.fails Device.collaborators (.replicate h.task.budget .work) := by
    rw [Setting.pass, List.map_replicate]
    rfl
  obtain ⟨htask, hseen⟩ := Chronicle.play_work Scene.fails Device.collaborators h.task.budget h
  refine ⟨.replicate h.task.budget .work, (h.task.settle Scene.fails Device.collaborators).2, ?_⟩
  rw [hpass, Handle.settle, hstep]
  exact ⟨hseen, hm.update htask hseen, rfl⟩

theorem submit (hm : Mirrors k h count) (hopen : h.task.isOpen = true) (command : Command (Hook Unit)) :
    ∃ seen, (Setting.device.submit command h).seen = h.seen ++ seen ∧
      Mirrors (k.submit (command.relabel onlyTicket)).1 (Setting.device.submit command h) count ∧
      (k.submit (command.relabel onlyTicket)).2 = seen.map (Happening.relabel onlyTicket) := by
  have hstep : k.task.submit (command.relabel onlyTicket) =
      Task.relabelStep onlyTicket (h.task.submit command) := by
    rw [hm.task, Task.submit_relabel]
  have hmove : (Setting.device.submit command h).task = (h.task.submit command).1 ∧
      (Setting.device.submit command h).seen = h.seen ++ (h.task.submit command).2 := by
    rw [Setting.submit, Chronicle.move, if_pos hopen]
    exact ⟨rfl, rfl⟩
  refine ⟨(h.task.submit command).2, hmove.2, ?_⟩
  rw [Handle.submit, hstep]
  exact ⟨hm.update hmove.1 hmove.2, rfl⟩

theorem outside (hm : Mirrors k h count) (change : Connection → Connection × List Aside) :
    ∃ turns, Mirrors (k.outside Scene.fails Device.collaborators (Device.onLink change)).1
      (Setting.device.pass turns h) count := by
  let heard := { h.task with world := (Device.onLink change h.task.world).1 }.hear
    (Device.onLink change h.task.world).2
  have hstep : ({ k.task with world := (Device.onLink change k.task.world).1 } :
      Task Device (Hook Unit)).hear (Device.onLink change k.task.world).2 =
      Task.relabelStep onlyTicket heard := by
    rw [hm.task]
    exact Task.hear_relabel { h.task with world := (Device.onLink change h.task.world).1 } _
  have hfirst : Mirrors
      (k.update (heard.1.relabel onlyTicket) (heard.2.map (Happening.relabel onlyTicket)))
      (Setting.device.pass [.news (.onLink change)] h) count := hm.update rfl rfl
  obtain ⟨turns, -, -, hsettled, -⟩ := hfirst.settle
  refine ⟨.news (.onLink change) :: turns, ?_⟩
  simp only [Handle.outside, hstep]
  exact hsettled

theorem read (hm : Mirrors k h count) :
    Mirrors { k with task := { k.task with world := k.task.world.readDue.2 } }
      (Setting.device.pass [.news .read] h) count := by
  refine ⟨?_, ?_⟩
  · rw [hm.task]
    rfl
  · refine hm.receipts.trans ?_
    exact congrArg (receiptsOf · count) (List.append_nil h.seen).symm

end Mirrors

section

variable {scene : Scene} {h : Chronicle Device (Hook Unit)} {count : Nat}

theorem Mirrors.onLink (hm : Mirrors scene.handle h count)
    (change : Connection → Connection × List Aside) :
    ∃ turns, Mirrors (scene.onLink change).handle (Setting.device.pass turns h) count :=
  hm.outside change

/-- A reaction of a broker corresponds to a list of turns. -/
theorem Mirrors.react (hm : Mirrors scene.handle h count) (reaction : Reaction) :
    ∃ turns, Mirrors (scene.react reaction).handle (Setting.device.pass turns h) count := by
  cases reaction with
  | accept => exact hm.onLink Connection.accept
  | refuse code => exact hm.onLink (·.refuse code)
  | acknowledge id => exact hm.onLink (·.receive (pubAckBytes id))
  | close => exact hm.onLink Connection.fail
  | interrupt => exact ⟨[], hm⟩

theorem Mirrors.reactAll (hm : Mirrors scene.handle h count) (reactions : List Reaction) :
    ∃ turns, Mirrors (reactions.foldl Scene.react scene).handle (Setting.device.pass turns h) count := by
  induction reactions generalizing scene h with
  | nil => exact ⟨[], hm⟩
  | cons reaction rest ih =>
    obtain ⟨first, hfirst⟩ := hm.react reaction
    obtain ⟨more, hmore⟩ := ih hfirst
    refine ⟨first ++ more, ?_⟩
    rw [Setting.pass_append]
    exact hmore

theorem Mirrors.serve (hm : Mirrors scene.handle h count) (b : Broker) (n : Nat) :
    ∃ turns, Mirrors (Scene.serve b n scene).handle (Setting.device.pass turns h) count := by
  induction n generalizing scene h with
  | zero => exact ⟨[], hm⟩
  | succ n ih =>
    unfold Scene.serve
    split
    case isTrue => exact ⟨[], hm⟩
    case isFalse =>
      split
      case h_1 => exact ⟨[], hm⟩
      case h_2 packet world hread =>
        have hworld : world = scene.handle.task.world.readDue.2 := by rw [hread]
        have hreads : Mirrors (scene.read packet world).handle (Setting.device.pass [.news .read] h)
            count := by
          rw [hworld]
          exact hm.read
        obtain ⟨first, hfirst⟩ := hreads.reactAll (b.react scene.messages packet)
        obtain ⟨more, hmore⟩ := ih hfirst
        refine ⟨[.news .read] ++ (first ++ more), ?_⟩
        rw [Setting.pass_append, Setting.pass_append]
        exact hmore

/-- Letting the network act corresponds to a list of turns. -/
theorem Mirrors.settleNetwork (hm : Mirrors scene.handle h count) (network : Network) (bound : Nat) :
    ∃ turns, Mirrors (scene.settle network bound).handle (Setting.device.pass turns h) count := by
  cases network with
  | broker b => exact hm.serve b bound
  | unreachable =>
    by_cases hbound : bound = 0
    · refine ⟨[], ?_⟩
      rw [Scene.settle, if_pos hbound]
      exact hm
    · rw [Scene.settle, if_neg hbound]
      exact hm.onLink Connection.fail

/-- Setting an observer corresponds to submitting the command and a list of turns. -/
theorem Mirrors.observe (hm : Mirrors scene.handle h count) (hopen : h.task.isOpen = true)
    (occasion : Occasion) :
    ∃ turns, Mirrors (scene.call (.observe occasion ())).2.handle
      (Setting.device.pass turns (Setting.device.submit (.observe occasion (.own ())) h)) count := by
  obtain ⟨-, -, hsubmitted, -⟩ := hm.submit hopen (.observe occasion (.own ()))
  obtain ⟨turns, -, -, hsettled, -⟩ := hsubmitted.settle
  exact ⟨turns, hsettled⟩

end

section

variable {config : Config} {signer : Credential.Signer} {now : Int64}

/-- The device before the first move. -/
def newDevice (config : Config) (signer : Credential.Signer) (now : Int64) : Device where
  provider := { options := .ofConfig config signer }
  signer := signer
  now := now

/-- The handle at the start of the command corresponds to a prepared task. -/
theorem mirrors_start (config : Config) (signer : Credential.Signer) (now : Int64) :
    ∃ opening : Occasion → List (Turn LinkNews), ∀ schedule : Schedule LinkNews,
      schedule.opening = opening →
      Mirrors (Scene.start config signer now).handle
        (Setting.device.prepare schedule (machineOf config signer) (newDevice config signer now)) 0 := by
  let b : Bare Device (Hook Unit) := ⟨machineOf config signer, newDevice config signer now, []⟩
  let first : Scene := { handle := .ofMachine (machineOf config signer) (newDevice config signer now) 0 }
  let begun : Chronicle Device (Hook Unit) := .start b.machine b.world 0
  let ask (occasion : Occasion) (turns : List (Turn LinkNews)) (h : Chronicle Device (Hook Unit)) :=
    Setting.device.pass turns (Setting.device.submit (.observe occasion (.own ())) h)
  have hasks (occasion : Occasion) {scene : Scene} {h : Chronicle Device (Hook Unit)}
      (hm : Mirrors scene.handle h 0) (hsent : Setting.device.HasSent b [] h) :
      ∃ turns, Mirrors (scene.call (.observe occasion ())).2.handle (ask occasion turns h) 0 ∧
        Setting.device.HasSent b [] (ask occasion turns h) := by
    obtain ⟨turns, hmirrors⟩ := hm.observe hsent.isOpen occasion
    exact ⟨turns, hmirrors, (hsent.ask occasion).pass turns⟩
  have hfirst : Mirrors first.handle begun 0 := ⟨rfl, rfl⟩
  have hbegun : Setting.device.HasSent b [] begun :=
    ⟨[], .start _ Setting.device.Drifts b.machine b.world 0, .nil⟩
  -- Each request to observe has turns of its own, which depend on those before.
  obtain ⟨connected, hconnected, hsent⟩ := hasks .connected hfirst hbegun
  obtain ⟨disconnected, hdisconnected, hsent⟩ := hasks .disconnected hconnected hsent
  obtain ⟨abandoned, habandoned, -⟩ := hasks .abandoned hdisconnected hsent
  refine ⟨fun
    | .connected => connected
    | .disconnected => disconnected
    | _ => abandoned, fun schedule hschedule => ?_⟩
  have hprepare : Setting.device.prepare schedule b.machine b.world =
      ask .abandoned abandoned (ask .disconnected disconnected (ask .connected connected begun)) := by
    simp only [Setting.prepare, Scene.observed, List.foldl_cons, List.foldl_nil, Setting.observe,
      hschedule]
    rfl
  have hstart : Scene.start config signer now =
      Scene.observed.foldl (fun s occasion => (s.call (.observe occasion ())).2) first := rfl
  rw [hprepare, hstart]
  simp only [Scene.observed, List.foldl_cons, List.foldl_nil]
  exact habandoned

/-- The chronicle of a new task that was sent the given payloads. -/
abbrev HasSentAnew (config : Config) (signer : Credential.Signer) (now : Int64) (payloads : List Bytes)
    (h : Chronicle Device (Hook Unit)) : Prop :=
  Setting.device.HasSent ⟨machineOf config signer, newDevice config signer now, []⟩ payloads h

variable {scene : Scene} {h : Chronicle Device (Hook Unit)} {payloads : List Bytes}

/-- The answer to the last message is the same under its replaced ticket. -/
theorem Setting.HasSent.answer?_relabel {σ ν : Type} {s : Setting σ ν} {b : Bare σ (Hook Unit)}
    {h h' : Chronicle σ (Hook Unit)} {payload : Bytes} {seen : List (Happening (Hook Unit))}
    (hsent : s.HasSent b payloads h) (hb : b.seen = []) (haccepted : Accepted h.seen payloads.length)
    (hsent' : s.HasSent b (payloads ++ [payload]) h') (hseen : h'.seen = h.seen ++ seen) :
    Handle.answer? (seen.map (Happening.relabel onlyTicket)) 0 =
      Handle.answer? h'.seen payloads.length := by
  obtain ⟨commands, hattended, htracks⟩ := hsent
  obtain ⟨commands', hattended', htracks'⟩ := hsent'
  obtain ⟨hbefore, hticket⟩ :=
    Attended.ticket_of_answer hb hattended htracks haccepted hattended' htracks' hseen
  have hnone : Handle.answer? h.seen payloads.length = none := by
    cases hfound : Handle.answer? h.seen payloads.length with
    | none => rfl
    | some a =>
      have hmem : payloads.length ∈ List.range payloads.length := by
        rw [← hbefore]
        exact List.mem_map.2 ⟨_, Handle.mem_answers_of_answer? hfound, rfl⟩
      exact absurd (List.mem_range.1 hmem) (Nat.lt_irrefl _)
  rw [hseen, Handle.answer?_append, hnone, Option.none_or]
  exact Handle.answer?_relabel (f := onlyTicket) hticket

/-- Appending a waiting receipt extends the correspondence by one message. -/
theorem Mirrors.addReceipt (hm : Mirrors scene.handle h payloads.length)
    (hsent : HasSentAnew config signer now payloads h) :
    Mirrors { scene.handle with receipts := scene.handle.receipts ++ [.waiting] } h
      (payloads.length + 1) := by
  refine ⟨hm.task, ?_⟩
  obtain ⟨commands, hattended, htracks⟩ := hsent
  have hnew : .receipt (List.replicate payloads.length Receipt.waiting).length ∉
      Trace.ended (Happening.effects h.seen) := by
    intro hmem
    rw [List.length_replicate] at hmem
    exact absurd (hattended.lt_of_mem_ended htracks hmem) (Nat.lt_irrefl _)
  change scene.handle.receipts ++ [.waiting] = _
  rw [hm.receipts, receiptsOf, receiptsOf, List.replicate_succ', Handle.foldl_fill_concat _ hnew]

/-- The outcome of a tracked send, given the answer. -/
def outcomeOf (receipt : Nat) : Option Answer → Transport.Outcome
  | some (.done (.ok ())) => .tracked receipt
  | some (.done (.error e)) => .done (.error e)
  | _ => .closed

theorem outcomeOf_eq_closed (receipt : Nat) {answer : Option Answer}
    (h : ∀ given, answer ≠ some (.done given)) : outcomeOf receipt answer = .closed := by
  unfold outcomeOf
  split
  case h_1 => exact absurd rfl (h _)
  case h_2 => exact absurd rfl (h _)
  case h_3 => rfl

theorem outcome_tracked (k : Handle Device Unit) (seen : List (Happening (Hook Unit)))
    (ticket receipt : Nat) :
    Handle.Pending.outcome k seen (.tracked ticket receipt) =
      outcomeOf receipt (Handle.answer? seen ticket) := by
  rcases hanswer : Handle.answer? seen ticket with _ | (result | snapshot)
  · simp only [Handle.Pending.outcome, hanswer, outcomeOf]
  · cases result <;> simp only [Handle.Pending.outcome, hanswer, outcomeOf]
  · simp only [Handle.Pending.outcome, hanswer, outcomeOf]

/-- The outcome of a tracked send is that of the answer among the happenings until the task has
settled. -/
theorem outcome_sendTracked (scene : Scene) (payload : Bytes) :
    let n := scene.handle.receipts.length
    let sent := ({ scene.handle with receipts := scene.handle.receipts ++ [.waiting] } :
      Handle Device Unit).submit (.request 0 (.send payload (some (.receipt n))))
    let settled := sent.1.settle Scene.fails Device.collaborators
    (scene.call (.sendTracked payload)).1 =
      Handle.Pending.outcome settled.1 ((sent.2 ++ []) ++ settled.2) (.tracked 0 n) :=
  rfl

/-- A tracked send corresponds to submitting the command and a list of turns, with the same
outcome. -/
theorem Mirrors.call (hm : Mirrors scene.handle h payloads.length)
    (hsent : HasSentAnew config signer now payloads h) (haccepted : Accepted h.seen payloads.length)
    (message : String) :
    ∃ turns,
      let h' := Setting.device.pass turns
        (Setting.device.submit (trackedCommand payloads.length message) h)
      Mirrors (scene.call (.sendTracked (Text.utf8 message))).2.handle h' (payloads.length + 1) ∧
        (scene.call (.sendTracked (Text.utf8 message))).1 =
          outcomeOf payloads.length (Handle.answer? h'.seen payloads.length) := by
  have hlength : scene.handle.receipts.length = payloads.length := by
    rw [hm.receipts, receiptsOf, Handle.length_foldl_fill, List.length_replicate]
  have hcommand : (trackedCommand payloads.length message).relabel onlyTicket =
      .request 0 (.send (Text.utf8 message) (some (.receipt scene.handle.receipts.length))) := by
    rw [hlength]
    rfl
  obtain ⟨first, hfirst, hsubmitted, hsubmit⟩ :=
    (hm.addReceipt hsent).submit hsent.isOpen (trackedCommand payloads.length message)
  obtain ⟨turns, second, hsecond, hsettled, hsettle⟩ := hsubmitted.settle
  rw [hcommand] at hsubmitted hsubmit hsettled hsettle
  refine ⟨turns, hsettled, ?_⟩
  -- The handle sees the answer to its own command only, the chronicle all that were ever given.
  have hseen := hsecond
  rw [hfirst, List.append_assoc] at hseen
  have hanswer := hsent.answer?_relabel rfl haccepted ((hsent.send message).pass turns) hseen
  rw [outcome_sendTracked, hsubmit, hsettle, List.append_nil, ← List.map_append, outcome_tracked,
    hlength, hanswer]

end

end HubLink.Command
