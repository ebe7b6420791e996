import HubLink.Proofs.Machine.Prompt
import HubLink.Proofs.Task.Lives
import HubLink.Transport.StandIn

namespace HubLink.Transport

variable {σ κ ε α : Type}

/-- With an empty mailbox, a snapshot shows the disconnected or the connected state and nothing in
flight; if `obliging`, it shows an empty queue, or the disconnected state under policy `never`. -/
theorem Machine.Quiet.snapshot {policy : ConnectPolicy} {obliging : Prop} {m : Machine κ}
    (h : m.Quiet policy obliging []) :
    (m.snapshot.state = .disconnected ∨ m.snapshot.state = .connected) ∧ m.snapshot.inFlight = 0 ∧
      (obliging → m.snapshot.pending = 0 ∨ policy = .never ∧ m.snapshot.state = .disconnected) := by
  obtain ⟨hstate, hinFlight⟩ := h.awaits.rests
  refine ⟨hstate, congrArg List.length hinFlight, fun hobliging => ?_⟩
  have hclear := h.clear hobliging
  obtain hdisconnected | hconnected := hstate
  · cases hpolicy : policy with
    | onSend =>
      have hpending := hclear.disconnected (h.policy_eq.trans hpolicy) hdisconnected
      exact .inl (congrArg List.length hpending)
    | never => exact .inr ⟨rfl, hdisconnected⟩
  · exact .inl (congrArg List.length (hclear.connected hconnected))

namespace Task

variable {fails : Effect κ → Option String} {c : Collaborators σ} {t t' : Task σ κ}
  {seen : List (Happening κ)}

theorem answer_not_mem_finish (t : Task σ κ) (phase : Phase) (ticket : Nat) (answer : Answer) :
    .answer ticket answer ∉ (t.finish phase).2 := by
  simp [finish]

theorem answer_not_mem_publishState (t : Task σ κ) (ticket : Nat) (answer : Answer) :
    .answer ticket answer ∉ t.publishState.2 := by
  unfold publishState
  split <;> simp

/-- A step that answers a snapshot finds an empty mailbox, answers with the snapshot of its machine,
and does nothing else. -/
theorem snapshot_of_step? (hopen : t.mailbox.isOpen = true) (h : t.step? fails c = some (t', seen))
    {ticket : Nat} {s : Snapshot} (hs : .answer ticket (.snapshot s) ∈ seen) :
    t.mailbox.queue = [] ∧ s = t.machine.snapshot ∧ seen = [.answer ticket (.snapshot s)] := by
  cases steps_of_step? h with
  | begin hphase => simp [Happening.remark] at hs
  | stop hphase hreceive hcommands hclosed =>
    simp [Happening.remark, answer_not_mem_finish] at hs
  | @notification hphase n mailbox hreceive =>
    unfold handleNotification at hs
    dsimp only at hs
    split at hs <;>
      simp [Happening.remark, answer_not_mem_finish, answer_not_mem_publishState] at hs
  | @command hphase hreceive command rest hcommands =>
    cases command with
    | request ticket request => simp [execute, answer_not_mem_publishState] at hs
    | observe occasion hook => cases hs
    | snapshot ticket' =>
      obtain ⟨rfl, rfl⟩ : ticket = ticket' ∧ s = t.machine.snapshot := by
        simpa [execute] using hs
      refine ⟨?_, rfl, rfl⟩
      cases hqueue : t.mailbox.queue with
      | nil => rfl
      | cons n rest =>
        rw [receive_of_open hopen, hqueue] at hreceive
        exact absurd rfl (hreceive n)

/-- A notification that the next step passes on is the head of the mailbox. -/
theorem queue_of_message? (hopen : t.mailbox.isOpen = true) {x : Message σ κ}
    (hx : t.message? = some x) :
    (∃ n rest, x = .notification n ∧ t.mailbox.queue = n :: rest) ∨
      ∃ command, x = .command command := by
  unfold message? at hx
  split at hx
  case h_2 => cases hx
  case h_1 =>
    rw [receive_of_open hopen] at hx
    cases hqueue : t.mailbox.queue with
    | cons n rest =>
      rw [hqueue] at hx
      exact .inl ⟨n, rest, (Option.some.inj hx).symm, rfl⟩
    | nil =>
      rw [hqueue] at hx
      cases hcommands : t.commands with
      | nil =>
        rw [hcommands] at hx
        cases hx
      | cons command rest =>
        rw [hcommands] at hx
        exact .inr ⟨command, (Option.some.inj hx).symm⟩

/-- With prompt collaborators, a message that the task passes on preserves `Machine.Quiet`. -/
theorem Takes.quiet {P : σ → Prop} {policy : ConnectPolicy} {obliging : Prop} {x : Message σ κ}
    (h : Takes c x t t' seen) (hx : t.message? = some x) (hopen : t.mailbox.isOpen = true)
    (hc : c.Prompt P obliging) (hw : P t.world)
    (hquiet : t.machine.Quiet policy obliging t.mailbox.queue) :
    P t'.world ∧ t'.machine.Quiet policy obliging t'.mailbox.queue := by
  have hqueue := h.queue
  obtain ⟨n, rest, rfl, hfirst⟩ | ⟨command, rfl⟩ := queue_of_message? hopen hx
  · obtain ⟨hmachine, hworld, hraised⟩ := h.of_step (s := .notify n) rfl
    rw [hfirst, hraised] at hqueue
    have hrest : t'.mailbox.queue =
        rest ++ Trace.raised ((Step.notify n).moment c t.machine t.world).1.effects :=
      (List.cons.inj hqueue).2
    rw [hmachine, hworld, hrest]
    rw [hfirst] at hquiet
    exact Machine.Quiet.step (s := .notify n) hc hw nofun hquiet
  · have hsame : t'.mailbox.queue = t.mailbox.queue ++ raisedIn seen := hqueue
    rw [hsame]
    cases hstep : Message.step? t.machine (.command command : Message σ κ) with
    | none =>
      obtain ⟨hmachine, hworld, hraised⟩ := h.of_no_step hstep
      rw [hmachine, hworld]
      exact ⟨hw, hquiet.mono _⟩
    | some s =>
      obtain ⟨hmachine, hworld, hraised⟩ := h.of_step hstep
      have hsilent : (∀ change, s ≠ .drift change) ∧ (s.moment c t.machine t.world).1.heard = [] := by
        cases command with
        | snapshot => cases hstep
        | _ =>
          obtain rfl := Option.some.inj hstep
          exact ⟨nofun, rfl⟩
      rw [hmachine, hworld, hraised]
      refine Machine.Quiet.step hc hw hsilent.1 ?_
      rw [hsilent.2]
      exact hquiet

end Task

/-- The invariant of a task with prompt collaborators: while it is alive, its mailbox is open, its
collaborators have property `P`, and its machine is quiet for the mailbox. -/
structure Chronicle.Quiet (P : σ → Prop) (policy : ConnectPolicy) (obliging : Prop)
    (h : Chronicle σ κ) : Prop where
  alive : h.task.isAlive = true → P h.task.world ∧ h.task.mailbox.isOpen = true ∧
    h.task.machine.Quiet policy obliging h.task.mailbox.queue
  snapshots : ∀ ticket s, .answer ticket (.snapshot s) ∈ h.seen →
    ∃ m : Machine κ, s = m.snapshot ∧ m.Quiet policy obliging []

namespace Chronicle.Quiet

variable {P : σ → Prop} {policy : ConnectPolicy} {obliging : Prop} {h : Chronicle σ κ}
  {fails : Effect κ → Option String} {c : Collaborators σ}

theorem snapshots_append (hq : h.Quiet P policy obliging) {seen : List (Happening κ)}
    (hseen : ∀ ticket s, .answer ticket (.snapshot s) ∈ seen →
      ∃ m : Machine κ, s = m.snapshot ∧ m.Quiet policy obliging []) :
    ∀ ticket s, .answer ticket (.snapshot s) ∈ h.seen ++ seen →
      ∃ m : Machine κ, s = m.snapshot ∧ m.Quiet policy obliging [] := by
  intro ticket s hs
  obtain hs | hs := List.mem_append.1 hs
  · exact hq.snapshots ticket s hs
  · exact hseen ticket s hs

theorem submit (hq : h.Quiet P policy obliging) (command : Command κ) :
    (h.move fails c (.submit command)).Quiet P policy obliging := by
  unfold Chronicle.move
  dsimp only
  split
  case isFalse => exact hq
  case isTrue =>
    unfold Task.submit
    split
    case isTrue halive =>
      refine ⟨fun _ => hq.alive halive, ?_⟩
      simpa using hq.snapshots
    case isFalse hdead =>
      refine ⟨fun halive => absurd halive hdead, hq.snapshots_append fun ticket s hs => ?_⟩
      simp at hs

theorem outside (hq : h.Quiet P policy obliging) (change : σ → σ × List Aside)
    (hchange : ∀ w, P w → P (change w).1) :
    (h.move fails c (.outside change)).Quiet P policy obliging := by
  obtain ⟨mailbox, htask, hmailbox⟩ :=
    Task.hear_task { h.task with world := (change h.task.world).1 } (change h.task.world).2
  unfold Chronicle.move
  dsimp only
  refine ⟨fun halive => ?_, hq.snapshots_append fun ticket s hs => ?_⟩
  · rw [htask] at halive ⊢
    obtain ⟨hworld, hopen, hquiet⟩ := hq.alive halive
    obtain rfl := hmailbox hopen
    exact ⟨hchange _ hworld, hopen, hquiet.mono _⟩
  · obtain ⟨remark, hremark⟩ := Task.hear_seen _ _ _ hs
    cases hremark

theorem work (hq : h.Quiet P policy obliging) (hc : c.Prompt P obliging) :
    (h.move fails c .work).Quiet P policy obliging := by
  unfold Chronicle.move
  dsimp only
  cases hstep : h.task.step? fails c with
  | none => exact hq
  | some next =>
    obtain ⟨task, seen⟩ := next
    have halive : h.task.isAlive = true := by
      cases Task.steps_of_step? hstep <;> simp_all [Task.isAlive]
    obtain ⟨hworld, hopen, hquiet⟩ := hq.alive halive
    refine ⟨fun hlater => ?_, hq.snapshots_append fun ticket s hs => ?_⟩
    · have hfailed (message : String) : task.phase ≠ .failed message := by
        intro hphase
        simp [Task.isAlive, hphase] at hlater
      cases Task.progress hopen hstep hfailed with
      | begin hphase => exact ⟨hworld, hopen, hquiet⟩
      | takes hphase hx htakes =>
        obtain ⟨hworld', hquiet'⟩ := htakes.quiet hx hopen hc hworld hquiet
        exact ⟨hworld', htakes.mailbox, hquiet'⟩
      | stop hphase hqueue hcommands hclosed => simp [Task.isAlive, Task.finish] at hlater
    · obtain ⟨hempty, rfl, -⟩ := Task.snapshot_of_step? hopen hstep hs
      rw [hempty] at hquiet
      exact ⟨h.task.machine, rfl, hquiet⟩

/-- All moves preserve the invariant, if outside changes preserve `P`. -/
theorem play (hq : h.Quiet P policy obliging) (hc : c.Prompt P obliging) (moves : List (Move σ κ))
    (hmoves : ∀ change, .outside change ∈ moves → ∀ w, P w → P (change w).1) :
    (h.play fails c moves).Quiet P policy obliging := by
  induction moves generalizing h with
  | nil => exact hq
  | cons m rest ih =>
    refine ih ?_ fun change hchange => hmoves change (List.mem_cons_of_mem m hchange)
    cases m with
    | submit command => exact hq.submit command
    | leave ticket => exact ⟨hq.alive, hq.snapshots⟩
    | outside change => exact hq.outside change (hmoves change (List.mem_cons_self ..))
    | work => exact hq.work hc
    | close => exact ⟨hq.alive, hq.snapshots⟩

theorem start (machine : Machine κ) (world : σ) (number : Nat) (hworld : P world)
    (hquiet : machine.Quiet policy obliging []) :
    (Chronicle.start machine world number).Quiet P policy obliging :=
  ⟨fun _ => ⟨hworld, rfl, hquiet⟩, fun _ _ hs => by cases hs⟩

end Chronicle.Quiet

namespace StandIn

/-- A change of a stand-in from outside. -/
inductive Touch where
  | raise (notification : Notification)
  /-- The stand-in starts or stops refusing requests of a kind. -/
  | refuse (kind : Refusable) (refuses : Bool)
  | reset
  deriving DecidableEq

/-- The stand-in after a touch, and the side effects of that. -/
def touch (s : StandIn) : Touch → StandIn × List Aside
  | .raise n => (s, [.raise n])
  | .refuse kind refuses => (s.refuse kind refuses, [])
  | .reset => (s.reset, [])

def touchAll (s : StandIn) : List Touch → StandIn × List Aside
  | [] => (s, [])
  | t :: rest =>
    let (s, asides) := s.touch t
    let (s, more) := s.touchAll rest
    (s, asides ++ more)

/-- The touches right before and right after the answer to one request. -/
structure Visit where
  before : List Touch := []
  after : List Touch := []
  deriving DecidableEq

/-- A stand-in with the visits of its coming requests, one for each request. -/
structure Visited where
  standIn : StandIn
  visits : List Visit
  deriving DecidableEq

namespace Visited

/-- Answers a request with the touches of the next visit around it. -/
def answer (reply : StandIn → Reply StandIn ε α) (w : Visited) : Reply Visited ε α :=
  let visit := w.visits.headD {}
  let (s, asides) := w.standIn.touchAll visit.before
  let answered := reply s
  let (s, more) := answered.world.touchAll visit.after
  { result := answered.result
    world := ⟨s, w.visits.tail⟩
    asides := asides ++ answered.asides ++ more }

/-- A visited stand-in as both collaborators of a machine. -/
def collaborators : Collaborators Visited where
  token := answer StandIn.token
  connect token := answer (StandIn.connect token)
  publish topic payload := answer (StandIn.publish topic payload)
  disconnect := answer StandIn.disconnect

end Visited

/-- Whether the touch makes the stand-in refuse publishes. -/
def Touch.spoils (t : Touch) : Bool :=
  t = .refuse .publish true

def Visit.spoils (visit : Visit) : Bool :=
  visit.before.any Touch.spoils || visit.after.any Touch.spoils

/-- The stand-in is responsive and, if `obliging`, does not refuse publishes. -/
def Willing (obliging : Prop) (s : StandIn) : Prop :=
  s.isResponsive = true ∧ (obliging → s.refusesPublish = false)

namespace Willing

variable {obliging : Prop} {s : StandIn}

theorem touch (h : s.Willing obliging) {t : Touch} (ht : obliging → t.spoils = false) :
    (s.touch t).1.Willing obliging := by
  cases t with
  | raise n => exact h
  | reset => exact h
  | refuse kind refuses =>
    cases kind with
    | connect => exact h
    | disconnect => exact h
    | publish =>
      refine ⟨h.1, fun hobliging => ?_⟩
      have hnot := ht hobliging
      cases refuses with
      | false => rfl
      | true => cases hnot

theorem touchAll (h : s.Willing obliging) {touches : List Touch}
    (ht : obliging → touches.any Touch.spoils = false) : (s.touchAll touches).1.Willing obliging := by
  induction touches generalizing s with
  | nil => exact h
  | cons t rest ih =>
    have hall (hobliging : obliging) : t.spoils = false ∧ rest.any Touch.spoils = false := by
      simpa using ht hobliging
    exact ih (h.touch fun hobliging => (hall hobliging).1) fun hobliging => (hall hobliging).2

end Willing

/-- The stand-in is willing and, if `obliging`, no coming visit makes it refuse publishes. -/
structure Visited.Willing (obliging : Prop) (w : Visited) : Prop where
  standIn : w.standIn.Willing obliging
  visits : obliging → ∀ visit ∈ w.visits, visit.spoils = false

namespace Visited

variable {obliging : Prop} {w : Visited}

theorem Willing.headD (h : w.Willing obliging) (hobliging : obliging) :
    (w.visits.headD {}).before.any Touch.spoils = false ∧
      (w.visits.headD {}).after.any Touch.spoils = false := by
  have hvisits := h.visits hobliging
  cases hlist : w.visits with
  | nil => exact ⟨rfl, rfl⟩
  | cons visit rest =>
    rw [hlist] at hvisits
    have hfirst := hvisits visit (List.mem_cons_self ..)
    simpa [Visit.spoils] using hfirst

/-- A visited answer has the result of the stand-in's own answer, raises at least its notifications,
and leaves the stand-in willing. -/
theorem Willing.answer (h : w.Willing obliging) {reply : StandIn → Reply StandIn ε α}
    (hreply : ∀ s : StandIn, s.Willing obliging → (reply s).world.Willing obliging) :
    (Visited.answer reply w).world.Willing obliging ∧
      ∃ s : StandIn, s.Willing obliging ∧ (Visited.answer reply w).result = (reply s).result ∧
        ∀ n ∈ notifications (reply s).asides, n ∈ notifications (Visited.answer reply w).asides := by
  have hbefore := h.standIn.touchAll fun hobliging => (h.headD hobliging).1
  have hafter := (hreply _ hbefore).touchAll fun hobliging => (h.headD hobliging).2
  refine ⟨⟨hafter, fun hobliging visit hvisit => ?_⟩, _, hbefore, rfl, fun n hn => ?_⟩
  · exact h.visits hobliging visit (List.mem_of_mem_tail hvisit)
  · simp only [Visited.answer, notifications_append]
    exact List.mem_append_left _ (List.mem_append_right _ hn)

theorem Willing.echoes (h : w.Willing obliging) {reply : StandIn → Reply StandIn ε α}
    {echo : α → Notification}
    (hreply : ∀ s : StandIn, s.Willing obliging →
      (reply s).world.Willing obliging ∧ (reply s).Echoes echo) :
    (Visited.answer reply w).world.Willing obliging ∧ (Visited.answer reply w).Echoes echo := by
  obtain ⟨hworld, s, hs, hresult, hraised⟩ := h.answer fun s hs => (hreply s hs).1
  refine ⟨hworld, fun a ha => hraised _ ((hreply s hs).2 a ?_)⟩
  rw [← hresult, ha]

end Visited

namespace Willing

variable {obliging : Prop} {s : StandIn}

theorem token (h : s.Willing obliging) : s.token.world.Willing obliging := by
  unfold StandIn.token
  cases s.tokens with
  | fixed token => exact h
  | badKey => exact h
  | signer signer now =>
    dsimp only [signedReply]
    split <;> exact h

/-- A responsive stand-in that accepts a request raises its notification beside the answer. -/
theorem accept (h : s.Willing obliging) (a : α) (n : Notification) {echo : α → Notification}
    (hecho : echo a = n) : (s.accept a n).world.Willing obliging ∧ (s.accept a n).Echoes echo := by
  refine ⟨h, fun a' ha => ?_⟩
  obtain rfl := Except.ok.inj ha
  simp [StandIn.accept, h.1, hecho]

theorem connect (h : s.Willing obliging) (token : String) :
    (StandIn.connect token s).world.Willing obliging ∧
      (StandIn.connect token s).Echoes fun _ => .connected := by
  unfold StandIn.connect
  split
  · exact ⟨h, nofun⟩
  · exact h.accept () .connected rfl

theorem publish (h : s.Willing obliging) (topic : String) (payload : Bytes) :
    (StandIn.publish topic payload s).world.Willing obliging ∧
      (StandIn.publish topic payload s).Echoes .published := by
  unfold StandIn.publish
  split
  · exact ⟨h, nofun⟩
  · have hnext : ({ s with nextId := s.nextId.next } : StandIn).Willing obliging := h
    exact hnext.accept s.nextId (.published s.nextId) rfl

theorem disconnect (h : s.Willing obliging) :
    s.disconnect.world.Willing obliging ∧ s.disconnect.Echoes fun _ => .disconnected := by
  unfold StandIn.disconnect
  split
  · exact ⟨h, nofun⟩
  · exact h.accept () .disconnected rfl

end Willing

/-- A visited willing stand-in is prompt. -/
theorem Visited.prompt (obliging : Prop) :
    Visited.collaborators.Prompt (Visited.Willing obliging) obliging where
  token _ hw := (hw.answer fun _ hs => hs.token).1
  connect token _ hw := hw.echoes fun _ hs => hs.connect token
  publish topic payload w hw := by
    obtain ⟨hworld, hecho⟩ := hw.echoes fun _ hs => hs.publish topic payload
    refine ⟨hworld, hecho, fun hobliging => ?_⟩
    obtain ⟨-, s, hs, hresult, -⟩ := hw.answer fun s hs => (hs.publish topic payload).1
    have hpublish : (StandIn.publish topic payload s).result = .ok s.nextId := by
      simp [StandIn.publish, hs.2 hobliging, StandIn.accept]
    exact congrArg Except.isOk (hresult.trans hpublish)
  disconnect _ hw := hw.echoes fun _ hs => hs.disconnect

/-- One move of a trial of a task with a visited stand-in. -/
inductive Trial (κ : Type) where
  | submit (command : Command κ)
  /-- A caller stops waiting for its answer. -/
  | leave (ticket : Nat)
  | touch (touch : Touch)
  /-- The task takes a step, if it can. -/
  | work
  /-- The handle is dropped. -/
  | close

/-- The move of the task that a trial move stands for. -/
def Trial.move : Trial κ → Move Visited κ
  | submit command => .submit command
  | leave ticket => .leave ticket
  | touch t => .outside fun w => (⟨(w.standIn.touch t).1, w.visits⟩, (w.standIn.touch t).2)
  | work => .work
  | close => .close

/-- Whether the move makes the stand-in refuse publishes. -/
def Trial.spoils : Trial κ → Bool
  | touch t => t.spoils
  | _ => false

/-- With a responsive stand-in, every snapshot answered after any trial moves shows the disconnected
or the connected state and nothing in flight. If no move and no visit makes the stand-in refuse
publishes, it also shows an empty queue, or the disconnected state under policy `never`. Touches may
come between the steps of the task and around every answer of the stand-in, and hooks may fail. -/
theorem snapshots_at_rest (fails : Effect κ → Option String) (deviceId : String)
    (policy : ConnectPolicy) (observers : Observers κ) (tokens : TokenSource) (visits : List Visit)
    (number : Nat) (trials : List (Trial κ)) :
    let h := Chronicle.play fails Visited.collaborators (trials.map Trial.move)
      (.start (.fresh deviceId policy observers) ⟨{ tokens, isResponsive := true }, visits⟩ number)
    ∀ ticket s, .answer ticket (.snapshot s) ∈ h.seen →
      (s.state = .disconnected ∨ s.state = .connected) ∧ s.inFlight = 0 ∧
        ((∀ visit ∈ visits, visit.spoils = false) → (∀ trial ∈ trials, trial.spoils = false) →
          s.pending = 0 ∨ policy = .never ∧ s.state = .disconnected) := by
  intro h ticket s hs
  let obliging : Prop :=
    (∀ visit ∈ visits, visit.spoils = false) ∧ ∀ trial ∈ trials, trial.spoils = false
  have hfresh : (Machine.fresh deviceId policy observers).Quiet policy obliging [] :=
    ⟨rfl, ⟨nofun, nofun, nofun⟩, fun _ => ⟨fun _ _ => rfl, nofun⟩⟩
  have hwilling : Visited.Willing obliging ⟨{ tokens, isResponsive := true }, visits⟩ :=
    ⟨⟨rfl, fun _ => rfl⟩, fun hobliging => hobliging.1⟩
  -- Outside of the task only the trials change the stand-in, and they leave it responsive.
  have hmoves (change : Visited → Visited × List Aside)
      (hchange : .outside change ∈ trials.map Trial.move) (w : Visited) (hw : w.Willing obliging) :
      (change w).1.Willing obliging := by
    obtain ⟨trial, htrial, hmove⟩ := List.mem_map.1 hchange
    cases trial with
    | touch t =>
      obtain rfl := Move.outside.inj hmove
      exact ⟨hw.standIn.touch fun hobliging => hobliging.2 _ htrial, hw.visits⟩
    | _ => cases hmove
  have hquiet : h.Quiet (Visited.Willing obliging) policy obliging :=
    (Chronicle.Quiet.start _ _ number hwilling hfresh).play (Visited.prompt obliging) _ hmoves
  obtain ⟨m, rfl, hm⟩ := hquiet.snapshots ticket s hs
  obtain ⟨hstate, hinFlight, hpending⟩ := hm.snapshot
  exact ⟨hstate, hinFlight, fun hvisits htrials => hpending ⟨hvisits, htrials⟩⟩

/-- A send starts a connection, and a snapshot is requested while the mailbox still holds
`connected`. -/
def connectingTrials : List (Trial Nat) :=
  [.work, .submit (.request 0 (.send [1] (some 7))), .work, .submit (.snapshot 1), .work, .work,
    .work, .work]

/-- The answer to the connect request also raises the acknowledgement of a message that is not in
flight. -/
def strayVisits : List Visit :=
  [{}, { after := [.raise (.published ⟨5⟩)] }]

theorem snapshots_at_rest_connecting :
    let h := Chronicle.play (fun _ => none) Visited.collaborators (connectingTrials.map Trial.move)
      (.start (.fresh "d" .onSend {})
        ⟨{ tokens := .fixed "t", isResponsive := true }, strayVisits⟩ 0)
    (∀ visit ∈ strayVisits, visit.spoils = false) ∧
      (∀ trial ∈ connectingTrials, trial.spoils = false) ∧
      ∃ s, .answer 1 (.snapshot s) ∈ h.seen ∧ s.state = .connected ∧ s.inFlight = 0 ∧
        s.pending = 0 := by
  intro h
  have hvisits : ∀ visit ∈ strayVisits, visit.spoils = false := by decide
  have htrials : ∀ trial ∈ connectingTrials, trial.spoils = false := by
    simp [connectingTrials, Trial.spoils]
  have hs : .answer 1 (.snapshot h.task.machine.snapshot) ∈ h.seen := by
    have hlast : h.seen[20]? = some (.answer 1 (.snapshot h.task.machine.snapshot)) := by rfl
    exact List.mem_of_getElem? hlast
  have hstate : h.task.machine.snapshot.state = .connected := by rfl
  obtain ⟨-, hinFlight, hpending⟩ := snapshots_at_rest (fun _ => none) "d" .onSend {} (.fixed "t")
    strayVisits 0 connectingTrials 1 _ hs
  refine ⟨hvisits, htrials, _, hs, hstate, hinFlight, ?_⟩
  obtain hnone | ⟨hnever, -⟩ := hpending hvisits htrials
  · exact hnone
  · cases hnever

end StandIn

end HubLink.Transport
