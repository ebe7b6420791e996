import HubLink.Proofs.Machine.Outcomes
import HubLink.Proofs.Machine.Passage
import Mathlib.Algebra.Ring.Nat
import Mathlib.Data.List.DropRight

namespace HubLink.Transport

variable {σ κ : Type}

/-- One step of a run: a request, a notification, a new set of observers, or a change of the
collaborators. -/
inductive Step (σ κ : Type) where
  | call (request : Request κ)
  | notify (notification : Notification)
  /-- The application replaces the observers. -/
  | observe (observers : Observers κ)
  /-- The collaborators change their state by themselves. -/
  | drift (change : σ → σ)

/-- Takes a step; only a request can return an error. -/
def Step.take (c : Collaborators σ) (s : Step σ κ) (r : Run σ κ) :
    Except TransportError Unit × Run σ κ :=
  match s with
  | .call request => r.perform c request
  | .notify n => (.ok (), r.handle c n)
  | .observe observers => (.ok (), { r with machine := { r.machine with observers } })
  | .drift change => (.ok (), { r with world := change r.world })

/-- A step with its answer and its effects, between the machine before and after it. -/
structure Moment (σ κ : Type) where
  before : Machine κ
  step : Step σ κ
  result : Except TransportError Unit
  effects : Trace κ
  after : Machine κ

/-- The moment of a step, and the state of the collaborators after it. -/
def Step.moment (c : Collaborators σ) (s : Step σ κ) (m : Machine κ) (w : σ) : Moment σ κ × σ :=
  let (result, r) := s.take c { machine := m, world := w }
  (⟨m, s, result, r.effects, r.machine⟩, r.world)

namespace Moment

/-- The events that a moment accepts. -/
def accepted (x : Moment σ κ) : List (QueuedEvent κ) :=
  match x.step with
  | .call request => request.accepted x.before x.result
  | _ => []

/-- The identity that a moment acknowledges. -/
def acknowledged (x : Moment σ κ) : List MessageId :=
  match x.step with
  | .notify (.published id) => [id]
  | _ => []

/-- Whether the connection is lost at a moment: a disconnect notification in any state but
disconnected. -/
def isLoss (x : Moment σ κ) : Bool :=
  match x.step with
  | .notify .disconnected => x.before.state != .disconnected
  | _ => false

/-- A moment without a loss: the queue with the accepted events is `sent` followed by the new queue,
the `sent` events are inserted into the map of messages in flight under their identities, and the
callback of an acknowledged identity is called. -/
structure Flow (x : Moment σ κ) (sent : List (MessageId × QueuedEvent κ)) : Prop where
  deviceId : x.after.deviceId = x.before.deviceId
  queue : x.before.pending ++ x.accepted = sent.map (·.2) ++ x.after.pending
  inFlight : x.after.inFlight =
    (x.acknowledged.foldl InFlight.erase x.before.inFlight).insertAll sent
  sent : x.effects.sent = sent.map fun p => (x.before.topic, p.2.payload, p.1)
  completed : x.effects.completed =
    x.acknowledged.flatMap fun id => (x.before.inFlight.find? id).join.toList
  losses : x.effects.losses = []

/-- A moment with a loss: queue and map of messages in flight are empty afterwards, nothing is
published or called, and the reported number is that of all events lost, if an observer is set for
it. -/
structure Loss (x : Moment σ κ) : Prop where
  deviceId : x.after.deviceId = x.before.deviceId
  accepted : x.accepted = []
  pending : x.after.pending = []
  inFlight : x.after.inFlight = []
  sent : x.effects.sent = []
  completed : x.effects.completed = []
  losses : x.before.observers.abandoned.isSome = true →
    x.effects.losses.sum = x.before.pending.length + x.before.inFlight.length

end Moment

/-- The moments of a run, in order. -/
abbrev History (σ κ : Type) := List (Moment σ κ)

namespace History

/-- The topics and payloads of the accepted publish requests. -/
def published (h : History σ κ) : List (String × Bytes) :=
  h.flatMap (·.effects.published)

/-- The accepted events. -/
def accepted (h : History σ κ) : List (QueuedEvent κ) :=
  h.flatMap (·.accepted)

/-- The moments after the last loss. -/
def sinceLoss (h : History σ κ) : History σ κ :=
  h.rtakeWhile (!·.isLoss)

end History

/-- A machine before its first step. -/
def Machine.fresh (deviceId : String) (policy : ConnectPolicy) (observers : Observers κ) :
    Machine κ :=
  { deviceId, policy, observers }

/-- The moments of a run, and the machine after it. -/
structure Life (σ κ : Type) where
  moments : History σ κ
  machine : Machine κ

/-- Runs a machine through a list of steps. -/
def live (c : Collaborators σ) : List (Step σ κ) → Machine κ → σ → Life σ κ
  | [], m, _ => ⟨[], m⟩
  | s :: rest, m, w =>
    let (x, w) := s.moment c m w
    let later := live c rest x.after w
    { later with moments := x :: later.moments }

/-- Handling `published id` erases that message and calls its callback; it publishes nothing and
reports no loss. -/
theorem Run.published_spec (c : Collaborators σ) (id : MessageId) (r : Run σ κ) :
    ∃ new : Trace κ,
      (r.handle c (.published id)).machine =
        { r.machine with inFlight := r.machine.inFlight.erase id } ∧
      (r.handle c (.published id)).effects = r.effects ++ new ∧
      new.sent = [] ∧ new.completed = (r.machine.inFlight.find? id).join.toList ∧
      new.losses = [] := by
  rw [handle_published]
  cases hfind : r.machine.inFlight.find? id with
  | none =>
    refine ⟨[_], ?_, rfl, rfl, rfl, rfl⟩
    rw [InFlight.erase_of_find?_eq_none hfind]
    rfl
  | some callback =>
    let first : Effect κ :=
      .aside (.remark (.acknowledged id (r.machine.inFlight.erase id).length))
    let reported : Trace κ := r.machine.observers.sent.toList.map (.report · .sent)
    refine ⟨first :: (callback.toList.map .complete ++ reported), ?_, ?_, ?_⟩
    · rw [report_machine, complete_machine, acknowledge_machine]
    · rw [report_effects, complete_effects, List.append_assoc, acknowledge, note, emit,
        List.append_assoc]
      rfl
    · cases callback <;> cases hsent : r.machine.observers.sent <;>
        simp only [reported, hsent] <;> exact ⟨rfl, rfl, rfl⟩

/-- Handling `disconnected` empties the queue and the map of messages in flight, publishes nothing,
calls no callback, and reports the number of lost events if an observer is set for it. -/
theorem Run.lost_spec (c : Collaborators σ) (r : Run σ κ) (h : r.machine.state ≠ .disconnected) :
    ∃ new : Trace κ,
      (r.handle c .disconnected).machine =
        { r.machine with state := .disconnected, pending := [], inFlight := [] } ∧
      (r.handle c .disconnected).effects = r.effects ++ new ∧
      new.sent = [] ∧ new.completed = [] ∧
      (r.machine.observers.abandoned.isSome = true → new.losses.sum = r.machine.load) := by
  let remark : Effect κ :=
    .aside (.remark (.abandoned r.machine.inFlight.length r.machine.pending.length))
  let quiet : Trace κ :=
    .aside (.remark (.transition r.machine.deviceId r.machine.state .disconnected)) ::
      r.machine.callbacks.map .discard ++ if r.machine.load = 0 then [] else [remark]
  let lost : Option κ := if r.machine.load = 0 then none else r.machine.observers.abandoned
  let gone : Option κ := r.machine.observers.disconnected
  let told : Trace κ := lost.toList.map (.report · (.abandoned r.machine.load)) ++
    gone.toList.map (.report · (.status .disconnected))
  have hquiet : ∀ e ∈ quiet, e.isQuiet = true := by
    simp only [quiet]
    split <;> simp [remark, Effect.isQuiet, or_imp, forall_and]
  obtain ⟨hsent, hcompleted, hlosses⟩ := Trace.views_append_of_quiet hquiet told
  rw [handle_disconnected, if_neg h]
  refine ⟨quiet ++ told, ?_, ?_, ?_, ?_, fun hset => ?_⟩
  · rw [report_machine, report_machine, lose_machine]
  · rw [report_effects, report_effects, lose_effects, List.append_assoc, List.append_assoc]
  · rw [hsent]
    simp [told, Trace.sent, List.filterMap_map]
  · rw [hcompleted]
    simp [told, Trace.completed, List.filterMap_map]
  · obtain ⟨hook, hhook⟩ := Option.isSome_iff_exists.1 hset
    have hgone : Trace.losses (gone.toList.map (.report · (.status .disconnected)) : Trace κ) = [] := by
      simp [Trace.losses, List.filterMap_map]
    rw [hlosses, Trace.losses_append, hgone, List.append_nil]
    by_cases hload : r.machine.load = 0
    · simp [lost, hload, Trace.losses]
    · simp [lost, hload, hhook, Trace.losses]

/-- Handling `connected` publishes a front part of the queue. -/
theorem Passage.connected (c : Collaborators σ) (r : Run σ κ) :
    ∃ sent, Passage r (r.handle c .connected) [] sent := by
  rw [Run.handle_connected]
  split
  · let there := (r.enter .connected).report r.machine.observers.connected (.status .connected)
    have hannounce : Passage r there [] [] :=
      (Passage.enter r .connected).trans (Passage.report _ _ _ (by simp))
    obtain ⟨sent, hdrain⟩ := Passage.drain c there
    refine ⟨sent, ?_⟩
    unfold Run.releaseQueue
    generalize there.drain c = drained at hdrain ⊢
    obtain ⟨result, r₁⟩ := drained
    cases result with
    | ok => exact hannounce.trans hdrain
    | error e => simpa using (hannounce.trans hdrain).trans (Passage.note r₁ _)
  · exact ⟨[], Passage.note r _⟩

namespace Moment

/-- A passage that starts with an empty trace gives the flow of a moment that acknowledges nothing. -/
theorem Flow.of_passage {m : Machine κ} {w : σ} {s : Step σ κ}
    {result : Except TransportError Unit} {r : Run σ κ} {accepted : List (QueuedEvent κ)}
    {sent : List (MessageId × QueuedEvent κ)}
    (h : Passage { machine := m, world := w } r accepted sent)
    (haccepted : (⟨m, s, result, r.effects, r.machine⟩ : Moment σ κ).accepted = accepted)
    (hacknowledged : (⟨m, s, result, r.effects, r.machine⟩ : Moment σ κ).acknowledged = []) :
    Flow ⟨m, s, result, r.effects, r.machine⟩ sent := by
  obtain ⟨new, heffects, hsent, hcompleted, hlosses⟩ := h.effects
  have hnew : r.effects = new := heffects
  refine ⟨h.deviceId, ?_, ?_, ?_, ?_, ?_⟩
  · rw [haccepted]
    exact h.queue
  · rw [hacknowledged]
    exact h.inFlight
  · rw [hnew]
    exact hsent
  · rw [hacknowledged, hnew]
    exact hcompleted
  · rw [hnew]
    exact hlosses

/-- Every moment without a loss has a flow. -/
theorem exists_flow (c : Collaborators σ) (s : Step σ κ) (m : Machine κ) (w : σ)
    (h : (s.moment c m w).1.isLoss = false) : ∃ sent, Flow (s.moment c m w).1 sent := by
  let r : Run σ κ := { machine := m, world := w }
  cases s with
  | call request =>
    obtain ⟨sent, hperform⟩ := Passage.perform c request r
    exact ⟨sent, .of_passage hperform rfl rfl⟩
  | notify n =>
    cases n with
    | connected =>
      obtain ⟨sent, hconnected⟩ := Passage.connected c r
      exact ⟨sent, .of_passage hconnected rfl rfl⟩
    | disconnected =>
      have hstate : m.state = .disconnected := by simpa [Step.moment, isLoss] using h
      have hignored : Passage r (r.handle c .disconnected) [] [] := by
        rw [Run.handle_disconnected, if_pos hstate]
        exact Passage.note r _
      exact ⟨[], .of_passage hignored rfl rfl⟩
    | published id =>
      -- This is no passage: a message leaves those that are in flight.
      obtain ⟨new, hmachine, heffects, hsent, hcompleted, hlosses⟩ := Run.published_spec c id r
      have hnew : (r.handle c (.published id)).effects = new := heffects
      refine ⟨[], ?_, ?_, ?_, ?_, ?_, ?_⟩ <;> simp only [Step.moment, Step.take, r] at *
      · rw [hmachine]
      · rw [hmachine]
        exact List.append_nil _
      · rw [hmachine]
        rfl
      · rw [hnew, hsent]
        rfl
      · rw [hnew, hcompleted]
        simp [acknowledged]
      · rw [hnew, hlosses]
  | observe observers => exact ⟨[], .of_passage (.of_quiet [] rfl rfl (by simp)) rfl rfl⟩
  | drift change =>
    have hdrift : Passage r { r with world := change w } [] [] := .of_quiet [] rfl rfl (by simp)
    exact ⟨[], .of_passage hdrift rfl rfl⟩

/-- Every moment with a loss satisfies `Loss`. -/
theorem loss_spec (c : Collaborators σ) (s : Step σ κ) (m : Machine κ) (w : σ)
    (h : (s.moment c m w).1.isLoss = true) : Loss (s.moment c m w).1 := by
  let r : Run σ κ := { machine := m, world := w }
  cases s with
  | notify n =>
    cases n with
    | disconnected =>
      have hstate : m.state ≠ .disconnected := by simpa [Step.moment, isLoss] using h
      obtain ⟨new, hmachine, heffects, hsent, hcompleted, hlosses⟩ := Run.lost_spec c r hstate
      have hnew : (r.handle c .disconnected).effects = new := heffects
      refine ⟨?_, rfl, ?_, ?_, ?_, ?_, fun hobserver => ?_⟩ <;>
        simp only [Step.moment, Step.take, r] at *
      · rw [hmachine]
      · rw [hmachine]
      · rw [hmachine]
      · rw [hnew, hsent]
      · rw [hnew, hcompleted]
      · rw [hnew]
        exact hlosses hobserver
    | _ => exact absurd h (by simp [Step.moment, isLoss])
  | _ => exact absurd h (by simp [Step.moment, isLoss])

end Moment

/-- A sequence of moments, each starting with the machine that the one before has left, and each with
a flow or a loss. -/
inductive Course : Machine κ → History σ κ → Machine κ → Prop where
  | nil (m : Machine κ) : Course m [] m
  | loss {x : Moment σ κ} {rest : History σ κ} {last : Machine κ} (hloss : x.isLoss = true)
      (hspec : x.Loss) (hrest : Course x.after rest last) : Course x.before (x :: rest) last
  | flow {x : Moment σ κ} {rest : History σ κ} {last : Machine κ}
      (sent : List (MessageId × QueuedEvent κ)) (hloss : x.isLoss = false) (hspec : x.Flow sent)
      (hrest : Course x.after rest last) : Course x.before (x :: rest) last

theorem live_course (c : Collaborators σ) (steps : List (Step σ κ)) (m : Machine κ) (w : σ) :
    Course m (live c steps m w).moments (live c steps m w).machine := by
  induction steps generalizing m w with
  | nil => exact .nil m
  | cons s rest ih =>
    have hrest := ih (s.moment c m w).1.after (s.moment c m w).2
    cases hloss : (s.moment c m w).1.isLoss with
    | true => exact .loss hloss (Moment.loss_spec c s m w hloss) hrest
    | false =>
      obtain ⟨sent, hflow⟩ := Moment.exists_flow c s m w hloss
      exact .flow sent hloss hflow hrest

/-- A course splits at any point into two courses. -/
theorem Course.split {m last : Machine κ} {h h' : History σ κ} (hc : Course m (h ++ h') last) :
    ∃ middle, Course m h middle ∧ Course middle h' last := by
  induction h generalizing m with
  | nil => exact ⟨m, .nil m, hc⟩
  | cons x rest ih =>
    cases hc with
    | loss hloss hspec hrest =>
      obtain ⟨middle, hfront, hback⟩ := ih hrest
      exact ⟨middle, .loss hloss hspec hfront, hback⟩
    | flow sent hloss hspec hrest =>
      obtain ⟨middle, hfront, hback⟩ := ih hrest
      exact ⟨middle, .flow sent hloss hspec hfront, hback⟩

/-- After a loss the queue and the map of messages in flight are empty. -/
theorem Course.of_loss {m last : Machine κ} {x : Moment σ κ} {rest : History σ κ}
    (hc : Course m (x :: rest) last) (hloss : x.isLoss = true) :
    x.after.pending = [] ∧ x.after.inFlight = [] ∧ Course x.after rest last := by
  cases hc with
  | loss _ hspec hrest => exact ⟨hspec.pending, hspec.inFlight, hrest⟩
  | flow _ hx =>
    rw [hloss] at hx
    cases hx

/-- The moments after the last loss contain no loss, and are the whole history or follow a loss. -/
theorem History.sinceLoss_spec (h : History σ κ) :
    (∀ x ∈ h.sinceLoss, x.isLoss = false) ∧
      (h.sinceLoss = h ∨ ∃ front x, h = front ++ x :: h.sinceLoss ∧ x.isLoss = true) := by
  refine ⟨fun x hx => by simpa using List.mem_rtakeWhile_imp hx, ?_⟩
  have hwhole : h.rdropWhile (!·.isLoss) ++ h.sinceLoss = h := List.rdropWhile_append_rtakeWhile ..
  by_cases hempty : h.rdropWhile (!·.isLoss) = []
  · rw [hempty] at hwhole
    exact .inl hwhole
  · have hlast := List.rdropWhile_last_not _ _ hempty
    refine .inr ⟨(h.rdropWhile (!·.isLoss)).dropLast, _, ?_, by simpa using hlast⟩
    rw [List.append_cons, List.dropLast_append_getLast hempty]
    exact hwhole.symm

end HubLink.Transport
