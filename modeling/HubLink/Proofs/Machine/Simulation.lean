import HubLink.Transport.Task
import Mathlib.Data.List.Forall2

namespace HubLink.Transport

variable {σ τ κ ε α : Type}

/-- Two replies with the same result and the same side effects, whose states are related by `R`. -/
structure Reply.Like (R : σ → τ → Prop) (a : Reply σ ε α) (b : Reply τ ε α) : Prop where
  result : a.result = b.result
  world : R a.world b.world
  asides : a.asides = b.asides

/-- Two sets of collaborators whose replies to each request are alike in related states. -/
structure Collaborators.Like (R : σ → τ → Prop) (c : Collaborators σ) (d : Collaborators τ) :
    Prop where
  token : ∀ w v, R w v → (c.token w).Like R (d.token v)
  connect : ∀ token w v, R w v → (c.connect token w).Like R (d.connect token v)
  publish : ∀ topic payload w v, R w v →
    (c.publish topic payload w).Like R (d.publish topic payload v)
  disconnect : ∀ w v, R w v → (c.disconnect w).Like R (d.disconnect v)

/-- Two runs with equal machines and equal traces, whose collaborators are in related states. -/
structure Run.Like (R : σ → τ → Prop) (r : Run σ κ) (s : Run τ κ) : Prop where
  machine : r.machine = s.machine
  world : R r.world s.world
  effects : r.effects = s.effects

namespace Run.Like

variable {R : σ → τ → Prop} {r : Run σ κ} {s : Run τ κ}

theorem note (h : r.Like R s) (remark : Remark) : (r.note remark).Like R (s.note remark) :=
  ⟨h.machine, h.world, congrArg (· ++ [_]) h.effects⟩

theorem report (h : r.Like R s) (observer : Option κ) (report : Report) :
    (r.report observer report).Like R (s.report observer report) := by
  cases observer with
  | none => exact h
  | some hook => exact ⟨h.machine, h.world, congrArg (· ++ [_]) h.effects⟩

theorem discard (h : r.Like R s) (callbacks : List κ) :
    (r.discard callbacks).Like R (s.discard callbacks) :=
  ⟨h.machine, h.world, congrArg (· ++ callbacks.map Effect.discard) h.effects⟩

theorem enter (h : r.Like R s) (next : ConnectionState) : (r.enter next).Like R (s.enter next) := by
  cases r
  cases s
  obtain ⟨rfl, hworld, rfl⟩ := h
  exact ⟨rfl, hworld, rfl⟩

theorem enqueue (h : r.Like R s) (payload : Bytes) (callback : Option κ) :
    (r.enqueue payload callback).Like R (s.enqueue payload callback) := by
  cases r
  cases s
  obtain ⟨rfl, hworld, rfl⟩ := h
  exact ⟨rfl, hworld, rfl⟩

theorem track (h : r.Like R s) (id : MessageId) (callback : Option κ) :
    (r.track id callback).Like R (s.track id callback) := by
  cases r
  cases s
  obtain ⟨rfl, hworld, rfl⟩ := h
  simp only [Run.track]
  split <;> exact ⟨rfl, hworld, rfl⟩

theorem lose (h : r.Like R s) : r.lose.Like R s.lose := by
  cases r
  cases s
  obtain ⟨rfl, hworld, rfl⟩ := h
  simp only [Run.lose]
  split <;> exact ⟨rfl, hworld, rfl⟩

theorem acknowledge (h : r.Like R s) (id : MessageId) :
    (r.acknowledge id).Like R (s.acknowledge id) := by
  cases r
  cases s
  obtain ⟨rfl, hworld, rfl⟩ := h
  exact ⟨rfl, hworld, rfl⟩

theorem complete (h : r.Like R s) (callback : Option κ) :
    (r.complete callback).Like R (s.complete callback) := by
  cases callback with
  | none => exact h
  | some hook => exact ⟨h.machine, h.world, congrArg (· ++ [_]) h.effects⟩

/-- Recording replies that are alike gives equal results and runs that are alike. -/
theorem ask (h : r.Like R s) {a : Reply σ ε α} {b : Reply τ ε α} (hlike : a.Like R b)
    (effect : Except ε α → Effect κ) :
    (r.ask a effect).1 = (s.ask b effect).1 ∧ (r.ask a effect).2.Like R (s.ask b effect).2 := by
  refine ⟨hlike.result, h.machine, hlike.world, ?_⟩
  simp only [Run.ask, hlike.result, hlike.asides, h.effects]

variable {c : Collaborators σ} {d : Collaborators τ}

theorem publishAll (hlike : c.Like R d) (events : List (QueuedEvent κ)) (h : r.Like R s) :
    (Run.publishAll c events r).1 = (Run.publishAll d events s).1 ∧
      (Run.publishAll c events r).2.Like R (Run.publishAll d events s).2 := by
  induction events generalizing r s with
  | nil => exact ⟨rfl, h⟩
  | cons event rest ih =>
    obtain ⟨hresult, hasked⟩ := h.ask
      (hlike.publish s.machine.topic event.payload _ _ h.world)
      (.publish s.machine.topic event.payload)
    unfold Run.publishAll
    rw [h.machine]
    generalize r.ask (c.publish s.machine.topic event.payload r.world)
      (.publish s.machine.topic event.payload) = asked at hresult hasked ⊢
    generalize s.ask (d.publish s.machine.topic event.payload s.world)
      (.publish s.machine.topic event.payload) = asked' at hresult hasked ⊢
    obtain ⟨result, r₁⟩ := asked
    obtain ⟨result', s₁⟩ := asked'
    obtain rfl : result = result' := hresult
    cases result with
    | error e => exact ⟨rfl, hasked.note _⟩
    | ok id =>
      let shorten (m : Machine κ) : Machine κ := { m with pending := rest }
      have hshortened : Run.Like R { r₁ with machine := shorten r₁.machine }
          { s₁ with machine := shorten s₁.machine } :=
        ⟨congrArg shorten hasked.machine, hasked.world, hasked.effects⟩
      exact ih (hshortened.track id event.callback)

theorem drain (hlike : c.Like R d) (h : r.Like R s) :
    (r.drain c).1 = (s.drain d).1 ∧ (r.drain c).2.Like R (s.drain d).2 := by
  unfold Run.drain
  rw [h.machine]
  split
  · exact publishAll hlike _ h
  · exact ⟨rfl, h⟩

theorem connect (hlike : c.Like R d) (h : r.Like R s) :
    (r.connect c).1 = (s.connect d).1 ∧ (r.connect c).2.Like R (s.connect d).2 := by
  unfold Run.connect
  rw [h.machine]
  split
  case isFalse => exact ⟨rfl, h.note _⟩
  case isTrue =>
    obtain ⟨hresult, htoken⟩ := h.ask (hlike.token _ _ h.world) .token
    generalize r.ask (c.token r.world) .token = asked at hresult htoken ⊢
    generalize s.ask (d.token s.world) .token = asked' at hresult htoken ⊢
    obtain ⟨result, r₁⟩ := asked
    obtain ⟨result', s₁⟩ := asked'
    obtain rfl : result = result' := hresult
    cases result with
    | error e => exact ⟨rfl, htoken⟩
    | ok token =>
      obtain ⟨hresult, hconnect⟩ :=
        htoken.ask (hlike.connect token _ _ htoken.world) (.connect token)
      simp only at hresult hconnect ⊢
      generalize r₁.ask (c.connect token r₁.world) (.connect token) = asked
        at hresult hconnect ⊢
      generalize s₁.ask (d.connect token s₁.world) (.connect token) = asked'
        at hresult hconnect ⊢
      obtain ⟨result, r₂⟩ := asked
      obtain ⟨result', s₂⟩ := asked'
      obtain rfl : result = result' := hresult
      cases result with
      | error e => exact ⟨rfl, hconnect⟩
      | ok => exact ⟨rfl, hconnect.enter .connecting⟩

theorem disconnect (hlike : c.Like R d) (h : r.Like R s) :
    (r.disconnect c).1 = (s.disconnect d).1 ∧ (r.disconnect c).2.Like R (s.disconnect d).2 := by
  unfold Run.disconnect
  rw [h.machine]
  split
  case isFalse => exact ⟨rfl, h.note _⟩
  case isTrue =>
    obtain ⟨hresult, hasked⟩ := h.ask (hlike.disconnect _ _ h.world) .disconnect
    generalize r.ask (c.disconnect r.world) .disconnect = asked at hresult hasked ⊢
    generalize s.ask (d.disconnect s.world) .disconnect = asked' at hresult hasked ⊢
    obtain ⟨result, r₁⟩ := asked
    obtain ⟨result', s₁⟩ := asked'
    obtain rfl : result = result' := hresult
    cases result with
    | error e => exact ⟨rfl, hasked⟩
    | ok => exact ⟨rfl, hasked.enter .disconnecting⟩

theorem sendAtOnce (hlike : c.Like R d) (h : r.Like R s) (payload : Bytes) (callback : Option κ)
    (hstate : s.machine.state = .connected) (hpending : s.machine.pending = []) :
    (r.send c payload callback).1 = (s.send d payload callback).1 ∧
      (r.send c payload callback).2.Like R (s.send d payload callback).2 := by
  obtain ⟨hresult, hasked⟩ := h.ask (hlike.publish s.machine.topic payload _ _ h.world)
    (.publish s.machine.topic payload)
  simp only [Run.send, h.machine, hstate, hpending, List.isEmpty_nil, if_true]
  generalize r.ask (c.publish s.machine.topic payload r.world)
    (.publish s.machine.topic payload) = asked at hresult hasked ⊢
  generalize s.ask (d.publish s.machine.topic payload s.world)
    (.publish s.machine.topic payload) = asked' at hresult hasked ⊢
  obtain ⟨result, r₁⟩ := asked
  obtain ⟨result', s₁⟩ := asked'
  obtain rfl : result = result' := hresult
  cases result with
  | error e => exact ⟨rfl, hasked.discard _⟩
  | ok id => exact ⟨rfl, hasked.track id callback⟩

theorem send (hlike : c.Like R d) (h : r.Like R s) (payload : Bytes) (callback : Option κ) :
    (r.send c payload callback).1 = (s.send d payload callback).1 ∧
      (r.send c payload callback).2.Like R (s.send d payload callback).2 := by
  cases hstate : s.machine.state with
  | connected =>
    by_cases hpending : s.machine.pending = []
    · exact sendAtOnce hlike h payload callback hstate hpending
    · obtain ⟨hresult, hdrained⟩ := drain hlike (h.enqueue payload callback)
      simp only [Run.send, h.machine, hstate, List.isEmpty_iff, hpending, if_false]
      generalize (r.enqueue payload callback).drain c = drained at hresult hdrained ⊢
      generalize (s.enqueue payload callback).drain d = drained' at hresult hdrained ⊢
      obtain ⟨result, r₁⟩ := drained
      obtain ⟨result', s₁⟩ := drained'
      obtain rfl : result = result' := hresult
      cases result <;> exact ⟨rfl, hdrained⟩
  | disconnected =>
    simp only [Run.send, h.machine, hstate]
    split
    case h_1 =>
      obtain ⟨hresult, hconnected⟩ := connect hlike h
      generalize r.connect c = connected at hresult hconnected ⊢
      generalize s.connect d = connected' at hresult hconnected ⊢
      obtain ⟨result, r₁⟩ := connected
      obtain ⟨result', s₁⟩ := connected'
      obtain rfl : result = result' := hresult
      cases result with
      | error e => exact ⟨rfl, hconnected.discard _⟩
      | ok => exact ⟨rfl, hconnected.enqueue payload callback⟩
    case h_2 => exact ⟨rfl, h.enqueue payload callback⟩
  | connecting =>
    simp only [Run.send, h.machine, hstate, true_and]
    exact h.enqueue payload callback
  | disconnecting =>
    simp only [Run.send, h.machine, hstate, true_and]
    exact (h.note _).discard _

/-- The same request gives equal answers and runs that are alike. -/
theorem perform (hlike : c.Like R d) (h : r.Like R s) (request : Request κ) :
    (r.perform c request).1 = (s.perform d request).1 ∧
      (r.perform c request).2.Like R (s.perform d request).2 := by
  cases request with
  | connect => exact connect hlike h
  | send payload callback => exact send hlike h payload callback
  | disconnect => exact disconnect hlike h

theorem releaseQueue (hlike : c.Like R d) (h : r.Like R s) :
    (r.releaseQueue c).Like R (s.releaseQueue d) := by
  obtain ⟨hresult, hdrained⟩ := drain hlike h
  unfold Run.releaseQueue
  generalize r.drain c = drained at hresult hdrained ⊢
  generalize s.drain d = drained' at hresult hdrained ⊢
  obtain ⟨result, r₁⟩ := drained
  obtain ⟨result', s₁⟩ := drained'
  obtain rfl : result = result' := hresult
  cases result with
  | error e =>
    have hmachine : r₁.machine = s₁.machine := hdrained.machine
    simp only [hmachine]
    exact hdrained.note _
  | ok => exact hdrained

/-- The stages of a notification for both sets of collaborators correspond one by one, and
corresponding stages keep runs alike. -/
theorem stages (hlike : c.Like R d) (n : Notification) (m : Machine κ) :
    List.Forall₂ (fun (f : Stage σ κ) (g : Stage τ κ) =>
        ∀ (r : Run σ κ) (s : Run τ κ), r.Like R s → (f.take r).Like R (g.take s))
      (Run.stages c n m) (Run.stages d n m) := by
  cases n with
  | connected =>
    simp only [Run.stages]
    split
    · refine .cons (fun _ _ h => h.enter .connected) (.cons (fun _ _ h => h.report _ _) ?_)
      exact .cons (fun _ _ h => releaseQueue hlike h) .nil
    · exact .cons (fun _ _ h => h.note _) .nil
  | disconnected =>
    simp only [Run.stages]
    split
    · exact .cons (fun _ _ h => h.note _) .nil
    · refine .cons (fun _ _ h => h.lose) (.cons (fun _ _ h => h.report _ _) ?_)
      exact .cons (fun _ _ h => h.report _ _) .nil
  | published id =>
    simp only [Run.stages]
    split
    · refine .cons (fun _ _ h => h.acknowledge id) (.cons (fun _ _ h => h.complete _) ?_)
      exact .cons (fun _ _ h => h.report _ _) .nil
    · exact .cons (fun _ _ h => h.note _) .nil

/-- Corresponding stages keep runs alike up to the first failing hook, which is the same on both
sides. -/
theorem takeStages (fails : Effect κ → Option String) {fs : List (Stage σ κ)}
    {gs : List (Stage τ κ)}
    (hstages : List.Forall₂ (fun (f : Stage σ κ) (g : Stage τ κ) =>
      ∀ (r : Run σ κ) (s : Run τ κ), r.Like R s → (f.take r).Like R (g.take s)) fs gs)
    (h : r.Like R s) :
    (Task.takeStages fails fs r).Like R (Task.takeStages fails gs s) := by
  induction hstages generalizing r s with
  | nil => exact h
  | cons hfirst _ ih =>
    have hnext := hfirst r s h
    simp only [Task.takeStages, hnext.effects]
    split
    · exact hnext
    · exact ih hnext

end Run.Like

namespace Task

/-- The task with the collaborators' state replaced by `world`. -/
def beside (t : Task σ κ) (world : τ) : Task τ κ where
  number := t.number
  machine := t.machine
  world
  mailbox := t.mailbox
  commands := t.commands
  isOpen := t.isOpen
  watched := t.watched
  phase := t.phase

variable {R : σ → τ → Prop} {c : Collaborators σ} {d : Collaborators τ} {t : Task σ κ} {v : τ}

theorem absorb_beside {r : Run σ κ} {s : Run τ κ} (h : r.Like R s) :
    (t.beside v).absorb s = (t.absorb r).beside s.world := by
  simp [absorb, beside, h.machine, h.effects]

theorem publishState_beside (t : Task σ κ) (v : τ) :
    (t.beside v).publishState = (t.publishState.1.beside v, t.publishState.2) := by
  unfold publishState beside
  split <;> rfl

theorem publishState_world (t : Task σ κ) : t.publishState.1.world = t.world := by
  unfold publishState
  split <;> rfl

/-- Beside collaborators that are alike, `handleNotification` gives equal tasks and equal
happenings. -/
theorem handleNotification_beside (hlike : c.Like R d) (hworld : R t.world v)
    (fails : Effect κ → Option String) (n : Notification) :
    ∃ w, R (t.handleNotification fails c n).1.world w ∧
      (t.beside v).handleNotification fails d n =
        ((t.handleNotification fails c n).1.beside w, (t.handleNotification fails c n).2) := by
  have hrun : t.run.Like R (t.beside v).run := ⟨rfl, hworld, rfl⟩
  have hstages := hrun.takeStages fails (Run.Like.stages hlike n t.machine)
  have hmachine : (t.beside v).machine = t.machine := rfl
  simp only [handleNotification, hmachine]
  generalize takeStages fails (Run.stages c n t.machine) t.run = r at hstages ⊢
  generalize takeStages fails (Run.stages d n t.machine) (t.beside v).run = s at hstages ⊢
  rw [absorb_beside hstages, ← hstages.effects]
  refine ⟨s.world, ?_, ?_⟩ <;> cases failure? fails r.effects
  · simp only [publishState_world]
    exact hstages.world
  · exact hstages.world
  · simp only [publishState_beside]
  · rfl

/-- Beside collaborators that are alike, `execute` gives equal tasks and equal happenings. -/
theorem execute_beside (hlike : c.Like R d) (hworld : R t.world v) (command : Command κ) :
    ∃ w, R (t.execute c command).1.world w ∧
      (t.beside v).execute d command =
        ((t.execute c command).1.beside w, (t.execute c command).2) := by
  cases command with
  | request ticket request =>
    have hrun : t.run.Like R (t.beside v).run := ⟨rfl, hworld, rfl⟩
    obtain ⟨hresult, hperformed⟩ := hrun.perform hlike request
    refine ⟨((t.beside v).run.perform d request).2.world, ?_, ?_⟩
    · simp only [execute, publishState_world]
      exact hperformed.world
    · simp only [execute, absorb_beside hperformed, publishState_beside, hresult, hperformed.effects]
  | snapshot ticket => exact ⟨v, hworld, rfl⟩
  | observe occasion hook => exact ⟨v, hworld, rfl⟩

/-- Beside collaborators that are alike, `step?` gives equal tasks and equal happenings, or none on
both sides. -/
theorem step?_beside (hlike : c.Like R d) (hworld : R t.world v) (fails : Effect κ → Option String) :
    match t.step? fails c with
    | none => (t.beside v).step? fails d = none
    | some (t', seen) =>
      ∃ w, R t'.world w ∧ (t.beside v).step? fails d = some (t'.beside w, seen) := by
  have hphase : (t.beside v).phase = t.phase := rfl
  have hmailbox : (t.beside v).mailbox = t.mailbox := rfl
  have hcommands : (t.beside v).commands = t.commands := rfl
  have hopen : (t.beside v).isOpen = t.isOpen := rfl
  unfold step?
  rw [hphase, hmailbox, hcommands, hopen]
  cases t.phase with
  | created => exact ⟨v, hworld, rfl⟩
  | running =>
    obtain ⟨reading, mailbox⟩ := t.mailbox.receive
    cases reading with
    | received n =>
      obtain ⟨w, hw, hhandled⟩ := handleNotification_beside
        (t := { t with mailbox, phase := .running }) hlike hworld fails n
      exact ⟨w, hw, congrArg some hhandled⟩
    | empty | closed =>
      cases t.commands with
      | cons command rest =>
        obtain ⟨w, hw, hexecuted⟩ := execute_beside
          (t := { t with commands := rest, phase := .running }) hlike hworld command
        exact ⟨w, hw, congrArg some hexecuted⟩
      | nil =>
        cases t.isOpen
        · exact ⟨v, hworld, rfl⟩
        · rfl
  | stopped => rfl
  | failed message => rfl

theorem hear_beside (t : Task σ κ) (v : τ) (asides : List Aside) :
    (t.beside v).hear asides = ((t.hear asides).1.beside v, (t.hear asides).2) := by
  induction asides generalizing t with
  | nil => rfl
  | cons aside rest ih =>
    cases aside with
    | raise n =>
      have hraise : (t.beside v).raise n = ((t.raise n).1.beside v, (t.raise n).2) := rfl
      simp only [hear, hraise, ih]
    | remark r => simp only [hear, ih]

theorem submit_beside (t : Task σ κ) (v : τ) (command : Command κ) :
    (t.beside v).submit command = ((t.submit command).1.beside v, (t.submit command).2) := by
  have halive : (t.beside v).isAlive = t.isAlive := rfl
  unfold submit
  rw [halive]
  split <;> rfl

end Task
end HubLink.Transport
