import HubLink.Proofs.Machine.Calls
import HubLink.Proofs.Machine.Refusal
import HubLink.Proofs.Machine.Transitions
import Mathlib.Data.List.Chain

namespace HubLink.Transport

variable {σ κ : Type}

/-- An observer is set for each of the four occasions. -/
structure Observers.Complete (o : Observers κ) : Prop where
  connected : ∃ hook, o.connected = some hook
  disconnected : ∃ hook, o.disconnected = some hook
  sent : ∃ hook, o.sent = some hook
  abandoned : ∃ hook, o.abandoned = some hook

/-- A call of a hook, and the machine when it is called. -/
structure Telling (κ : Type) where
  call : Effect κ
  machine : Machine κ

/-- The hook that a stage calls, if it calls one that is set. -/
def Stage.calls : Stage σ κ → List (Effect κ)
  | .work _ => []
  | .report observer what => observer.toList.map (.report · what)
  | .complete callback => callback.toList.map .complete

/-- The calls of hooks in a row of stages, each with the machine that its stage finds. -/
def Run.tellings : List (Stage σ κ) → Run σ κ → List (Telling κ)
  | [], _ => []
  | stage :: rest, r => stage.calls.map (⟨·, r.machine⟩) ++ tellings rest (stage.take r)

/-- The calls of hooks in a step. Only a notification has stages. -/
def Step.tellings (c : Collaborators σ) (s : Step σ κ) (m : Machine κ) (w : σ) : List (Telling κ) :=
  match s with
  | .notify n => Run.tellings (Run.stages c n m) { machine := m, world := w }
  | _ => []

namespace Moment

/-- The machine comes to a state from another one. -/
def Enters (x : Moment σ κ) (s : ConnectionState) : Prop :=
  x.before.state ≠ s ∧ x.after.state = s

/-- The effects of a moment are `front`, then the calls of hooks in `told`, then `back`. Neither `front`
nor `back` calls a hook, so `told` are all calls of the moment, and each of them finds the machine as the
transition, the emptied queue or the acknowledgement has left it. -/
structure Protocol (x : Moment σ κ) (front : Trace κ) (told : List (Telling κ)) (back : Trace κ) :
    Prop where
  effects : x.effects = front ++ told.map (·.call) ++ back
  front_hooks : front.hooks = []
  back_hooks : back.hooks = []
  /-- Nothing is asked of the collaborators before the first call, so no queued event is published. -/
  front_calls : ∀ e ∈ front, e.isCall = false
  /-- A transition is remarked on before the first call. -/
  front_transitions : told ≠ [] →
    Trace.transitions front = wayTo x.before.state x.after.state
  connected : x.Enters .connected → ∃ hook, x.before.observers.connected = some hook ∧
    told = [⟨.report hook (.status .connected), { x.before with state := .connected }⟩]
  disconnected : x.Enters .disconnected → ∃ lost gone,
    x.before.observers.abandoned = some lost ∧ x.before.observers.disconnected = some gone ∧
    front.discarded = x.before.callbacks ∧
    let emptied := { x.before with state := .disconnected, pending := [], inFlight := [] }
    told = (if x.before.load = 0 then [] else [⟨.report lost (.abandoned x.before.load), emptied⟩]) ++
      [⟨.report gone (.status .disconnected), emptied⟩]
  acknowledged : ∀ id callback, x.step = .notify (.published id) →
    x.before.inFlight.find? id = some callback → ∃ hook, x.before.observers.sent = some hook ∧
    let erased := { x.before with inFlight := x.before.inFlight.erase id }
    told = callback.toList.map (⟨.complete ·, erased⟩) ++ [⟨.report hook .sent, erased⟩]
  otherwise : ¬ x.Enters .connected → ¬ x.Enters .disconnected →
    (∀ id, x.step = .notify (.published id) → x.before.inFlight.find? id = none) → told = []

end Moment

theorem Trace.hooks_append (t u : Trace κ) : Trace.hooks (t ++ u) = t.hooks ++ u.hooks :=
  List.filterMap_append

namespace Run

/-- What is released from the queue is published without a word to the observers. -/
theorem releaseQueue_effects (c : Collaborators σ) (r : Run σ κ) :
    ∃ new : Trace κ, (r.releaseQueue c).effects = r.effects ++ new ∧ new.hooks = [] := by
  obtain ⟨-, new, heffects, -⟩ := (Calls.releaseQueue c r).1
  have hhooks : Trace.hooks (r.releaseQueue c).effects = Trace.hooks r.effects := by
    have hdrained := hooks_drain c r
    unfold releaseQueue
    generalize r.drain c = drained at hdrained ⊢
    obtain ⟨result, r₁⟩ := drained
    cases result with
    | ok => exact hdrained
    | error e => exact (filterMap_note Trace.overlooks_hooks _ _).trans hdrained
  rw [heffects, Trace.hooks_append] at hhooks
  exact ⟨new, heffects, List.append_right_eq_self.1 hhooks⟩

end Run

namespace Moment

variable {x : Moment σ κ}

/-- The ways in which a moment can change the state. -/
theorem Turn.state_cases (h : x.Turn) :
    x.after.state = x.before.state ∨
      (∀ n, x.step ≠ .notify n) ∧ (x.before.state = .disconnected ∧ x.after.state = .connecting ∨
        x.after.state = .disconnecting) ∨
      x.step = .notify .connected ∧ x.before.state = .connecting ∧ x.after.state = .connected ∨
      x.step = .notify .disconnected ∧ x.before.state ≠ .disconnected ∧
        x.after.state = .disconnected := by
  cases h with
  | rests hstep haccepted hoffers hafter => exact .inl (by rw [hafter])
  | observes observers hstep hoffers hafter => exact .inl (by rw [hafter])
  | ignores n hstep hstate hoffers hafter => exact .inl (by rw [hafter])
  | queues request hstep hstate hresult hoffers hafter => exact .inl (by rw [hafter])
  | dials request token hstep hstate hresult hconnect hoffers hafter =>
    exact .inr (.inl ⟨by simp [hstep], .inl ⟨hstate, by rw [hafter]⟩⟩)
  | hangsUp hstep hstate hresult hdisconnect hoffers hafter =>
    exact .inr (.inl ⟨by simp [hstep], .inr (by rw [hafter])⟩)
  | publishes payload callback id hstep hstate hpending hresult hoffers hafter =>
    exact .inl (by rw [hafter])
  | refused payload callback e hstep hstate hpending hresult haccepted hoffers hafter =>
    exact .inl (by rw [hafter])
  | follows payload callback result hstep hstate hpending hresult hdrained =>
    exact .inl hdrained.state
  | opens result hstep hstate hdrained =>
    exact .inr (.inr (.inl ⟨hstep, hstate, hdrained.state⟩))
  | acknowledges id hstep hoffers hafter => exact .inl (by rw [hafter])
  | loses hstep hstate hoffers hafter =>
    exact .inr (.inr (.inr ⟨hstep, hstate, by rw [hafter]⟩))

theorem Turn.enters_connected (h : x.Turn) (hx : x.Enters .connected) :
    x.step = .notify .connected ∧ x.before.state = .connecting := by
  obtain ⟨hbefore, hafter⟩ := hx
  obtain hsame | ⟨-, ⟨-, hnext⟩ | hnext⟩ | ⟨hstep, hstate, -⟩ | ⟨-, -, hnext⟩ := h.state_cases
  · exact absurd (hsame.symm.trans hafter) hbefore
  · cases hafter.symm.trans hnext
  · cases hafter.symm.trans hnext
  · exact ⟨hstep, hstate⟩
  · cases hafter.symm.trans hnext

theorem Turn.enters_disconnected (h : x.Turn) (hx : x.Enters .disconnected) :
    x.step = .notify .disconnected := by
  obtain ⟨hbefore, hafter⟩ := hx
  obtain hsame | ⟨-, ⟨-, hnext⟩ | hnext⟩ | ⟨-, -, hnext⟩ | ⟨hstep, -, -⟩ := h.state_cases
  · exact absurd (hsame.symm.trans hafter) hbefore
  · cases hafter.symm.trans hnext
  · cases hafter.symm.trans hnext
  · cases hafter.symm.trans hnext
  · exact hstep

/-- A moment at which nothing comes about, is gone or is acknowledged calls no hook. -/
theorem Protocol.silent (hhooks : x.effects.hooks = []) (hconnected : ¬ x.Enters .connected)
    (hdisconnected : ¬ x.Enters .disconnected)
    (hacknowledged : ∀ id callback, x.step = .notify (.published id) →
      x.before.inFlight.find? id ≠ some callback) : x.Protocol [] [] x.effects where
  effects := rfl
  front_hooks := rfl
  back_hooks := hhooks
  front_calls := by simp
  front_transitions htold := absurd rfl htold
  connected hx := absurd hx hconnected
  disconnected hx := absurd hx hdisconnected
  acknowledged id callback hstep hfind := absurd hfind (hacknowledged id callback hstep)
  otherwise _ _ _ := rfl

end Moment

/-- A request calls no hook. -/
theorem Step.protocol_call (c : Collaborators σ) (request : Request κ) (m : Machine κ) (w : σ) :
    ∃ front back, ((Step.call request).moment c m w).1.Protocol front [] back := by
  have hturn := Moment.turn c (.call request) m w
  refine ⟨[], _, .silent ?_ (fun hx => ?_) (fun hx => ?_) fun id callback hstep => ?_⟩
  · exact Run.hooks_perform c request { machine := m, world := w }
  · cases (hturn.enters_connected hx).1
  · cases hturn.enters_disconnected hx
  · cases hstep

/-- A notification on which there is only a remark calls no hook. -/
theorem Step.protocol_ignored (c : Collaborators σ) (n : Notification) (m : Machine κ) (w : σ)
    {remark : Remark} (hstages : Run.stages c n m = [.work (·.note remark)])
    (huntracked : ∀ id callback, n = .published id → m.inFlight.find? id ≠ some callback) :
    ∃ front back, ((Step.notify n).moment c m w).1.Protocol front ((Step.notify n).tellings c m w)
      back := by
  let r : Run σ κ := { machine := m, world := w }
  have hhandle : r.handle c n = r.note remark := by
    unfold Run.handle
    rw [hstages]
    rfl
  have hsame : ((Step.notify n).moment c m w).1.after.state = m.state :=
    congrArg (·.machine.state) hhandle
  have htellings : (Step.notify n).tellings c m w = [] := by
    simp only [Step.tellings]
    rw [hstages]
    rfl
  rw [htellings]
  refine ⟨[], _, .silent ?_ (fun hx => ?_) (fun hx => ?_) fun id callback hstep => ?_⟩
  · exact congrArg (fun r : Run σ κ => Trace.hooks r.effects) hhandle
  · exact hx.1 (hsame.symm.trans hx.2)
  · exact hx.1 (hsame.symm.trans hx.2)
  · exact huntracked id callback (Step.notify.inj hstep)

/-- An entry into the connected state calls its observer after the change of the state and before the
first queued event is published. -/
theorem Step.protocol_connected (c : Collaborators σ) (m : Machine κ) (w : σ)
    (hset : m.observers.Complete) :
    ∃ front back, ((Step.notify .connected).moment c m w).1.Protocol front
      ((Step.notify .connected).tellings c m w) back := by
  by_cases hstate : m.state = .connecting
  case neg => exact protocol_ignored c .connected m w (if_neg hstate) (by simp)
  case pos =>
    obtain ⟨hook, hhook⟩ := hset.connected
    let r : Run σ κ := { machine := m, world := w }
    let there := (r.enter .connected).report m.observers.connected (.status .connected)
    let remark : Effect κ := .aside (.remark (.transition m.deviceId m.state .connected))
    let call : Effect κ := .report hook (.status .connected)
    have htold : (Step.notify .connected).tellings c m w =
        [⟨call, { m with state := .connected }⟩] := by
      simp only [Step.tellings, Run.stages, if_pos hstate, Run.tellings, Stage.calls, hhook]
      rfl
    have hhandle : r.handle c .connected = there.releaseQueue c := by
      rw [Run.handle_connected]
      exact if_pos hstate
    have hthere : there.effects = [remark, call] := by
      simp only [there, Run.report_effects, hhook]
      rfl
    obtain ⟨new, hreleased, hnew⟩ := there.releaseQueue_effects c
    have heffects : (r.handle c .connected).effects = [remark, call] ++ new := by
      rw [hhandle, hreleased, hthere]
    have hentered : (r.handle c .connected).machine.state = .connected := by
      rw [hhandle, (Calls.releaseQueue c there).2]
      exact congrArg Machine.state (Run.report_machine ..)
    rw [htold]
    refine ⟨[remark], new, heffects, rfl, hnew, by simp [remark, Effect.isCall], fun _ => ?_,
      fun _ => ⟨hook, hhook, rfl⟩, fun hx => ?_, fun id callback hstep => ?_, fun hx => ?_⟩
    · show [(m.state, .connected)] = wayTo m.state (r.handle c .connected).machine.state
      rw [hentered, wayTo, if_neg (by simp [hstate])]
    · cases hx.2.symm.trans hentered
    · cases hstep
    · have hchanged : m.state ≠ .connected := by simp [hstate]
      exact absurd ⟨hchanged, hentered⟩ hx

/-- An entry into the disconnected state calls its observers with the queue and the map of messages in
flight empty, first the one for the number of lost events unless that is 0. -/
theorem Step.protocol_disconnected (c : Collaborators σ) (m : Machine κ) (w : σ)
    (hset : m.observers.Complete) :
    ∃ front back, ((Step.notify .disconnected).moment c m w).1.Protocol front
      ((Step.notify .disconnected).tellings c m w) back := by
  by_cases hstate : m.state = .disconnected
  case pos => exact protocol_ignored c .disconnected m w (if_pos hstate) (by simp)
  case neg =>
    obtain ⟨gone, hgone⟩ := hset.disconnected
    obtain ⟨lost, hlost⟩ := hset.abandoned
    let r : Run σ κ := { machine := m, world := w }
    let emptied : Machine κ := { m with state := .disconnected, pending := [], inFlight := [] }
    let remark : Effect κ := .aside (.remark (.abandoned m.inFlight.length m.pending.length))
    let front : Trace κ :=
      .aside (.remark (.transition m.deviceId m.state .disconnected)) ::
        m.callbacks.map .discard ++ if m.load = 0 then [] else [remark]
    let told : List (Telling κ) :=
      (if m.load = 0 then [] else [⟨.report lost (.abandoned m.load), emptied⟩]) ++
        [⟨.report gone (.status .disconnected), emptied⟩]
    have htold : (Step.notify .disconnected).tellings c m w = told := by
      simp only [Step.tellings, Run.stages, if_neg hstate, Run.tellings, Stage.calls, Stage.take,
        Run.report_machine, Run.lose_machine, hgone, hlost, told]
      split <;> rfl
    have hhandle : r.handle c .disconnected =
        (r.lose.report (if m.load = 0 then none else m.observers.abandoned)
          (.abandoned m.load)).report m.observers.disconnected (.status .disconnected) := by
      rw [Run.handle_disconnected]
      exact if_neg hstate
    have heffects : (r.handle c .disconnected).effects = front ++ told.map (·.call) ++ [] := by
      rw [hhandle, Run.report_effects, Run.report_effects, Run.lose_effects, hgone, hlost]
      simp only [told, front, r, List.nil_append, List.append_nil, List.append_assoc]
      split <;> rfl
    have hmachine : (r.handle c .disconnected).machine = emptied := by
      rw [hhandle, Run.report_machine, Run.report_machine, Run.lose_machine]
    have hentered : (r.handle c .disconnected).machine.state = .disconnected :=
      congrArg Machine.state hmachine
    have hfront : front.hooks = [] ∧ (∀ e ∈ front, e.isCall = false) ∧
        Trace.transitions front = [(m.state, .disconnected)] ∧ front.discarded = m.callbacks := by
      simp only [front]
      split <;> simp [Trace.hooks, Effect.hook?, Effect.isCall, Trace.transitions,
        Effect.transition?, Trace.discarded, List.filterMap_map, remark, or_imp, forall_and]
    obtain ⟨hhooks, hcalls, htransitions, hdiscarded⟩ := hfront
    rw [htold]
    refine ⟨front, [], heffects, hhooks, rfl, hcalls, fun _ => ?_, fun hx => ?_,
      fun _ => ⟨lost, gone, hlost, hgone, hdiscarded, rfl⟩, fun id callback hstep => ?_,
      fun _ hx => absurd ⟨hstate, hentered⟩ hx⟩
    · show Trace.transitions front = wayTo m.state (r.handle c .disconnected).machine.state
      rw [htransitions, hentered, wayTo, if_neg hstate]
    · cases hx.2.symm.trans hentered
    · cases hstep

/-- An acknowledgement of a message in flight calls the callback of its event, if it has one, and then
the observer, both after the message was removed. -/
theorem Step.protocol_published (c : Collaborators σ) (id : MessageId) (m : Machine κ) (w : σ)
    (hset : m.observers.Complete) :
    ∃ front back, ((Step.notify (.published id)).moment c m w).1.Protocol front
      ((Step.notify (.published id)).tellings c m w) back := by
  cases hfind : m.inFlight.find? id with
  | none =>
    have hstages : Run.stages c (.published id) m =
        [.work (·.note (.untrackedAcknowledgement id))] := by
      simp only [Run.stages, hfind]
    refine protocol_ignored c (.published id) m w hstages fun id' callback hid hsome => ?_
    obtain rfl := Notification.published.inj hid
    cases hfind.symm.trans hsome
  | some callback =>
    obtain ⟨hook, hhook⟩ := hset.sent
    let r : Run σ κ := { machine := m, world := w }
    let erased : Machine κ := { m with inFlight := m.inFlight.erase id }
    let remark : Effect κ := .aside (.remark (.acknowledged id (m.inFlight.erase id).length))
    let told : List (Telling κ) :=
      callback.toList.map (⟨.complete ·, erased⟩) ++ [⟨.report hook .sent, erased⟩]
    have htold : (Step.notify (.published id)).tellings c m w = told := by
      simp only [Step.tellings, Run.stages, hfind, Run.tellings, Stage.calls, Stage.take,
        Run.complete_machine, Run.acknowledge_machine, hhook, told, List.map_map]
      rfl
    have hhandle : r.handle c (.published id) =
        ((r.acknowledge id).complete callback).report m.observers.sent .sent := by
      have hfind' : r.machine.inFlight.find? id = some callback := hfind
      rw [Run.handle_published, hfind']
    have heffects : (r.handle c (.published id)).effects =
        [remark] ++ told.map (·.call) ++ [] := by
      rw [hhandle, Run.report_effects, Run.complete_effects, hhook]
      simp only [told, List.map_append, List.map_map, List.append_nil, ← List.append_assoc]
      rfl
    have hmachine : (r.handle c (.published id)).machine = erased := by
      rw [hhandle, Run.report_machine, Run.complete_machine, Run.acknowledge_machine]
    have hsame : (r.handle c (.published id)).machine.state = m.state := by
      rw [hmachine]
    rw [htold]
    refine ⟨[remark], [], heffects, rfl, rfl, by simp [remark, Effect.isCall], fun _ => ?_,
      fun hx => absurd (hsame.symm.trans hx.2) hx.1, fun hx => absurd (hsame.symm.trans hx.2) hx.1,
      fun id' callback' hstep hsome => ?_, fun _ _ hnone => ?_⟩
    · show [] = wayTo m.state (r.handle c (.published id)).machine.state
      rw [hsame, wayTo_self]
    · obtain rfl := Notification.published.inj (Step.notify.inj hstep)
      obtain rfl := Option.some.inj (hfind.symm.trans hsome)
      exact ⟨hook, hhook, rfl⟩
    · cases hfind.symm.trans (hnone id rfl)

/-- Every step of a machine with all observers set satisfies the protocol. -/
theorem Step.protocol (c : Collaborators σ) (s : Step σ κ) (m : Machine κ) (w : σ)
    (hset : m.observers.Complete) :
    ∃ front back, (s.moment c m w).1.Protocol front (s.tellings c m w) back := by
  cases s with
  | call request => exact protocol_call c request m w
  | notify n =>
    cases n with
    | connected => exact protocol_connected c m w hset
    | disconnected => exact protocol_disconnected c m w hset
    | published id => exact protocol_published c id m w hset
  | observe observers =>
    exact ⟨[], _, .silent rfl (fun hx => hx.1 hx.2) (fun hx => hx.1 hx.2) (by simp [Step.moment])⟩
  | drift change =>
    exact ⟨[], _, .silent rfl (fun hx => hx.1 hx.2) (fun hx => hx.1 hx.2) (by simp [Step.moment])⟩

theorem Drained.observers {m m' : Machine κ} {result : Except ProviderError Unit}
    {offers : List (String × Bytes × Except ProviderError MessageId)}
    (h : Drained m result m' offers) : m'.observers = m.observers := by
  cases h <;> rfl

/-- Only a step of the application changes the observers. -/
theorem Moment.Turn.observers {x : Moment σ κ} (h : x.Turn) :
    x.after.observers = x.before.observers ∨ x.step = .observe x.after.observers := by
  cases h with
  | observes observers hstep hoffers hafter => exact .inr (by rw [hstep, hafter])
  | follows _ _ _ _ _ _ _ hdrained => exact .inl hdrained.observers
  | opens _ _ _ hdrained => exact .inl hdrained.observers
  | _ => simp_all

/-- The connection statuses reported to observers in a trace. -/
def Trace.statuses (t : Trace κ) : List Status :=
  t.filterMap fun
    | .report _ (.status status) => some status
    | _ => none

@[simp] theorem Trace.statuses_append (t u : Trace κ) :
    Trace.statuses (t ++ u) = t.statuses ++ u.statuses :=
  List.filterMap_append

theorem Trace.mem_statuses {t : Trace κ} {status : Status} :
    status ∈ t.statuses ↔ ∃ hook, .report hook (.status status) ∈ t := by
  constructor
  · intro hmem
    obtain ⟨e, he, hview⟩ := List.mem_filterMap.1 hmem
    cases e with
    | report hook report =>
      cases report with
      | status =>
        obtain rfl := Option.some.inj hview
        exact ⟨hook, he⟩
      | _ => cases hview
    | _ => cases hview
  · rintro ⟨hook, hmem⟩
    exact List.mem_filterMap.2 ⟨_, hmem, rfl⟩

theorem Trace.statuses_of_hooks {t : Trace κ} (h : t.hooks = []) : t.statuses = [] := by
  refine List.filterMap_eq_nil_iff.2 fun e he => ?_
  have hhook := List.filterMap_eq_nil_iff.1 h e he
  cases e with
  | report => cases hhook
  | _ => rfl

/-- A moment reports `connected` if it enters the connected state, `disconnected` if it enters the
disconnected state, and no status otherwise. -/
theorem Moment.Protocol.statuses {x : Moment σ κ} {front back : Trace κ} {told : List (Telling κ)}
    (h : x.Protocol front told back) :
    x.Enters .connected ∧ x.effects.statuses = [.connected] ∨
      x.Enters .disconnected ∧ x.effects.statuses = [.disconnected] ∨
      ¬ x.Enters .disconnected ∧ x.effects.statuses = [] := by
  have htold : x.effects.statuses = Trace.statuses (told.map (·.call)) := by
    rw [h.effects, Trace.statuses_append, Trace.statuses_append,
      Trace.statuses_of_hooks h.front_hooks, Trace.statuses_of_hooks h.back_hooks, List.append_nil,
      List.nil_append]
  rw [htold]
  by_cases hconnected : x.Enters .connected
  · obtain ⟨hook, -, rfl⟩ := h.connected hconnected
    exact .inl ⟨hconnected, rfl⟩
  by_cases hdisconnected : x.Enters .disconnected
  · obtain ⟨lost, gone, -, -, -, rfl⟩ := h.disconnected hdisconnected
    refine .inr (.inl ⟨hdisconnected, ?_⟩)
    split <;> rfl
  refine .inr (.inr ⟨hdisconnected, ?_⟩)
  by_cases htracked : ∃ id callback, x.step = .notify (.published id) ∧
      x.before.inFlight.find? id = some callback
  · obtain ⟨id, callback, hstep, hfind⟩ := htracked
    obtain ⟨hook, -, rfl⟩ := h.acknowledged id callback hstep hfind
    cases callback <;> rfl
  · have hnone : told = [] := h.otherwise hconnected hdisconnected fun id hstep => by
      cases hfind : x.before.inFlight.find? id with
      | none => rfl
      | some callback => exact absurd ⟨id, callback, hstep, hfind⟩ htracked
    rw [hnone]
    rfl

/-- A machine in the connected or disconnecting state, whose next reported status can only be
`disconnected`. -/
def Machine.IsHeld (m : Machine κ) : Prop :=
  m.state = .connected ∨ m.state = .disconnecting

theorem Moment.Turn.held {x : Moment σ κ} (h : x.Turn) (hx : ¬ x.Enters .disconnected)
    (hbefore : x.before.IsHeld) : x.after.IsHeld ∧ ¬ x.Enters .connected := by
  have hopen : x.before.state ≠ .disconnected := by
    obtain hstate | hstate := hbefore <;> simp [hstate]
  refine ⟨?_, fun hconnected => ?_⟩
  · obtain hsame | ⟨-, ⟨hnone, -⟩ | hnext⟩ | ⟨-, -, hnext⟩ | ⟨-, -, hnext⟩ := h.state_cases
    · unfold Machine.IsHeld
      rw [hsame]
      exact hbefore
    · exact absurd hnone hopen
    · exact .inr hnext
    · exact .inl hnext
    · exact absurd ⟨hopen, hnext⟩ hx
  · obtain ⟨-, hmaking⟩ := h.enters_connected hconnected
    obtain hstate | hstate := hbefore <;> cases hmaking.symm.trans hstate

/-- A step keeps all observers set, unless it replaces them by a set that is not complete. -/
theorem Step.complete_after (c : Collaborators σ) (s : Step σ κ) (m : Machine κ) (w : σ)
    (hset : m.observers.Complete) (hs : ∀ observers, s = .observe observers → observers.Complete) :
    (s.moment c m w).1.after.observers.Complete := by
  obtain hsame | hobserve := (Moment.turn c s m w).observers
  · rw [hsame]
    exact hset
  · exact hs _ hobserve

section Life

variable (c : Collaborators σ) {steps : List (Step σ κ)} (m : Machine κ) (w : σ)

/-- Each reported `connected` is followed by `disconnected` in the sequence of reported statuses, and
a held machine reports `disconnected` first. -/
theorem statuses_live (hset : m.observers.Complete)
    (hsteps : ∀ observers, .observe observers ∈ steps → observers.Complete) :
    let statuses := Trace.statuses ((live c steps m w).moments.flatMap (·.effects))
    statuses.IsChain (fun told next => told = .connected → next = .disconnected) ∧
      (m.IsHeld → ∀ next ∈ statuses.head?, next = .disconnected) := by
  induction steps generalizing m w with
  | nil => exact ⟨.nil, by simp [live, Trace.statuses]⟩
  | cons s rest ih =>
    have hturn := Moment.turn c s m w
    have hafter := s.complete_after c m w hset fun o hs => hsteps o (hs ▸ List.mem_cons_self ..)
    obtain ⟨hchain, hhead⟩ := ih _ (s.moment c m w).2 hafter fun o ho => hsteps o (List.mem_cons_of_mem s ho)
    obtain ⟨front, back, hprotocol⟩ := s.protocol c m w hset
    simp only [live, List.flatMap_cons, Trace.statuses_append]
    obtain ⟨hx, hstatuses⟩ | ⟨hx, hstatuses⟩ | ⟨hx, hstatuses⟩ := hprotocol.statuses
    · rw [hstatuses]
      refine ⟨List.isChain_cons.2 ⟨fun next hnext _ => hhead (.inl hx.2) next hnext, hchain⟩, ?_⟩
      intro hheld
      have hmaking : m.state = .connecting := (hturn.enters_connected hx).2
      obtain hstate | hstate := hheld <;> cases hmaking.symm.trans hstate
    · rw [hstatuses]
      refine ⟨List.isChain_cons.2 ⟨by simp, hchain⟩, fun _ next hnext => ?_⟩
      exact (Option.some.inj hnext).symm
    · rw [hstatuses]
      exact ⟨hchain, fun hheld => hhead (hturn.held hx hheld).1⟩

/-- Each moment of a run with all observers set is that of its step, and satisfies the protocol. -/
theorem protocol_live (hset : m.observers.Complete)
    (hsteps : ∀ observers, .observe observers ∈ steps → observers.Complete) :
    ∀ x ∈ (live c steps m w).moments, ∃ w, x = (x.step.moment c x.before w).1 ∧
      ∃ front back, x.Protocol front (x.step.tellings c x.before w) back := by
  induction steps generalizing m w with
  | nil => simp [live]
  | cons s rest ih =>
    have hafter := s.complete_after c m w hset fun o hs => hsteps o (hs ▸ List.mem_cons_self ..)
    intro x hx
    obtain rfl | hx := List.mem_cons.1 hx
    · exact ⟨w, rfl, s.protocol c m w hset⟩
    · exact ih _ (s.moment c m w).2 hafter (fun o ho => hsteps o (List.mem_cons_of_mem s ho)) x hx

end Life

/-- For every run of a machine with all observers set: each moment makes at most one transition and
satisfies the protocol, that is, observers are called exactly once for an established or lost
connection, for the events lost with it unless there are none, and for each acknowledged message in
flight, each with the machine as the transition, the emptied queue or the acknowledgement has left it.
Between two reports of `connected` there is one of `disconnected`. -/
theorem observers_told (c : Collaborators σ) (steps : List (Step σ κ)) (deviceId : String)
    (policy : ConnectPolicy) (observers : Observers κ) (world : σ) (hset : observers.Complete)
    (hsteps : ∀ o, .observe o ∈ steps → o.Complete) :
    let l := live c steps (.fresh deviceId policy observers) world
    (∀ x ∈ l.moments, ∃ w, x = (x.step.moment c x.before w).1 ∧
      Trace.transitions (x.step.moment c.silent x.before w).1.effects =
        wayTo x.before.state x.after.state ∧
      ∃ front back, x.Protocol front (x.step.tellings c x.before w) back) ∧
    ∀ front mid back one two,
      l.moments.flatMap (·.effects) =
        front ++ .report one (.status .connected) :: (mid ++ .report two (.status .connected) :: back) →
      ∃ hook, .report hook (.status .disconnected) ∈ mid := by
  intro l
  refine ⟨fun x hx => ?_, fun front mid back one two hsplit => ?_⟩
  · obtain ⟨w, hmoment, hprotocol⟩ := protocol_live c _ world hset hsteps x hx
    refine ⟨w, hmoment, ?_, hprotocol⟩
    rw [Step.transitions_moment, ← hmoment]
  · obtain ⟨hchain, -⟩ := statuses_live c (.fresh deviceId policy observers) world hset hsteps
    have hstatuses : Trace.statuses (l.moments.flatMap (·.effects)) =
        Trace.statuses front ++ .connected :: (Trace.statuses mid ++ .connected :: Trace.statuses back) := by
      rw [hsplit, Trace.statuses_append]
      exact congrArg (fun rest => _ ++ .connected :: rest) (Trace.statuses_append mid _)
    rw [hstatuses] at hchain
    have hnext := (List.isChain_append.1 hchain).2.1
    refine Trace.mem_statuses.1 ?_
    cases hmid : Trace.statuses mid with
    | nil =>
      rw [hmid] at hnext
      cases (List.isChain_cons_cons.1 hnext).1 rfl
    | cons first rest =>
      rw [hmid] at hnext
      obtain rfl := (List.isChain_cons_cons.1 hnext).1 rfl
      exact List.mem_cons_self ..

/-- An observer for every occasion. -/
def attentive : Observers Nat :=
  ⟨some 1, some 2, some 3, some 4⟩

/-- A connection over which one of two events is acknowledged, its end, and another connection. -/
def reconnecting : List (Step Nat Nat) :=
  [.call (.send [1] (some 7)), .call (.send [2] none), .notify .connected, .notify .connected,
    .notify (.published ⟨1⟩), .notify .disconnected, .call .connect, .notify .connected]

theorem observers_told_reconnecting :
    let l := live faltering reconnecting (.fresh "d" .onSend attentive) 2
    Trace.statuses (l.moments.flatMap (·.effects)) = [.connected, .disconnected, .connected] ∧
      ∀ x ∈ l.moments, ∃ w front back, x.Protocol front (x.step.tellings faltering x.before w) back := by
  intro l
  have hset : attentive.Complete := ⟨⟨1, rfl⟩, ⟨2, rfl⟩, ⟨3, rfl⟩, ⟨4, rfl⟩⟩
  have hsteps : ∀ o, (.observe o : Step Nat Nat) ∈ reconnecting → o.Complete := by
    simp [reconnecting]
  obtain ⟨hmoments, -⟩ := observers_told faltering reconnecting "d" .onSend attentive 2 hset hsteps
  refine ⟨by rfl, fun x hx => ?_⟩
  obtain ⟨w, -, -, hprotocol⟩ := hmoments x hx
  exact ⟨w, hprotocol⟩

end HubLink.Transport
