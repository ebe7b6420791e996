import HubLink.Proofs.Machine.Life
import HubLink.Proofs.Machine.Outcomes

namespace HubLink.Transport

variable {σ κ ε α β : Type}

/-- The topic, payload and answer of a publish request. -/
def Effect.offer? : Effect κ → Option (String × Bytes × Except ProviderError MessageId)
  | .publish topic payload answer => some (topic, payload, answer)
  | _ => none

/-- The publish requests of a trace with their answers, in order. -/
def Trace.offers (t : Trace κ) : List (String × Bytes × Except ProviderError MessageId) :=
  t.filterMap Effect.offer?

theorem Trace.sent_eq_filterMap_offers (t : Trace κ) :
    t.sent = t.offers.filterMap fun p => p.2.2.toOption.map fun id => (p.1, p.2.1, id) := by
  unfold sent offers
  rw [List.filterMap_filterMap]
  congr 1
  funext e
  cases e with
  | publish topic payload answer => cases answer <;> rfl
  | _ => rfl

/-- The hooks called in a trace, in order. -/
def Trace.hooks (t : Trace κ) : List κ :=
  t.filterMap Effect.hook?

/-- The view is `none` on side effects of collaborators and on dropped callbacks. -/
structure Effect.Overlooks (view : Effect κ → Option β) : Prop where
  aside : ∀ aside, view (.aside aside) = none
  discard : ∀ callback, view (.discard callback) = none

namespace Run

variable {view : Effect κ → Option β} (h : Effect.Overlooks view)
include h

theorem filterMap_note (r : Run σ κ) (remark : Remark) :
    (r.note remark).effects.filterMap view = r.effects.filterMap view := by
  simp [note, emit, h.aside]

theorem filterMap_discard (r : Run σ κ) (callbacks : List κ) :
    (r.discard callbacks).effects.filterMap view = r.effects.filterMap view := by
  simp [discard, h.discard]

theorem filterMap_enter (r : Run σ κ) (next : ConnectionState) :
    (r.enter next).effects.filterMap view = r.effects.filterMap view :=
  r.filterMap_note h _

theorem filterMap_enqueue (r : Run σ κ) (payload : Bytes) (callback : Option κ) :
    (r.enqueue payload callback).effects.filterMap view = r.effects.filterMap view := by
  unfold enqueue
  apply filterMap_note h

theorem filterMap_track (r : Run σ κ) (id : MessageId) (callback : Option κ) :
    (r.track id callback).effects.filterMap view = r.effects.filterMap view := by
  unfold track
  cases r.machine.inFlight.find? id with
  | none => exact filterMap_note h _ _
  | some old => simp only [filterMap_note h, filterMap_discard h]

/-- A request adds to a view only what the view gives for the request itself. -/
theorem filterMap_ask {r r' : Run σ κ} {reply : Reply σ ε α} {effect : Except ε α → Effect κ}
    {result : Except ε α} (hask : r.ask reply effect = (result, r')) :
    r'.effects.filterMap view = r.effects.filterMap view ++ (view (effect result)).toList := by
  obtain rfl : reply.result = result := congrArg Prod.fst hask
  obtain rfl : (r.ask reply effect).2 = r' := congrArg Prod.snd hask
  have hasides : (reply.asides.map .aside : Trace κ).filterMap view = [] := by simp [h.aside]
  rw [ask, List.filterMap_append, List.filterMap_append, hasides, List.append_nil]
  cases hseen : view (effect reply.result) <;> simp [hseen]

end Run

theorem Run.mem_of_ask {r r' : Run σ κ} {reply : Reply σ ε α} {effect : Except ε α → Effect κ}
    {result : Except ε α} (h : r.ask reply effect = (result, r')) : effect result ∈ r'.effects := by
  obtain rfl : reply.result = result := congrArg Prod.fst h
  obtain rfl : (r.ask reply effect).2 = r' := congrArg Prod.snd h
  simp [ask]

theorem Run.offers_report (r : Run σ κ) (observer : Option κ) (report : Report) :
    Trace.offers (r.report observer report).effects = Trace.offers r.effects := by
  cases observer with
  | none => rfl
  | some hook => simp [Run.report, emit, Trace.offers, Effect.offer?]

namespace Trace

theorem overlooks_offers : Effect.Overlooks (@Effect.offer? κ) :=
  ⟨fun _ => rfl, fun _ => rfl⟩

theorem overlooks_hooks : Effect.Overlooks (@Effect.hook? κ) :=
  ⟨fun _ => rfl, fun _ => rfl⟩

end Trace

/-- The publish request for an event on the topic of the machine, with its answer. -/
def Machine.offer (m : Machine κ) (event : QueuedEvent κ) (answer : Except ProviderError MessageId) :
    String × Bytes × Except ProviderError MessageId :=
  (m.topic, event.payload, answer)

/-- The outcomes of publishing the queue, with the publish requests made: all events are published, or
those before the first refused one, which stays at the head of the queue. -/
inductive Drained (m : Machine κ) : Except ProviderError Unit → Machine κ →
    List (String × Bytes × Except ProviderError MessageId) → Prop
  | whole (sent : List (MessageId × QueuedEvent κ)) (hqueue : m.pending = sent.map (·.2)) :
    Drained m (.ok ()) { m with pending := [], inFlight := m.inFlight.insertAll sent }
      (sent.map fun p => m.offer p.2 (.ok p.1))
  | blocked (sent : List (MessageId × QueuedEvent κ)) (event : QueuedEvent κ)
      (rest : List (QueuedEvent κ)) (e : ProviderError)
      (hqueue : m.pending = sent.map (·.2) ++ event :: rest) :
    Drained m (.error e) { m with pending := event :: rest, inFlight := m.inFlight.insertAll sent }
      ((sent.map fun p => m.offer p.2 (.ok p.1)) ++ [m.offer event (.error e)])

theorem Drained.cons {m m' : Machine κ} {event : QueuedEvent κ} {rest : List (QueuedEvent κ)}
    {id : MessageId} {result : Except ProviderError Unit}
    {offers : List (String × Bytes × Except ProviderError MessageId)}
    (hpending : m.pending = event :: rest)
    (h : Drained { m with pending := rest, inFlight := m.inFlight.insert id event.callback } result m'
      offers) :
    Drained m result m' (m.offer event (.ok id) :: offers) := by
  cases h with
  | whole sent hqueue =>
    have hwhole : m.pending = List.map (·.2) ((id, event) :: sent) := by
      rw [hpending]
      exact congrArg (event :: ·) hqueue
    exact .whole _ hwhole
  | blocked sent event' rest' e hqueue =>
    have hwhole : m.pending = List.map (·.2) ((id, event) :: sent) ++ event' :: rest' := by
      rw [hpending]
      exact congrArg (event :: ·) hqueue
    exact .blocked _ event' rest' e hwhole

theorem Drained.of_ok {m m' : Machine κ}
    {offers : List (String × Bytes × Except ProviderError MessageId)}
    (h : Drained m (.ok ()) m' offers) : m'.pending = [] := by
  cases h with
  | whole sent hqueue => rfl

theorem Drained.state {m m' : Machine κ} {result : Except ProviderError Unit}
    {offers : List (String × Bytes × Except ProviderError MessageId)}
    (h : Drained m result m' offers) : m'.state = m.state := by
  cases h <;> rfl

theorem Drained.policy {m m' : Machine κ} {result : Except ProviderError Unit}
    {offers : List (String × Bytes × Except ProviderError MessageId)}
    (h : Drained m result m' offers) : m'.policy = m.policy := by
  cases h <;> rfl

/-- An identity in flight after the queue was published was in flight before, or was given out for an
event of the queue. -/
theorem Drained.mem_ids {m m' : Machine κ} {result : Except ProviderError Unit}
    {offers : List (String × Bytes × Except ProviderError MessageId)} (h : Drained m result m' offers)
    {id : MessageId} (hid : id ∈ m'.inFlight.ids) :
    id ∈ m.inFlight.ids ∨ ∃ event, m.offer event (.ok id) ∈ offers := by
  have hsent {sent : List (MessageId × QueuedEvent κ)} (hid : id ∈ (m.inFlight.insertAll sent).ids) :
      id ∈ m.inFlight.ids ∨ ∃ event, m.offer event (.ok id) ∈ sent.map fun p => m.offer p.2 (.ok p.1) := by
    obtain hold | hnew := (InFlight.mem_ids_insertAll m.inFlight sent id).1 hid
    · exact .inl hold
    · obtain ⟨p, hp, rfl⟩ := List.mem_map.1 hnew
      exact .inr ⟨p.2, List.mem_map.2 ⟨p, hp, rfl⟩⟩
  cases h with
  | whole sent hqueue => exact hsent hid
  | blocked sent event rest e hqueue =>
    obtain hold | ⟨event, hoffer⟩ := hsent hid
    · exact .inl hold
    · exact .inr ⟨event, List.mem_append_left _ hoffer⟩

theorem Drained.of_error {m m' : Machine κ} {e : ProviderError}
    {offers : List (String × Bytes × Except ProviderError MessageId)}
    (h : Drained m (.error e) m' offers) :
    ∃ sent event rest, m.pending = sent.map (·.2) ++ event :: rest ∧
      m' = { m with pending := event :: rest, inFlight := m.inFlight.insertAll sent } ∧
      offers = (sent.map fun p => m.offer p.2 (.ok p.1)) ++ [m.offer event (.error e)] := by
  cases h with
  | blocked sent event rest e hqueue => exact ⟨sent, event, rest, hqueue, rfl, rfl⟩

namespace Run

theorem publishAll_drained (c : Collaborators σ) (events : List (QueuedEvent κ)) (r : Run σ κ)
    (hpending : r.machine.pending = events) :
    ∃ offers, Drained r.machine (publishAll c events r).1 (publishAll c events r).2.machine offers ∧
      Trace.offers (publishAll c events r).2.effects = Trace.offers r.effects ++ offers := by
  have houtcome := publishes c events r
  generalize publishAll c events r = outcome at houtcome ⊢
  induction houtcome with
  | done r =>
    refine ⟨[], ?_, (List.append_nil _).symm⟩
    simpa [← hpending] using Drained.whole (m := r.machine) [] hpending
  | @refused event rest r r₁ e hpublish =>
    refine ⟨[r.machine.offer event (.error e)], ?_, ?_⟩
    · have hmachine := ask_machine hpublish
      simpa [note, emit, hmachine, ← hpending] using
        Drained.blocked (m := r.machine) [] event rest e hpending
    · exact (filterMap_note Trace.overlooks_offers _ _).trans
        (filterMap_ask Trace.overlooks_offers hpublish)
  | @published event rest r r₁ id hpublish last hrest ih =>
    obtain ⟨offers, hdrained, hoffers⟩ := ih (by simp)
    have hmachine := ask_machine hpublish
    refine ⟨r.machine.offer event (.ok id) :: offers, ?_, ?_⟩
    · apply Drained.cons hpending
      simpa [hmachine] using hdrained
    · have hasked := filterMap_ask Trace.overlooks_offers hpublish
      rw [hoffers, List.append_cons]
      exact congrArg (· ++ offers) ((filterMap_track Trace.overlooks_offers _ _ _).trans hasked)

theorem drain_drained (c : Collaborators σ) (r : Run σ κ) (hstate : r.machine.state = .connected) :
    ∃ offers, Drained r.machine (r.drain c).1 (r.drain c).2.machine offers ∧
      Trace.offers (r.drain c).2.effects = Trace.offers r.effects ++ offers := by
  have hcan : r.machine.state.canPublish = true := by rw [hstate]; rfl
  rw [drain, if_pos hcan]
  exact publishAll_drained c _ r rfl

/-- In `connect` there is no publish request. It leaves the machine unchanged, and returns an error if
the machine is disconnected, or takes a disconnected machine to connecting and returns success. -/
theorem connect_spec (c : Collaborators σ) (r : Run σ κ) :
    Trace.offers (r.connect c).2.effects = Trace.offers r.effects ∧
      ((r.connect c).2.machine = r.machine ∧
          (r.machine.state = .disconnected → (r.connect c).1 ≠ .ok ()) ∨
        r.machine.state = .disconnected ∧ (r.connect c).1 = .ok () ∧
          (r.connect c).2.machine = { r.machine with state := .connecting } ∧
          ∃ token, .connect token (.ok ()) ∈ (r.connect c).2.effects) := by
  have houtcome := r.connects c
  generalize r.connect c = outcome at houtcome ⊢
  cases houtcome with
  | ignored hstate =>
    exact ⟨filterMap_note Trace.overlooks_offers _ _, .inl ⟨rfl, fun h => absurd h hstate⟩⟩
  | unsigned hstate htoken =>
    have hoffers := filterMap_ask Trace.overlooks_offers htoken
    exact ⟨hoffers.trans (List.append_nil _), .inl ⟨ask_machine htoken, by simp⟩⟩
  | refused hstate htoken hconnect =>
    have hfirst := filterMap_ask Trace.overlooks_offers htoken
    have hoffers := filterMap_ask Trace.overlooks_offers hconnect
    rw [hfirst] at hoffers
    refine ⟨hoffers.trans ?_, .inl ⟨(ask_machine hconnect).trans (ask_machine htoken), by simp⟩⟩
    simp [Effect.offer?, Trace.offers]
  | @begun hstate token r₁ htoken r₂ hconnect =>
    have hfirst := filterMap_ask Trace.overlooks_offers htoken
    have hoffers := filterMap_ask Trace.overlooks_offers hconnect
    rw [hfirst] at hoffers
    have hmachine := (ask_machine hconnect).trans (ask_machine htoken)
    have hmem := mem_of_ask hconnect
    refine ⟨?_, .inr ⟨hstate, rfl, ?_, token, List.mem_append_left _ hmem⟩⟩
    · refine (filterMap_enter Trace.overlooks_offers _ _).trans (hoffers.trans ?_)
      simp [Effect.offer?, Trace.offers]
    · simp [enter, note, emit, hmachine]

theorem offers_lose (r : Run σ κ) : Trace.offers r.lose.effects = Trace.offers r.effects := by
  let entered := r.enter .disconnected
  let emptied : Run σ κ :=
    { entered with machine := { entered.machine with pending := [], inFlight := [] } }.discard
      r.machine.callbacks
  have hemptied : Trace.offers emptied.effects = Trace.offers r.effects :=
    (filterMap_discard Trace.overlooks_offers _ _).trans (filterMap_enter Trace.overlooks_offers r _)
  unfold lose
  dsimp only
  split
  · exact hemptied
  · exact (filterMap_note Trace.overlooks_offers emptied _).trans hemptied

end Run

theorem Step.call_ne_notify (request : Request κ) (n : Notification) :
    (Step.call request : Step σ κ) ≠ .notify n := by
  intro h
  cases h

namespace Moment

/-- What a moment does, by cases on the state and the step: each case has the state in which it
occurs, the publish requests made with their answers, and the machine afterwards. -/
inductive Turn (x : Moment σ κ) : Prop
  | rests (hstep : ∀ n, x.step ≠ .notify n) (haccepted : x.accepted = [])
      (hoffers : x.effects.offers = []) (hafter : x.after = x.before)
  | observes (observers : Observers κ) (hstep : x.step = .observe observers)
      (hoffers : x.effects.offers = []) (hafter : x.after = { x.before with observers })
  /-- A notification that does not fit the state is ignored. -/
  | ignores (n : Notification) (hstep : x.step = .notify n)
      (hstate : n = .connected ∧ x.before.state ≠ .connecting ∨
        n = .disconnected ∧ x.before.state = .disconnected)
      (hoffers : x.effects.offers = []) (hafter : x.after = x.before)
  /-- An event is queued without a connection. -/
  | queues (request : Request κ) (hstep : x.step = .call request)
      (hstate : x.before.state = .connecting ∨
        x.before.state = .disconnected ∧ x.before.policy = .never)
      (hresult : x.result = .ok ()) (hoffers : x.effects.offers = [])
      (hafter : x.after = { x.before with pending := x.before.pending ++ x.accepted })
  /-- A connect request is accepted, and the event of a `send` is queued. -/
  | dials (request : Request κ) (token : String) (hstep : x.step = .call request)
      (hstate : x.before.state = .disconnected) (hresult : x.result = .ok ())
      (hconnect : .connect token (.ok ()) ∈ x.effects) (hoffers : x.effects.offers = [])
      (hafter : x.after =
        { x.before with state := .connecting, pending := x.before.pending ++ x.accepted })
  | hangsUp (hstep : x.step = .call .disconnect)
      (hstate : x.before.state.canStartDisconnect = true) (hresult : x.result = .ok ())
      (hdisconnect : .disconnect (.ok ()) ∈ x.effects) (hoffers : x.effects.offers = [])
      (hafter : x.after = { x.before with state := .disconnecting })
  /-- An event is published at once. -/
  | publishes (payload : Bytes) (callback : Option κ) (id : MessageId)
      (hstep : x.step = .call (.send payload callback)) (hstate : x.before.state = .connected)
      (hpending : x.before.pending = []) (hresult : x.result = .ok ())
      (hoffers : x.effects.offers = [x.before.offer ⟨payload, callback⟩ (.ok id)])
      (hafter : x.after = { x.before with inFlight := x.before.inFlight.insert id callback })
  /-- The publish of an event is refused, and the event is not queued. -/
  | refused (payload : Bytes) (callback : Option κ) (e : ProviderError)
      (hstep : x.step = .call (.send payload callback)) (hstate : x.before.state = .connected)
      (hpending : x.before.pending = []) (hresult : x.result = .error (.provider e))
      (haccepted : x.accepted = [])
      (hoffers : x.effects.offers = [x.before.offer ⟨payload, callback⟩ (.error e)])
      (hafter : x.after = x.before)
  /-- An event is queued behind others, and the queue is published. -/
  | follows (payload : Bytes) (callback : Option κ) (result : Except ProviderError Unit)
      (hstep : x.step = .call (.send payload callback)) (hstate : x.before.state = .connected)
      (hpending : x.before.pending ≠ []) (hresult : x.result = result.mapError .provider)
      (hdrained : Drained { x.before with pending := x.before.pending ++ [⟨payload, callback⟩] } result
        x.after x.effects.offers)
  /-- The connection is established, and the queue is published. -/
  | opens (result : Except ProviderError Unit) (hstep : x.step = .notify .connected)
      (hstate : x.before.state = .connecting)
      (hdrained : Drained { x.before with state := .connected } result x.after x.effects.offers)
  | acknowledges (id : MessageId) (hstep : x.step = .notify (.published id))
      (hoffers : x.effects.offers = [])
      (hafter : x.after = { x.before with inFlight := x.before.inFlight.erase id })
  | loses (hstep : x.step = .notify .disconnected) (hstate : x.before.state ≠ .disconnected)
      (hoffers : x.effects.offers = [])
      (hafter : x.after = { x.before with state := .disconnected, pending := [], inFlight := [] })

/-- The events `sent` were published, `event` was refused with `e`, and `event :: rest` is the
queue. -/
structure Blocked (x : Moment σ κ) (sent : List (MessageId × QueuedEvent κ))
    (event : QueuedEvent κ) (rest : List (QueuedEvent κ)) (e : ProviderError) : Prop where
  queue : x.before.pending ++ x.accepted = sent.map (·.2) ++ event :: rest
  offers : x.effects.offers =
    (sent.map fun p => x.before.offer p.2 (.ok p.1)) ++ [x.before.offer event (.error e)]
  pending : x.after.pending = event :: rest
  inFlight : x.after.inFlight = x.before.inFlight.insertAll sent

theorem Blocked.sent {x : Moment σ κ} {sent : List (MessageId × QueuedEvent κ)}
    {event : QueuedEvent κ} {rest : List (QueuedEvent κ)} {e : ProviderError}
    (h : x.Blocked sent event rest e) :
    x.effects.sent = sent.map fun p => (x.before.topic, p.2.payload, p.1) := by
  rw [Trace.sent_eq_filterMap_offers, h.offers, List.filterMap_append]
  simp [Machine.offer, Except.toOption, List.filterMap_map]

theorem turn_connect (c : Collaborators σ) (m : Machine κ) (w : σ) :
    ((Step.call .connect).moment c m w).1.Turn := by
  obtain ⟨hoffers, ⟨hmachine, -⟩ | ⟨hstate, hresult, hmachine, token, hconnect⟩⟩ :=
    Run.connect_spec c { machine := m, world := w }
  · refine .rests (Step.call_ne_notify _) rfl hoffers ?_
    simp [Step.moment, Step.take, Run.perform, hmachine]
  · refine .dials .connect token rfl hstate hresult hconnect hoffers ?_
    simp [Step.moment, Step.take, Run.perform, hmachine, accepted, Request.accepted]

theorem turn_disconnect (c : Collaborators σ) (m : Machine κ) (w : σ) :
    ((Step.call .disconnect).moment c m w).1.Turn := by
  have houtcome := Run.disconnects c { machine := m, world := w }
  simp only [Step.moment, Step.take, Run.perform]
  generalize Run.disconnect c { machine := m, world := w } = outcome at houtcome ⊢
  cases houtcome with
  | ignored hstate => exact .rests (Step.call_ne_notify _) rfl rfl rfl
  | refused hstate hdisconnect =>
    have hmachine := Run.ask_machine hdisconnect
    have hoffers := Run.filterMap_ask Trace.overlooks_offers hdisconnect
    exact .rests (Step.call_ne_notify _) rfl hoffers (by simp [hmachine])
  | begun hstate hdisconnect =>
    have hmachine := Run.ask_machine hdisconnect
    have hoffers := Run.filterMap_ask Trace.overlooks_offers hdisconnect
    have hmem := Run.mem_of_ask hdisconnect
    refine .hangsUp rfl hstate rfl (List.mem_append_left _ hmem) ?_ ?_
    · exact (Run.filterMap_enter Trace.overlooks_offers _ _).trans hoffers
    · simp [Run.enter, Run.note, Run.emit, hmachine]

/-- Each `send` takes one of the turns. -/
theorem turn_send (c : Collaborators σ) (payload : Bytes) (callback : Option κ) (m : Machine κ)
    (w : σ) : ((Step.call (.send payload callback)).moment c m w).1.Turn := by
  let r : Run σ κ := { machine := m, world := w }
  have houtcome := r.sends c payload callback
  simp only [Step.moment, Step.take, Run.perform]
  generalize r.send c payload callback = outcome at houtcome ⊢
  cases houtcome with
  | @published hstate hpending id r₁ hpublish =>
    have hmachine := Run.ask_machine hpublish
    have hoffers := Run.filterMap_ask Trace.overlooks_offers hpublish
    refine .publishes payload callback id rfl hstate hpending rfl ?_ ?_
    · exact (Run.filterMap_track Trace.overlooks_offers _ _ _).trans hoffers
    · simp [hmachine, r]
  | @refused hstate hpending e r₁ hpublish =>
    have hmachine := Run.ask_machine hpublish
    have hoffers := Run.filterMap_ask Trace.overlooks_offers hpublish
    refine .refused payload callback e rfl hstate hpending rfl ?_ ?_ hmachine
    · have hnone : m.pending = [] := hpending
      simp [accepted, Request.accepted, hnone, Except.isOk, Except.toBool]
    · exact (Run.filterMap_discard Trace.overlooks_offers _ _).trans hoffers
  | @behind hstate hpending result r₁ hdrain =>
    -- The event is in the queue before the queue is tried.
    obtain ⟨offers, hdrained, hoffers⟩ := Run.drain_drained c (r.enqueue payload callback) hstate
    rw [hdrain, show Trace.offers (r.enqueue payload callback).effects = [] from
      Run.filterMap_enqueue Trace.overlooks_offers _ _ _, List.nil_append] at hoffers
    rw [hdrain] at hdrained
    rw [← hoffers] at hdrained
    exact .follows payload callback result rfl hstate hpending rfl hdrained
  | @dialled hstate hpolicy r₁ hconnect =>
    have hspec := Run.connect_spec c r
    rw [hconnect] at hspec
    obtain ⟨hoffers, ⟨-, hnot⟩ | ⟨-, -, hmachine, token, hmem⟩⟩ := hspec
    · exact absurd rfl (hnot hstate)
    · refine .dials (.send payload callback) token rfl hstate rfl (List.mem_append_left _ hmem) ?_ ?_
      · exact (Run.filterMap_enqueue Trace.overlooks_offers _ _ _).trans hoffers
      · have hmachine : r₁.machine = { m with state := .connecting } := hmachine
        simp [Run.enqueue, Run.note, Run.emit, hmachine, accepted, Request.accepted, Except.isOk,
          Except.toBool]
  | @undialled hstate hpolicy e r₁ hconnect =>
    have hspec := Run.connect_spec c r
    rw [hconnect] at hspec
    obtain ⟨hoffers, ⟨hmachine, -⟩ | ⟨-, hresult, -⟩⟩ := hspec
    · have hstate : m.state = .disconnected := hstate
      have hmachine : r₁.machine = m := hmachine
      refine .rests (Step.call_ne_notify _) ?_ ?_ (by simp [Run.discard, hmachine])
      · simp [accepted, Request.accepted, hstate, Except.isOk, Except.toBool]
      · exact (Run.filterMap_discard Trace.overlooks_offers _ _).trans hoffers
    · cases hresult
  | queued hstate =>
    exact .queues (.send payload callback) rfl hstate rfl
      (Run.filterMap_enqueue Trace.overlooks_offers _ _ _) rfl
  | rejected hstate =>
    have hstate : m.state = .disconnecting := hstate
    refine .rests (Step.call_ne_notify _) ?_ ?_ rfl
    · simp [accepted, Request.accepted, hstate, Except.isOk, Except.toBool]
    · exact (Run.filterMap_discard Trace.overlooks_offers _ _).trans
        (Run.filterMap_note Trace.overlooks_offers _ _)

theorem turn_connected (c : Collaborators σ) (m : Machine κ) (w : σ) :
    ((Step.notify .connected).moment c m w).1.Turn := by
  let r : Run σ κ := { machine := m, world := w }
  simp only [Step.moment, Step.take, Run.handle_connected]
  split
  case isTrue hstate =>
    let there := (r.enter .connected).report m.observers.connected (.status .connected)
    have hannounced : Trace.offers there.effects = [] := by
      refine (Run.offers_report _ _ _).trans ?_
      exact Run.filterMap_enter Trace.overlooks_offers r .connected
    have hmachine : there.machine = { m with state := .connected } := by
      simp [there, Run.enter, Run.note, Run.emit, r]
    obtain ⟨offers, hdrained, hoffers⟩ := Run.drain_drained c there (by rw [hmachine])
    rw [hannounced, List.nil_append] at hoffers
    rw [hmachine, ← hoffers] at hdrained
    refine .opens (there.drain c).1 rfl hstate ?_
    -- What is refused here is only remarked upon.
    simp only [Run.releaseQueue]
    generalize there.drain c = drained at hdrained ⊢
    obtain ⟨result, r₁⟩ := drained
    cases result with
    | ok => exact hdrained
    | error e =>
      have hnote : Trace.offers (r₁.note (.queueWaits r₁.machine.pending.length)).effects =
          Trace.offers r₁.effects := Run.filterMap_note Trace.overlooks_offers _ _
      rw [← hnote] at hdrained
      exact hdrained
  case isFalse hstate => exact .ignores .connected rfl (.inl ⟨rfl, hstate⟩) rfl rfl

theorem turn_disconnected (c : Collaborators σ) (m : Machine κ) (w : σ) :
    ((Step.notify .disconnected).moment c m w).1.Turn := by
  let r : Run σ κ := { machine := m, world := w }
  by_cases hstate : m.state = .disconnected
  · have hignored : r.handle c .disconnected = r.note .unexpectedDisconnected := by
      rw [Run.handle_disconnected]
      exact if_pos hstate
    simp only [Step.moment, Step.take]
    rw [hignored]
    exact .ignores .disconnected rfl (.inr ⟨rfl, hstate⟩) rfl rfl
  · have hlost : r.handle c .disconnected =
        (r.lose.report (if m.load = 0 then none else m.observers.abandoned)
          (.abandoned m.load)).report m.observers.disconnected (.status .disconnected) := by
      rw [Run.handle_disconnected]
      exact if_neg hstate
    refine .loses rfl hstate ?_ ?_
    · simp only [Step.moment, Step.take]
      rw [hlost]
      refine ((Run.offers_report _ _ _).trans (Run.offers_report _ _ _)).trans ?_
      exact r.offers_lose
    · simp only [Step.moment, Step.take]
      rw [hlost, Run.report_machine, Run.report_machine, Run.lose_machine]

theorem turn_published (c : Collaborators σ) (id : MessageId) (m : Machine κ) (w : σ) :
    ((Step.notify (.published id)).moment c m w).1.Turn := by
  obtain ⟨new, hmachine, heffects, -⟩ := Run.published_spec c id { machine := m, world := w }
  refine .acknowledges id rfl ?_ hmachine
  simp only [Step.moment, Step.take, Run.handle_published]
  cases m.inFlight.find? id with
  | none => rfl
  | some callback =>
    refine (Run.offers_report _ _ _).trans ?_
    cases callback <;> rfl

/-- Every moment takes one of the turns. -/
theorem turn (c : Collaborators σ) (s : Step σ κ) (m : Machine κ) (w : σ) :
    (s.moment c m w).1.Turn := by
  cases s with
  | call request =>
    cases request with
    | connect => exact turn_connect c m w
    | send payload callback => exact turn_send c payload callback m w
    | disconnect => exact turn_disconnect c m w
  | notify n =>
    cases n with
    | connected => exact turn_connected c m w
    | disconnected => exact turn_disconnected c m w
    | published id => exact turn_published c id m w
  | observe observers => exact .observes observers rfl rfl rfl
  | drift change => exact .rests nofun rfl rfl rfl

/-- No turn changes the policy. -/
theorem Turn.policy {x : Moment σ κ} (h : x.Turn) : x.after.policy = x.before.policy := by
  cases h with
  | follows _ _ _ _ _ _ _ hdrained => exact hdrained.policy.trans rfl
  | opens _ _ _ hdrained => exact hdrained.policy.trans rfl
  | _ => simp_all

end Moment

theorem policy_live (c : Collaborators σ) (steps : List (Step σ κ)) (m : Machine κ) (w : σ) :
    (live c steps m w).machine.policy = m.policy := by
  induction steps generalizing m w with
  | nil => rfl
  | cons s rest ih => exact (ih _ _).trans (Moment.turn c s m w).policy

end HubLink.Transport
