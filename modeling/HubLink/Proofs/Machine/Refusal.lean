import HubLink.Proofs.Machine.Turns

namespace HubLink.Transport

variable {σ κ : Type}

namespace Run

theorem hooks_connect (c : Collaborators σ) (r : Run σ κ) :
    Trace.hooks (r.connect c).2.effects = Trace.hooks r.effects := by
  have houtcome := r.connects c
  generalize r.connect c = outcome at houtcome ⊢
  cases houtcome with
  | ignored hstate => exact filterMap_note Trace.overlooks_hooks _ _
  | unsigned hstate htoken =>
    exact (filterMap_ask Trace.overlooks_hooks htoken).trans (List.append_nil _)
  | refused hstate htoken hconnect =>
    have hfirst := (filterMap_ask Trace.overlooks_hooks htoken).trans (List.append_nil _)
    exact ((filterMap_ask Trace.overlooks_hooks hconnect).trans (List.append_nil _)).trans hfirst
  | begun hstate htoken hconnect =>
    have hfirst := (filterMap_ask Trace.overlooks_hooks htoken).trans (List.append_nil _)
    have hsecond := (filterMap_ask Trace.overlooks_hooks hconnect).trans (List.append_nil _)
    exact (filterMap_enter Trace.overlooks_hooks _ _).trans (hsecond.trans hfirst)

theorem hooks_disconnect (c : Collaborators σ) (r : Run σ κ) :
    Trace.hooks (r.disconnect c).2.effects = Trace.hooks r.effects := by
  have houtcome := r.disconnects c
  generalize r.disconnect c = outcome at houtcome ⊢
  cases houtcome with
  | ignored hstate => exact filterMap_note Trace.overlooks_hooks _ _
  | refused hstate hdisconnect =>
    exact (filterMap_ask Trace.overlooks_hooks hdisconnect).trans (List.append_nil _)
  | begun hstate hdisconnect =>
    have hasked := (filterMap_ask Trace.overlooks_hooks hdisconnect).trans (List.append_nil _)
    exact (filterMap_enter Trace.overlooks_hooks _ _).trans hasked

theorem hooks_publishAll (c : Collaborators σ) (events : List (QueuedEvent κ)) (r : Run σ κ) :
    Trace.hooks (publishAll c events r).2.effects = Trace.hooks r.effects := by
  have houtcome := publishes c events r
  generalize publishAll c events r = outcome at houtcome ⊢
  induction houtcome with
  | done r => rfl
  | refused hpublish =>
    have hasked := (filterMap_ask Trace.overlooks_hooks hpublish).trans (List.append_nil _)
    exact (filterMap_note Trace.overlooks_hooks _ _).trans hasked
  | published hpublish hrest ih =>
    have hasked := (filterMap_ask Trace.overlooks_hooks hpublish).trans (List.append_nil _)
    exact ih.trans ((filterMap_track Trace.overlooks_hooks _ _ _).trans hasked)

theorem hooks_drain (c : Collaborators σ) (r : Run σ κ) :
    Trace.hooks (r.drain c).2.effects = Trace.hooks r.effects := by
  unfold drain
  split
  · exact hooks_publishAll c _ r
  · rfl

theorem hooks_send (c : Collaborators σ) (payload : Bytes) (callback : Option κ) (r : Run σ κ) :
    Trace.hooks (r.send c payload callback).2.effects = Trace.hooks r.effects := by
  have houtcome := r.sends c payload callback
  generalize r.send c payload callback = outcome at houtcome ⊢
  cases houtcome with
  | published hstate hpending hpublish =>
    have hasked := (filterMap_ask Trace.overlooks_hooks hpublish).trans (List.append_nil _)
    exact (filterMap_track Trace.overlooks_hooks _ _ _).trans hasked
  | refused hstate hpending hpublish =>
    have hasked := (filterMap_ask Trace.overlooks_hooks hpublish).trans (List.append_nil _)
    exact (filterMap_discard Trace.overlooks_hooks _ _).trans hasked
  | behind hstate hpending hdrain =>
    have hdrained := hooks_drain c (r.enqueue payload callback)
    rw [hdrain] at hdrained
    exact hdrained.trans (filterMap_enqueue Trace.overlooks_hooks _ _ _)
  | dialled hstate hpolicy hconnect =>
    have hconnected := r.hooks_connect c
    rw [hconnect] at hconnected
    exact (filterMap_enqueue Trace.overlooks_hooks _ _ _).trans hconnected
  | undialled hstate hpolicy hconnect =>
    have hconnected := r.hooks_connect c
    rw [hconnect] at hconnected
    exact (filterMap_discard Trace.overlooks_hooks _ _).trans hconnected
  | queued hstate => exact filterMap_enqueue Trace.overlooks_hooks _ _ _
  | rejected hstate =>
    exact (filterMap_discard Trace.overlooks_hooks _ _).trans
      (filterMap_note Trace.overlooks_hooks _ _)

/-- A request calls no hook. -/
theorem hooks_perform (c : Collaborators σ) (request : Request κ) (r : Run σ κ) :
    Trace.hooks (r.perform c request).2.effects = Trace.hooks r.effects := by
  cases request with
  | connect => exact hooks_connect c r
  | send payload callback => exact hooks_send c payload callback r
  | disconnect => exact hooks_disconnect c r

end Run

/-- The machine after the first event of its queue was published under `id`. -/
def Machine.release (m : Machine κ) (id : MessageId) : Machine κ :=
  match m.pending with
  | [] => m
  | event :: rest =>
    { m with pending := rest, inFlight := m.inFlight.insert id event.callback }

theorem Machine.foldl_release {m : Machine κ} {sent : List (MessageId × QueuedEvent κ)}
    {left : List (QueuedEvent κ)} (h : m.pending = sent.map (·.2) ++ left) :
    (sent.map (·.1)).foldl Machine.release m =
      { m with pending := left, inFlight := m.inFlight.insertAll sent } := by
  induction sent generalizing m with
  | nil =>
    have hleft : m.pending = left := h
    rw [← hleft]
    rfl
  | cons p rest ih =>
    have hfirst : m.release p.1 =
        { m with
          pending := rest.map (·.2) ++ left
          inFlight := m.inFlight.insert p.1 p.2.callback } := by
      unfold Machine.release
      rw [h]
      rfl
    rw [List.map_cons, List.foldl_cons, hfirst]
    exact ih rfl

/-- The request sends an event on a connected machine with a queue that is not empty. -/
def Request.Follows (m : Machine κ) (request : Request κ) : Prop :=
  (∃ payload callback, request = .send payload callback) ∧ m.state = .connected ∧ m.pending ≠ []

/-- Such an event is accepted, whatever the answer is. -/
theorem Request.Follows.accepted_ne_nil {m : Machine κ} {request : Request κ}
    (h : request.Follows m) (result : Except TransportError Unit) :
    request.accepted m result ≠ [] := by
  obtain ⟨⟨payload, callback, rfl⟩, hstate, hpending⟩ := h
  simp [Request.accepted, hstate, hpending]

/-- A request that returns an error either leaves the machine unchanged and publishes nothing, or has
published the queue with the new event up to the first refused one. -/
theorem Moment.refusal (c : Collaborators σ) (request : Request κ) (m : Machine κ) (w : σ)
    {e : TransportError} (h : ((Step.call request).moment c m w).1.result = .error e) :
    let x := ((Step.call request).moment c m w).1
    (¬ request.Follows m ∧ x.accepted = [] ∧ x.effects.sent = [] ∧ x.after = m) ∨
      ∃ sent event rest refusal, request.Follows m ∧ e = .provider refusal ∧
        x.Blocked sent event rest refusal ∧
        x.after = { m with pending := event :: rest, inFlight := m.inFlight.insertAll sent } := by
  intro x
  have hturn : x.Turn := Moment.turn c (.call request) m w
  have hresult : x.result = .error e := h
  have hbefore : x.before = m := rfl
  have hstep : x.step = .call request := rfl
  cases hturn with
  | rests _ haccepted hoffers hafter =>
    refine .inl ⟨fun hfollows => hfollows.accepted_ne_nil _ haccepted, haccepted, ?_, hafter⟩
    rw [Trace.sent_eq_filterMap_offers, hoffers]
    rfl
  | refused payload callback refusal _ hstate hpending _ haccepted hoffers hafter =>
    refine .inl ⟨fun hfollows => hfollows.2.2 hpending, haccepted, ?_, hafter⟩
    rw [Trace.sent_eq_filterMap_offers, hoffers]
    rfl
  | follows payload callback result hsend hstate hpending hanswer hdrained =>
    -- The only refusal that leaves something behind: the queue was tried with the event in it.
    obtain rfl : request = .send payload callback := Step.call.inj (hstep.symm.trans hsend)
    have hfollows : (Request.send payload callback).Follows m :=
      ⟨⟨payload, callback, rfl⟩, hstate, hpending⟩
    have haccepted : x.accepted = [⟨payload, callback⟩] := by
      have hstate : m.state = .connected := hstate
      have hpending : m.pending ≠ [] := hpending
      simp [x, Moment.accepted, Step.moment, Request.accepted, hstate, hpending]
    rw [hresult] at hanswer
    cases result with
    | ok => cases hanswer
    | error refusal =>
      obtain ⟨sent, event, rest, hqueue, hafter, hoffers⟩ := hdrained.of_error
      refine .inr ⟨sent, event, rest, refusal, hfollows, Except.error.inj hanswer, ?_, hafter⟩
      refine ⟨?_, hoffers, by rw [hafter], by rw [hafter]⟩
      rw [haccepted]
      exact hqueue
  | queues _ _ _ hok | dials _ _ _ _ hok | hangsUp _ _ hok | publishes _ _ _ _ _ _ hok =>
    rw [hresult] at hok
    cases hok
  | observes _ hother | ignores _ hother | opens _ hother | acknowledges _ hother | loses hother =>
    rw [hstep] at hother
    cases hother

/-- A request that returns an error calls no hook and leaves the state unchanged. It leaves the whole
machine unchanged, unless it sends an event on a connected machine with queued events: then the events
before the first refused one have left the queue and are in flight, each under its identity with its
own callback, and the refused event is the head of the queue. Every later run is that of a machine
which has accepted the same event and released one event for each accepted publish. -/
theorem machine_unharmed_by_error (c : Collaborators σ) (request : Request κ) (m : Machine κ) (w : σ)
    (e : TransportError) (h : ((Step.call request).moment c m w).1.result = .error e) :
    let x := ((Step.call request).moment c m w).1
    x.effects.hooks = [] ∧ x.after.state = m.state ∧
      (¬ request.Follows m → x.after = m) ∧
      (request.Follows m → ∃ sent event rest refusal, e = .provider refusal ∧
        x.Blocked sent event rest refusal ∧
        x.after = { m with pending := event :: rest, inFlight := m.inFlight.insertAll sent } ∧
        ((m.inFlight.ids ++ sent.map (·.1)).Nodup →
          x.after.inFlight = m.inFlight ++ sent.map fun p => (p.1, p.2.callback))) ∧
      ∀ {τ : Type} (c' : Collaborators τ) (later : List (Step τ κ)) (w' : τ),
        live c' later x.after w' =
          live c' later ((x.effects.sent.map (·.2.2)).foldl Machine.release
            { m with pending := m.pending ++ x.accepted }) w' := by
  intro x
  have hhooks : x.effects.hooks = [] := Run.hooks_perform c request { machine := m, world := w }
  obtain ⟨hnot, haccepted, hsent, hafter⟩ | ⟨sent, event, rest, refusal, hfollows, he, hblocked, hafter⟩ :=
    Moment.refusal c request m w h
  · have hafter : x.after = m := hafter
    refine ⟨hhooks, congrArg Machine.state hafter, fun _ => hafter, fun hyes => absurd hyes hnot, ?_⟩
    intro τ c' later w'
    rw [haccepted, hsent, List.append_nil]
    exact congrArg (live c' later · w') hafter
  · have hafter : x.after =
        { m with pending := event :: rest, inFlight := m.inFlight.insertAll sent } := hafter
    refine ⟨hhooks, by rw [hafter], fun hnot => absurd hfollows hnot, fun _ => ?_, ?_⟩
    · refine ⟨sent, event, rest, refusal, he, hblocked, hafter, fun hnodup => ?_⟩
      rw [← InFlight.insertAll_of_nodup hnodup]
      exact hblocked.inFlight
    · intro τ c' later w'
      have hids : x.effects.sent.map (·.2.2) = sent.map (·.1) := by
        rw [hblocked.sent, List.map_map]
        rfl
      have hqueue : ({ m with pending := m.pending ++ x.accepted } : Machine κ).pending =
          sent.map (·.2) ++ event :: rest := hblocked.queue
      rw [hids, Machine.foldl_release hqueue]
      exact congrArg (live c' later · w') hafter

/-- A network that accepts as many publishes as its state says and refuses all further ones. -/
def faltering : Collaborators Nat where
  token n := { result := .ok "t", world := n }
  connect _ n := { result := .ok (), world := n }
  publish _ _
    | 0 => { result := .error .notConnected, world := 0 }
    | n + 1 => { result := .ok ⟨n.toUInt64⟩, world := n }
  disconnect n := { result := .ok (), world := n }

/-- A connected machine with queued events. -/
def stalled : Machine Nat :=
  (live faltering [.call (.send [1] (some 7)), .call (.send [2] none), .notify .connected]
    (.fresh "d" .onSend {}) 0).machine

theorem machine_unharmed_by_error_stalled :
    let x := ((Step.call (.send [3] (some 9))).moment faltering stalled 1).1
    x.result = .error (.provider .notConnected) ∧ x.effects.hooks = [] ∧
      x.after.pending = [⟨[2], none⟩, ⟨[3], some 9⟩] ∧ x.after.inFlight = [(⟨0⟩, some 7)] := by
  intro x
  have hresult : x.result = .error (.provider .notConnected) := by rfl
  obtain ⟨hhooks, -⟩ := machine_unharmed_by_error faltering (.send [3] (some 9)) stalled 1
    (.provider .notConnected) hresult
  exact ⟨hresult, hhooks, by rfl, by rfl⟩

end HubLink.Transport
