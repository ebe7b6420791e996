import HubLink.Transport.Trace

namespace HubLink.Transport

variable {σ κ ε α : Type}

/-- Whether an effect is none of an accepted publish, a called callback and a report of lost
events. -/
def Effect.isQuiet : Effect κ → Bool
  | .publish _ _ (.ok _) | .complete _ | .report _ (.abandoned _) => false
  | _ => true

theorem Trace.views_eq_nil_of_quiet {t : Trace κ} (h : ∀ e ∈ t, e.isQuiet = true) :
    t.sent = [] ∧ t.completed = [] ∧ t.losses = [] := by
  refine ⟨?_, ?_, ?_⟩ <;>
  · refine List.filterMap_eq_nil_iff.2 fun e he => ?_
    have hquiet := h e he
    unfold Effect.isQuiet at hquiet
    split at hquiet <;> simp_all

theorem Trace.views_append_of_quiet {t : Trace κ} (h : ∀ e ∈ t, e.isQuiet = true)
    (more : Trace κ) :
    (t ++ more).sent = more.sent ∧ (t ++ more).completed = more.completed ∧
      (t ++ more).losses = more.losses := by
  obtain ⟨hsent, hcompleted, hlosses⟩ := Trace.views_eq_nil_of_quiet h
  simp [hsent, hcompleted, hlosses]

/-- Inserts published messages with their callbacks into the map of messages in flight, in order. -/
def InFlight.insertAll (f : InFlight κ) (sent : List (MessageId × QueuedEvent κ)) : InFlight κ :=
  sent.foldl (fun f p => f.insert p.1 p.2.callback) f

@[simp] theorem InFlight.insertAll_nil (f : InFlight κ) : f.insertAll [] = f := rfl

@[simp] theorem InFlight.insertAll_append (f : InFlight κ)
    (sent more : List (MessageId × QueuedEvent κ)) :
    f.insertAll (sent ++ more) = (f.insertAll sent).insertAll more :=
  List.foldl_append

/-- The identities in flight after insertions are those of before and those inserted. -/
theorem InFlight.mem_ids_insertAll (f : InFlight κ) (sent : List (MessageId × QueuedEvent κ))
    (id : MessageId) : id ∈ (f.insertAll sent).ids ↔ id ∈ f.ids ∨ id ∈ sent.map (·.1) := by
  induction sent generalizing f with
  | nil => simp
  | cons p rest ih =>
    rw [InFlight.insertAll, List.foldl_cons]
    refine (ih _).trans ?_
    rw [InFlight.mem_ids_insert, List.map_cons, List.mem_cons, or_assoc, or_left_comm]

/-- Messages inserted under new distinct identities are appended in order. -/
theorem InFlight.insertAll_of_nodup {f : InFlight κ} {sent : List (MessageId × QueuedEvent κ)}
    (h : (f.ids ++ sent.map (·.1)).Nodup) :
    f.insertAll sent = f ++ sent.map fun p => (p.1, p.2.callback) := by
  induction sent generalizing f with
  | nil => exact (List.append_nil f).symm
  | cons p rest ih =>
    have hnew : p.1 ∉ f.ids := fun hold => (List.nodup_append.1 h).2.2 _ hold _ (by simp) rfl
    have hfind : f.find? p.1 = none := by simpa [InFlight.mem_ids_iff] using hnew
    have hinsert : f.insert p.1 p.2.callback = f ++ [(p.1, p.2.callback)] := by
      rw [InFlight.insert, InFlight.erase_of_find?_eq_none hfind]
    have hrest : (InFlight.ids (f ++ [(p.1, p.2.callback)]) ++ rest.map (·.1)).Nodup := by
      simpa [InFlight.ids] using h
    rw [InFlight.insertAll, List.foldl_cons, hinsert]
    exact (ih hrest).trans (by simp)

/-- Between `r` and `r'` the events `accepted` were appended to the queue, and the events `sent` left
its front and were published, each under the identity beside it. Nothing else was published,
acknowledged or reported lost. -/
structure Passage (r r' : Run σ κ) (accepted : List (QueuedEvent κ))
    (sent : List (MessageId × QueuedEvent κ)) : Prop where
  deviceId : r'.machine.deviceId = r.machine.deviceId
  queue : r.machine.pending ++ accepted = sent.map (·.2) ++ r'.machine.pending
  inFlight : r'.machine.inFlight = r.machine.inFlight.insertAll sent
  effects : ∃ new : Trace κ, r'.effects = r.effects ++ new ∧
    new.sent = sent.map (fun p => (r.machine.topic, p.2.payload, p.1)) ∧
    new.completed = [] ∧ new.losses = []

/-- The event that a request accepts, given the answer. With queued events in the connected state, a
sent event is accepted even if the answer is an error. -/
def Request.accepted (m : Machine κ) (result : Except TransportError Unit) :
    Request κ → List (QueuedEvent κ)
  | .send payload callback =>
    if result.isOk || m.state == .connected && !m.pending.isEmpty then [⟨payload, callback⟩] else []
  | _ => []

namespace Passage

theorem topic {r r' : Run σ κ} {accepted : List (QueuedEvent κ)}
    {sent : List (MessageId × QueuedEvent κ)} (h : Passage r r' accepted sent) :
    r'.machine.topic = r.machine.topic := by
  simp only [Machine.topic, h.deviceId]

theorem trans {r r' r'' : Run σ κ} {accepted accepted' : List (QueuedEvent κ)}
    {sent sent' : List (MessageId × QueuedEvent κ)} (h : Passage r r' accepted sent)
    (h' : Passage r' r'' accepted' sent') :
    Passage r r'' (accepted ++ accepted') (sent ++ sent') := by
  obtain ⟨new, heffects, hsent, hcompleted, hlosses⟩ := h.effects
  obtain ⟨new', heffects', hsent', hcompleted', hlosses'⟩ := h'.effects
  refine ⟨h'.deviceId.trans h.deviceId, ?_, ?_, new ++ new', ?_⟩
  · rw [← List.append_assoc, h.queue, List.append_assoc, h'.queue, List.map_append,
      List.append_assoc]
  · rw [h'.inFlight, h.inFlight, InFlight.insertAll_append]
  · rw [h.topic] at hsent'
    simp [heffects, heffects', hsent, hsent', hcompleted, hcompleted', hlosses, hlosses']

/-- Quiet effects and a change of state or observers are a passage without events. -/
theorem of_quiet {r r' : Run σ κ} (new : Trace κ)
    (hmachine : r'.machine =
      { r.machine with state := r'.machine.state, observers := r'.machine.observers })
    (heffects : r'.effects = r.effects ++ new) (hquiet : ∀ e ∈ new, e.isQuiet = true) :
    Passage r r' [] [] := by
  obtain ⟨hsent, hcompleted, hlosses⟩ := Trace.views_eq_nil_of_quiet hquiet
  refine ⟨?_, ?_, ?_, new, heffects, hsent, hcompleted, hlosses⟩ <;> rw [hmachine] <;> simp

theorem refl (r : Run σ κ) : Passage r r [] [] :=
  of_quiet [] rfl (by simp) (by simp)

theorem note (r : Run σ κ) (remark : Remark) : Passage r (r.note remark) [] [] :=
  of_quiet [.aside (.remark remark)] rfl rfl (by simp [Effect.isQuiet])

theorem report (r : Run σ κ) (observer : Option κ) (report : Report)
    (h : ∀ count, report ≠ .abandoned count) : Passage r (r.report observer report) [] [] := by
  cases observer with
  | none => exact refl r
  | some hook =>
    refine of_quiet [.report hook report] rfl rfl fun e he => ?_
    rw [List.mem_singleton.1 he]
    cases report with
    | abandoned count => exact absurd rfl (h count)
    | _ => rfl

theorem discard (r : Run σ κ) (callbacks : List κ) : Passage r (r.discard callbacks) [] [] :=
  of_quiet (callbacks.map .discard) rfl rfl (by simp [Effect.isQuiet])

theorem enter (r : Run σ κ) (next : ConnectionState) : Passage r (r.enter next) [] [] :=
  of_quiet [.aside (.remark (.transition r.machine.deviceId r.machine.state next))] rfl rfl
    (by simp [Effect.isQuiet])

/-- A collaborator request other than an accepted publish is a passage without events. -/
theorem ask (r : Run σ κ) (reply : Reply σ ε α) (effect : Except ε α → Effect κ)
    (h : (effect reply.result).isQuiet = true) : Passage r (r.ask reply effect).2 [] [] := by
  refine of_quiet (reply.asides.map .aside ++ [effect reply.result]) rfl ?_ fun e he => ?_
  · exact List.append_assoc ..
  · obtain he | he := List.mem_append.1 he
    · obtain ⟨aside, -, rfl⟩ := List.mem_map.1 he
      rfl
    · rwa [List.mem_singleton.1 he]

theorem enqueue (r : Run σ κ) (payload : Bytes) (callback : Option κ) :
    Passage r (r.enqueue payload callback) [⟨payload, callback⟩] [] :=
  ⟨rfl, rfl, rfl, [_], rfl, rfl, rfl, rfl⟩

/-- Tracking a message has the passage of the bare insertion into the map of messages in flight; its
dropped callback and remark are quiet. -/
theorem track {r₀ r : Run σ κ} {id : MessageId} {callback : Option κ}
    {accepted : List (QueuedEvent κ)} {sent : List (MessageId × QueuedEvent κ)}
    (h : Passage r₀
      { r with machine := { r.machine with inFlight := r.machine.inFlight.insert id callback } }
      accepted sent) :
    Passage r₀ (r.track id callback) accepted sent := by
  unfold Run.track
  cases r.machine.inFlight.find? id with
  | none => simpa using h.trans (note _ _)
  | some old => simpa using ((h.trans (discard _ old.toList)).trans (note _ _)).trans (note _ _)

/-- An accepted publish of the first event of the queue, which may be the one accepted just now, is a
passage that sends this event. -/
theorem publish (r : Run σ κ) (event : QueuedEvent κ) (rest accepted : List (QueuedEvent κ))
    (reply : Reply σ ProviderError MessageId) {id : MessageId} (hresult : reply.result = .ok id)
    (hqueue : r.machine.pending ++ accepted = event :: rest) :
    Passage r
      (({ (r.ask reply (.publish r.machine.topic event.payload)).2 with
        machine := { r.machine with pending := rest } } : Run σ κ).track id event.callback)
      accepted [(id, event)] := by
  have hasides : ∀ e ∈ (reply.asides.map .aside : Trace κ), e.isQuiet = true := by
    simp [Effect.isQuiet]
  obtain ⟨hsent, hcompleted, hlosses⟩ := Trace.views_eq_nil_of_quiet hasides
  apply track
  refine ⟨rfl, hqueue, rfl,
    reply.asides.map .aside ++ [.publish r.machine.topic event.payload (.ok id)], ?_, ?_, ?_, ?_⟩
  · simp only [Run.ask, hresult, List.append_assoc]
  · rw [Trace.sent_append, hsent]
    rfl
  · rw [Trace.completed_append, hcompleted]
    rfl
  · rw [Trace.losses_append, hlosses]
    rfl

/-- Publishing the queue is a passage that sends a front part of the queue. -/
theorem publishAll (c : Collaborators σ) (events : List (QueuedEvent κ)) (r : Run σ κ)
    (h : r.machine.pending = events) :
    ∃ sent, Passage r (Run.publishAll c events r).2 [] sent := by
  induction events generalizing r with
  | nil => exact ⟨[], refl r⟩
  | cons event rest ih =>
    let reply := c.publish r.machine.topic event.payload r.world
    unfold Run.publishAll
    cases hresult : reply.result with
    | error e =>
      have hask := ask r reply (.publish r.machine.topic event.payload)
        (by simp [hresult, Effect.isQuiet])
      refine ⟨[], ?_⟩
      simpa [Run.ask, hresult, reply] using
        hask.trans (note _ (.queuedPublishFailed e (rest.length + 1)))
    | ok id =>
      let asked := (r.ask reply (.publish r.machine.topic event.payload)).2
      let next : Run σ κ :=
        ({ asked with machine := { r.machine with pending := rest } }).track id event.callback
      have hfirst : Passage r next [] [(id, event)] :=
        publish r event rest [] reply hresult (by simpa using h)
      obtain ⟨sent, hrest⟩ := ih next (by simp [next])
      refine ⟨[(id, event)] ++ sent, ?_⟩
      simpa [Run.ask, hresult, reply, asked, next] using hfirst.trans hrest

theorem drain (c : Collaborators σ) (r : Run σ κ) :
    ∃ sent, Passage r (r.drain c).2 [] sent := by
  unfold Run.drain
  split
  · exact publishAll c _ r rfl
  · exact ⟨[], refl r⟩

theorem connect (c : Collaborators σ) (r : Run σ κ) : Passage r (r.connect c).2 [] [] := by
  unfold Run.connect
  split
  · have htoken := ask r (c.token r.world) .token rfl
    generalize r.ask (c.token r.world) .token = asked at htoken ⊢
    obtain ⟨result, r₁⟩ := asked
    cases result with
    | error e => exact htoken
    | ok token =>
      have hconnect := ask r₁ (c.connect token r₁.world) (.connect token) rfl
      simp only
      generalize r₁.ask (c.connect token r₁.world) (.connect token) = asked at hconnect ⊢
      obtain ⟨result, r₂⟩ := asked
      cases result with
      | error e => exact htoken.trans hconnect
      | ok => exact (htoken.trans hconnect).trans (enter r₂ .connecting)
  · exact note r _

theorem disconnect (c : Collaborators σ) (r : Run σ κ) : Passage r (r.disconnect c).2 [] [] := by
  unfold Run.disconnect
  split
  · have hask := ask r (c.disconnect r.world) .disconnect rfl
    generalize r.ask (c.disconnect r.world) .disconnect = asked at hask ⊢
    obtain ⟨result, r₁⟩ := asked
    cases result with
    | error e => exact hask
    | ok => exact hask.trans (enter r₁ .disconnecting)
  · exact note r _

/-- Sending in the connected state with an empty queue is a passage that accepts and sends the event
if its publish succeeds, and is without events otherwise. -/
theorem sendAtOnce (c : Collaborators σ) (payload : Bytes) (callback : Option κ) (r : Run σ κ)
    (hstate : r.machine.state = .connected) (hpending : r.machine.pending = []) :
    ∃ sent, Passage r (r.send c payload callback).2
      (Request.accepted r.machine (r.send c payload callback).1 (.send payload callback)) sent := by
  let reply := c.publish r.machine.topic payload r.world
  let asked := (r.ask reply (.publish r.machine.topic payload)).2
  have hsend : r.send c payload callback = match reply.result with
      | .ok id => (.ok (), asked.track id callback)
      | .error e => (.error (.provider e), asked.discard callback.toList) := by
    simp only [Run.send, hstate, hpending, List.isEmpty_nil, if_true, Run.ask, reply, asked]
    cases (c.publish r.machine.topic payload r.world).result <;> rfl
  cases hresult : reply.result with
  | error e =>
    have hask : Passage r asked [] [] :=
      ask r reply (.publish r.machine.topic payload) (by simp [hresult, Effect.isQuiet])
    refine ⟨[], ?_⟩
    simpa [hsend, hresult, Request.accepted, Except.isOk, Except.toBool, hpending] using
      hask.trans (discard asked callback.toList)
  | ok id =>
    have hpublish := publish r ⟨payload, callback⟩ [] [⟨payload, callback⟩] reply hresult
      (by simp [hpending])
    refine ⟨[(id, ⟨payload, callback⟩)], ?_⟩
    rw [hsend, hresult]
    have hsame : ({ asked with machine := { r.machine with pending := [] } } : Run σ κ) = asked := by
      rw [← hpending]
      rfl
    rw [hsame] at hpublish
    exact hpublish

/-- Sending is a passage that accepts the event exactly if `Request.accepted` says so. -/
theorem send (c : Collaborators σ) (payload : Bytes) (callback : Option κ) (r : Run σ κ) :
    ∃ sent, Passage r (r.send c payload callback).2
      (Request.accepted r.machine (r.send c payload callback).1 (.send payload callback)) sent := by
  cases hstate : r.machine.state with
  | connected =>
    by_cases hpending : r.machine.pending = []
    · exact sendAtOnce c payload callback r hstate hpending
    · obtain ⟨sent, hdrain⟩ := drain c (r.enqueue payload callback)
      refine ⟨sent, ?_⟩
      have hsend := (enqueue r payload callback).trans hdrain
      have haccepted (result : Except TransportError Unit) :
          Request.accepted r.machine result (.send payload callback) = [⟨payload, callback⟩] := by
        simp [Request.accepted, hstate, hpending]
      rw [haccepted]
      simp only [Run.send, hstate, List.isEmpty_iff, hpending, if_false]
      generalize (r.enqueue payload callback).drain c = drained at hsend ⊢
      obtain ⟨result, r₁⟩ := drained
      cases result <;> exact hsend
  | disconnected =>
    cases hpolicy : r.machine.policy with
    | onSend =>
      have hconnect := connect c r
      refine ⟨[], ?_⟩
      simp only [Run.send, hstate, hpolicy]
      generalize r.connect c = connected at hconnect ⊢
      obtain ⟨result, r₁⟩ := connected
      cases result with
      | error e =>
        simpa [Request.accepted, Except.isOk, Except.toBool, hstate] using
          hconnect.trans (discard r₁ callback.toList)
      | ok => exact hconnect.trans (enqueue r₁ payload callback)
    | never =>
      simp only [Run.send, hstate, hpolicy]
      exact ⟨[], enqueue r payload callback⟩
  | connecting =>
    simp only [Run.send, hstate]
    exact ⟨[], enqueue r payload callback⟩
  | disconnecting =>
    refine ⟨[], ?_⟩
    simpa [Run.send, hstate, Request.accepted, Except.isOk, Except.toBool] using
      (note r (.rejected r.machine.topic)).trans (discard _ callback.toList)

/-- Every request is a passage that accepts the events of `Request.accepted`. -/
theorem perform (c : Collaborators σ) (request : Request κ) (r : Run σ κ) :
    ∃ sent, Passage r (r.perform c request).2
      (request.accepted r.machine (r.perform c request).1) sent := by
  cases request with
  | connect => exact ⟨[], connect c r⟩
  | send payload callback => exact send c payload callback r
  | disconnect => exact ⟨[], disconnect c r⟩

end Passage
end HubLink.Transport
