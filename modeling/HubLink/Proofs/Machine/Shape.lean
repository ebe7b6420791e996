import HubLink.Proofs.Machine.Turns

namespace HubLink.Transport

variable {σ κ : Type}

/-- The identities given out for the publish requests of a moment. -/
def Moment.given (x : Moment σ κ) : List MessageId :=
  x.effects.sent.map (·.2.2)

namespace History

/-- The publish requests of a history with their answers. -/
def offers (h : History σ κ) : List (String × Bytes × Except ProviderError MessageId) :=
  h.flatMap (·.effects.offers)

/-- The identities acknowledged in a history. -/
def acknowledged (h : History σ κ) : List MessageId :=
  h.flatMap (·.acknowledged)

/-- The identities given out in a history and not acknowledged after that. -/
def outstanding : History σ κ → List MessageId
  | [] => []
  | x :: rest => x.given.filter (· ∉ acknowledged rest) ++ outstanding rest

theorem mem_acknowledged_cons (x : Moment σ κ) (rest : History σ κ) (id : MessageId) :
    id ∈ acknowledged (x :: rest) ↔ id ∈ x.acknowledged ∨ id ∈ rest.acknowledged := by
  rw [acknowledged, List.flatMap_cons, List.mem_append]
  rfl

theorem mem_outstanding_cons (x : Moment σ κ) (rest : History σ κ) (id : MessageId) :
    id ∈ outstanding (x :: rest) ↔
      id ∈ x.given ∧ id ∉ rest.acknowledged ∨ id ∈ rest.outstanding := by
  rw [outstanding, List.mem_append, List.mem_filter, decide_eq_true_eq]

/-- The last publish request was refused, and the queue is the refused event followed by the events
behind it. -/
def Stalled (h : History σ κ) (m : Machine κ) : Prop :=
  ∃ front x back sent event rest e, h = front ++ x :: back ∧ x.Blocked sent event rest e ∧
    offers back = [] ∧ m.pending = event :: rest ∧ m.topic = x.before.topic

theorem Stalled.of_blocked {x : Moment σ κ} {sent : List (MessageId × QueuedEvent κ)}
    {event : QueuedEvent κ} {rest : List (QueuedEvent κ)} {e : ProviderError}
    (h : x.Blocked sent event rest e) (htopic : x.after.topic = x.before.topic)
    (front : History σ κ) : Stalled (front ++ [x]) x.after :=
  ⟨front, x, [], sent, event, rest, e, rfl, h, rfl, h.pending, htopic⟩

theorem Stalled.extend {h : History σ κ} {m m' : Machine κ} (hstalled : h.Stalled m)
    {x : Moment σ κ} (hoffers : x.effects.offers = []) (hpending : m'.pending = m.pending)
    (htopic : m'.topic = m.topic) : Stalled (h ++ [x]) m' := by
  obtain ⟨front, y, back, sent, event, rest, e, hwhole, hblocked, hquiet, hqueue, hsame⟩ := hstalled
  refine ⟨front, y, back ++ [x], sent, event, rest, e, ?_, hblocked, ?_, ?_, htopic.trans hsame⟩
  · rw [hwhole, List.append_assoc]
    rfl
  · rw [offers, List.flatMap_append, List.flatMap_singleton, hoffers, List.append_nil]
    exact hquiet
  · rw [hpending, hqueue]

/-- The head of a stalled queue is the event of the last publish request. -/
theorem Stalled.getLast?_offers {h : History σ κ} {m : Machine κ} (hstalled : h.Stalled m) :
    ∃ event rest e, m.pending = event :: rest ∧
      h.offers.getLast? = some (m.offer event (.error e)) := by
  obtain ⟨front, x, back, sent, event, rest, e, hwhole, hblocked, hquiet, hqueue, htopic⟩ := hstalled
  have hback : back.flatMap (·.effects.offers) = [] := hquiet
  refine ⟨event, rest, e, hqueue, ?_⟩
  rw [hwhole, offers, List.flatMap_append, List.flatMap_cons, hback, hblocked.offers]
  simp [Machine.offer, htopic]

end History

/-- The contents of a machine after a history, by its state: nothing in flight without a connection;
no queue in the disconnected state under policy `onSend`; a queue in the connected state only if it is
stalled. -/
structure Shape (h : History σ κ) (m : Machine κ) : Prop where
  inFlight : m.state = .disconnected ∨ m.state = .connecting → m.inFlight = []
  pending : m.policy = .onSend → m.state = .disconnected → m.pending = []
  stalled : m.state = .connected → m.pending ≠ [] → h.Stalled m

namespace Shape

theorem fresh (deviceId : String) (policy : ConnectPolicy) (observers : Observers κ) :
    Shape ([] : History σ κ) (.fresh deviceId policy observers) :=
  ⟨fun _ => rfl, fun _ _ => rfl, fun h => by cases h⟩

/-- After the queue was published, the machine is connected, and a remaining queue is stalled. -/
theorem of_drained {x : Moment σ κ} {m : Machine κ} {result : Except ProviderError Unit}
    (hdrained : Drained m result x.after x.effects.offers) (hstate : m.state = .connected)
    (hpending : m.pending = x.before.pending ++ x.accepted)
    (hinFlight : m.inFlight = x.before.inFlight) (htopic : m.topic = x.before.topic)
    (h : History σ κ) : Shape (h ++ [x]) x.after := by
  cases result with
  | ok =>
    have hconnected := hdrained.state.trans hstate
    exact ⟨by simp [hconnected], by simp [hconnected], fun _ hne => absurd hdrained.of_ok hne⟩
  | error e =>
    obtain ⟨sent, event, rest, hqueue, hafter, hoffers⟩ := hdrained.of_error
    have hconnected := hdrained.state.trans hstate
    have hblocked : x.Blocked sent event rest e := by
      refine ⟨hpending ▸ hqueue, ?_, by rw [hafter], by rw [hafter, hinFlight]⟩
      rw [hoffers]
      simp only [Machine.offer, htopic]
    have hsame : x.after.topic = x.before.topic := by
      rw [← htopic, hafter]
      rfl
    exact ⟨by simp [hconnected], by simp [hconnected], fun _ _ => .of_blocked hblocked hsame h⟩

/-- Every turn preserves the shape. -/
theorem step {h : History σ κ} {x : Moment σ κ} (hshape : Shape h x.before) (hturn : x.Turn) :
    Shape (h ++ [x]) x.after := by
  cases hturn with
  | rests _ _ hoffers hafter | ignores _ _ _ hoffers hafter =>
    rw [hafter]
    exact ⟨hshape.inFlight, hshape.pending,
      fun hstate hpending => (hshape.stalled hstate hpending).extend hoffers rfl rfl⟩
  | observes observers hstep hoffers hafter =>
    rw [hafter]
    exact ⟨hshape.inFlight, hshape.pending,
      fun hstate hpending => (hshape.stalled hstate hpending).extend hoffers rfl rfl⟩
  | queues request hstep hstate hresult hoffers hafter =>
    rw [hafter]
    refine ⟨hshape.inFlight, fun hpolicy hdisconnected => ?_, fun hconnected => ?_⟩
    · obtain hconnecting | ⟨-, hnever⟩ := hstate
      · rw [hconnecting] at hdisconnected
        cases hdisconnected
      · rw [hnever] at hpolicy
        cases hpolicy
    · obtain hconnecting | ⟨hdisconnected, -⟩ := hstate <;> simp_all
  | dials request token hstep hstate hresult hconnect hoffers hafter =>
    rw [hafter]
    refine ⟨fun _ => hshape.inFlight (.inl hstate), ?_, ?_⟩ <;> simp
  | hangsUp hstep hstate hresult hdisconnect hoffers hafter =>
    rw [hafter]
    refine ⟨?_, ?_, ?_⟩ <;> simp
  | publishes payload callback id hstep hstate hpending hresult hoffers hafter =>
    rw [hafter]
    refine ⟨?_, ?_, ?_⟩ <;> simp [hstate, hpending]
  | refused payload callback e hstep hstate hpending hresult haccepted hoffers hafter =>
    rw [hafter]
    exact ⟨hshape.inFlight, hshape.pending, fun _ hne => absurd hpending hne⟩
  | follows payload callback result hstep hstate hpending hresult hdrained =>
    refine of_drained hdrained hstate ?_ rfl rfl h
    simp [Moment.accepted, hstep, Request.accepted, hstate, hpending]
  | opens result hstep hstate hdrained =>
    refine of_drained hdrained rfl ?_ rfl rfl h
    simp [Moment.accepted, hstep]
  | acknowledges id hstep hoffers hafter =>
    rw [hafter]
    refine ⟨fun hstate => ?_, hshape.pending,
      fun hstate hpending => (hshape.stalled hstate hpending).extend hoffers rfl rfl⟩
    rw [hshape.inFlight hstate]
    rfl
  | loses hstep hstate hoffers hafter =>
    rw [hafter]
    refine ⟨?_, ?_, ?_⟩ <;> simp

theorem live (c : Collaborators σ) (steps : List (Step σ κ)) {h : History σ κ} {m : Machine κ}
    (hshape : Shape h m) (w : σ) :
    Shape (h ++ (live c steps m w).moments) (live c steps m w).machine := by
  induction steps generalizing h m w with
  | nil => simpa [Transport.live] using hshape
  | cons s rest ih =>
    have hfirst : Shape (h ++ [(s.moment c m w).1]) (s.moment c m w).1.after :=
      step hshape (Moment.turn c s m w)
    have hrest := ih hfirst (s.moment c m w).2
    rw [List.append_assoc] at hrest
    exact hrest

end Shape

theorem InFlight.ids_foldl_erase (f : InFlight κ) (ids : List MessageId) :
    (ids.foldl InFlight.erase f).ids = f.ids.filter (· ∉ ids) := by
  induction ids generalizing f with
  | nil => simp
  | cons id rest ih =>
    rw [List.foldl_cons, ih, InFlight.ids_erase, List.filter_filter]
    congr 1
    funext id'
    simp [Bool.and_comm]

namespace Moment

/-- The identities in flight before the moment and those given out in it are distinct. -/
def GivesNew (x : Moment σ κ) : Prop :=
  (x.before.inFlight.ids ++ x.given).Nodup

variable {x : Moment σ κ} {sent : List (MessageId × QueuedEvent κ)}

theorem Flow.given_eq (h : x.Flow sent) : x.given = sent.map (·.1) := by
  rw [given, h.sent, List.map_map]
  rfl

theorem Flow.mem_ids_after (h : x.Flow sent) (id : MessageId) :
    id ∈ x.after.inFlight.ids ↔
      id ∈ x.before.inFlight.ids ∧ id ∉ x.acknowledged ∨ id ∈ x.given := by
  rw [h.inFlight, InFlight.mem_ids_insertAll, InFlight.ids_foldl_erase, h.given_eq]
  simp

theorem Flow.ids_after (h : x.Flow sent) (hnew : x.GivesNew) :
    x.after.inFlight.ids = x.before.inFlight.ids.filter (· ∉ x.acknowledged) ++ x.given := by
  have hnodup : ((x.acknowledged.foldl InFlight.erase x.before.inFlight).ids ++
      sent.map (·.1)).Nodup := by
    rw [InFlight.ids_foldl_erase, ← h.given_eq]
    exact hnew.sublist (List.filter_sublist.append_right _)
  rw [h.inFlight, InFlight.insertAll_of_nodup hnodup, h.given_eq, ← InFlight.ids_foldl_erase]
  simp [InFlight.ids]

end Moment

namespace Course

variable {m last : Machine κ} {h : History σ κ}

/-- Over moments without a loss, an identity is in flight afterwards exactly if it was in flight and
not acknowledged, or is outstanding. -/
theorem mem_ids_iff (hc : Course m h last) (hloss : ∀ x ∈ h, x.isLoss = false) (id : MessageId) :
    id ∈ last.inFlight.ids ↔
      id ∈ m.inFlight.ids ∧ id ∉ h.acknowledged ∨ id ∈ h.outstanding := by
  induction hc with
  | nil => simp [History.acknowledged, History.outstanding]
  | @loss x rest last hx =>
    rw [hloss x (List.mem_cons_self ..)] at hx
    cases hx
  | @flow x rest last sent hx hspec hrest ih =>
    rw [ih fun y hy => hloss y (List.mem_cons_of_mem x hy), hspec.mem_ids_after id]
    rw [History.mem_acknowledged_cons, History.mem_outstanding_cons]
    tauto

theorem ids_eq (hc : Course m h last) (hloss : ∀ x ∈ h, x.isLoss = false)
    (hnew : ∀ x ∈ h, x.GivesNew) :
    last.inFlight.ids = m.inFlight.ids.filter (· ∉ h.acknowledged) ++ h.outstanding := by
  induction hc with
  | nil => simp [History.acknowledged, History.outstanding]
  | @loss x rest last hx =>
    rw [hloss x (List.mem_cons_self ..)] at hx
    cases hx
  | @flow x rest last sent hx hspec hrest ih =>
    have hrest := ih (fun y hy => hloss y (List.mem_cons_of_mem x hy))
      fun y hy => hnew y (List.mem_cons_of_mem x hy)
    have hkept : x.before.inFlight.ids.filter (fun id => id ∉ rest.acknowledged ∧ id ∉ x.acknowledged) =
        x.before.inFlight.ids.filter (· ∉ History.acknowledged (x :: rest)) := by
      refine List.filter_congr fun id _ => ?_
      rw [decide_eq_decide, History.mem_acknowledged_cons]
      tauto
    rw [hrest, hspec.ids_after (hnew x (List.mem_cons_self ..)), List.filter_append,
      List.filter_filter, List.append_assoc, ← hkept]
    simp only [Bool.decide_and]
    rfl

end Course

/-- The identities in flight are, as a set, those outstanding since the last loss. They are equal as
lists, if no identity is given out while it is in flight. -/
theorem Course.inFlight_spec {deviceId : String} {policy : ConnectPolicy} {observers : Observers κ}
    {last : Machine κ} {h : History σ κ} (hc : Course (.fresh deviceId policy observers) h last) :
    (∀ id, id ∈ last.inFlight.ids ↔ id ∈ h.sinceLoss.outstanding) ∧
      ((∀ x ∈ h.sinceLoss, x.GivesNew) → last.inFlight.ids = h.sinceLoss.outstanding) := by
  obtain ⟨hnone, hall | ⟨front, x, hwhole, hloss⟩⟩ := h.sinceLoss_spec
  · rw [← hall] at hc
    refine ⟨fun id => (hc.mem_ids_iff hnone id).trans ?_, fun hnew => (hc.ids_eq hnone hnew).trans ?_⟩
    · simp [Machine.fresh, InFlight.ids]
    · simp [Machine.fresh, InFlight.ids]
  · -- The loss left nothing in flight, so all that counts came behind it.
    rw [hwhole] at hc
    obtain ⟨middle, -, hback⟩ := hc.split
    obtain ⟨-, hempty, hrest⟩ := hback.of_loss hloss
    refine ⟨fun id => (hrest.mem_ids_iff hnone id).trans ?_,
      fun hnew => (hrest.ids_eq hnone hnew).trans ?_⟩
    · simp [hempty, InFlight.ids]
    · simp [hempty, InFlight.ids]

/-- In every reachable machine: nothing is in flight in the disconnected and in the connecting state;
the queue is empty in the disconnected state under policy `onSend`; if it is not empty in the
connected state, the last publish request was for its head and was refused, and the queue is what that
refusal left. In flight are the identities given out since the last loss and not acknowledged after
that, in order and once each, if no identity is given out while it is in flight. -/
theorem holdings_of_state (c : Collaborators σ) (world : σ) (deviceId : String)
    (policy : ConnectPolicy) (observers : Observers κ) (steps : List (Step σ κ)) :
    let l := live c steps (.fresh deviceId policy observers) world
    (l.machine.state = .disconnected ∨ l.machine.state = .connecting → l.machine.inFlight = []) ∧
    (policy = .onSend → l.machine.state = .disconnected → l.machine.pending = []) ∧
    (l.machine.state = .connected → l.machine.pending ≠ [] →
      (∃ event rest e, l.machine.pending = event :: rest ∧
        l.moments.offers.getLast? = some (l.machine.offer event (.error e))) ∧
      l.moments.Stalled l.machine) ∧
    (∀ id, id ∈ l.machine.inFlight.ids ↔ id ∈ l.moments.sinceLoss.outstanding) ∧
    ((∀ x ∈ l.moments.sinceLoss, x.GivesNew) →
      l.machine.inFlight.ids = l.moments.sinceLoss.outstanding) := by
  intro l
  have hshape : Shape l.moments l.machine :=
    Shape.live c steps (Shape.fresh deviceId policy observers) world
  have hpolicy : l.machine.policy = policy := policy_live c steps (.fresh deviceId policy observers) world
  obtain ⟨hids, hexact⟩ := (live_course c steps (.fresh deviceId policy observers) world).inFlight_spec
  refine ⟨hshape.inFlight, fun honSend => hshape.pending (hpolicy.trans honSend), ?_, hids, hexact⟩
  intro hstate hpending
  have hstalled := hshape.stalled hstate hpending
  exact ⟨hstalled.getLast?_offers, hstalled⟩

end HubLink.Transport
