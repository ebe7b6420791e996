import HubLink.Proofs.Machine.Life

namespace HubLink.Transport

variable {σ κ : Type}

namespace Moment

theorem Flow.published {x : Moment σ κ} {sent : List (MessageId × QueuedEvent κ)}
    (h : x.Flow sent) : x.effects.published = sent.map fun p => (x.before.topic, p.2.payload) := by
  rw [Trace.published_eq_map_sent, h.sent, List.map_map]
  rfl

theorem Loss.published {x : Moment σ κ} (h : x.Loss) : x.effects.published = [] := by
  rw [Trace.published_eq_map_sent, h.sent]
  rfl

/-- In a moment with a flow, the published payloads followed by the new queue are the old queue
followed by the accepted payloads. -/
theorem Flow.payloads {x : Moment σ κ} {sent : List (MessageId × QueuedEvent κ)}
    (h : x.Flow sent) :
    x.effects.published.map (·.2) ++ x.after.pending.map (·.payload) =
      x.before.pending.map (·.payload) ++ x.accepted.map (·.payload) := by
  rw [← List.map_append, h.queue, h.published]
  simp

end Moment

namespace Course

/-- Over moments without a loss, the published payloads followed by the last queue are the first queue
followed by the accepted payloads. -/
theorem payloads_of_no_loss {m last : Machine κ} {h : History σ κ} (hc : Course m h last)
    (hloss : ∀ x ∈ h, x.isLoss = false) :
    h.published.map (·.2) ++ last.pending.map (·.payload) =
      m.pending.map (·.payload) ++ h.accepted.map (·.payload) := by
  induction hc with
  | nil => simp [History.published, History.accepted]
  | @loss x rest last hx =>
    have hnot := hloss x (by simp)
    rw [hx] at hnot
    cases hnot
  | @flow x rest last sent hx hspec hrest ih =>
    have hrest := ih fun y hy => hloss y (by simp [hy])
    have hx := hspec.payloads
    simp only [History.published, History.accepted, List.flatMap_cons, List.map_append,
      List.append_assoc] at hrest ⊢
    rw [hrest, ← List.append_assoc, hx, List.append_assoc]

/-- Over any course, the published payloads followed by the last queue are a sublist of the first
queue followed by the accepted payloads. -/
theorem payloads_sublist {m last : Machine κ} {h : History σ κ} (hc : Course m h last) :
    (h.published.map (·.2) ++ last.pending.map (·.payload)).Sublist
      (m.pending.map (·.payload) ++ h.accepted.map (·.payload)) := by
  induction hc with
  | nil => simp [History.published, History.accepted]
  | @loss x rest last hx hspec hrest ih =>
    simp only [hspec.pending, History.published, History.accepted, List.flatMap_cons,
      hspec.published, hspec.accepted, List.nil_append, List.map_nil] at ih ⊢
    exact ih.trans (List.sublist_append_right _ _)
  | @flow x rest last sent hx hspec hrest ih =>
    have hx := hspec.payloads
    simp only [History.published, History.accepted, List.flatMap_cons, List.map_append,
      List.append_assoc] at ih ⊢
    rw [← List.append_assoc (x.before.pending.map _), ← hx, List.append_assoc]
    exact (List.Sublist.refl _).append ih

/-- Every publish uses the topic of the machine's device. -/
theorem topic_of_published {m last : Machine κ} {h : History σ κ} (hc : Course m h last) :
    ∀ p ∈ h.published, p.1 = m.topic := by
  induction hc with
  | nil => simp [History.published]
  | @loss x rest last hx hspec hrest ih =>
    intro p hp
    simp only [History.published, List.flatMap_cons, hspec.published, List.nil_append] at ih hp
    rw [ih p hp, Machine.topic, hspec.deviceId, Machine.topic]
  | @flow x rest last sent hx hspec hrest ih =>
    intro p hp
    simp only [History.published, List.flatMap_cons, List.mem_append, hspec.published] at ih hp
    obtain hp | hp := hp
    · obtain ⟨q, -, rfl⟩ := List.mem_map.1 hp
      rfl
    · rw [ih p hp, Machine.topic, hspec.deviceId, Machine.topic]

end Course

/-- The payloads published since the last loss, followed by those of the queue, are the payloads
accepted since then, in order. Every publish uses the topic of the device. A loss empties the queue,
and the payloads published after it are a sublist of those accepted after it. -/
theorem published_append_pending_eq_accepted (c : Collaborators σ) (world : σ) (deviceId : String)
    (policy : ConnectPolicy) (observers : Observers κ) (steps : List (Step σ κ)) :
    let l := live c steps (.fresh deviceId policy observers) world
    l.moments.sinceLoss.published.map (·.2) ++ l.machine.pending.map (·.payload) =
        l.moments.sinceLoss.accepted.map (·.payload) ∧
      (∀ p ∈ l.moments.published, p.1 = telemetryTopic deviceId) ∧
      ∀ front x back, l.moments = front ++ x :: back → x.isLoss = true →
        x.after.pending = [] ∧
          (History.published back |>.map (·.2)).Sublist (History.accepted back |>.map (·.payload)) := by
  intro l
  have hc : Course (.fresh deviceId policy observers) l.moments l.machine := live_course ..
  refine ⟨?_, hc.topic_of_published, fun front x back hwhole hloss => ?_⟩
  · obtain ⟨hnone, hall | ⟨front, x, hwhole, hloss⟩⟩ := l.moments.sinceLoss_spec
    · rw [← hall] at hc
      exact hc.payloads_of_no_loss hnone
    · rw [hwhole] at hc
      obtain ⟨middle, -, hback⟩ := hc.split
      obtain ⟨hpending, -, hrest⟩ := hback.of_loss hloss
      have hpayloads := hrest.payloads_of_no_loss hnone
      rwa [hpending] at hpayloads
  · rw [hwhole] at hc
    obtain ⟨middle, -, hback⟩ := hc.split
    obtain ⟨hpending, -, hrest⟩ := hback.of_loss hloss
    have hsublist := hrest.payloads_sublist
    rw [hpending] at hsublist
    exact ⟨hpending, (List.sublist_append_left _ _).trans hsublist⟩

end HubLink.Transport
