import HubLink.Proofs.Machine.Ledger

namespace HubLink.Transport

variable {σ κ : Type}

/-- The queued entries of the ledger are `queue`, behind all others; its entries in flight are `f`,
under distinct identities. -/
structure Agrees (l : Ledger κ) (queue : List (QueuedEvent κ)) (f : InFlight κ) : Prop where
  queue : ∃ front : Ledger κ, l = front ++ queue.map .queued ∧ front.queued = []
  inFlight : l.inFlight = f
  nodup : (f.map (·.1)).Nodup

/-- With distinct identities, the callback of `id` is the only one that the map of messages in flight
has for it. -/
theorem InFlight.find?_join {f : InFlight κ} (h : (f.map (·.1)).Nodup) (id : MessageId) :
    (f.find? id).join.toList = f.filterMap fun p => if p.1 = id then p.2 else none := by
  induction f with
  | nil => rfl
  | cons p rest ih =>
    obtain ⟨hp, hrest⟩ := List.nodup_cons.1 h
    by_cases hid : p.1 = id
    · have hnone : rest.filterMap (fun q => if q.1 = id then q.2 else none) = [] := by
        refine List.filterMap_eq_nil_iff.2 fun q hq => ?_
        refine if_neg fun hsame => hp ?_
        exact List.mem_map.2 ⟨q, hq, hsame.trans hid.symm⟩
      cases hcallback : p.2 <;> simp [InFlight.find?, hid, hnone, hcallback]
    · simpa [InFlight.find?, hid] using ih hrest

theorem InFlight.nodup_erase {f : InFlight κ} (h : (f.map (·.1)).Nodup) (id : MessageId) :
    ((f.erase id).map (·.1)).Nodup :=
  h.sublist (List.filter_sublist.map _)

theorem InFlight.nodup_insert {f : InFlight κ} (h : (f.map (·.1)).Nodup) (id : MessageId)
    (callback : Option κ) : ((f.insert id callback).map (·.1)).Nodup := by
  unfold InFlight.insert
  rw [List.map_append, List.nodup_append]
  refine ⟨InFlight.nodup_erase h id, by simp, ?_⟩
  simp [InFlight.erase]

namespace Ledger

/-- The callbacks of the entries in flight under an identity. -/
def waiting (l : Ledger κ) (id : MessageId) : List κ :=
  l.callbacks (· = .inFlight id)

theorem waiting_eq_filterMap_inFlight (l : Ledger κ) (id : MessageId) :
    l.waiting id = l.inFlight.filterMap fun p => if p.1 = id then p.2 else none := by
  unfold waiting callbacks inFlight
  rw [List.filterMap_filterMap]
  congr 1
  funext e
  obtain ⟨event, fate⟩ := e
  cases fate <;> simp

/-- An acknowledgement adds the callbacks waiting for its identity to those of acknowledged
entries. -/
theorem callbacks_acknowledge (l : Ledger κ) (id : MessageId) :
    ((l.acknowledge id).callbacks Fate.isAcknowledged).Perm
      (l.callbacks Fate.isAcknowledged ++ l.waiting id) := by
  induction l with
  | nil => exact .nil
  | cons e rest ih =>
    obtain ⟨event, fate⟩ := e
    have hhead : (acknowledge (⟨event, fate⟩ :: rest) id).callbacks Fate.isAcknowledged =
        (if (fate.acknowledge id).isAcknowledged then event.callback else none).toList ++
          (acknowledge rest id).callbacks Fate.isAcknowledged := callbacks_cons ..
    rw [hhead, waiting, callbacks_cons, callbacks_cons]
    by_cases hfate : fate = .inFlight id
    · subst hfate
      simpa [Fate.acknowledge, Fate.isAcknowledged, waiting] using
        (ih.append_left _).trans (List.perm_append_comm_assoc ..)
    · have hsame := (Fate.settles_acknowledge id).same fate hfate
      simpa [hsame, hfate, waiting] using ih.append_left _

end Ledger

namespace Agrees

variable {l : Ledger κ} {queue : List (QueuedEvent κ)} {f : InFlight κ}

theorem queued_eq (h : Agrees l queue f) : l.queued = queue := by
  obtain ⟨front, rfl, hfront⟩ := h.queue
  simp [hfront, (Ledger.views_of_all_queued queue).1]

theorem accept (h : Agrees l queue f) (events : List (QueuedEvent κ)) :
    Agrees (l.accept events) (queue ++ events) f := by
  obtain ⟨front, hl, hfront⟩ := h.queue
  refine ⟨⟨front, ?_, hfront⟩, ?_, h.nodup⟩
  · simp [Ledger.accept, hl]
  · simp [Ledger.accept, h.inFlight, (Ledger.views_of_all_queued events).2.1]

/-- Settling an identity erases it from the map of messages in flight. -/
theorem settle (h : Agrees l queue f) {change : Fate → Fate} {id : MessageId}
    (hchange : Fate.Settles change id) : Agrees (l.map (.change change)) queue (f.erase id) := by
  obtain ⟨front, hl, hfront⟩ := h.queue
  refine ⟨⟨front.map (.change change), ?_, ?_⟩, ?_, f.nodup_erase h.nodup id⟩
  · simp [hl, Entry.queued, Entry.change, (hchange.queued_iff .queued).2 rfl]
  · rw [Ledger.queued_change _ hchange, hfront]
  · rw [Ledger.inFlight_change _ hchange, h.inFlight]

theorem acknowledge (h : Agrees l queue f) (id : MessageId) :
    Agrees (l.acknowledge id) queue (f.erase id) :=
  h.settle (Fate.settles_acknowledge id)

theorem acknowledgeAll (h : Agrees l queue f) (ids : List MessageId) :
    Agrees (ids.foldl Ledger.acknowledge l) queue (ids.foldl InFlight.erase f) := by
  induction ids generalizing l f with
  | nil => exact h
  | cons id rest ih => exact ih (h.acknowledge id)

/-- A release turns the first queued entry into one in flight under the given identity. -/
theorem release_eq {front : Ledger κ} (hfront : front.queued = []) (event : QueuedEvent κ)
    (queue : List (QueuedEvent κ)) (id : MessageId) :
    Ledger.release id (front ++ (event :: queue).map .queued) =
      front ++ ⟨event, .inFlight id⟩ :: queue.map .queued := by
  rw [Ledger.release_append hfront]
  simp [Ledger.release, Entry.queued]

theorem publish {event : QueuedEvent κ} (h : Agrees l (event :: queue) f) (id : MessageId) :
    Agrees (l.publish id) queue (f.insert id event.callback) := by
  obtain ⟨⟨front, hl, hfront⟩, hinFlight, -⟩ := h.settle (Fate.settles_displace id)
  unfold Ledger.publish
  rw [hl, Ledger.inFlight_append, (Ledger.views_of_all_queued _).2.1, List.append_nil] at hinFlight
  rw [hl, release_eq hfront, List.append_cons]
  refine ⟨⟨front ++ [⟨event, .inFlight id⟩], rfl, ?_⟩, ?_, f.nodup_insert h.nodup id _⟩
  · rw [Ledger.queued_append, hfront]
    rfl
  · rw [Ledger.inFlight_append, Ledger.inFlight_append, hinFlight,
      (Ledger.views_of_all_queued _).2.1, List.append_nil]
    rfl

theorem publishAll {sent : List (MessageId × QueuedEvent κ)}
    (h : Agrees l (sent.map (·.2) ++ queue) f) :
    Agrees (sent.foldl (fun l p => l.publish p.1) l) queue (f.insertAll sent) := by
  induction sent generalizing l f with
  | nil => exact h
  | cons p rest ih => exact ih (h.publish p.1)

/-- After a loss, no entry is queued or in flight. -/
theorem abandon (l : Ledger κ) : Agrees l.abandon [] [] := by
  have hopen (fate : Fate) : fate.abandon ≠ .queued ∧ ∀ id, fate.abandon ≠ .inFlight id := by
    cases fate <;> simp [Fate.abandon]
  refine ⟨⟨l.abandon, (List.append_nil _).symm, ?_⟩, ?_, List.nodup_nil⟩
  · simp [Ledger.abandon, Ledger.queued, List.filterMap_map, (hopen _).1]
  · refine List.filterMap_eq_nil_iff.2 fun e he => ?_
    obtain ⟨e, -, rfl⟩ := List.mem_map.1 he
    simp only [Entry.change_fate]
    split
    case h_1 id hid => exact absurd hid ((hopen _).2 id)
    case h_2 => rfl

/-- If ledger and machine agree, the callbacks waiting for an identity are the callback of that
message in flight. -/
theorem waiting_eq (h : Agrees l queue f) (id : MessageId) :
    l.waiting id = (f.find? id).join.toList := by
  rw [Ledger.waiting_eq_filterMap_inFlight, h.inFlight, f.find?_join h.nodup]

/-- A publish of the oldest queued event appends its payload and identity to the publishes of the
ledger. -/
theorem sent_publish {event : QueuedEvent κ} (h : Agrees l (event :: queue) f) (id : MessageId) :
    (l.publish id).sent = l.sent ++ [(event.payload, id)] := by
  have hdisplaced : Ledger.sent (l.map (.change (.displace id))) = l.sent :=
    Ledger.sent_change l (Fate.id?_displace id)
  obtain ⟨⟨front, hl, hfront⟩, -, -⟩ := h.settle (Fate.settles_displace id)
  unfold Ledger.publish
  rw [hl, Ledger.sent_append, (Ledger.views_of_all_queued _).2.2, List.append_nil] at hdisplaced
  rw [hl, release_eq hfront, List.append_cons, Ledger.sent_append, Ledger.sent_append, hdisplaced,
    (Ledger.views_of_all_queued _).2.2, List.append_nil]
  rfl

theorem sent_publishAll {sent : List (MessageId × QueuedEvent κ)}
    (h : Agrees l (sent.map (·.2) ++ queue) f) :
    Ledger.sent (sent.foldl (fun l p => l.publish p.1) l) =
      l.sent ++ sent.map fun p => (p.2.payload, p.1) := by
  induction sent generalizing l f with
  | nil => simp
  | cons p rest ih =>
    rw [List.foldl_cons, ih (h.publish p.1), h.sent_publish p.1]
    simp

end Agrees

/-- How a history changes a ledger: the callbacks of acknowledged entries grow by those called, the
number of abandoned entries by the reported losses if an observer is set for them throughout, and the
publishes by those of the history if no connection is lost in it. -/
structure Ledger.Advance (l l' : Ledger κ) (h : History σ κ) : Prop where
  acknowledged : (l'.callbacks Fate.isAcknowledged).Perm
    (l.callbacks Fate.isAcknowledged ++ h.completed)
  abandoned : (∀ x ∈ h, x.before.observers.abandoned.isSome = true) →
    l'.count (· = .abandoned) = l.count (· = .abandoned) + h.losses.sum
  sent : (∀ x ∈ h, x.isLoss = false) → l'.sent = l.sent ++ h.sent

namespace Moment

variable {x : Moment σ κ} {l : Ledger κ}

/-- A moment acknowledges at most one identity. -/
theorem acknowledged_cases (x : Moment σ κ) :
    x.acknowledged = [] ∨ ∃ id, x.acknowledged = [id] := by
  unfold acknowledged
  split
  · exact .inr ⟨_, rfl⟩
  · exact .inl rfl

/-- A moment without a loss calls exactly the callbacks waiting for the identity that it
acknowledges. -/
theorem Flow.completed_eq {sent : List (MessageId × QueuedEvent κ)} (hflow : x.Flow sent)
    (h : Agrees l x.before.pending x.before.inFlight) :
    x.effects.completed = x.acknowledged.flatMap l.waiting := by
  rw [hflow.completed]
  exact List.flatMap_congr fun id _ => (h.waiting_eq id).symm

theorem callbacks_acknowledgeAll (x : Moment σ κ) (l : Ledger κ) :
    (Ledger.callbacks (x.acknowledged.foldl Ledger.acknowledge l) Fate.isAcknowledged).Perm
      (l.callbacks Fate.isAcknowledged ++ x.acknowledged.flatMap l.waiting) := by
  obtain hnone | ⟨id, hid⟩ := x.acknowledged_cases
  · simp [hnone]
  · simpa [hid] using l.callbacks_acknowledge id

/-- A moment without a loss keeps ledger and machine in agreement. -/
theorem Flow.advance {sent : List (MessageId × QueuedEvent κ)} (hflow : x.Flow sent)
    (hloss : x.isLoss = false) (h : Agrees l x.before.pending x.before.inFlight) :
    Agrees (l.after x) x.after.pending x.after.inFlight ∧ l.Advance (l.after x) [x] := by
  let taken := l.accept x.accepted
  let acknowledged := x.acknowledged.foldl Ledger.acknowledge taken
  have hafter : l.after x = sent.foldl (fun l p => Ledger.publish l p.1) acknowledged := by
    simp only [Ledger.after, hloss, hflow.sent, List.foldl_map, acknowledged, taken]
    rfl
  have htaken : Agrees taken (sent.map (·.2) ++ x.after.pending) x.before.inFlight := by
    rw [← hflow.queue]
    exact h.accept x.accepted
  have hacknowledged := htaken.acknowledgeAll x.acknowledged
  have hagrees := hacknowledged.publishAll
  rw [← hflow.inFlight] at hagrees
  rw [hafter]
  -- Only the acknowledgements call back, only the publishes send, and nothing is abandoned.
  refine ⟨hagrees, ?_, fun _ => ?_, fun _ => ?_⟩
  · have hpublished : Ledger.callbacks (sent.foldl (fun l p => Ledger.publish l p.1) acknowledged)
        Fate.isAcknowledged = Ledger.callbacks acknowledged Fate.isAcknowledged :=
      Ledger.view_foldl (·.callbacks Fate.isAcknowledged)
        (fun l p => Ledger.callbacks_publish l p.1) sent acknowledged
    have hwaiting : x.acknowledged.flatMap taken.waiting = History.completed [x] := by
      rw [History.completed, List.flatMap_singleton, hflow.completed]
      exact List.flatMap_congr fun id _ => htaken.waiting_eq id
    rw [hpublished, ← l.callbacks_accept x.accepted, ← hwaiting]
    exact callbacks_acknowledgeAll x taken
  · have hpublished : Ledger.count (sent.foldl (fun l p => Ledger.publish l p.1) acknowledged)
        (· = .abandoned) = Ledger.count acknowledged (· = .abandoned) :=
      Ledger.view_foldl (·.count (· = .abandoned))
        (fun l p => Ledger.count_publish l p.1) sent acknowledged
    have hacknowledgedCount : Ledger.count acknowledged (· = .abandoned) =
        taken.count (· = .abandoned) :=
      Ledger.view_foldl (·.count (· = .abandoned)) Ledger.count_acknowledge x.acknowledged taken
    rw [hpublished, hacknowledgedCount, l.count_accept, History.losses, List.flatMap_singleton,
      hflow.losses]
    rfl
  · have hacknowledgedSent : Ledger.sent acknowledged = taken.sent :=
      Ledger.view_foldl Ledger.sent Ledger.sent_acknowledge x.acknowledged taken
    rw [hacknowledged.sent_publishAll, hacknowledgedSent, l.sent_accept, History.sent,
      List.flatMap_singleton, hflow.sent, List.map_map]
    rfl

theorem acknowledged_of_isLoss (hloss : x.isLoss = true) : x.acknowledged = [] := by
  unfold isLoss at hloss
  unfold acknowledged
  split at hloss <;> simp_all

/-- A loss keeps ledger and machine in agreement. -/
theorem Loss.advance (hspec : x.Loss) (hloss : x.isLoss = true)
    (h : Agrees l x.before.pending x.before.inFlight) :
    Agrees (l.after x) x.after.pending x.after.inFlight ∧ l.Advance (l.after x) [x] := by
  have hafter : l.after x = l.abandon := by
    simp [Ledger.after, hloss, hspec.accepted, hspec.sent, acknowledged_of_isLoss hloss,
      Ledger.accept]
  rw [hafter, hspec.pending, hspec.inFlight]
  refine ⟨.abandon l, ?_, fun hobserver => ?_, fun hnone => ?_⟩
  · rw [Ledger.abandon, Ledger.callbacks_change l Fate.isAcknowledged_abandon, History.completed,
      List.flatMap_singleton, hspec.completed, List.append_nil]
  · rw [Ledger.count_abandon, h.queued_eq, h.inFlight, History.losses, List.flatMap_singleton,
      hspec.losses (hobserver x (by simp))]
  · rw [hnone x (by simp)] at hloss
    cases hloss

end Moment

namespace Ledger.Advance

variable {l l' l'' : Ledger κ} {h h' : History σ κ}

theorem refl (l : Ledger κ) : l.Advance l ([] : History σ κ) :=
  ⟨by simp [History.completed], by simp [History.losses], by simp [History.sent]⟩

theorem trans (hfirst : l.Advance l' h) (hsecond : l'.Advance l'' h') :
    l.Advance l'' (h ++ h') := by
  refine ⟨?_, fun hobserver => ?_, fun hnone => ?_⟩
  · rw [History.completed, List.flatMap_append, ← List.append_assoc]
    exact hsecond.acknowledged.trans (hfirst.acknowledged.append_right _)
  · rw [hsecond.abandoned fun x hx => hobserver x (List.mem_append_right h hx),
      hfirst.abandoned fun x hx => hobserver x (List.mem_append_left h' hx)]
    simp [History.losses, Nat.add_assoc]
  · rw [hsecond.sent fun x hx => hnone x (List.mem_append_right h hx),
      hfirst.sent fun x hx => hnone x (List.mem_append_left h' hx)]
    simp [History.sent]

end Ledger.Advance

/-- A course keeps ledger and machine in agreement. -/
theorem Course.advance {m last : Machine κ} {h : History σ κ} (hc : Course m h last) {l : Ledger κ}
    (hagrees : Agrees l m.pending m.inFlight) :
    Agrees (h.foldl Ledger.after l) last.pending last.inFlight ∧
      l.Advance (h.foldl Ledger.after l) h := by
  induction hc generalizing l with
  | nil => exact ⟨hagrees, .refl l⟩
  | loss hloss hspec hrest ih =>
    obtain ⟨hafter, hfirst⟩ := hspec.advance hloss hagrees
    obtain ⟨hlast, hsecond⟩ := ih hafter
    exact ⟨hlast, hfirst.trans hsecond⟩
  | flow sent hloss hspec hrest ih =>
    obtain ⟨hafter, hfirst⟩ := hspec.advance hloss hagrees
    obtain ⟨hlast, hsecond⟩ := ih hafter
    exact ⟨hlast, hfirst.trans hsecond⟩

namespace History

theorem map_event_ledger (h : History σ κ) : h.ledger.map Entry.event = h.accepted := by
  suffices ∀ l : Ledger κ, (h.foldl Ledger.after l).map Entry.event =
      l.map Entry.event ++ h.accepted from this []
  induction h with
  | nil => simp [accepted]
  | cons x rest ih =>
    intro l
    rw [List.foldl_cons, ih, Ledger.map_event_after, List.append_assoc]
    rfl

/-- If all fates of the front are final, the ledger of the whole is that of the front followed by that
of the back. -/
theorem ledger_append {front : History σ κ}
    (h : ∀ e ∈ front.ledger, e.fate.isFinal = true) (back : History σ κ) :
    History.ledger (front ++ back) = front.ledger ++ back.ledger := by
  rw [ledger, List.foldl_append]
  have hback : back.foldl Ledger.after (front.ledger ++ []) = front.ledger ++ back.ledger :=
    List.foldl_hom (front.ledger ++ ·) (Ledger.after_append h)
  rwa [List.append_nil] at hback

/-- Right after a loss, all fates are final. -/
theorem isFinal_of_loss (front : History σ κ) {x : Moment σ κ} (hloss : x.isLoss = true) :
    ∀ e ∈ History.ledger (front ++ [x]), e.fate.isFinal = true := by
  intro e he
  rw [ledger, List.foldl_append, List.foldl_cons, List.foldl_nil, Ledger.after, if_pos hloss] at he
  obtain ⟨e, -, rfl⟩ := List.mem_map.1 he
  cases hfate : e.fate <;> simp [Entry.change, hfate, Fate.abandon, Fate.isFinal]

end History

/-- The ledger is a part with final fates followed by the ledger since the last loss, whose publishes
are exactly those of the history since then. -/
theorem Course.ledger_sinceLoss {deviceId : String} {policy : ConnectPolicy}
    {observers : Observers κ} {last : Machine κ} {h : History σ κ}
    (hc : Course (.fresh deviceId policy observers) h last) :
    ∃ old : Ledger κ, h.ledger = old ++ h.sinceLoss.ledger ∧
      (∀ e ∈ old, e.fate.isFinal = true) ∧ h.sinceLoss.ledger.sent = h.sinceLoss.sent := by
  have hempty : Agrees ([] : Ledger κ) [] [] := ⟨⟨[], rfl, rfl⟩, rfl, List.nodup_nil⟩
  obtain ⟨hnone, hall | ⟨front, x, hwhole, hloss⟩⟩ := History.sinceLoss_spec h
  · refine ⟨[], by rw [hall]; rfl, by simp, ?_⟩
    rw [hall] at hnone ⊢
    exact (hc.advance hempty).2.sent hnone
  · have hfinal := History.isFinal_of_loss front hloss
    refine ⟨History.ledger (front ++ [x]), ?_, hfinal, ?_⟩
    · rw [← History.ledger_append hfinal, ← List.append_cons, ← hwhole]
    · rw [hwhole] at hc
      obtain ⟨middle, -, hback⟩ := hc.split
      obtain ⟨hpending, hinFlight, hrest⟩ := hback.of_loss hloss
      rw [← hpending, ← hinFlight] at hempty
      exact (hrest.advance hempty).2.sent hnone

/-- Each moment of a course calls exactly the callbacks waiting in the ledger for the identity that it
acknowledges. -/
theorem Course.completed_eq {m last : Machine κ} {x : Moment σ κ} {back : History σ κ}
    (hc : Course m (x :: back) last) {l : Ledger κ} (h : Agrees l m.pending m.inFlight) :
    x.effects.completed = x.acknowledged.flatMap l.waiting := by
  cases hc with
  | loss hloss hspec => rw [hspec.completed, Moment.acknowledged_of_isLoss hloss]; rfl
  | flow sent hloss hspec => exact hspec.completed_eq h

/-- Every accepted event has exactly one entry in the ledger and one fate: queued, in flight,
acknowledged, abandoned or displaced. The entries queued and in flight are those of the machine, and
the number of abandoned entries is the sum of the reported losses, if an observer is set for them
throughout. The called callbacks are those of acknowledged entries, once each, at the acknowledgement
of the identity under which the event was published since the last loss, and at no other moment. -/
theorem accepted_eq_sum_of_fates (c : Collaborators σ) (world : σ) (deviceId : String)
    (policy : ConnectPolicy) (observers : Observers κ) (steps : List (Step σ κ)) :
    let l := live c steps (.fresh deviceId policy observers) world
    let ledger := l.moments.ledger
    ledger.map Entry.event = l.moments.accepted ∧
      ledger.queued = l.machine.pending ∧ ledger.inFlight = l.machine.inFlight ∧
      l.moments.accepted.length = l.machine.pending.length + l.machine.inFlight.length +
        ledger.count Fate.isAcknowledged + ledger.count (· = .abandoned) +
        ledger.count Fate.isDisplaced ∧
      ((∀ x ∈ l.moments, x.before.observers.abandoned.isSome = true) →
        ledger.count (· = .abandoned) = l.moments.losses.sum) ∧
      l.moments.completed.Perm (ledger.callbacks Fate.isAcknowledged) ∧
      ∀ (front : History σ κ) (x : Moment σ κ) (back : History σ κ), l.moments = front ++ x :: back →
        x.effects.completed = x.acknowledged.flatMap front.ledger.waiting ∧
          ∃ old, front.ledger = old ++ front.sinceLoss.ledger ∧
            (∀ e ∈ old, e.fate.isFinal = true) ∧ front.sinceLoss.ledger.sent = front.sinceLoss.sent := by
  intro l ledger
  have hc : Course (.fresh deviceId policy observers) l.moments l.machine := live_course ..
  have hempty : Agrees ([] : Ledger κ) [] [] := ⟨⟨[], rfl, rfl⟩, rfl, List.nodup_nil⟩
  obtain ⟨hagrees, hadvance⟩ := hc.advance hempty
  have hevents : ledger.map Entry.event = l.moments.accepted := History.map_event_ledger _
  refine ⟨hevents, hagrees.queued_eq, hagrees.inFlight, ?_, fun hobserver => ?_,
    hadvance.acknowledged.symm, fun front x back hwhole => ?_⟩
  · rw [← hevents, List.length_map, ← hagrees.queued_eq, ← hagrees.inFlight]
    exact ledger.length_eq
  · exact (hadvance.abandoned hobserver).trans (Nat.zero_add _)
  · rw [hwhole] at hc
    obtain ⟨middle, hfront, hback⟩ := hc.split
    exact ⟨hback.completed_eq (hfront.advance hempty).1, hfront.ledger_sinceLoss⟩

end HubLink.Transport
