import HubLink.Proofs.Machine.Fates
import HubLink.Proofs.Machine.Shape

namespace HubLink.Transport

variable {σ κ : Type}

/-- An upper bound on the publish requests before the next request of the application: one for each
queued event, and one more that is refused. -/
def Machine.burden (m : Machine κ) : Nat :=
  m.pending.length + if m.state = .connecting then 1 else 0

/-- Whether the step is a request of the application. -/
def Moment.isCall (x : Moment σ κ) : Bool :=
  match x.step with
  | .call _ => true
  | _ => false

/-- The number of requests of the application in a history. -/
def History.calls (h : History σ κ) : Nat :=
  h.countP (·.isCall)

/-- Publishing a queue makes at most one publish request more than it removes events. -/
theorem Drained.length_offers_le {m m' : Machine κ} {result : Except ProviderError Unit}
    {offers : List (String × Bytes × Except ProviderError MessageId)}
    (h : Drained m result m' offers) :
    offers.length + m'.pending.length ≤ m.pending.length + 1 := by
  cases h with
  | whole sent hqueue => simp [hqueue]
  | blocked sent event rest e hqueue =>
    simp only [hqueue, List.length_append, List.length_map, List.length_cons, List.length_nil]
    omega

namespace Moment

variable {x : Moment σ κ}

theorem length_accepted_le (x : Moment σ κ) : x.accepted.length ≤ 1 := by
  unfold accepted
  split
  case h_1 request _ =>
    cases request with
    | send payload callback =>
      unfold Request.accepted
      dsimp only
      split <;> simp
    | _ => simp [Request.accepted]
  case h_2 => simp

theorem isCall_of_step {request : Request κ} (hstep : x.step = .call request) : x.isCall = true := by
  simp [isCall, hstep]

/-- A moment's publish requests and the burden after it are at most the burden before it, and 2 more
for a request of the application. -/
theorem Turn.length_offers_le (h : x.Turn) :
    x.effects.offers.length + x.after.burden ≤ x.before.burden + if x.isCall then 2 else 0 := by
  have haccepted := x.length_accepted_le
  -- Each event in a queue pays for its own request. The one request that fails is paid by the call
  -- that tries the queue, or by the connection that was awaited.
  cases h with
  | rests hstep _ hoffers hafter => simp [hoffers, hafter]
  | observes observers hstep hoffers hafter => simp [hoffers, hafter, Machine.burden]
  | ignores n hstep hstate hoffers hafter => simp [hoffers, hafter]
  | queues request hstep hstate hresult hoffers hafter =>
    have hcall := isCall_of_step hstep
    simp only [hoffers, hafter, Machine.burden, hcall, List.length_nil, List.length_append, if_true]
    omega
  | dials request token hstep hstate hresult hconnect hoffers hafter =>
    have hcall := isCall_of_step hstep
    simp only [hoffers, hafter, Machine.burden, hcall, List.length_nil, List.length_append, if_true]
    omega
  | hangsUp hstep hstate hresult hdisconnect hoffers hafter =>
    simp only [hoffers, hafter, Machine.burden, List.length_nil, reduceCtorEq, if_false]
    omega
  | publishes payload callback id hstep hstate hpending hresult hoffers hafter =>
    have hcall := isCall_of_step hstep
    simp only [hoffers, hafter, Machine.burden, hcall, List.length_singleton, if_true]
    omega
  | refused payload callback e hstep hstate hpending hresult haccepted hoffers hafter =>
    have hcall := isCall_of_step hstep
    simp only [hoffers, hafter, hcall, List.length_singleton, if_true]
    omega
  | follows payload callback result hstep hstate hpending hresult hdrained =>
    have hcall := isCall_of_step hstep
    have hlength := hdrained.length_offers_le
    have hafter : x.after.state = .connected := hdrained.state.trans hstate
    simp only [List.length_append, List.length_singleton] at hlength
    simp only [Machine.burden, hafter, hcall, reduceCtorEq, if_false, if_true]
    omega
  | opens result hstep hstate hdrained =>
    have hlength : x.effects.offers.length + x.after.pending.length ≤ x.before.pending.length + 1 :=
      hdrained.length_offers_le
    have hafter : x.after.state = .connected := hdrained.state
    simp only [Machine.burden, hafter, hstate, reduceCtorEq, if_false, if_true]
    omega
  | acknowledges id hstep hoffers hafter => simp [hoffers, hafter, Machine.burden]
  | loses hstep hstate hoffers hafter => simp [hoffers, hafter, Machine.burden]

end Moment

/-- A run makes at most two publish requests for each request of the application, beyond the burden of
its first machine. -/
theorem live_length_offers_le (c : Collaborators σ) (steps : List (Step σ κ)) (m : Machine κ)
    (w : σ) :
    let l := live c steps m w
    l.moments.offers.length + l.machine.burden ≤ m.burden + 2 * l.moments.calls := by
  induction steps generalizing m w with
  | nil => simp [live, History.offers, History.calls]
  | cons s rest ih =>
    have hfirst := (Moment.turn c s m w).length_offers_le
    have hrest := ih (s.moment c m w).1.after (s.moment c m w).2
    have hbefore : (s.moment c m w).1.before = m := rfl
    simp only [live, History.offers, History.calls, List.flatMap_cons, List.length_append,
      List.countP_cons] at hrest ⊢
    rw [hbefore] at hfirst
    split at hfirst <;> simp_all <;> omega

namespace Fate

theorem isDisplaced_acknowledge (id : MessageId) (fate : Fate) :
    (fate.acknowledge id).isDisplaced = fate.isDisplaced := by
  cases fate with
  | inFlight id' => by_cases h : id' = id <;> simp [acknowledge, isDisplaced, h]
  | _ => rfl

theorem isDisplaced_abandon (fate : Fate) : fate.abandon.isDisplaced = fate.isDisplaced := by
  cases fate <;> rfl

end Fate

theorem Ledger.count_displaced_publish {l : Ledger κ} {id : MessageId} (h : id ∉ l.inFlight.ids) :
    (l.publish id).count Fate.isDisplaced = l.count Fate.isDisplaced := by
  have hsame : ∀ e ∈ l, e.change (.displace id) = e := by
    intro e he
    have hfate : e.fate ≠ .inFlight id := by
      intro hfate
      refine h (List.mem_map.2 ⟨(id, e.event.callback), ?_, rfl⟩)
      exact List.mem_filterMap.2 ⟨e, he, by rw [hfate]⟩
    rw [Entry.change, (Fate.settles_displace id).same e.fate hfate]
  rw [publish, count_release id _ rfl, List.map_congr_left hsame, List.map_id']

/-- Publishing under new distinct identities displaces no entry. -/
theorem Agrees.count_displaced {l : Ledger κ} {queue : List (QueuedEvent κ)} {f : InFlight κ}
    {sent : List (MessageId × QueuedEvent κ)} (h : Agrees l (sent.map (·.2) ++ queue) f)
    (hnew : (f.ids ++ sent.map (·.1)).Nodup) :
    Ledger.count (sent.foldl (fun l p => l.publish p.1) l) Fate.isDisplaced =
      l.count Fate.isDisplaced := by
  induction sent generalizing l f with
  | nil => rfl
  | cons p rest ih =>
    have hfirst : p.1 ∉ f.ids := fun hold => (List.nodup_append.1 hnew).2.2 _ hold _ (by simp) rfl
    have hinsert : (f.insert p.1 p.2.callback).ids = f.ids ++ [p.1] := by
      have hfind : f.find? p.1 = none := by simpa [InFlight.mem_ids_iff] using hfirst
      rw [InFlight.insert, InFlight.erase_of_find?_eq_none hfind]
      simp [InFlight.ids]
    have hrest : ((f.insert p.1 p.2.callback).ids ++ rest.map (·.1)).Nodup := by
      rw [hinsert, List.append_assoc]
      exact hnew
    rw [List.foldl_cons, ih (h.publish p.1) hrest]
    exact Ledger.count_displaced_publish (by rwa [h.inFlight])

theorem Moment.Loss.count_displaced {x : Moment σ κ} (h : x.Loss) (hloss : x.isLoss = true)
    (l : Ledger κ) : (l.after x).count Fate.isDisplaced = l.count Fate.isDisplaced := by
  have hafter : l.after x = l.abandon := by
    simp [Ledger.after, hloss, h.accepted, h.sent, acknowledged_of_isLoss hloss, Ledger.accept]
  rw [hafter]
  exact l.count_change Fate.isDisplaced_abandon

theorem Moment.Flow.count_displaced {x : Moment σ κ} {sent : List (MessageId × QueuedEvent κ)}
    (h : x.Flow sent) (hloss : x.isLoss = false) {l : Ledger κ}
    (hagrees : Agrees l x.before.pending x.before.inFlight) (hnew : x.GivesNew) :
    (l.after x).count Fate.isDisplaced = l.count Fate.isDisplaced := by
  let taken := l.accept x.accepted
  let acknowledged := x.acknowledged.foldl Ledger.acknowledge taken
  have hafter : l.after x = sent.foldl (fun l p => Ledger.publish l p.1) acknowledged := by
    simp only [Ledger.after, hloss, h.sent, List.foldl_map, acknowledged, taken]
    rfl
  have htaken : Agrees taken (sent.map (·.2) ++ x.after.pending) x.before.inFlight := by
    rw [← h.queue]
    exact hagrees.accept x.accepted
  have hkept :
      ((x.acknowledged.foldl InFlight.erase x.before.inFlight).ids ++ sent.map (·.1)).Nodup := by
    rw [InFlight.ids_foldl_erase, ← h.given_eq]
    exact hnew.sublist (List.filter_sublist.append_right _)
  have hpublished := (htaken.acknowledgeAll x.acknowledged).count_displaced hkept
  have hacknowledged : Ledger.count acknowledged Fate.isDisplaced = taken.count Fate.isDisplaced :=
    Ledger.view_foldl (·.count Fate.isDisplaced)
      (fun l id => l.count_change (Fate.isDisplaced_acknowledge id)) x.acknowledged taken
  have htakenCount : taken.count Fate.isDisplaced = l.count Fate.isDisplaced := by
    have hnone := (Ledger.fates_of_all_queued x.accepted (p := Fate.isDisplaced) rfl).2
    exact (Ledger.count_append l _ Fate.isDisplaced).trans (by rw [hnone, Nat.add_zero])
  rw [hafter]
  exact hpublished.trans (hacknowledged.trans htakenCount)

/-- If no identity is given out twice, no entry is displaced. -/
theorem Course.count_displaced {m last : Machine κ} {h : History σ κ} (hc : Course m h last)
    {l : Ledger κ} (hagrees : Agrees l m.pending m.inFlight)
    (hnew : (m.inFlight.ids ++ h.flatMap (·.given)).Nodup) :
    Ledger.count (h.foldl Ledger.after l) Fate.isDisplaced = l.count Fate.isDisplaced := by
  induction hc generalizing l with
  | nil => rfl
  | @loss x rest last hloss hspec hrest ih =>
    have hgiven : x.given = [] := by simp [Moment.given, hspec.sent]
    rw [List.flatMap_cons, hgiven, List.nil_append] at hnew
    have hleft : (x.after.inFlight.ids ++ rest.flatMap (·.given)).Nodup := by
      rw [hspec.inFlight]
      exact (List.nodup_append.1 hnew).2.1
    rw [List.foldl_cons, ih (hspec.advance hloss hagrees).1 hleft, hspec.count_displaced hloss]
  | @flow x rest last sent hloss hspec hrest ih =>
    -- What stays in flight was given out before, so it is still apart from what will be given out.
    rw [List.flatMap_cons, ← List.append_assoc] at hnew
    have hfirst : x.GivesNew := (List.nodup_append.1 hnew).1
    have hleft : (x.after.inFlight.ids ++ rest.flatMap (·.given)).Nodup := by
      rw [hspec.ids_after hfirst]
      exact hnew.sublist ((List.filter_sublist.append_right _).append_right _)
    rw [List.foldl_cons, ih (hspec.advance hloss hagrees).1 hleft,
      hspec.count_displaced hloss hagrees hfirst]

end HubLink.Transport
