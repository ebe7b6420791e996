import HubLink.Proofs.Task.Answers
import HubLink.Proofs.Task.Settling

namespace HubLink.Transport

variable {σ κ : Type}

/-- The receipt of an event with a given fate. -/
def Fate.receipt : Fate → Receipt
  | queued | inFlight _ => .waiting
  | acknowledged _ => .acknowledged
  | abandoned | displaced _ => .abandoned

namespace Fate

theorem receipt_of_open (fate : Fate) (h : fate.isFinal = false) : fate.receipt = .waiting := by
  cases fate <;> first | rfl | cases h

theorem receipt_of_acknowledged (fate : Fate) (h : fate.isAcknowledged = true) :
    fate.receipt = .acknowledged := by
  cases fate <;> first | rfl | cases h

theorem receipt_of_lost (fate : Fate) (h : fate.isFinal = true) (h' : fate.isAcknowledged = false) :
    fate.receipt = .abandoned := by
  cases fate <;> simp_all [isFinal, isAcknowledged, receipt]

end Fate

theorem Trace.mem_completed {t : Trace κ} {callback : κ} :
    callback ∈ t.completed ↔ .complete callback ∈ t := by
  unfold completed
  rw [List.mem_filterMap]
  constructor
  · rintro ⟨e, he, hcallback⟩
    cases e <;> simp_all
  · exact fun h => ⟨_, h, rfl⟩

theorem Trace.mem_ended {t : Trace κ} {callback : κ} :
    callback ∈ t.ended ↔ .complete callback ∈ t ∨ .discard callback ∈ t := by
  unfold ended
  rw [List.mem_filterMap]
  constructor
  · rintro ⟨e, he, hcallback⟩
    cases e <;> simp_all [Effect.ended?]
  · rintro (h | h) <;> exact ⟨_, h, rfl⟩

theorem Happening.mem_effects {seen : List (Happening κ)} {e : Effect κ} :
    e ∈ Happening.effects seen ↔ .effect e ∈ seen := by
  unfold effects
  rw [List.mem_filterMap]
  constructor
  · rintro ⟨x, hx, he⟩
    cases x <;> simp_all
  · exact fun h => ⟨_, h, rfl⟩

namespace Handle

variable {seen : List (Happening (Hook κ))} {receipts : List Receipt} {i : Nat}

@[simp] theorem length_fill (receipts : List Receipt) (x : Happening (Hook κ)) :
    (fill receipts x).length = receipts.length := by
  unfold fill
  split <;> simp

@[simp] theorem length_foldl_fill (seen : List (Happening (Hook κ))) (receipts : List Receipt) :
    (seen.foldl fill receipts).length = receipts.length := by
  induction seen generalizing receipts with
  | nil => rfl
  | cons x rest ih => rw [List.foldl_cons, ih, length_fill]

theorem ended_effects_cons (x : Happening (Hook κ)) (rest : List (Happening (Hook κ))) :
    Trace.ended (Happening.effects (x :: rest)) =
      Trace.ended (Happening.effects [x]) ++ Trace.ended (Happening.effects rest) := by
  rw [← Trace.ended_append, ← Happening.effects_append]
  rfl

/-- A receipt whose callback is neither called nor dropped is unchanged. -/
theorem getElem?_foldl_fill_of_not_mem (h : .receipt i ∉ Trace.ended (Happening.effects seen)) :
    (seen.foldl fill receipts)[i]? = receipts[i]? := by
  induction seen generalizing receipts with
  | nil => rfl
  | cons x rest ih =>
    rw [ended_effects_cons, List.mem_append, not_or] at h
    rw [List.foldl_cons, ih h.2]
    unfold fill
    split
    case h_1 n =>
      have hne : n ≠ i := by
        rintro rfl
        simp [Happening.effects] at h
      rw [List.getElem?_set_ne hne]
    case h_2 n =>
      have hne : n ≠ i := by
        rintro rfl
        simp [Happening.effects] at h
      rw [List.getElem?_set_ne hne]
    case h_3 => rfl

/-- If callbacks end at most once, a receipt has the status for the end of its callback. -/
theorem getElem?_foldl_fill_of_mem {e : Effect (Hook κ)} {status : Receipt}
    (he : e.ended? = some (.receipt i)) (hfill : ∀ rs, fill rs (.effect e) = rs.set i status)
    (hmem : .effect e ∈ seen) (hnodup : (Trace.ended (Happening.effects seen)).Nodup)
    (hi : i < receipts.length) : (seen.foldl fill receipts)[i]? = some status := by
  induction seen generalizing receipts with
  | nil => cases hmem
  | cons x rest ih =>
    rw [ended_effects_cons] at hnodup
    rw [List.foldl_cons]
    obtain rfl | hmem := List.mem_cons.1 hmem
    · have hfirst : Trace.ended (Happening.effects [Happening.effect e]) = [.receipt i] := by
        simp [Happening.effects, he]
      rw [hfirst] at hnodup
      have hrest := (List.nodup_cons.1 hnodup).1
      rw [getElem?_foldl_fill_of_not_mem hrest, hfill]
      simp [hi]
    · exact ih hmem (List.nodup_append.1 hnodup).2.1 (by simpa using hi)

theorem set_concat {n : Nat} (hn : n ≠ receipts.length) (status last : Receipt) :
    (receipts ++ [last]).set n status = receipts.set n status ++ [last] := by
  rw [List.set_append]
  split
  case isTrue => rfl
  case isFalse hge =>
    have hlast : [last].set (n - receipts.length) status = [last] :=
      List.set_eq_of_length_le (by rw [List.length_singleton]; omega)
    rw [hlast, List.set_eq_of_length_le (by omega)]

/-- A receipt appended at the end is unchanged by happenings that do not end its callback. -/
theorem foldl_fill_concat (last : Receipt)
    (h : .receipt receipts.length ∉ Trace.ended (Happening.effects seen)) :
    seen.foldl fill (receipts ++ [last]) = seen.foldl fill receipts ++ [last] := by
  induction seen generalizing receipts with
  | nil => rfl
  | cons x rest ih =>
    rw [ended_effects_cons, List.mem_append, not_or] at h
    have hfirst : fill (receipts ++ [last]) x = fill receipts x ++ [last] := by
      unfold fill
      split
      case h_1 n =>
        refine set_concat (fun hn => h.1 ?_) _ _
        simp [Happening.effects, hn]
      case h_2 n =>
        refine set_concat (fun hn => h.1 ?_) _ _
        simp [Happening.effects, hn]
      case h_3 => rfl
    rw [List.foldl_cons, List.foldl_cons, hfirst]
    exact ih (by simpa using h.2)

theorem mem_answers_of_answer? {ticket : Nat} {a : Answer} (h : answer? seen ticket = some a) :
    (ticket, a) ∈ Happening.answers seen := by
  obtain ⟨x, hx, ha⟩ := List.exists_of_findSome?_eq_some h
  refine List.mem_filterMap.2 ⟨x, hx, ?_⟩
  cases x with
  | answer t given =>
    simp only [Option.ite_none_right_eq_some, Option.some.injEq] at ha
    simp [ha]
  | _ => cases ha

/-- If tickets are distinct, `answer?` finds every answer given. -/
theorem answer?_of_mem_answers {ticket : Nat} {a : Answer}
    (hnodup : ((Happening.answers seen).map (·.1)).Nodup)
    (h : (ticket, a) ∈ Happening.answers seen) : answer? seen ticket = some a := by
  cases hfound : answer? seen ticket with
  | none =>
    obtain ⟨x, hx, ha⟩ := List.mem_filterMap.1 h
    have hnone := List.findSome?_eq_none_iff.1 hfound x hx
    cases x with
    | answer t given =>
      obtain ⟨rfl, rfl⟩ := Prod.mk.inj (Option.some.inj ha)
      simp at hnone
    | _ => cases ha
  | some a' =>
    have hsame := List.inj_on_of_nodup_map hnodup (mem_answers_of_answer? hfound) h rfl
    exact congrArg some (Prod.mk.inj hsame).2

end Handle

theorem Ledger.mem_callbacks {l : Ledger κ} {p : Fate → Bool} {callback : κ} :
    callback ∈ l.callbacks p ↔ ∃ e ∈ l, p e.fate = true ∧ e.event.callback = some callback := by
  simp [callbacks, List.mem_filterMap]

/-- A callback is held by the machine exactly if it is that of an entry with a fate that is not
final. -/
theorem Ledger.mem_callbacks_machine {l : Ledger κ} {m : Machine κ} (hqueued : l.queued = m.pending)
    (hinFlight : l.inFlight = m.inFlight) {callback : κ} :
    callback ∈ m.callbacks ↔ ∃ e ∈ l, e.fate.isFinal = false ∧ e.event.callback = some callback := by
  have hsplit : m.callbacks =
      l.filterMap (fun e => if e.fate = .queued then e.event.callback else none) ++
        l.filterMap fun e => if e.fate = .queued ∨ e.fate.isFinal then none else e.event.callback := by
    rw [Machine.callbacks, ← hqueued, ← hinFlight, Ledger.queued, List.filterMap_filterMap,
      InFlight.callbacks, Ledger.inFlight, List.filterMap_filterMap]
    congr 2
    · funext e
      by_cases h : e.fate = .queued <;> simp [h]
    · funext e
      cases e.fate <;> simp [Fate.isFinal]
  rw [hsplit, List.mem_append, List.mem_filterMap, List.mem_filterMap, ← exists_or]
  refine exists_congr fun e => ?_
  rw [← and_or_left]
  refine and_congr_right fun _ => ?_
  cases e.fate <;> simp [Fate.isFinal]

/-- Entry `i` of the ledger has the receipt `i` as its callback. -/
structure Ledger.Tracked (l : Ledger (Hook κ)) (n : Nat) : Prop where
  callbacks : l.map (·.event.callback) = (List.range n).map fun i => some (.receipt i)

namespace Ledger.Tracked

variable {l : Ledger (Hook κ)} {n i : Nat}

theorem length_eq (h : l.Tracked n) : l.length = n := by
  simpa using congrArg List.length h.callbacks

theorem callback {e : Entry (Hook κ)} (h : l.Tracked n) (he : l[i]? = some e) :
    e.event.callback = some (.receipt i) := by
  have hi : i < n := by
    rw [← h.length_eq]
    exact (List.getElem?_eq_some_iff.1 he).1
  have hsame := congrArg (·[i]?) h.callbacks
  simpa [he, hi] using hsame

theorem unique {e e' : Entry (Hook κ)} (h : l.Tracked n) (he : l[i]? = some e) (he' : e' ∈ l)
    (hcallback : e'.event.callback = some (.receipt i)) : e' = e := by
  obtain ⟨j, hj⟩ := List.mem_iff_getElem?.1 he'
  have hji := (h.callback hj).symm.trans hcallback
  simp only [Option.some.injEq, Hook.receipt.injEq] at hji
  rw [hji, he] at hj
  exact (Option.some.inj hj).symm

theorem mem_callbacks_iff {e : Entry (Hook κ)} (h : l.Tracked n) (he : l[i]? = some e)
    (p : Fate → Bool) :
    .receipt i ∈ l.callbacks p ↔ p e.fate = true := by
  rw [Ledger.mem_callbacks]
  constructor
  · rintro ⟨e', he', hp, hcallback⟩
    rwa [h.unique he he' hcallback] at hp
  · intro hp
    exact ⟨e, List.mem_of_getElem? he, hp, h.callback he⟩

theorem mem_machine_iff {e : Entry (Hook κ)} (h : l.Tracked n) (he : l[i]? = some e)
    {m : Machine (Hook κ)} (hqueued : l.queued = m.pending) (hinFlight : l.inFlight = m.inFlight) :
    .receipt i ∈ m.callbacks ↔ e.fate.isFinal = false := by
  rw [Ledger.mem_callbacks_machine hqueued hinFlight]
  constructor
  · rintro ⟨e', he', hopen, hcallback⟩
    rwa [h.unique he he' hcallback] at hopen
  · intro hopen
    exact ⟨e, List.mem_of_getElem? he, hopen, h.callback he⟩

end Ledger.Tracked

theorem History.ended_eq (h : History σ κ) : h.ended = Trace.ended (h.flatMap (·.effects)) :=
  (List.filterMap_flatMap ..).symm

theorem History.completed_eq (h : History σ κ) :
    h.completed = Trace.completed (h.flatMap (·.effects)) :=
  (List.filterMap_flatMap ..).symm

/-- If the accepted events are tracked in order, receipt `i` is the one for the fate of entry `i` of
the ledger. -/
theorem receipts_eq_fates (c : Collaborators σ) (world : σ) (deviceId : String)
    (policy : ConnectPolicy) (observers : Observers (Hook κ)) (steps : List (Step σ (Hook κ)))
    {seen : List (Happening (Hook κ))} {n : Nat}
    (hseen : Happening.effects seen =
      (live c steps (.fresh deviceId policy observers) world).moments.flatMap (·.effects))
    (haccepted : (live c steps (.fresh deviceId policy observers) world).moments.accepted.map
      (·.callback) = (List.range n).map fun i => some (.receipt i))
    (hentrusted : (live c steps (.fresh deviceId policy observers) world).moments.entrusted =
      (List.range n).map .receipt) :
    seen.foldl Handle.fill (.replicate n .waiting) =
      (live c steps (.fresh deviceId policy observers) world).moments.ledger.map (·.fate.receipt) := by
  have hfates := accepted_eq_sum_of_fates c world deviceId policy observers steps
  have hcustody := live_custody c steps (.fresh deviceId policy observers) world List.nodup_nil
  generalize live c steps (.fresh deviceId policy observers) world = l at *
  obtain ⟨hevents, hqueued, hinFlight, -, -, hcompleted, -⟩ := hfates
  have htracked : l.moments.ledger.Tracked n := by
    refine ⟨?_⟩
    rw [← haccepted, ← hevents, List.map_map]
    rfl
  have hlength := htracked.length_eq
  have hplaces : (l.machine.callbacks ++ l.moments.ended).Perm ((List.range n).map .receipt) := by
    rw [← hentrusted]
    refine Multiset.coe_eq_coe.1 ?_
    simpa [Machine.callbacks, Machine.fresh, InFlight.callbacks] using hcustody
  have hnodup : (l.machine.callbacks ++ l.moments.ended).Nodup := by
    refine hplaces.nodup_iff.2 (List.nodup_range.map fun i j hij => ?_)
    simpa using hij
  rw [History.ended_eq, ← hseen] at hplaces hnodup
  rw [History.completed_eq, ← hseen] at hcompleted
  -- No callback ends twice, and none that has ended is still with the machine.
  obtain ⟨-, hended, hdisjoint⟩ := List.nodup_append.1 hnodup
  refine List.ext_getElem? fun i => ?_
  by_cases hi : i < n
  · have he : l.moments.ledger[i]? = some l.moments.ledger[i] := List.getElem?_eq_getElem (by omega)
    generalize l.moments.ledger[i] = e at he
    have hheld := htracked.mem_machine_iff he hqueued hinFlight
    have hcalled := htracked.mem_callbacks_iff he Fate.isAcknowledged
    rw [← hcompleted.mem_iff] at hcalled
    rw [List.getElem?_map, he, Option.map_some]
    -- The callback is held by the machine, was called, or was dropped, according to the fate.
    by_cases hopen : e.fate.isFinal = false
    · have hnot : .receipt i ∉ Trace.ended (Happening.effects seen) :=
        fun hmem => hdisjoint _ (hheld.2 hopen) _ hmem rfl
      rw [Handle.getElem?_foldl_fill_of_not_mem hnot, e.fate.receipt_of_open hopen]
      simp [hi]
    · by_cases hacknowledged : e.fate.isAcknowledged = true
      · have hmem := Trace.mem_completed.1 (hcalled.2 hacknowledged)
        rw [e.fate.receipt_of_acknowledged hacknowledged]
        exact Handle.getElem?_foldl_fill_of_mem rfl (fun _ => rfl) (Happening.mem_effects.1 hmem) hended
          (by simpa using hi)
      · have hgiven : .receipt i ∈ (List.range n).map (.receipt : Nat → Hook κ) := by simpa using hi
        have hmem : .receipt i ∈ Trace.ended (Happening.effects seen) :=
          (List.mem_append.1 (hplaces.mem_iff.2 hgiven)).resolve_left fun h => hopen (hheld.1 h)
        have hthrown := (Trace.mem_ended.1 hmem).resolve_left fun h =>
          hacknowledged (hcalled.1 (Trace.mem_completed.2 h))
        rw [e.fate.receipt_of_lost (by simpa using hopen) (by simpa using hacknowledged)]
        exact Handle.getElem?_foldl_fill_of_mem rfl (fun _ => rfl) (Happening.mem_effects.1 hthrown)
          hended (by simpa using hi)
  · rw [List.getElem?_eq_none (by simp; omega), List.getElem?_eq_none (by simp; omega)]

end HubLink.Transport
