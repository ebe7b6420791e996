import HubLink.Proofs.Machine.Fates
import HubLink.Proofs.Machine.Refusal
import Mathlib.Data.List.Dedup

namespace HubLink.Transport

variable {σ κ : Type}

/-- Handles notifications one after another. -/
def Run.handleAll (c : Collaborators σ) (ns : List Notification) (r : Run σ κ) : Run σ κ :=
  ns.foldl (fun r n => r.handle c n) r

/-- The effects of a trace other than its remarks. -/
def Trace.deeds (t : Trace κ) : Trace κ :=
  t.filter fun
    | .aside (.remark _) => false
    | _ => true

/-- The calls of observers in a trace, with their arguments. -/
def Trace.told (t : Trace κ) : List (κ × Report) :=
  t.filterMap fun
    | .report hook report => some (hook, report)
    | _ => none

/-- The effects of the acknowledgement of one message in flight: the call of its callback, then that
of the observer, each only if it is set. -/
def Observers.confirm (o : Observers κ) (p : MessageId × Option κ) : Trace κ :=
  p.2.toList.map .complete ++ o.sent.toList.map (.report · .sent)

namespace Trace

@[simp] theorem deeds_append (t u : Trace κ) : Trace.deeds (t ++ u) = t.deeds ++ u.deeds :=
  List.filter_append ..

@[simp] theorem told_append (t u : Trace κ) : Trace.told (t ++ u) = t.told ++ u.told :=
  List.filterMap_append

theorem completed_deeds (t : Trace κ) : t.deeds.completed = t.completed := by
  unfold deeds completed
  rw [List.filterMap_filter]
  congr 1
  funext e
  cases e with
  | aside a => cases a <;> rfl
  | _ => rfl

theorem told_deeds (t : Trace κ) : t.deeds.told = t.told := by
  unfold deeds told
  rw [List.filterMap_filter]
  congr 1
  funext e
  cases e with
  | aside a => cases a <;> rfl
  | _ => rfl

/-- The callbacks called for acknowledged messages are their callbacks, in order. -/
theorem completed_confirm (o : Observers κ) (settled : InFlight κ) :
    Trace.completed (settled.flatMap o.confirm) = settled.callbacks := by
  induction settled with
  | nil => rfl
  | cons p rest ih =>
    rw [List.flatMap_cons, completed_append, ih]
    obtain ⟨id, callback⟩ := p
    cases callback <;> cases hsent : o.sent <;> simp [Observers.confirm, completed, InFlight.callbacks, hsent]

/-- The observer is called once for each acknowledged message. -/
theorem told_confirm (o : Observers κ) (settled : InFlight κ) :
    Trace.told (settled.flatMap o.confirm) =
      o.sent.toList.flatMap fun hook => .replicate settled.length (hook, .sent) := by
  induction settled with
  | nil => simp [told]
  | cons p rest ih =>
    rw [List.flatMap_cons, told_append, ih]
    obtain ⟨id, callback⟩ := p
    cases callback <;> cases hsent : o.sent <;>
      simp [Observers.confirm, told, hsent, List.replicate_succ]

/-- If the effects are those of the acknowledgement of some messages in any order, the called
callbacks are a permutation of theirs, and the observer is called once for each message. -/
theorem views_of_settled {t : Trace κ} {o : Observers κ} {settled tracked : InFlight κ}
    (hsettled : settled.Perm tracked) (hdeeds : t.deeds = settled.flatMap o.confirm) :
    t.completed.Perm tracked.callbacks ∧
      t.told = o.sent.toList.flatMap fun hook => .replicate tracked.length (hook, .sent) := by
  rw [← completed_deeds, ← told_deeds, hdeeds, completed_confirm, told_confirm, hsettled.length_eq]
  exact ⟨hsettled.filterMap _, rfl⟩

end Trace

namespace InFlight

variable {f : InFlight κ}

theorem ids_filter (f : InFlight κ) (p : MessageId → Bool) :
    InFlight.ids (f.filter fun e => p e.1) = f.ids.filter p := by
  simp [ids, List.filter_map, Function.comp_def]

/-- At most one message in flight has a given identity. -/
theorem filter_eq_find? (h : f.ids.Nodup) (id : MessageId) :
    f.filter (·.1 = id) = (f.find? id).toList.map (id, ·) := by
  induction f with
  | nil => rfl
  | cons p rest ih =>
    obtain ⟨id', callback⟩ := p
    obtain ⟨hp, hrest⟩ := List.nodup_cons.1 h
    by_cases hid : id' = id
    · subst hid
      have hnone : rest.filter (·.1 = id') = [] := by
        refine List.filter_eq_nil_iff.2 fun q hq hsame => hp ?_
        exact List.mem_map.2 ⟨q, hq, of_decide_eq_true hsame⟩
      simp [find?, hnone]
    · simpa [find?, hid] using ih hrest

/-- The messages with an identity in `id :: rest` are, up to order, the one with identity `id` and
those with an identity in `rest` once it is erased. -/
theorem filter_cons_perm (h : f.ids.Nodup) (id : MessageId) (rest : List MessageId) :
    ((f.find? id).toList.map (id, ·) ++ (f.erase id).filter (·.1 ∈ rest)).Perm
      (f.filter (·.1 ∈ id :: rest)) := by
  have hsplit := List.filter_append_perm (fun p : MessageId × Option κ => p.1 = id)
    (f.filter (·.1 ∈ id :: rest))
  rw [List.filter_filter, List.filter_filter] at hsplit
  have hfirst : f.filter (fun p => decide (p.1 = id) && decide (p.1 ∈ id :: rest)) =
      (f.find? id).toList.map (id, ·) := by
    rw [← filter_eq_find? h id]
    exact List.filter_congr fun p _ => by by_cases hp : p.1 = id <;> simp [hp]
  have hothers : f.filter (fun p => !decide (p.1 = id) && decide (p.1 ∈ id :: rest)) =
      (f.erase id).filter (·.1 ∈ rest) := by
    rw [erase, List.filter_filter]
    exact List.filter_congr fun p _ => by by_cases hp : p.1 = id <;> simp [hp]
  rwa [hfirst, hothers] at hsplit

/-- The number of messages in flight with an identity in `ids` is the number of distinct identities in
`ids` that are in flight. -/
theorem length_filter (h : f.ids.Nodup) (ids : List MessageId) :
    (f.filter (·.1 ∈ ids)).length = (ids.dedup.filter (· ∈ f.ids)).length := by
  have hids : (f.filter (·.1 ∈ ids)).length = (f.ids.filter (· ∈ ids)).length := by
    rw [← ids_filter, InFlight.ids, List.length_map]
  rw [hids]
  refine List.Perm.length_eq ((List.perm_ext_iff_of_nodup (h.filter _) (ids.nodup_dedup.filter _)).2 ?_)
  intro id
  simp [and_comm]

end InFlight

namespace Run

theorem deeds_report (r : Run σ κ) (observer : Option κ) (report : Report) :
    Trace.deeds (r.report observer report).effects =
      Trace.deeds r.effects ++ observer.toList.map (.report · report) := by
  cases observer with
  | none => exact (List.append_nil _).symm
  | some hook => exact Trace.deeds_append r.effects [.report hook report]

theorem deeds_acknowledge (r : Run σ κ) (id : MessageId) :
    Trace.deeds (r.acknowledge id).effects = Trace.deeds r.effects :=
  (Trace.deeds_append r.effects [.aside (.remark _)]).trans (List.append_nil _)

theorem deeds_complete (r : Run σ κ) (callback : Option κ) :
    Trace.deeds (r.complete callback).effects =
      Trace.deeds r.effects ++ callback.toList.map .complete := by
  cases callback with
  | none => exact (List.append_nil _).symm
  | some hook => exact Trace.deeds_append r.effects [.complete hook]

/-- Handling `published id` erases the message with that identity and, apart from remarks, has the
effects of its acknowledgement; without such a message it has no effect but a remark. -/
theorem handle_published_spec (c : Collaborators σ) (id : MessageId) (r : Run σ κ) :
    (r.handle c (.published id)).machine =
        { r.machine with inFlight := r.machine.inFlight.erase id } ∧
      (r.handle c (.published id)).world = r.world ∧
      Trace.deeds (r.handle c (.published id)).effects = Trace.deeds r.effects ++
        ((r.machine.inFlight.find? id).toList.map (id, ·)).flatMap r.machine.observers.confirm := by
  rw [handle_published]
  cases hfind : r.machine.inFlight.find? id with
  | none =>
    refine ⟨?_, rfl, Trace.deeds_append _ _⟩
    rw [InFlight.erase_of_find?_eq_none hfind]
    rfl
  | some callback =>
    refine ⟨?_, ?_, ?_⟩
    · rw [report_machine, complete_machine, acknowledge_machine]
    · cases callback <;> cases r.machine.observers.sent <;> rfl
    · rw [deeds_report, deeds_complete, deeds_acknowledge, List.append_assoc, Option.toList_some,
        List.map_singleton, List.flatMap_singleton]
      rfl

/-- Handling `published` for each of `ids` in order erases exactly the messages with an identity in
`ids` and, apart from remarks, has the effects of their acknowledgement in some order. -/
theorem handleAll_published (c : Collaborators σ) (ids : List MessageId) (r : Run σ κ)
    (h : r.machine.inFlight.ids.Nodup) :
    (r.handleAll c (ids.map .published)).machine =
        { r.machine with inFlight := r.machine.inFlight.filter (·.1 ∉ ids) } ∧
      (r.handleAll c (ids.map .published)).world = r.world ∧
      ∃ settled : InFlight κ, settled.Perm (r.machine.inFlight.filter (·.1 ∈ ids)) ∧
        Trace.deeds (r.handleAll c (ids.map .published)).effects =
          Trace.deeds r.effects ++ settled.flatMap r.machine.observers.confirm := by
  induction ids generalizing r with
  | nil =>
    refine ⟨?_, rfl, [], ?_, (List.append_nil _).symm⟩
    · simp [handleAll]
    · simp
  | cons id rest ih =>
    obtain ⟨hmachine, hworld, hdeeds⟩ := r.handle_published_spec c id
    have hnext : (r.handle c (.published id)).machine.inFlight.ids.Nodup := by
      rw [hmachine]
      exact InFlight.nodup_erase h id
    obtain ⟨hmachine', hworld', settled, hsettled, hdeeds'⟩ := ih (r.handle c (.published id)) hnext
    rw [hmachine] at hmachine' hsettled hdeeds'
    have hleft : (r.machine.inFlight.erase id).filter (·.1 ∉ rest) =
        r.machine.inFlight.filter (·.1 ∉ id :: rest) := by
      rw [InFlight.erase, List.filter_filter]
      exact List.filter_congr fun p _ => by simp [Bool.and_comm]
    rw [← hleft]
    refine ⟨hmachine', hworld'.trans hworld, _ ++ settled,
      (hsettled.append_left _).trans (InFlight.filter_cons_perm h id rest), ?_⟩
    rw [List.flatMap_append, ← List.append_assoc, ← hdeeds]
    exact hdeeds'

end Run

/-- In every reachable machine the identities in flight are distinct. -/
theorem nodup_ids_live (c : Collaborators σ) (world : σ) (deviceId : String) (policy : ConnectPolicy)
    (observers : Observers κ) (steps : List (Step σ κ)) :
    (live c steps (.fresh deviceId policy observers) world).machine.inFlight.ids.Nodup := by
  have hempty : Agrees ([] : Ledger κ) [] [] := ⟨⟨[], rfl, rfl⟩, rfl, List.nodup_nil⟩
  exact ((live_course c steps (.fresh deviceId policy observers) world).advance hempty).1.nodup

/-- In every reachable machine, acknowledgements for two lists with the same set of identities lead to
the same machine and the same state of the collaborators. The messages in flight with these identities
are removed and no other; the callback of each is called once, and the observer directly behind it,
once for each distinct identity that was in flight. Apart from remarks there are no other effects. -/
theorem confirmed_in_any_order (c : Collaborators σ) (world : σ) (deviceId : String)
    (policy : ConnectPolicy) (observers : Observers κ) (steps : List (Step σ κ))
    (ids ids' : List MessageId) (h : ∀ id, id ∈ ids ↔ id ∈ ids') (w : σ) :
    let m := (live c steps (.fresh deviceId policy observers) world).machine
    let r := Run.handleAll c (ids.map .published) { machine := m, world := w }
    let r' := Run.handleAll c (ids'.map .published) { machine := m, world := w }
    let tracked : InFlight κ := m.inFlight.filter (·.1 ∈ ids)
    r.machine = { m with inFlight := m.inFlight.filter (·.1 ∉ ids) } ∧ r.world = w ∧
      r'.machine = r.machine ∧ r'.world = r.world ∧
      (Trace.completed r.effects).Perm tracked.callbacks ∧
      (Trace.completed r'.effects).Perm tracked.callbacks ∧
      tracked.length = (ids.dedup.filter (· ∈ m.inFlight.ids)).length ∧
      Trace.told r.effects =
        m.observers.sent.toList.flatMap (fun hook => .replicate tracked.length (hook, .sent)) ∧
      Trace.told r'.effects = Trace.told r.effects ∧
      ∃ settled settled' : InFlight κ, settled.Perm tracked ∧ settled'.Perm tracked ∧
        Trace.deeds r.effects = settled.flatMap m.observers.confirm ∧
        Trace.deeds r'.effects = settled'.flatMap m.observers.confirm := by
  intro m r r' tracked
  have hnodup : m.inFlight.ids.Nodup := nodup_ids_live c world deviceId policy observers steps
  obtain ⟨hmachine, hworld, settled, hsettled, hdeeds⟩ :=
    Run.handleAll_published c ids { machine := m, world := w } hnodup
  obtain ⟨hmachine', hworld', settled', hsettled', hdeeds'⟩ :=
    Run.handleAll_published c ids' { machine := m, world := w } hnodup
  simp only [← h] at hmachine' hsettled'
  obtain ⟨hcompleted, htold⟩ := Trace.views_of_settled hsettled hdeeds
  obtain ⟨hcompleted', htold'⟩ := Trace.views_of_settled hsettled' hdeeds'
  exact ⟨hmachine, hworld, hmachine'.trans hmachine.symm, hworld'.trans hworld.symm, hcompleted,
    hcompleted', InFlight.length_filter hnodup ids, htold, htold'.trans htold.symm, settled, settled',
    hsettled, hsettled', hdeeds, hdeeds'⟩

/-- Steps that leave three messages in flight. -/
def overlapping : List (Step Nat Nat) :=
  [.call (.send [1] (some 7)), .call (.send [2] (some 8)), .notify .connected,
    .call (.send [3] (some 9))]

/-- Two of three messages acknowledged, once in the order of the second list and once with a
repetition and an identity that is not in flight. -/
theorem confirmed_in_any_order_overlapping :
    let m := (live faltering overlapping (.fresh "d" .onSend { sent := some 3 }) 3).machine
    let ids : List MessageId := [⟨2⟩, ⟨0⟩, ⟨42⟩]
    let ids' : List MessageId := [⟨0⟩, ⟨42⟩, ⟨2⟩, ⟨0⟩]
    let r := Run.handleAll faltering (ids.map .published) { machine := m, world := 0 }
    let r' := Run.handleAll faltering (ids'.map .published) { machine := m, world := 0 }
    (∀ id, id ∈ ids ↔ id ∈ ids') ∧ m.inFlight.ids = [⟨2⟩, ⟨1⟩, ⟨0⟩] ∧
      r.machine.inFlight = [(⟨1⟩, some 8)] ∧ r'.machine = r.machine ∧
      Trace.completed r.effects = [7, 9] ∧ Trace.completed r'.effects = [9, 7] ∧
      Trace.told r'.effects = [(3, .sent), (3, .sent)] := by
  intro m ids ids' r r'
  have hsame (id : MessageId) : id ∈ ids ↔ id ∈ ids' := by
    simp only [ids, ids', List.mem_cons, List.not_mem_nil, or_false]
    tauto
  obtain ⟨-, -, hmachine, -, -, -, -, htold, htold', -⟩ :=
    confirmed_in_any_order faltering 3 "d" .onSend { sent := some 3 } overlapping ids ids' hsame 0
  exact ⟨hsame, by rfl, by rfl, hmachine, by rfl, by rfl, htold'.trans (htold.trans (by rfl))⟩

end HubLink.Transport
