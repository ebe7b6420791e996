import HubLink.Proofs.Machine.Fates
import HubLink.Proofs.Machine.Outcomes
import Mathlib.Algebra.Order.Group.Multiset
import Mathlib.Tactic.Abel

namespace HubLink.Transport

variable {σ κ ε α : Type}

/-- The callback that an effect calls or drops. -/
def Effect.ended? : Effect κ → Option κ
  | .complete callback | .discard callback => some callback
  | _ => none

@[simp] theorem Effect.ended?_aside (aside : Aside) : (Effect.aside aside : Effect κ).ended? = none :=
  rfl

@[simp] theorem Effect.ended?_complete (callback : κ) :
    (Effect.complete callback).ended? = some callback := rfl

@[simp] theorem Effect.ended?_discard (callback : κ) :
    (Effect.discard callback).ended? = some callback := rfl

/-- The callbacks called or dropped in a trace, in order. -/
def Trace.ended (t : Trace κ) : List κ :=
  t.filterMap Effect.ended?

@[simp] theorem Trace.ended_nil : Trace.ended ([] : Trace κ) = [] := rfl

@[simp] theorem Trace.ended_cons (e : Effect κ) (t : Trace κ) :
    Trace.ended (e :: t) = e.ended?.toList ++ t.ended := by
  cases he : e.ended? <;> simp [ended, he]

@[simp] theorem Trace.ended_append (t u : Trace κ) : Trace.ended (t ++ u) = t.ended ++ u.ended :=
  List.filterMap_append

@[simp] theorem Trace.ended_discards (callbacks : List κ) :
    Trace.ended (callbacks.map .discard) = callbacks := by
  simp [ended, List.filterMap_map, Function.comp_def]

/-- The callbacks in flight are those that remain after an erasure, with that of the erased
message. -/
theorem InFlight.callbacks_erase {f : InFlight κ} (h : f.ids.Nodup) (id : MessageId) :
    (f.callbacks : Multiset κ) = (f.erase id).callbacks + (f.find? id).join.toList := by
  have hsplit := (List.filter_append_perm (fun p => decide (p.1 ≠ id)) f).filterMap (·.2)
  rw [List.filterMap_append] at hsplit
  have hone : (f.find? id).join.toList =
      (f.filter fun p => !decide (p.1 ≠ id)).filterMap (·.2) := by
    rw [InFlight.find?_join h, List.filterMap_filter]
    simp
  rw [hone, Multiset.coe_add]
  exact Multiset.coe_eq_coe.2 hsplit.symm

/-- The callbacks that a request carries. -/
def Request.callbacks : Request κ → List κ
  | .send _ callback => callback.toList
  | _ => []

namespace Run

/-- The callbacks that the machine holds, with those that were called or dropped in its trace. -/
def custody (r : Run σ κ) : Multiset κ :=
  r.machine.callbacks + Trace.ended r.effects

/-- If the identities in flight are distinct in `r`, they are so in `r'`, and the custody of `r'` is
that of `r` with the `given` callbacks. -/
def Entrusts (r r' : Run σ κ) (given : List κ) : Prop :=
  r.machine.inFlight.ids.Nodup →
    r'.machine.inFlight.ids.Nodup ∧ r'.custody = r.custody + (given : Multiset κ)

namespace Entrusts

variable {c : Collaborators σ} {r r' r'' : Run σ κ} {given given' : List κ}

theorem trans (h : Entrusts r r' given) (h' : Entrusts r' r'' given') :
    Entrusts r r'' (given ++ given') := by
  intro hnodup
  obtain ⟨hmiddle, hfirst⟩ := h hnodup
  obtain ⟨hlast, hsecond⟩ := h' hmiddle
  refine ⟨hlast, ?_⟩
  rw [hsecond, hfirst, ← Multiset.coe_add, add_assoc]

/-- Effects that neither call nor drop a callback keep the custody, if queue and map of messages in
flight are unchanged. -/
theorem of_same (new : Trace κ) (hpending : r'.machine.pending = r.machine.pending)
    (hinFlight : r'.machine.inFlight = r.machine.inFlight) (heffects : r'.effects = r.effects ++ new)
    (hnew : new.ended = []) : Entrusts r r' [] := by
  intro hnodup
  refine ⟨by rwa [hinFlight], ?_⟩
  simp [custody, Machine.callbacks, hpending, hinFlight, heffects, hnew]

theorem refl (r : Run σ κ) : Entrusts r r [] :=
  of_same [] rfl rfl (by simp) rfl

theorem note (r : Run σ κ) (remark : Remark) : Entrusts r (r.note remark) [] :=
  of_same [.aside (.remark remark)] rfl rfl rfl rfl

theorem report (r : Run σ κ) (observer : Option κ) (report : Report) :
    Entrusts r (r.report observer report) [] := by
  cases observer with
  | none => exact refl r
  | some hook => exact of_same [.report hook report] rfl rfl rfl rfl

theorem enter (r : Run σ κ) (next : ConnectionState) : Entrusts r (r.enter next) [] :=
  of_same [.aside (.remark (.transition r.machine.deviceId r.machine.state next))] rfl rfl rfl rfl

theorem discard (r : Run σ κ) (callbacks : List κ) : Entrusts r (r.discard callbacks) callbacks := by
  intro hnodup
  refine ⟨hnodup, ?_⟩
  simp only [custody, Run.discard, Trace.ended_append, Trace.ended_discards, ← Multiset.coe_add,
    add_assoc]

theorem ask {reply : Reply σ ε α} {effect : Except ε α → Effect κ} {result : Except ε α}
    (h : r.ask reply effect = (result, r')) (heffect : (effect result).ended? = none) :
    Entrusts r r' [] := by
  obtain rfl : reply.result = result := congrArg Prod.fst h
  obtain rfl : (r.ask reply effect).2 = r' := congrArg Prod.snd h
  refine of_same (reply.asides.map .aside ++ [effect reply.result]) rfl rfl ?_ ?_
  · exact List.append_assoc ..
  · have hasides : Trace.ended (reply.asides.map .aside : Trace κ) = [] := by simp [Trace.ended]
    simp [hasides, heffect]

theorem enqueue (r : Run σ κ) (payload : Bytes) (callback : Option κ) :
    Entrusts r (r.enqueue payload callback) callback.toList := by
  intro hnodup
  refine ⟨hnodup, ?_⟩
  have hended : Trace.ended (r.enqueue payload callback).effects = Trace.ended r.effects := by
    simp [Run.enqueue, Run.note, emit]
  have hqueue : (r.enqueue payload callback).machine.callbacks =
      r.machine.pending.filterMap (·.callback) ++ callback.toList ++ r.machine.inFlight.callbacks := by
    cases callback <;> simp [Run.enqueue, Run.note, emit, Machine.callbacks]
  rw [custody, custody, hended, hqueue]
  simp only [Machine.callbacks, ← Multiset.coe_add]
  abel

theorem track (r : Run σ κ) (id : MessageId) (callback : Option κ) :
    Entrusts r (r.track id callback) callback.toList := by
  intro hnodup
  have hinsert : (r.machine.inFlight.insert id callback).callbacks =
      (r.machine.inFlight.erase id).callbacks ++ callback.toList := by
    cases callback <;> simp [InFlight.insert, InFlight.callbacks]
  have hended : Trace.ended (r.track id callback).effects =
      Trace.ended r.effects ++ (r.machine.inFlight.find? id).join.toList := by
    unfold Run.track
    cases r.machine.inFlight.find? id with
    | none => simp [Run.note, emit]
    | some old => cases old <;> simp [Run.note, emit, Run.discard]
  rw [custody, custody, track_machine, hended]
  refine ⟨InFlight.nodup_insert hnodup id callback, ?_⟩
  simp only [Machine.callbacks, hinsert, ← Multiset.coe_add, InFlight.callbacks_erase hnodup id]
  abel

/-- Moving the oldest queued event to the map of messages in flight keeps the custody. -/
theorem release (r : Run σ κ) {event : QueuedEvent κ} {rest : List (QueuedEvent κ)}
    (hpending : r.machine.pending = event :: rest) (id : MessageId) :
    Entrusts r
      (({ r with machine := { r.machine with pending := rest } } : Run σ κ).track id event.callback)
      [] := by
  intro hnodup
  obtain ⟨htracked, hcustody⟩ :=
    track ({ r with machine := { r.machine with pending := rest } } : Run σ κ) id event.callback hnodup
  refine ⟨htracked, hcustody.trans ?_⟩
  have hqueue : r.machine.callbacks = event.callback.toList ++ rest.filterMap (·.callback) ++
      r.machine.inFlight.callbacks := by
    cases hcallback : event.callback <;> simp [Machine.callbacks, hpending, hcallback]
  rw [custody, custody, hqueue]
  simp only [Machine.callbacks, ← Multiset.coe_add, Multiset.coe_nil]
  abel

theorem connect (c : Collaborators σ) (r : Run σ κ) : Entrusts r (r.connect c).2 [] := by
  have houtcome := r.connects c
  generalize r.connect c = outcome at houtcome ⊢
  cases houtcome with
  | ignored hstate => exact note r _
  | unsigned hstate htoken => exact ask htoken rfl
  | refused hstate htoken hconnect => exact (ask htoken rfl).trans (ask hconnect rfl)
  | begun hstate htoken hconnect =>
    exact ((ask htoken rfl).trans (ask hconnect rfl)).trans (enter _ .connecting)

theorem disconnect (c : Collaborators σ) (r : Run σ κ) : Entrusts r (r.disconnect c).2 [] := by
  have houtcome := r.disconnects c
  generalize r.disconnect c = outcome at houtcome ⊢
  cases houtcome with
  | ignored hstate => exact note r _
  | refused hstate hdisconnect => exact ask hdisconnect rfl
  | begun hstate hdisconnect => exact (ask hdisconnect rfl).trans (enter _ .disconnecting)

theorem publishAll (c : Collaborators σ) (events : List (QueuedEvent κ)) (r : Run σ κ)
    (hpending : r.machine.pending = events) : Entrusts r (Run.publishAll c events r).2 [] := by
  have houtcome := Run.publishes c events r
  generalize Run.publishAll c events r = outcome at houtcome ⊢
  induction houtcome with
  | done r => exact refl r
  | refused hpublish => exact (ask hpublish rfl).trans (note _ _)
  | @published event rest r r₁ id hpublish last hrest ih =>
    -- Once the event is out of the queue, the queue is again what is left to publish.
    have hmachine := ask_machine hpublish
    have hreleased := release r₁ (by rw [hmachine, hpending]) id
    exact ((ask hpublish rfl).trans hreleased).trans (ih (by simp))

theorem drain (c : Collaborators σ) (r : Run σ κ) : Entrusts r (r.drain c).2 [] := by
  unfold Run.drain
  split
  · exact publishAll c _ r rfl
  · exact refl r

/-- Whatever `send` answers, it adds the callback of its event to the custody. -/
theorem send (c : Collaborators σ) (payload : Bytes) (callback : Option κ) (r : Run σ κ) :
    Entrusts r (r.send c payload callback).2 callback.toList := by
  have houtcome := r.sends c payload callback
  generalize r.send c payload callback = outcome at houtcome ⊢
  cases houtcome with
  | published hstate hpending hpublish => exact (ask hpublish rfl).trans (track _ _ callback)
  | refused hstate hpending hpublish => exact (ask hpublish rfl).trans (discard _ callback.toList)
  | behind hstate hpending hdrain =>
    have hdrained := drain c (r.enqueue payload callback)
    rw [hdrain] at hdrained
    simpa using (enqueue r payload callback).trans hdrained
  | dialled hstate hpolicy hconnect =>
    have hdialled := connect c r
    rw [hconnect] at hdialled
    exact hdialled.trans (enqueue _ payload callback)
  | undialled hstate hpolicy hconnect =>
    have hdialled := connect c r
    rw [hconnect] at hdialled
    exact hdialled.trans (discard _ callback.toList)
  | queued hstate => exact enqueue r payload callback
  | rejected hstate => exact (note r _).trans (discard _ callback.toList)

theorem perform (c : Collaborators σ) (request : Request κ) (r : Run σ κ) :
    Entrusts r (r.perform c request).2 request.callbacks := by
  cases request with
  | connect => exact connect c r
  | send payload callback => exact send c payload callback r
  | disconnect => exact disconnect c r

theorem releaseQueue (c : Collaborators σ) (r : Run σ κ) : Entrusts r (r.releaseQueue c) [] := by
  have hdrained := drain c r
  unfold Run.releaseQueue
  generalize r.drain c = drained at hdrained ⊢
  obtain ⟨result, r₁⟩ := drained
  cases result with
  | ok => exact hdrained
  | error e => exact hdrained.trans (note r₁ _)

/-- An acknowledgement moves the callback of its message from the machine to the called ones. -/
theorem complete {r : Run σ κ} {id : MessageId} {callback : Option κ}
    (hfind : r.machine.inFlight.find? id = some callback) :
    Entrusts r ((r.acknowledge id).complete callback) [] := by
  intro hnodup
  have hended : Trace.ended ((r.acknowledge id).complete callback).effects =
      Trace.ended r.effects ++ callback.toList := by
    cases callback <;> simp [Run.complete, Run.acknowledge, Run.note, emit]
  have herase := InFlight.callbacks_erase hnodup id
  rw [hfind] at herase
  rw [custody, custody, complete_machine, acknowledge_machine, hended]
  refine ⟨InFlight.nodup_erase hnodup id, ?_⟩
  simp only [Machine.callbacks, ← Multiset.coe_add, Multiset.coe_nil, herase, Option.join_some]
  abel

/-- The loss of the connection moves all callbacks of the machine to the dropped ones. -/
theorem lose (r : Run σ κ) : Entrusts r r.lose [] := by
  let entered := r.enter .disconnected
  let emptied : Run σ κ :=
    { entered with machine := { entered.machine with pending := [], inFlight := [] } }.discard
      r.machine.callbacks
  have hemptied : Entrusts r emptied [] := by
    intro hnodup
    have hended : Trace.ended emptied.effects = Trace.ended r.effects ++ r.machine.callbacks := by
      simp [emptied, entered, Run.discard, Run.enter, Run.note, emit]
    have hcallbacks : emptied.machine.callbacks = [] := rfl
    refine ⟨List.nodup_nil, ?_⟩
    rw [custody, custody, hended, hcallbacks, ← Multiset.coe_add]
    simp only [Multiset.coe_nil]
    abel
  unfold Run.lose
  dsimp only
  split
  · exact hemptied
  · exact hemptied.trans (note _ _)

theorem handle (c : Collaborators σ) (n : Notification) (r : Run σ κ) :
    Entrusts r (r.handle c n) [] := by
  cases n with
  | connected =>
    rw [Run.handle_connected]
    split
    · exact ((enter r .connected).trans (report _ _ _)).trans (releaseQueue c _)
    · exact note r _
  | disconnected =>
    rw [Run.handle_disconnected]
    split
    · exact note r _
    · exact ((lose r).trans (report _ _ _)).trans (report _ _ _)
  | published id =>
    rw [Run.handle_published]
    cases hfind : r.machine.inFlight.find? id with
    | none => exact note r _
    | some callback => exact (complete hfind).trans (report _ _ _)

end Entrusts
end Run

/-- The callbacks that a moment hands to the machine: those of its request. -/
def Moment.entrusted (x : Moment σ κ) : List κ :=
  match x.step with
  | .call request => request.callbacks
  | _ => []

/-- The callbacks handed to the machine in a run. -/
def History.entrusted (h : History σ κ) : List κ :=
  h.flatMap (·.entrusted)

/-- The callbacks called or dropped in a run. -/
def History.ended (h : History σ κ) : List κ :=
  h.flatMap (·.effects.ended)

/-- At each moment, the callbacks in the machine and those handed to it equal those in the machine
afterwards and those called or dropped. -/
theorem Moment.custody (c : Collaborators σ) (s : Step σ κ) (m : Machine κ) (w : σ)
    (hnodup : m.inFlight.ids.Nodup) :
    let x := (s.moment c m w).1
    x.after.inFlight.ids.Nodup ∧
      (x.after.callbacks : Multiset κ) + x.effects.ended = m.callbacks + x.entrusted := by
  have htaken (r : Run σ κ) {given : List κ}
      (h : Run.Entrusts { machine := m, world := w } r given) :
      r.machine.inFlight.ids.Nodup ∧
        (r.machine.callbacks : Multiset κ) + Trace.ended r.effects = m.callbacks + given := by
    obtain ⟨hafter, hcustody⟩ := h hnodup
    exact ⟨hafter, hcustody.trans (by simp [Run.custody])⟩
  cases s with
  | call request => exact htaken _ (.perform c request _)
  | notify n => exact htaken _ (.handle c n _)
  | observe observers => exact ⟨hnodup, rfl⟩
  | drift change => exact ⟨hnodup, rfl⟩

/-- In every run, the callbacks in the first machine and those handed to it equal, as multisets, those
in the last machine and those called or dropped: each is in exactly one place. -/
theorem live_custody (c : Collaborators σ) (steps : List (Step σ κ)) (m : Machine κ) (w : σ)
    (hnodup : m.inFlight.ids.Nodup) :
    let l := live c steps m w
    (l.machine.callbacks : Multiset κ) + l.moments.ended = m.callbacks + l.moments.entrusted := by
  induction steps generalizing m w with
  | nil => rfl
  | cons s rest ih =>
    obtain ⟨hafter, hfirst⟩ := Moment.custody c s m w hnodup
    have hrest := ih (s.moment c m w).1.after (s.moment c m w).2 hafter
    simp only [live, History.ended, History.entrusted, List.flatMap_cons, ← Multiset.coe_add]
      at hrest ⊢
    rw [add_left_comm, hrest, ← add_assoc, ← add_assoc, ← hfirst]
    abel

end HubLink.Transport
