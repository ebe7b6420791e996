import HubLink.Proofs.Machine.Turns

namespace HubLink.Transport

variable {σ κ ε α : Type}

/-- The states before and after the transition that a remark reports. -/
def Effect.transition? : Effect κ → Option (ConnectionState × ConnectionState)
  | .aside (.remark (.transition _ before after)) => some (before, after)
  | _ => none

/-- The transitions reported in a trace, in order. -/
def Trace.transitions (t : Trace κ) : List (ConnectionState × ConnectionState) :=
  t.filterMap Effect.transition?

@[simp] theorem Trace.transitions_append (t u : Trace κ) :
    Trace.transitions (t ++ u) = t.transitions ++ u.transitions :=
  List.filterMap_append

@[simp] theorem Trace.transitions_discards (callbacks : List κ) :
    Trace.transitions (callbacks.map .discard) = [] := by
  simp [Trace.transitions, Effect.transition?]

/-- The reply without its side effects. -/
def Reply.silent (reply : Reply σ ε α) : Reply σ ε α :=
  { reply with asides := [] }

/-- The collaborators without the side effects of their replies. The transitions of a machine are read
off its trace with these, since a side effect may itself be a remark on a transition. -/
def Collaborators.silent (c : Collaborators σ) : Collaborators σ where
  token w := (c.token w).silent
  connect token w := (c.connect token w).silent
  publish topic payload w := (c.publish topic payload w).silent
  disconnect w := (c.disconnect w).silent

/-- The transition from `s` to `s'`; empty if they are equal. -/
def wayTo (s s' : ConnectionState) : List (ConnectionState × ConnectionState) :=
  if s = s' then [] else [(s, s')]

@[simp] theorem wayTo_self (s : ConnectionState) : wayTo s s = [] :=
  if_pos rfl

namespace Run

/-- From `r` to `r'` the state is unchanged and no transition is reported. -/
structure Stays (r r' : Run σ κ) : Prop where
  state : r'.machine.state = r.machine.state
  transitions : Trace.transitions r'.effects = Trace.transitions r.effects

/-- From `r` to `r'` at most one transition is reported, and it is that from the first state to the
last. -/
def Goes (r r' : Run σ κ) : Prop :=
  Trace.transitions r'.effects =
    Trace.transitions r.effects ++ wayTo r.machine.state r'.machine.state

namespace Stays

variable {r r' r'' : Run σ κ}

theorem trans (h : Stays r r') (h' : Stays r' r'') : Stays r r'' :=
  ⟨h'.state.trans h.state, h'.transitions.trans h.transitions⟩

theorem goes (h : Stays r r') : Goes r r' := by
  rw [Goes, h.state, wayTo_self, List.append_nil, h.transitions]

theorem refl (r : Run σ κ) : Stays r r :=
  ⟨rfl, rfl⟩

theorem note (r : Run σ κ) {remark : Remark}
    (h : (Effect.aside (.remark remark) : Effect κ).transition? = none) : Stays r (r.note remark) :=
  ⟨rfl, by simp [Run.note, emit, Trace.transitions, h]⟩

theorem report (r : Run σ κ) (observer : Option κ) (report : Report) :
    Stays r (r.report observer report) := by
  cases observer with
  | none => exact refl r
  | some hook => exact ⟨rfl, by simp [Run.report, emit, Trace.transitions, Effect.transition?]⟩

theorem discard (r : Run σ κ) (callbacks : List κ) : Stays r (r.discard callbacks) :=
  ⟨rfl, by simp [Run.discard]⟩

theorem enqueue (r : Run σ κ) (payload : Bytes) (callback : Option κ) :
    Stays r (r.enqueue payload callback) :=
  ⟨rfl, by simp [Run.enqueue, Run.note, emit, Trace.transitions, Effect.transition?]⟩

theorem track (r : Run σ κ) (id : MessageId) (callback : Option κ) :
    Stays r (r.track id callback) := by
  let tracked : Run σ κ :=
    { r with machine := { r.machine with inFlight := r.machine.inFlight.insert id callback } }
  have htracked : Stays r tracked := ⟨rfl, rfl⟩
  unfold Run.track
  cases r.machine.inFlight.find? id with
  | none => exact htracked.trans (note tracked rfl)
  | some old => exact ((htracked.trans (discard tracked old.toList)).trans (note _ rfl)).trans (note _ rfl)

/-- A request to silent collaborators reports no transition. -/
theorem ask {reply : Reply σ ε α} {effect : Except ε α → Effect κ} {result : Except ε α}
    (h : r.ask reply.silent effect = (result, r')) (heffect : (effect result).transition? = none) :
    Stays r r' := by
  obtain rfl : reply.result = result := congrArg Prod.fst h
  obtain rfl : (r.ask reply.silent effect).2 = r' := congrArg Prod.snd h
  exact ⟨rfl, by simp [Run.ask, Reply.silent, Trace.transitions, heffect]⟩

theorem publishAll (c : Collaborators σ) (events : List (QueuedEvent κ)) (r : Run σ κ) :
    Stays r (Run.publishAll c.silent events r).2 := by
  have houtcome := Run.publishes c.silent events r
  generalize Run.publishAll c.silent events r = outcome at houtcome ⊢
  induction houtcome with
  | done r => exact refl r
  | refused hpublish => exact (ask hpublish rfl).trans (note _ rfl)
  | @published event rest r r₁ id hpublish last hrest ih =>
    have hnext : Stays r₁ { r₁ with machine := { r₁.machine with pending := rest } } := ⟨rfl, rfl⟩
    exact (((ask hpublish rfl).trans hnext).trans (track _ id event.callback)).trans ih

theorem drain (c : Collaborators σ) (r : Run σ κ) : Stays r (r.drain c.silent).2 := by
  unfold Run.drain
  split
  · exact publishAll c _ r
  · exact refl r

theorem releaseQueue (c : Collaborators σ) (r : Run σ κ) : Stays r (r.releaseQueue c.silent) := by
  have hdrained := drain c r
  unfold Run.releaseQueue
  generalize r.drain c.silent = drained at hdrained ⊢
  obtain ⟨result, r₁⟩ := drained
  cases result with
  | ok => exact hdrained
  | error e => exact hdrained.trans (note r₁ rfl)

theorem acknowledge (id : MessageId) (r : Run σ κ) : Stays r (r.acknowledge id) :=
  ⟨rfl, by simp [Run.acknowledge, Run.note, emit, Trace.transitions, Effect.transition?]⟩

theorem complete (r : Run σ κ) (callback : Option κ) : Stays r (r.complete callback) := by
  refine ⟨by rw [complete_machine], ?_⟩
  cases callback <;> simp [Run.complete, emit, Trace.transitions, Effect.transition?]

end Stays

namespace Goes

variable {r r' r'' : Run σ κ}

theorem trans_stays (h : Goes r r') (h' : Stays r' r'') : Goes r r'' := by
  rw [Goes, h'.transitions, h'.state]
  exact h

theorem enter (r : Run σ κ) {next : ConnectionState} (h : r.machine.state ≠ next) :
    Goes r (r.enter next) := by
  have hway : wayTo r.machine.state next = [(r.machine.state, next)] := if_neg h
  simp [Goes, Run.enter, note, emit, hway, Trace.transitions, Effect.transition?]

theorem of_stays (h : Stays r r') (h' : Goes r' r'') : Goes r r'' := by
  rw [Goes, ← h.transitions, ← h.state]
  exact h'

theorem connect (c : Collaborators σ) (r : Run σ κ) : Goes r (r.connect c.silent).2 := by
  have houtcome := r.connects c.silent
  generalize r.connect c.silent = outcome at houtcome ⊢
  cases houtcome with
  | ignored hstate => exact (Stays.note r rfl).goes
  | unsigned hstate htoken => exact (Stays.ask htoken rfl).goes
  | refused hstate htoken hconnect => exact ((Stays.ask htoken rfl).trans (.ask hconnect rfl)).goes
  | begun hstate htoken hconnect =>
    have hasked := (Stays.ask htoken rfl).trans (.ask hconnect rfl)
    exact .of_stays hasked (enter _ (by simp [hasked.state, hstate]))

theorem disconnect (c : Collaborators σ) (r : Run σ κ) : Goes r (r.disconnect c.silent).2 := by
  have houtcome := r.disconnects c.silent
  generalize r.disconnect c.silent = outcome at houtcome ⊢
  cases houtcome with
  | ignored hstate => exact (Stays.note r rfl).goes
  | refused hstate hdisconnect => exact (Stays.ask hdisconnect rfl).goes
  | begun hstate hdisconnect =>
    have hasked := Stays.ask hdisconnect rfl
    refine .of_stays hasked (enter _ fun hdisconnecting => ?_)
    rw [← hasked.state, hdisconnecting] at hstate
    cases hstate

theorem send (c : Collaborators σ) (payload : Bytes) (callback : Option κ) (r : Run σ κ) :
    Goes r (r.send c.silent payload callback).2 := by
  have houtcome := r.sends c.silent payload callback
  generalize r.send c.silent payload callback = outcome at houtcome ⊢
  cases houtcome with
  | published hstate hpending hpublish =>
    exact ((Stays.ask hpublish rfl).trans (.track _ _ callback)).goes
  | refused hstate hpending hpublish =>
    exact ((Stays.ask hpublish rfl).trans (.discard _ callback.toList)).goes
  | behind hstate hpending hdrain =>
    have hdrained := Stays.drain c (r.enqueue payload callback)
    rw [hdrain] at hdrained
    exact ((Stays.enqueue r payload callback).trans hdrained).goes
  | dialled hstate hpolicy hconnect =>
    have hdialled := connect c r
    rw [hconnect] at hdialled
    exact hdialled.trans_stays (.enqueue _ payload callback)
  | undialled hstate hpolicy hconnect =>
    have hdialled := connect c r
    rw [hconnect] at hdialled
    exact hdialled.trans_stays (.discard _ callback.toList)
  | queued hstate => exact (Stays.enqueue r payload callback).goes
  | rejected hstate => exact ((Stays.note r rfl).trans (.discard _ callback.toList)).goes

theorem perform (c : Collaborators σ) (request : Request κ) (r : Run σ κ) :
    Goes r (r.perform c.silent request).2 := by
  cases request with
  | connect => exact connect c r
  | send payload callback => exact send c payload callback r
  | disconnect => exact disconnect c r

theorem lose (r : Run σ κ) (h : r.machine.state ≠ .disconnected) : Goes r r.lose := by
  let emptied : Run σ κ :=
    { r.enter .disconnected with
      machine := { (r.enter .disconnected).machine with pending := [], inFlight := [] } }
  have hemptied : Stays (r.enter .disconnected) emptied := ⟨rfl, rfl⟩
  have hdiscarded :=
    ((enter r h).trans_stays hemptied).trans_stays (.discard emptied r.machine.callbacks)
  unfold Run.lose
  dsimp only
  split
  · exact hdiscarded
  · exact hdiscarded.trans_stays (.note _ rfl)

theorem handle (c : Collaborators σ) (n : Notification) (r : Run σ κ) :
    Goes r (r.handle c.silent n) := by
  cases n with
  | connected =>
    rw [handle_connected]
    split
    case isTrue hstate =>
      have hentered : Goes r (r.enter .connected) := enter r (by simp [hstate])
      exact (hentered.trans_stays (.report _ _ _)).trans_stays (.releaseQueue c _)
    case isFalse => exact (Stays.note r rfl).goes
  | disconnected =>
    rw [handle_disconnected]
    split
    case isTrue => exact (Stays.note r rfl).goes
    case isFalse hstate =>
      exact ((lose r hstate).trans_stays (.report _ _ _)).trans_stays (.report _ _ _)
  | published id =>
    rw [handle_published]
    cases r.machine.inFlight.find? id with
    | none => exact (Stays.note r rfl).goes
    | some callback =>
      have hcompleted := (Stays.acknowledge id r).trans (.complete _ callback)
      exact (hcompleted.trans (.report _ _ _)).goes

end Goes

/-- Runs with equal machines and equal collaborators; their traces may differ. -/
structure Alike (r s : Run σ κ) : Prop where
  machine : r.machine = s.machine
  world : r.world = s.world

namespace Alike

variable {r s : Run σ κ}

theorem refl (r : Run σ κ) : Alike r r :=
  ⟨rfl, rfl⟩

theorem report (h : Alike r s) (observer : Option κ) (report : Report) :
    Alike (r.report observer report) (s.report observer report) := by
  cases observer with
  | none => exact h
  | some hook => exact ⟨h.machine, h.world⟩

theorem enqueue (h : Alike r s) (payload : Bytes) (callback : Option κ) :
    Alike (r.enqueue payload callback) (s.enqueue payload callback) := by
  refine ⟨?_, h.world⟩
  simp only [Run.enqueue, Run.note, emit, h.machine]

theorem enter (h : Alike r s) (next : ConnectionState) : Alike (r.enter next) (s.enter next) := by
  refine ⟨?_, h.world⟩
  simp only [Run.enter, Run.note, emit, h.machine]

theorem lose (h : Alike r s) : Alike r.lose s.lose := by
  obtain ⟨m, w, t⟩ := r
  obtain ⟨_, _, u⟩ := s
  obtain ⟨rfl, rfl⟩ := h
  unfold Run.lose
  dsimp only
  split <;> exact ⟨rfl, rfl⟩

theorem acknowledge (h : Alike r s) (id : MessageId) :
    Alike (r.acknowledge id) (s.acknowledge id) :=
  ⟨by rw [acknowledge_machine, acknowledge_machine, h.machine], h.world⟩

theorem complete (h : Alike r s) (callback : Option κ) :
    Alike (r.complete callback) (s.complete callback) := by
  cases callback with
  | none => exact h
  | some hook => exact ⟨h.machine, h.world⟩

theorem publishAll (c : Collaborators σ) (events : List (QueuedEvent κ)) (h : Alike r s) :
    (Run.publishAll c.silent events r).1 = (Run.publishAll c events s).1 ∧
      Alike (Run.publishAll c.silent events r).2 (Run.publishAll c events s).2 := by
  induction events generalizing r s with
  | nil => exact ⟨rfl, h⟩
  | cons event rest ih =>
    obtain ⟨m, w, t⟩ := r
    obtain ⟨_, _, u⟩ := s
    obtain ⟨rfl, rfl⟩ := h
    simp only [Run.publishAll, Run.ask, Collaborators.silent, Reply.silent]
    cases (c.publish m.topic event.payload w).result with
    | ok id => exact ih ⟨by simp, by simp⟩
    | error e => exact ⟨rfl, rfl, rfl⟩

theorem drain (c : Collaborators σ) (h : Alike r s) :
    (r.drain c.silent).1 = (s.drain c).1 ∧ Alike (r.drain c.silent).2 (s.drain c).2 := by
  unfold Run.drain
  rw [h.machine]
  split
  · exact publishAll c _ h
  · exact ⟨rfl, h⟩

theorem connect (c : Collaborators σ) (h : Alike r s) :
    (r.connect c.silent).1 = (s.connect c).1 ∧ Alike (r.connect c.silent).2 (s.connect c).2 := by
  obtain ⟨m, w, t⟩ := r
  obtain ⟨_, _, u⟩ := s
  obtain ⟨rfl, rfl⟩ := h
  simp only [Run.connect, Run.ask, Collaborators.silent, Reply.silent]
  split
  case isFalse => exact ⟨rfl, rfl, rfl⟩
  case isTrue =>
    cases (c.token w).result with
    | error e => exact ⟨rfl, rfl, rfl⟩
    | ok token =>
      dsimp only
      cases (c.connect token (c.token w).world).result with
      | error e => exact ⟨rfl, rfl, rfl⟩
      | ok => exact ⟨rfl, rfl, rfl⟩

theorem disconnect (c : Collaborators σ) (h : Alike r s) :
    (r.disconnect c.silent).1 = (s.disconnect c).1 ∧
      Alike (r.disconnect c.silent).2 (s.disconnect c).2 := by
  obtain ⟨m, w, t⟩ := r
  obtain ⟨_, _, u⟩ := s
  obtain ⟨rfl, rfl⟩ := h
  simp only [Run.disconnect, Run.ask, Collaborators.silent, Reply.silent]
  split
  case isFalse => exact ⟨rfl, rfl, rfl⟩
  case isTrue =>
    cases (c.disconnect w).result with
    | error e => exact ⟨rfl, rfl, rfl⟩
    | ok => exact ⟨rfl, rfl, rfl⟩

theorem send (c : Collaborators σ) (payload : Bytes) (callback : Option κ) (h : Alike r s) :
    (r.send c.silent payload callback).1 = (s.send c payload callback).1 ∧
      Alike (r.send c.silent payload callback).2 (s.send c payload callback).2 := by
  have hdrained := drain c (h.enqueue payload callback)
  have hdialled := connect c h
  obtain ⟨m, w, t⟩ := r
  obtain ⟨_, _, u⟩ := s
  obtain ⟨rfl, rfl⟩ := h
  simp only [Run.send]
  cases m.state with
  | connected =>
    dsimp only
    split
    case isTrue =>
      simp only [Run.ask, Collaborators.silent, Reply.silent]
      cases (c.publish m.topic payload w).result with
      | ok id => exact ⟨rfl, by simp, by simp⟩
      | error e => exact ⟨rfl, rfl, rfl⟩
    case isFalse =>
      generalize Run.drain c.silent _ = drained at hdrained ⊢
      generalize Run.drain c _ = drained' at hdrained ⊢
      obtain ⟨result, r⟩ := drained
      obtain ⟨result', s⟩ := drained'
      obtain ⟨rfl, hafter⟩ := hdrained
      cases result <;> exact ⟨rfl, hafter⟩
  | disconnected =>
    cases m.policy with
    | onSend =>
      dsimp only
      generalize Run.connect c.silent _ = dialled at hdialled ⊢
      generalize Run.connect c _ = dialled' at hdialled ⊢
      obtain ⟨result, r⟩ := dialled
      obtain ⟨result', s⟩ := dialled'
      obtain ⟨rfl, hafter⟩ := hdialled
      cases result with
      | ok => exact ⟨rfl, hafter.enqueue payload callback⟩
      | error e => exact ⟨rfl, hafter.machine, hafter.world⟩
    | never => exact ⟨rfl, rfl, rfl⟩
  | connecting => exact ⟨rfl, rfl, rfl⟩
  | disconnecting => exact ⟨rfl, rfl, rfl⟩

theorem perform (c : Collaborators σ) (request : Request κ) (h : Alike r s) :
    (r.perform c.silent request).1 = (s.perform c request).1 ∧
      Alike (r.perform c.silent request).2 (s.perform c request).2 := by
  cases request with
  | connect => exact connect c h
  | send payload callback => exact send c payload callback h
  | disconnect => exact disconnect c h

theorem releaseQueue (c : Collaborators σ) (h : Alike r s) :
    Alike (r.releaseQueue c.silent) (s.releaseQueue c) := by
  obtain ⟨hresult, hafter⟩ := drain c h
  unfold Run.releaseQueue
  generalize r.drain c.silent = drained at hresult hafter ⊢
  generalize s.drain c = drained' at hresult hafter ⊢
  obtain ⟨result, r⟩ := drained
  obtain ⟨result', s⟩ := drained'
  obtain rfl : result = result' := hresult
  cases result <;> exact ⟨hafter.machine, hafter.world⟩

theorem handle (c : Collaborators σ) (n : Notification) (h : Alike r s) :
    Alike (r.handle c.silent n) (s.handle c n) := by
  cases n with
  | connected =>
    rw [handle_connected, handle_connected, h.machine]
    split
    · exact releaseQueue c ((h.enter .connected).report _ _)
    · exact ⟨h.machine, h.world⟩
  | disconnected =>
    rw [handle_disconnected, handle_disconnected, h.machine]
    split
    · exact ⟨h.machine, h.world⟩
    · exact (h.lose.report _ _).report _ _
  | published id =>
    rw [handle_published, handle_published, h.machine]
    cases s.machine.inFlight.find? id with
    | none => exact ⟨h.machine, h.world⟩
    | some callback => exact ((h.acknowledge id).complete callback).report _ _

end Alike

end Run

namespace Step

/-- A step leads to the same machine and the same collaborators whether they are silent or not. -/
theorem moment_silent (c : Collaborators σ) (s : Step σ κ) (m : Machine κ) (w : σ) :
    (s.moment c.silent m w).1.after = (s.moment c m w).1.after ∧
      (s.moment c.silent m w).2 = (s.moment c m w).2 := by
  let r : Run σ κ := { machine := m, world := w }
  cases s with
  | call request =>
    obtain ⟨-, hmachine, hworld⟩ := (Run.Alike.refl r).perform c request
    exact ⟨hmachine, hworld⟩
  | notify n =>
    obtain ⟨hmachine, hworld⟩ := (Run.Alike.refl r).handle c n
    exact ⟨hmachine, hworld⟩
  | observe observers => exact ⟨rfl, rfl⟩
  | drift change => exact ⟨rfl, rfl⟩

/-- The transitions reported at a moment are exactly that from the state before it to the state after
it, and none if they are equal. -/
theorem transitions_moment (c : Collaborators σ) (s : Step σ κ) (m : Machine κ) (w : σ) :
    Trace.transitions (s.moment c.silent m w).1.effects =
      wayTo m.state (s.moment c m w).1.after.state := by
  let r : Run σ κ := { machine := m, world := w }
  rw [← (moment_silent c s m w).1]
  cases s with
  | call request => exact Run.Goes.perform c request r
  | notify n => exact Run.Goes.handle c n r
  | observe observers => exact (wayTo_self m.state).symm
  | drift change => exact (wayTo_self m.state).symm

end Step

end HubLink.Transport
