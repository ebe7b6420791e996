import HubLink.Proofs.Machine.Calls

namespace HubLink.Transport

variable {σ κ ε α : Type}

/-- The trace is a sequence of requests to the collaborators, each recorded with the answer of `c` in
the state that the answers before have left, and of effects that involve no collaborator. The state
goes from the first argument to the last. -/
inductive Dialogue (c : Collaborators σ) : σ → Trace κ → σ → Prop
  | done (w : σ) : Dialogue c w [] w
  | alone {w w' : σ} {e : Effect κ} {rest : Trace κ} (he : e.isCall = false)
      (hrest : Dialogue c w rest w') : Dialogue c w (e :: rest) w'
  | token {w w' : σ} {rest : Trace κ} (hrest : Dialogue c (c.token w).world rest w') :
    Dialogue c w ((c.token w).asides.map .aside ++ .token (c.token w).result :: rest) w'
  | connect {w w' : σ} (token : String) {rest : Trace κ}
      (hrest : Dialogue c (c.connect token w).world rest w') :
    Dialogue c w
      ((c.connect token w).asides.map .aside ++ .connect token (c.connect token w).result :: rest) w'
  | publish {w w' : σ} (topic : String) (payload : Bytes) {rest : Trace κ}
      (hrest : Dialogue c (c.publish topic payload w).world rest w') :
    Dialogue c w ((c.publish topic payload w).asides.map .aside ++
      .publish topic payload (c.publish topic payload w).result :: rest) w'
  | disconnect {w w' : σ} {rest : Trace κ} (hrest : Dialogue c (c.disconnect w).world rest w') :
    Dialogue c w ((c.disconnect w).asides.map .aside ++ .disconnect (c.disconnect w).result :: rest) w'

namespace Dialogue

variable {c : Collaborators σ} {w w' w'' : σ} {t t' : Trace κ}

theorem trans (h : Dialogue c w t w') (h' : Dialogue c w' t' w'') : Dialogue c w (t ++ t') w'' := by
  induction h with
  | done w => exact h'
  | alone he hrest ih => exact .alone he (ih h')
  | token hrest ih =>
    rw [List.append_assoc]
    exact .token (ih h')
  | connect token hrest ih =>
    rw [List.append_assoc]
    exact .connect token (ih h')
  | publish topic payload hrest ih =>
    rw [List.append_assoc]
    exact .publish topic payload (ih h')
  | disconnect hrest ih =>
    rw [List.append_assoc]
    exact .disconnect (ih h')

theorem of_no_call (ht : ∀ e ∈ t, e.isCall = false) (w : σ) : Dialogue c w t w := by
  induction t with
  | nil => exact .done w
  | cons e rest ih =>
    obtain ⟨he, hrest⟩ := List.forall_mem_cons.1 ht
    exact .alone he (ih hrest)

end Dialogue

/-- The effects between two runs are a dialogue that leads from the collaborators of the first to
those of the second. -/
def Run.Talks (c : Collaborators σ) (r r' : Run σ κ) : Prop :=
  ∃ new : Trace κ, r'.effects = r.effects ++ new ∧ Dialogue c r.world new r'.world

namespace Run.Talks

variable {c : Collaborators σ} {r r' r'' : Run σ κ}

theorem trans (h : Talks c r r') (h' : Talks c r' r'') : Talks c r r'' := by
  obtain ⟨new, heffects, hnew⟩ := h
  obtain ⟨new', heffects', hnew'⟩ := h'
  refine ⟨new ++ new', ?_, hnew.trans hnew'⟩
  rw [heffects', heffects, List.append_assoc]

theorem of_no_call (new : Trace κ) (hworld : r'.world = r.world)
    (heffects : r'.effects = r.effects ++ new) (hnew : ∀ e ∈ new, e.isCall = false) :
    Talks c r r' := by
  refine ⟨new, heffects, ?_⟩
  rw [hworld]
  exact .of_no_call hnew r.world

theorem refl (r : Run σ κ) : Talks c r r :=
  of_no_call [] rfl (by simp) (by simp)

theorem note (r : Run σ κ) (remark : Remark) : Talks c r (r.note remark) :=
  of_no_call [.aside (.remark remark)] rfl rfl (by simp [Effect.isCall])

theorem report (r : Run σ κ) (observer : Option κ) (report : Report) :
    Talks c r (r.report observer report) := by
  cases observer with
  | none => exact refl r
  | some hook => exact of_no_call [.report hook report] rfl rfl (by simp [Effect.isCall])

theorem discard (r : Run σ κ) (callbacks : List κ) : Talks c r (r.discard callbacks) :=
  of_no_call (callbacks.map .discard) rfl rfl (by simp [Effect.isCall])

theorem enter (r : Run σ κ) (next : ConnectionState) : Talks c r (r.enter next) :=
  of_no_call [_] rfl rfl (by simp [Effect.isCall])

theorem enqueue (r : Run σ κ) (payload : Bytes) (callback : Option κ) :
    Talks c r (r.enqueue payload callback) :=
  of_no_call [_] rfl rfl (by simp [Effect.isCall])

/-- Replacing the machine of the second run keeps the dialogue. -/
theorem machine (h : Talks c r r') (m : Machine κ) : Talks c r { r' with machine := m } :=
  h

theorem track (r : Run σ κ) (id : MessageId) (callback : Option κ) :
    Talks c r (r.track id callback) := by
  have htracked := (refl (c := c) r).machine
    { r.machine with inFlight := r.machine.inFlight.insert id callback }
  unfold Run.track
  cases r.machine.inFlight.find? id with
  | none => exact htracked.trans (note _ _)
  | some old => exact ((htracked.trans (discard _ old.toList)).trans (note _ _)).trans (note _ _)

theorem ask {reply : Reply σ ε α} {effect : Except ε α → Effect κ} {result : Except ε α}
    (h : r.ask reply effect = (result, r'))
    (hreply : ∀ {rest : Trace κ} {w' : σ}, Dialogue c reply.world rest w' →
      Dialogue c r.world (reply.asides.map .aside ++ effect reply.result :: rest) w') :
    Talks c r r' := by
  obtain rfl : (r.ask reply effect).2 = r' := congrArg Prod.snd h
  exact ⟨_, List.append_assoc .., hreply (.done reply.world)⟩

theorem connect (c : Collaborators σ) (r : Run σ κ) : Talks c r (r.connect c).2 := by
  have houtcome := r.connects c
  generalize r.connect c = outcome at houtcome ⊢
  cases houtcome with
  | ignored hstate => exact note r _
  | unsigned hstate htoken => exact ask htoken .token
  | refused hstate htoken hconnect => exact (ask htoken .token).trans (ask hconnect (.connect _))
  | begun hstate htoken hconnect =>
    exact ((ask htoken .token).trans (ask hconnect (.connect _))).trans (enter _ .connecting)

theorem disconnect (c : Collaborators σ) (r : Run σ κ) : Talks c r (r.disconnect c).2 := by
  have houtcome := r.disconnects c
  generalize r.disconnect c = outcome at houtcome ⊢
  cases houtcome with
  | ignored hstate => exact note r _
  | refused hstate hdisconnect => exact ask hdisconnect .disconnect
  | begun hstate hdisconnect => exact (ask hdisconnect .disconnect).trans (enter _ .disconnecting)

theorem publishAll (c : Collaborators σ) (events : List (QueuedEvent κ)) (r : Run σ κ) :
    Talks c r (Run.publishAll c events r).2 := by
  have houtcome := Run.publishes c events r
  generalize Run.publishAll c events r = outcome at houtcome ⊢
  induction houtcome with
  | done r => exact refl r
  | refused hpublish => exact (ask hpublish (.publish _ _)).trans (note _ _)
  | @published event rest r r₁ id hpublish last hrest ih =>
    have hasked := (ask hpublish (.publish _ _)).machine { r₁.machine with pending := rest }
    exact (hasked.trans (track _ id event.callback)).trans ih

theorem drain (c : Collaborators σ) (r : Run σ κ) : Talks c r (r.drain c).2 := by
  unfold Run.drain
  split
  · exact publishAll c _ r
  · exact refl r

theorem send (c : Collaborators σ) (payload : Bytes) (callback : Option κ) (r : Run σ κ) :
    Talks c r (r.send c payload callback).2 := by
  have houtcome := r.sends c payload callback
  generalize r.send c payload callback = outcome at houtcome ⊢
  cases houtcome with
  | published hstate hpending hpublish =>
    exact (ask hpublish (.publish _ _)).trans (track _ _ callback)
  | refused hstate hpending hpublish =>
    exact (ask hpublish (.publish _ _)).trans (discard _ callback.toList)
  | behind hstate hpending hdrain =>
    have hdrained := drain c (r.enqueue payload callback)
    rw [hdrain] at hdrained
    exact (enqueue r payload callback).trans hdrained
  | dialled hstate hpolicy hconnect =>
    have hdialled := connect c r
    rw [hconnect] at hdialled
    exact hdialled.trans (enqueue _ payload callback)
  | undialled hstate hpolicy hconnect =>
    have hdialled := connect c r
    rw [hconnect] at hdialled
    exact hdialled.trans (discard _ callback.toList)
  | queued hstate => exact enqueue r payload callback
  | rejected hstate => exact (note r _).trans (discard _ callback.toList)

theorem perform (c : Collaborators σ) (request : Request κ) (r : Run σ κ) :
    Talks c r (r.perform c request).2 := by
  cases request with
  | connect => exact connect c r
  | send payload callback => exact send c payload callback r
  | disconnect => exact disconnect c r

theorem releaseQueue (c : Collaborators σ) (r : Run σ κ) : Talks c r (r.releaseQueue c) := by
  have hdrained := drain c r
  unfold Run.releaseQueue
  generalize r.drain c = drained at hdrained ⊢
  obtain ⟨result, r₁⟩ := drained
  cases result with
  | ok => exact hdrained
  | error e => exact hdrained.trans (note r₁ _)

theorem lose (r : Run σ κ) : Talks c r r.lose := by
  let entered := r.enter .disconnected
  have hemptied : Talks c r
      { entered with machine := { entered.machine with pending := [], inFlight := [] } } :=
    (enter r .disconnected).machine _
  have hdiscarded := hemptied.trans (discard _ r.machine.callbacks)
  unfold Run.lose
  dsimp only
  split
  · exact hdiscarded
  · exact hdiscarded.trans (note _ _)

theorem acknowledge (id : MessageId) (r : Run σ κ) : Talks c r (r.acknowledge id) := by
  have herased := (refl (c := c) r).machine
    { r.machine with inFlight := r.machine.inFlight.erase id }
  exact herased.trans (note _ _)

theorem complete (r : Run σ κ) (callback : Option κ) : Talks c r (r.complete callback) := by
  cases callback with
  | none => exact refl r
  | some hook => exact of_no_call [.complete hook] rfl rfl (by simp [Effect.isCall])

theorem handle (c : Collaborators σ) (n : Notification) (r : Run σ κ) : Talks c r (r.handle c n) := by
  cases n with
  | connected =>
    rw [Run.handle_connected]
    split
    · exact ((enter r .connected).trans (report _ _ _)).trans (releaseQueue c _)
    · exact note r _
  | disconnected =>
    rw [Run.handle_disconnected]
    split
    · exact note r _
    · exact ((lose r).trans (report _ _ _)).trans (report _ _ _)
  | published id =>
    rw [Run.handle_published]
    cases r.machine.inFlight.find? id with
    | none => exact note r _
    | some callback =>
      exact ((acknowledge id r).trans (complete _ callback)).trans (report _ _ _)

end Run.Talks

/-- The effects of a step are a dialogue, unless the step is a change of the collaborators. -/
theorem Step.dialogue (c : Collaborators σ) (s : Step σ κ) (m : Machine κ) (w : σ)
    (h : ∀ change, s ≠ .drift change) :
    Dialogue c w (s.moment c m w).1.effects (s.moment c m w).2 := by
  have htalks (r : Run σ κ) (hr : Run.Talks c { machine := m, world := w } r) :
      Dialogue c w r.effects r.world := by
    obtain ⟨new, heffects, hnew⟩ := hr
    have heffects : r.effects = new := heffects
    rwa [heffects]
  cases s with
  | call request => exact htalks _ (.perform c request _)
  | notify n => exact htalks _ (.handle c n _)
  | observe observers => exact .done w
  | drift change => exact absurd rfl (h change)

end HubLink.Transport
