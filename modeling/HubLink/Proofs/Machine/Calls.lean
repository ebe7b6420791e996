import HubLink.Proofs.Machine.Life
import HubLink.Proofs.Machine.Outcomes
import HubLink.Proofs.Machine.Timeline

namespace HubLink.Transport

variable {σ κ ε α : Type}

/-- Whether an effect is a token request or a connect request. -/
def Effect.isDial : Effect κ → Bool
  | .token _ | .connect _ _ => true
  | _ => false

/-- The token requests and connect requests of a trace, in order. -/
def Trace.dials (t : Trace κ) : List (Effect κ) :=
  t.filter Effect.isDial

/-- The requests of one connection attempt: a refused token request, or an accepted one followed by
one connect request that carries its token. -/
def OneAttempt (dials : List (Effect κ)) : Prop :=
  (∃ e, dials = [.token (.error e)]) ∨
    ∃ token result, dials = [.token (.ok token), .connect token result]

/-- Whether a request makes a disconnected machine attempt a connection. -/
def Request.dials (policy : ConnectPolicy) : Request κ → Bool
  | .connect => true
  | .send _ _ => policy = .onSend
  | .disconnect => false

/-- Whether an effect is a request to a collaborator. -/
def Effect.isCall : Effect κ → Bool
  | .token _ | .connect _ _ | .publish _ _ _ | .disconnect _ => true
  | _ => false

theorem Leads.of_no_call {t : Trace κ} (h : ∀ e ∈ t, e.isCall = false) (s : ConnectionState) :
    Leads s (t.map .effect) s := by
  induction t with
  | nil => exact nil_iff.2 rfl
  | cons e rest ih =>
    obtain ⟨he, hrest⟩ := List.forall_mem_cons.1 h
    refine cons_iff.2 ⟨s, ?_, ih hrest⟩
    cases e <;> simp_all [Milestone.next?, Effect.next?, Effect.isCall]

/-- The collaborator requests that a run makes between `r` and `r'` lead the connection from `s` to
`s'`, and `dials` are the token and connect requests among them. -/
structure Calls (s s' : ConnectionState) (r r' : Run σ κ) (dials : List (Effect κ)) : Prop where
  policy : r'.machine.policy = r.machine.policy
  effects : ∃ new : Trace κ, r'.effects = r.effects ++ new ∧
    Leads s (new.map .effect) s' ∧ new.dials = dials

namespace Calls

variable {s s' s'' : ConnectionState} {r r' r'' : Run σ κ} {dials dials' : List (Effect κ)}

theorem trans (h : Calls s s' r r' dials) (h' : Calls s' s'' r' r'' dials') :
    Calls s s'' r r'' (dials ++ dials') := by
  obtain ⟨new, heffects, hleads, hdials⟩ := h.effects
  obtain ⟨new', heffects', hleads', hdials'⟩ := h'.effects
  refine ⟨h'.policy.trans h.policy, new ++ new', ?_, ?_, ?_⟩
  · rw [heffects', heffects, List.append_assoc]
  · rw [List.map_append]
    exact hleads.trans hleads'
  · rw [← hdials, ← hdials']
    exact List.filter_append ..

theorem trans_nil (h : Calls s s' r r' dials) (h' : Calls s' s'' r' r'' []) :
    Calls s s'' r r'' dials := by
  simpa using h.trans h'

theorem of_no_call (new : Trace κ) (hpolicy : r'.machine.policy = r.machine.policy)
    (heffects : r'.effects = r.effects ++ new) (hnew : ∀ e ∈ new, e.isCall = false) :
    Calls s s r r' [] := by
  refine ⟨hpolicy, new, heffects, .of_no_call hnew s, List.filter_eq_nil_iff.2 fun e he => ?_⟩
  have hcall := hnew e he
  cases e <;> simp_all [Effect.isCall, Effect.isDial]

theorem refl (s : ConnectionState) (r : Run σ κ) : Calls s s r r [] :=
  of_no_call [] rfl (by simp) (by simp)

theorem note (r : Run σ κ) (remark : Remark) : Calls s s r (r.note remark) [] :=
  of_no_call [.aside (.remark remark)] rfl rfl (by simp [Effect.isCall])

theorem report (r : Run σ κ) (observer : Option κ) (report : Report) :
    Calls s s r (r.report observer report) [] := by
  cases observer with
  | none => exact refl s r
  | some hook => exact of_no_call [.report hook report] rfl rfl (by simp [Effect.isCall])

theorem discard (r : Run σ κ) (callbacks : List κ) : Calls s s r (r.discard callbacks) [] :=
  of_no_call (callbacks.map .discard) rfl rfl (by simp [Effect.isCall])

theorem enter (r : Run σ κ) (next : ConnectionState) : Calls s s r (r.enter next) [] :=
  of_no_call [_] rfl rfl (by simp [Effect.isCall])

theorem enqueue (r : Run σ κ) (payload : Bytes) (callback : Option κ) :
    Calls s s r (r.enqueue payload callback) [] :=
  of_no_call [_] rfl rfl (by simp [Effect.isCall])

theorem track (r : Run σ κ) (id : MessageId) (callback : Option κ) :
    Calls s s r (r.track id callback) [] := by
  let tracked : Run σ κ :=
    { r with machine := { r.machine with inFlight := r.machine.inFlight.insert id callback } }
  have htracked : Calls s s r tracked [] := of_no_call [] rfl (by simp [tracked]) (by simp)
  unfold Run.track
  cases r.machine.inFlight.find? id with
  | none => exact htracked.trans (note tracked _)
  | some old => exact ((htracked.trans (discard tracked old.toList)).trans (note _ _)).trans (note _ _)

/-- A collaborator request that `next?` allows in state `s` leads from `s` to the state that `next?`
gives. -/
theorem ask {reply : Reply σ ε α} {effect : Except ε α → Effect κ} {result : Except ε α}
    (h : r.ask reply effect = (result, r')) (hnext : (effect result).next? s = some s') :
    Calls s s' r r' ([effect result].filter Effect.isDial) := by
  obtain rfl : reply.result = result := congrArg Prod.fst h
  obtain rfl : (r.ask reply effect).2 = r' := congrArg Prod.snd h
  have hasides : ∀ e ∈ (reply.asides.map .aside : Trace κ), e.isCall = false := by
    simp [Effect.isCall]
  have hdials : ∀ e ∈ (reply.asides.map .aside : Trace κ), ¬ e.isDial = true := by
    simp [Effect.isDial]
  refine ⟨rfl, reply.asides.map .aside ++ [effect reply.result], ?_, ?_, ?_⟩
  · exact List.append_assoc ..
  · rw [List.map_append]
    exact (Leads.of_no_call hasides s).trans (Leads.cons_iff.2 ⟨s', hnext, Leads.nil_iff.2 rfl⟩)
  · rw [Trace.dials, List.filter_append, List.filter_eq_nil_iff.2 hdials, List.nil_append]

/-- In `connect` there is one attempt in the disconnected state, and no token or connect request in
any other. -/
theorem connect (c : Collaborators σ) (r : Run σ κ) :
    ∃ dials, (if r.machine.state = .disconnected then OneAttempt dials else dials = []) ∧
      Calls r.machine.state (r.connect c).2.machine.state r (r.connect c).2 dials := by
  have houtcome := r.connects c
  generalize r.connect c = outcome at houtcome ⊢
  cases houtcome with
  | ignored hstate => exact ⟨[], by rw [if_neg hstate], note r _⟩
  | unsigned hstate htoken =>
    have hasked := ask (s := .disconnected) htoken rfl
    simp only [Run.ask_machine htoken, hstate, if_true]
    exact ⟨_, .inl ⟨_, rfl⟩, hasked⟩
  | refused hstate htoken hconnect =>
    have hasked := ask (s := .disconnected) htoken rfl
    have hdialled := ask (s := .disconnected) hconnect rfl
    simp only [Run.ask_machine hconnect, Run.ask_machine htoken, hstate, if_true]
    exact ⟨_, .inr ⟨_, _, rfl⟩, hasked.trans hdialled⟩
  | begun hstate htoken hconnect =>
    have hasked := ask (s := .disconnected) htoken rfl
    have hdialled := ask (s := .disconnected) hconnect rfl
    simp only [hstate, if_true]
    exact ⟨_, .inr ⟨_, _, rfl⟩, (hasked.trans hdialled).trans (enter _ .connecting)⟩

theorem disconnect (c : Collaborators σ) (r : Run σ κ) :
    Calls r.machine.state (r.disconnect c).2.machine.state r (r.disconnect c).2 [] := by
  have houtcome := r.disconnects c
  generalize r.disconnect c = outcome at houtcome ⊢
  cases houtcome with
  | ignored hstate => exact note r _
  | refused hstate hdisconnect =>
    simp only [Run.ask_machine hdisconnect]
    exact ask hdisconnect (if_pos hstate)
  | begun hstate hdisconnect => exact (ask hdisconnect (if_pos hstate)).trans (enter _ .disconnecting)

/-- On a connected machine `publishAll` asks for neither token nor connection and leaves the machine
connected. -/
theorem publishAll (c : Collaborators σ) (events : List (QueuedEvent κ)) (r : Run σ κ)
    (hstate : r.machine.state = .connected) :
    Calls .connected .connected r (Run.publishAll c events r).2 [] ∧
      (Run.publishAll c events r).2.machine.state = .connected := by
  have houtcome := Run.publishes c events r
  generalize Run.publishAll c events r = outcome at houtcome ⊢
  induction houtcome with
  | done r => exact ⟨refl _ r, hstate⟩
  | refused hpublish =>
    refine ⟨(ask hpublish rfl).trans (note _ _), ?_⟩
    rw [← hstate, ← Run.ask_machine hpublish]
    rfl
  | published hpublish hrest ih =>
    rename_i event rest r r₁ id last
    -- The event leaves the queue before it is tracked; neither is a call.
    let next : Run σ κ := { r₁ with machine := { r₁.machine with pending := rest } }
    have hnext : Calls .connected .connected r₁ next [] := of_no_call [] rfl (by simp [next]) (by simp)
    obtain ⟨hlast, hstays⟩ := ih (by simpa [Run.ask_machine hpublish] using hstate)
    exact ⟨(((ask hpublish rfl).trans hnext).trans (track next id event.callback)).trans hlast, hstays⟩

theorem drain (c : Collaborators σ) (r : Run σ κ) :
    Calls r.machine.state r.machine.state r (r.drain c).2 [] ∧
      (r.drain c).2.machine.state = r.machine.state := by
  unfold Run.drain
  split
  case isTrue hstate =>
    have hstate : r.machine.state = .connected := by
      simpa [ConnectionState.canPublish] using hstate
    rw [hstate]
    exact publishAll c _ r hstate
  case isFalse => exact ⟨refl _ r, rfl⟩

/-- In `send` there is one attempt if the machine is disconnected under policy `onSend`, and no token
or connect request otherwise. -/
theorem send (c : Collaborators σ) (payload : Bytes) (callback : Option κ) (r : Run σ κ) :
    ∃ dials,
      (if r.machine.state = .disconnected ∧ r.machine.policy = .onSend then OneAttempt dials
        else dials = []) ∧
      Calls r.machine.state (r.send c payload callback).2.machine.state r (r.send c payload callback).2
        dials := by
  have houtcome := r.sends c payload callback
  generalize r.send c payload callback = outcome at houtcome ⊢
  cases houtcome with
  | published hstate hpending hpublish =>
    refine ⟨[], by simp [hstate], ?_⟩
    simp only [Run.track_machine, Run.ask_machine hpublish, hstate]
    exact (ask hpublish rfl).trans (track _ _ callback)
  | refused hstate hpending hpublish =>
    have hafter : (Run.discard _ callback.toList).machine.state = .connected :=
      (congrArg Machine.state (Run.ask_machine hpublish)).trans hstate
    rw [hafter, hstate]
    exact ⟨[], by simp, (ask hpublish rfl).trans (discard _ callback.toList)⟩
  | behind hstate hpending hdrain =>
    obtain ⟨hdrained, hstays⟩ := drain c (r.enqueue payload callback)
    rw [hdrain] at hdrained hstays
    refine ⟨[], by simp [hstate], ?_⟩
    rw [hstays]
    exact (enqueue r payload callback).trans hdrained
  | dialled hstate hpolicy hconnect =>
    obtain ⟨dials, hattempt, hdialled⟩ := connect c r
    rw [hconnect] at hdialled
    rw [if_pos hstate] at hattempt
    refine ⟨dials, ?_, hdialled.trans_nil (enqueue _ payload callback)⟩
    rwa [if_pos ⟨hstate, hpolicy⟩]
  | undialled hstate hpolicy hconnect =>
    obtain ⟨dials, hattempt, hdialled⟩ := connect c r
    rw [hconnect] at hdialled
    rw [if_pos hstate] at hattempt
    refine ⟨dials, ?_, hdialled.trans_nil (discard _ callback.toList)⟩
    rwa [if_pos ⟨hstate, hpolicy⟩]
  | queued hstate =>
    refine ⟨[], ?_, enqueue r payload callback⟩
    rw [if_neg]
    rintro ⟨hdisconnected, hpolicy⟩
    simp [hdisconnected, hpolicy] at hstate
  | rejected hstate =>
    refine ⟨[], by simp [hstate], ?_⟩
    exact (note r _).trans (discard _ callback.toList)

theorem perform (c : Collaborators σ) (request : Request κ) (r : Run σ κ) :
    ∃ dials,
      (if r.machine.state = .disconnected ∧ request.dials r.machine.policy = true then OneAttempt dials
        else dials = []) ∧
      Calls r.machine.state (r.perform c request).2.machine.state r (r.perform c request).2 dials := by
  cases request with
  | connect => simpa [Request.dials, Run.perform] using connect c r
  | send payload callback => simpa [Request.dials, Run.perform] using send c payload callback r
  | disconnect => exact ⟨[], by simp [Request.dials], disconnect c r⟩

end Calls

/-- The milestone of a step that is a notification of an established or a lost connection. -/
def Moment.notice (x : Moment σ κ) : List (Milestone κ) :=
  match x.step with
  | .notify .connected => if x.before.state = .connecting then [.up] else []
  | .notify .disconnected => if x.before.state = .disconnected then [] else [.down]
  | _ => []

/-- The milestones of a moment: that of its notification first, then those of its effects. -/
def Moment.milestones (x : Moment σ κ) : List (Milestone κ) :=
  x.notice ++ x.effects.map .effect

/-- The milestones of all moments, in order. -/
def History.timeline (h : History σ κ) : List (Milestone κ) :=
  h.flatMap (·.milestones)

/-- The moment is a request for which a disconnected machine with this policy attempts a
connection. -/
def Moment.IsAttempt (policy : ConnectPolicy) (x : Moment σ κ) : Prop :=
  x.before.state = .disconnected ∧ ∃ request, x.step = .call request ∧ request.dials policy = true

namespace Calls

theorem lose (r : Run σ κ) : Calls .disconnected .disconnected r r.lose [] := by
  let emptied : Run σ κ :=
    { r.enter .disconnected with
      machine := { (r.enter .disconnected).machine with pending := [], inFlight := [] } }
  have hentered : Calls .disconnected .disconnected r (r.enter .disconnected) [] := enter r _
  have hemptied : Calls .disconnected .disconnected r emptied [] :=
    hentered.trans (of_no_call [] rfl (by simp [emptied]) (by simp))
  have hdiscarded := hemptied.trans (discard emptied r.machine.callbacks)
  unfold Run.lose
  dsimp only
  split
  · exact hdiscarded
  · exact hdiscarded.trans (note _ _)

theorem acknowledge (s : ConnectionState) (id : MessageId) (r : Run σ κ) :
    Calls s s r (r.acknowledge id) [] := by
  let erased : Run σ κ :=
    { r with machine := { r.machine with inFlight := r.machine.inFlight.erase id } }
  have herased : Calls s s r erased [] := of_no_call [] rfl (by simp [erased]) (by simp)
  exact herased.trans (note erased _)

theorem complete (s : ConnectionState) (r : Run σ κ) (callback : Option κ) :
    Calls s s r (r.complete callback) [] := by
  cases callback with
  | none => exact .refl s r
  | some hook => exact of_no_call [.complete hook] rfl rfl (by simp [Effect.isCall])

theorem releaseQueue (c : Collaborators σ) (r : Run σ κ) :
    Calls r.machine.state r.machine.state r (r.releaseQueue c) [] ∧
      (r.releaseQueue c).machine.state = r.machine.state := by
  obtain ⟨hdrained, hstays⟩ := drain c r
  unfold Run.releaseQueue
  split
  case h_1 r₁ hdrain =>
    rw [hdrain] at hdrained hstays
    exact ⟨hdrained, hstays⟩
  case h_2 e r₁ hdrain =>
    rw [hdrain] at hdrained hstays
    exact ⟨hdrained.trans (note r₁ _), hstays⟩

/-- Handling a notification makes no token or connect request, and its calls lead from the state that
the notification's own milestone gives to the final state. -/
theorem handle (c : Collaborators σ) (n : Notification) (m : Machine κ) (w : σ) :
    let r : Run σ κ := { machine := m, world := w }
    ∃ s, Leads m.state ((Step.notify n).moment c m w).1.notice s ∧
      Calls s (r.handle c n).machine.state r (r.handle c n) [] := by
  intro r
  cases n with
  | connected =>
    rw [Run.handle_connected]
    by_cases hstate : m.state = .connecting
    · rw [if_pos hstate]
      refine ⟨.connected, ?_, ?_⟩
      · rw [hstate]
        simp [Step.moment, Moment.notice, hstate, Leads, Milestone.next?]
      · let there := (r.enter .connected).report m.observers.connected (.status .connected)
        have hannounced : Calls .connected .connected r there [] :=
          (enter r .connected).trans (report _ _ _)
        have hthere : there.machine.state = .connected := by simp [there, Run.enter]
        obtain ⟨hreleased, hstays⟩ := releaseQueue c there
        rw [hthere] at hreleased hstays
        rw [hstays]
        exact hannounced.trans hreleased
    · rw [if_neg hstate]
      exact ⟨m.state, by simp [Step.moment, Moment.notice, hstate, Leads], note r _⟩
  | disconnected =>
    rw [Run.handle_disconnected]
    by_cases hstate : m.state = .disconnected
    · rw [if_pos hstate]
      exact ⟨m.state, by simp [Step.moment, Moment.notice, hstate, Leads], note r _⟩
    · rw [if_neg hstate]
      refine ⟨.disconnected, ?_, ?_⟩
      · simp [Step.moment, Moment.notice, hstate, Leads, Milestone.next?]
      · simp only [Run.report_machine, Run.lose_machine]
        exact ((lose r).trans (report _ _ _)).trans (report _ _ _)
  | published id =>
    rw [Run.handle_published]
    refine ⟨m.state, Leads.nil_iff.2 rfl, ?_⟩
    cases m.inFlight.find? id with
    | none => exact note r _
    | some callback =>
      simp only [Run.report_machine, Run.complete_machine, Run.acknowledge_machine]
      exact ((acknowledge m.state id r).trans (complete _ _ callback)).trans (report _ _ _)

end Calls

/-- A request without effect: it succeeds, the machine stays the same, and one remark is recorded. -/
structure Moment.Ignored (remark : Remark) (x : Moment σ κ) : Prop where
  result : x.result = .ok ()
  effects : x.effects = [.aside (.remark remark)]
  after : x.after = x.before

/-- The properties that every moment of a machine with the given policy has: its dials are those of
one attempt or none, its milestones lead from its first state to its last, and requests in the wrong
state are ignored. -/
structure Moment.Disciplined (policy : ConnectPolicy) (x : Moment σ κ) : Prop where
  policy_eq : x.after.policy = policy
  leads : Leads x.before.state x.milestones x.after.state
  attempt : x.IsAttempt policy → OneAttempt x.effects.dials
  no_attempt : ¬ x.IsAttempt policy → x.effects.dials = []
  connect_ignored : x.step = .call .connect → x.before.state ≠ .disconnected →
    x.Ignored (.connectIgnored x.before.state)
  disconnect_ignored : x.step = .call .disconnect → x.before.state.canStartDisconnect = false →
    x.Ignored (.disconnectIgnored x.before.state)

namespace Moment

/-- A moment without a request is disciplined if its milestones lead from its first state to its last
and it makes no token or connect request. -/
theorem Disciplined.of_no_request {x : Moment σ κ} {policy : ConnectPolicy}
    (hstep : ∀ request, x.step ≠ .call request) (hpolicy : x.after.policy = policy)
    (hleads : Leads x.before.state x.milestones x.after.state) (hdials : x.effects.dials = []) :
    x.Disciplined policy where
  policy_eq := hpolicy
  leads := hleads
  attempt := fun ⟨_, request, h, _⟩ => absurd h (hstep request)
  no_attempt _ := hdials
  connect_ignored h := absurd h (hstep _)
  disconnect_ignored h := absurd h (hstep _)

theorem disciplined (c : Collaborators σ) (s : Step σ κ) (m : Machine κ) (w : σ) :
    (s.moment c m w).1.Disciplined m.policy := by
  let r : Run σ κ := { machine := m, world := w }
  cases s with
  | call request =>
    obtain ⟨dials, hdials, hcalls⟩ := Calls.perform c request r
    obtain ⟨new, heffects, hleads, rfl⟩ := hcalls.effects
    have hnew : (r.perform c request).2.effects = new := heffects
    have hattempt : ((Step.call request).moment c m w).1.IsAttempt m.policy ↔
        m.state = .disconnected ∧ request.dials m.policy = true := by
      simp [IsAttempt, Step.moment]
    rw [← hnew] at hleads hdials
    refine ⟨hcalls.policy, hleads, fun h => ?_, fun h => ?_, fun h hstate => ?_, fun h hstate => ?_⟩
    · rwa [if_pos (hattempt.1 h)] at hdials
    · rwa [if_neg (hattempt.not.1 h)] at hdials
    · obtain rfl := Step.call.inj h
      have hstate : r.machine.state ≠ .disconnected := hstate
      have hignored : r.connect c = (.ok (), r.note (.connectIgnored m.state)) :=
        if_neg (by simpa [ConnectionState.canStartConnect] using hstate)
      exact ⟨congrArg Prod.fst hignored, congrArg (·.2.effects) hignored,
        congrArg (·.2.machine) hignored⟩
    · obtain rfl := Step.call.inj h
      have hstate : r.machine.state.canStartDisconnect = false := hstate
      have hignored : r.disconnect c = (.ok (), r.note (.disconnectIgnored m.state)) :=
        if_neg (by simpa using hstate)
      exact ⟨congrArg Prod.fst hignored, congrArg (·.2.effects) hignored,
        congrArg (·.2.machine) hignored⟩
  | notify n =>
    obtain ⟨s, hnotice, hcalls⟩ := Calls.handle c n m w
    obtain ⟨new, heffects, hleads, hdials⟩ := hcalls.effects
    have hnew : (r.handle c n).effects = new := heffects
    rw [← hnew] at hleads hdials
    exact .of_no_request (fun _ h => by cases h) hcalls.policy (hnotice.trans hleads) hdials
  | observe observers => exact .of_no_request (fun _ h => by cases h) rfl (Leads.nil_iff.2 rfl) rfl
  | drift change => exact .of_no_request (fun _ h => by cases h) rfl (Leads.nil_iff.2 rfl) rfl

end Moment

/-- All moments of a run are disciplined, and the timeline leads from the first state to the last. -/
theorem live_disciplined (c : Collaborators σ) (steps : List (Step σ κ)) (m : Machine κ) (w : σ) :
    (∀ x ∈ (live c steps m w).moments, x.Disciplined m.policy) ∧
      Leads m.state (live c steps m w).moments.timeline (live c steps m w).machine.state := by
  induction steps generalizing m w with
  | nil => exact ⟨by simp [live], Leads.nil_iff.2 rfl⟩
  | cons s rest ih =>
    have hfirst := Moment.disciplined c s m w
    obtain ⟨hrest, hleads⟩ := ih (s.moment c m w).1.after (s.moment c m w).2
    rw [hfirst.policy_eq] at hrest
    exact ⟨List.forall_mem_cons.2 ⟨hfirst, hrest⟩, hfirst.leads.trans hleads⟩

/-- For every run of a machine: a moment has the dials of exactly one attempt if it attempts a
connection, and none otherwise; between two accepted connect requests the connection is lost; each
publish request follows an established connection that was neither lost nor asked to end since; each
disconnect request follows an accepted connect request whose connection was not lost since, and
between two accepted disconnect requests the connection is lost; a connect or disconnect request in a
state that does not allow it succeeds with one remark and no other effect. -/
theorem calls_in_order (c : Collaborators σ) (deviceId : String) (policy : ConnectPolicy)
    (observers : Observers κ) (steps : List (Step σ κ)) (world : σ) :
    let moments := (live c steps (.fresh deviceId policy observers) world).moments
    (∀ x ∈ moments, (x.IsAttempt policy → OneAttempt x.effects.dials) ∧
      (¬ x.IsAttempt policy → x.effects.dials = [])) ∧
    (∀ front token mid token' back,
      moments.timeline = front ++ .dialled token :: (mid ++ .dialled token' :: back) →
        .down ∈ mid) ∧
    (∀ front topic payload result back,
      moments.timeline = front ++ .effect (.publish topic payload result) :: back →
        ∃ before since, front = before ++ .up :: since ∧ .down ∉ since ∧ .hungUp ∉ since) ∧
    ((∀ front result back, moments.timeline = front ++ .effect (.disconnect result) :: back →
        ∃ before token since, front = before ++ .dialled token :: since ∧ .down ∉ since) ∧
      ∀ front mid back, moments.timeline = front ++ .hungUp :: (mid ++ .hungUp :: back) →
        .down ∈ mid) ∧
    ∀ x ∈ moments,
      (x.step = .call .connect → x.before.state ≠ .disconnected →
        x.Ignored (.connectIgnored x.before.state)) ∧
      (x.step = .call .disconnect → x.before.state.canStartDisconnect = false →
        x.Ignored (.disconnectIgnored x.before.state)) := by
  intro moments
  obtain ⟨hmoments, hleads⟩ := live_disciplined c steps (.fresh deviceId policy observers) world
  refine ⟨fun x hx => ⟨(hmoments x hx).attempt, (hmoments x hx).no_attempt⟩, ?_, ?_, ⟨?_, ?_⟩,
    fun x hx => ⟨(hmoments x hx).connect_ignored, (hmoments x hx).disconnect_ignored⟩⟩
  · intro front token mid token' back htimeline
    exact (htimeline ▸ hleads).down_between_dialled
  · intro front topic payload result back htimeline
    exact (htimeline ▸ hleads).up_before_publish
  · intro front result back htimeline
    exact (htimeline ▸ hleads).dialled_before_disconnect
  · intro front mid back htimeline
    exact (htimeline ▸ hleads).down_between_hungUp

end HubLink.Transport
