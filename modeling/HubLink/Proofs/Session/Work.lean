import HubLink.Proofs.Session.Tracking
import HubLink.Transport.Task

namespace HubLink.Session

open Mqtt Transport

variable {L κ ε α : Type}

/-- Whether an effect is neither a raised notification nor a connect request. -/
def isSilent : Effect κ → Bool
  | .connect _ _ | .aside (.raise _) => false
  | _ => true

/-- The effects from `r` to `r'` record exactly the notifications raised, and contain a connect
request only if `mayConnect`. -/
def Records (mayConnect : Prop) (r r' : Run (Exchange L) κ) : Prop :=
  ∃ new : Trace κ, r'.effects = r.effects ++ new ∧
    r'.world.raised.map (·.2) = r.world.raised.map (·.2) ++ new.raised ∧
    ∀ token result, .connect token result ∈ new → mayConnect

namespace Records

variable {P : Prop} {r r' r'' : Run (Exchange L) κ}

theorem trans (h : Records P r r') (h' : Records P r' r'') : Records P r r'' := by
  obtain ⟨new, heffects, hraised, hconnects⟩ := h
  obtain ⟨new', heffects', hraised', hconnects'⟩ := h'
  refine ⟨new ++ new', ?_, ?_, fun token result he => ?_⟩
  · rw [heffects', heffects, List.append_assoc]
  · rw [hraised', hraised, Trace.raised_append, List.append_assoc]
  · exact (List.mem_append.1 he).elim (hconnects token result) (hconnects' token result)

theorem of_silent (new : Trace κ) (hworld : r'.world = r.world)
    (heffects : r'.effects = r.effects ++ new) (hnew : ∀ e ∈ new, isSilent e = true) :
    Records P r r' := by
  have hraised : new.raised = [] := by
    refine List.filterMap_eq_nil_iff.2 fun e he => ?_
    have hsilent := hnew e he
    unfold isSilent at hsilent
    split at hsilent <;> simp_all
  refine ⟨new, heffects, by simp [hworld, hraised], fun token result he => ?_⟩
  cases hnew _ he

theorem refl (r : Run (Exchange L) κ) : Records P r r :=
  of_silent [] rfl (by simp) (by simp)

theorem note (r : Run (Exchange L) κ) (remark : Remark) : Records P r (r.note remark) :=
  of_silent [.aside (.remark remark)] rfl rfl (by simp [isSilent])

theorem report (r : Run (Exchange L) κ) (observer : Option κ) (report : Report) :
    Records P r (r.report observer report) := by
  cases observer with
  | none => exact refl r
  | some hook => exact of_silent [.report hook report] rfl rfl (by simp [isSilent])

theorem discard (r : Run (Exchange L) κ) (callbacks : List κ) : Records P r (r.discard callbacks) :=
  of_silent (callbacks.map .discard) rfl rfl (by simp [isSilent])

theorem track (r : Run (Exchange L) κ) (id : MessageId) (callback : Option κ) :
    Records P r (r.track id callback) := by
  unfold Run.track
  cases r.machine.inFlight.find? id with
  | none => exact note _ _
  | some old => exact ((discard _ old.toList).trans (note _ _)).trans (note _ _)

theorem enter (r : Run (Exchange L) κ) (next : ConnectionState) : Records P r (r.enter next) :=
  of_silent [_] rfl rfl (by simp [isSilent])

/-- A request recorded with its side effects satisfies `Records`. -/
theorem ask (r : Run (Exchange L) κ) {reply : Reply (Exchange L) ε α}
    {effect : Except ε α → Effect κ} (htells : r.world.Tells reply)
    (hraise : ∀ n, effect reply.result ≠ .aside (.raise n))
    (hconnect : ∀ token result, effect reply.result = .connect token result → P) :
    Records P r (r.ask reply effect).2 := by
  refine ⟨reply.asides.map .aside ++ [effect reply.result], ?_, ?_, fun token result he => ?_⟩
  · exact List.append_assoc ..
  · have hquestion : Trace.raised [effect reply.result] = [] := by
      refine List.filterMap_eq_nil_iff.2 fun e he => ?_
      rw [List.mem_singleton.1 he]
      split
      case h_1 n heffect => exact absurd heffect (hraise n)
      case h_2 => rfl
    rw [Trace.raised_append, hquestion, List.append_nil, Trace.raised_map_aside]
    exact htells
  · obtain he | he := List.mem_append.1 he
    · simp at he
    · exact hconnect token result (List.mem_singleton.1 he).symm

end Records

/-- The exchange fits the machine of the run. -/
def Sound (handled : Nat) (r : Run (Exchange L) κ) : Prop :=
  Fits handled r.machine.state r.machine.inFlight.ids r.world

/-- From `r` to `r'` the exchange fits the machine again, and `Records` holds. -/
structure Works (handled : Nat) (mayConnect : Prop) (r r' : Run (Exchange L) κ) : Prop where
  sound : Sound handled r'
  records : Records mayConnect r r'

namespace Works

variable {handled : Nat} {P : Prop} {r r' r'' : Run (Exchange L) κ}

theorem trans (h : Works handled P r r') (h' : Works handled P r' r'') : Works handled P r r'' :=
  ⟨h'.sound, h.records.trans h'.records⟩

theorem refl (h : Sound handled r) : Works handled P r r :=
  ⟨h, .refl r⟩

theorem note (h : Sound handled r) (remark : Remark) : Works handled P r (r.note remark) :=
  ⟨h, .note r remark⟩

theorem discard (h : Sound handled r) (callbacks : List κ) :
    Works handled P r (r.discard callbacks) :=
  ⟨h, .discard r callbacks⟩

theorem report (h : Sound handled r) (observer : Option κ) (report : Report) :
    Works handled P r (r.report observer report) := by
  refine ⟨?_, .report r observer report⟩
  cases observer <;> exact h

theorem complete (h : Sound handled r) (callback : Option κ) :
    Works handled P r (r.complete callback) := by
  cases callback with
  | none => exact .refl h
  | some hook => exact ⟨h, .of_silent [.complete hook] rfl rfl (by simp [isSilent])⟩

theorem enqueue (h : Sound handled r) (payload : Bytes) (callback : Option κ) :
    Works handled P r (r.enqueue payload callback) :=
  ⟨h, .of_silent [_] rfl rfl (by simp [isSilent])⟩

variable (network : Network L)

/-- A token request of a sound run works. -/
theorem ask_token (h : Sound handled r) :
    Works handled P r (r.ask ((Exchange.collaborators network).token r.world) .token).2 :=
  ⟨(h.drift _).token _, .ask r (Exchange.tells_token _ _) (by simp) (by simp)⟩

/-- A connect request in the disconnected state works. -/
theorem ask_connect (h : Sound handled r) (hstate : r.machine.state = .disconnected) (hP : P)
    (token : String) :
    let asked := r.ask ((Exchange.collaborators network).connect token r.world) (.connect token)
    match asked.1 with
    | .ok () => Works handled P r (asked.2.enter .connecting)
    | .error e => e ≠ .notConnected ∧ Works handled P r asked.2 := by
  intro asked
  have hrecords : Records P r asked.2 :=
    .ask r (Exchange.tells_connect _ _) (by simp) fun _ _ _ => hP
  have hsound : Fits handled .disconnected r.machine.inFlight.ids r.world := hstate ▸ h
  obtain ⟨hfits, hresult⟩ : Fits handled
      (if asked.1.isOk then .connecting else .disconnected) r.machine.inFlight.ids asked.2.world ∧
        asked.1 ≠ .error .notConnected := (hsound.drift _).connect _
  have hmachine : asked.2.machine = r.machine := rfl
  cases hasked : asked.1 with
  | error e =>
    rw [hasked] at hfits hresult
    refine ⟨fun he => hresult (congrArg _ he), ?_, hrecords⟩
    rw [Sound, hmachine, hstate]
    exact hfits
  | ok =>
    rw [hasked] at hfits
    exact ⟨hfits, hrecords.trans (.enter _ _)⟩

/-- A publish request in the connected state works. -/
theorem ask_publish (h : Sound handled r) (hstate : r.machine.state = .connected)
    (payload : Bytes) (callback : Option κ) :
    let asked := r.ask ((Exchange.collaborators network).publish r.machine.topic payload r.world)
      (.publish r.machine.topic payload)
    match asked.1 with
    | .ok id => ∀ pending, Works handled P r
        (({ asked.2 with machine := { r.machine with pending } } : Run _ _).track id callback)
    | .error e => e ≠ .notConnected ∧ Works handled P r asked.2 := by
  intro asked
  have hrecords : Records P r asked.2 := .ask r (Exchange.tells_publish _ _) (by simp) (by simp)
  have hsound : Fits handled .connected r.machine.inFlight.ids r.world := hstate ▸ h
  have hmachine : asked.2.machine = r.machine := rfl
  obtain ⟨id, hresult, hfits⟩ | ⟨e, hresult, he, hfits⟩ :
      (∃ id, asked.1 = .ok id ∧
        Fits handled .connected (id :: r.machine.inFlight.ids) asked.2.world) ∨
      ∃ e, asked.1 = .error e ∧ e ≠ .notConnected ∧
        Fits handled .connected r.machine.inFlight.ids asked.2.world := (hsound.drift _).publish _
  · rw [hresult]
    intro pending
    refine ⟨?_, Records.trans hrecords (.track _ _ _)⟩
    simp only [Sound, Run.track_machine, Run.track_world, hstate]
    exact hfits.congr fun id' => by rw [InFlight.mem_ids_insert, List.mem_cons]
  · rw [hresult]
    refine ⟨he, ?_, hrecords⟩
    rw [Sound, hmachine, hstate]
    exact hfits

/-- A disconnect request in the connecting or connected state works. -/
theorem ask_disconnect (h : Sound handled r)
    (hstate : r.machine.state = .connecting ∨ r.machine.state = .connected) :
    let asked := r.ask ((Exchange.collaborators network).disconnect r.world) .disconnect
    match asked.1 with
    | .ok () => Works handled P r (asked.2.enter .disconnecting)
    | .error e => e ≠ .notConnected ∧ Works handled P r asked.2 := by
  intro asked
  have hrecords : Records P r asked.2 := .ask r (Exchange.tells_disconnect _ _) (by simp) (by simp)
  obtain ⟨hfits, hresult⟩ : Fits handled
      (if asked.1.isOk then .disconnecting else r.machine.state) r.machine.inFlight.ids
        asked.2.world ∧ asked.1 ≠ .error .notConnected := (h.drift _).disconnect hstate _
  cases hasked : asked.1 with
  | error e =>
    rw [hasked] at hfits hresult
    exact ⟨fun he => hresult (congrArg _ he), hfits, hrecords⟩
  | ok =>
    rw [hasked] at hfits
    exact ⟨hfits, hrecords.trans (.enter _ _)⟩

/-- The operation `connect` makes a connect request only in the disconnected state. -/
theorem connect (h : Sound handled r) :
    Works handled (r.machine.state = .disconnected) r
        (r.connect (Exchange.collaborators network)).2 ∧
      (r.connect (Exchange.collaborators network)).1 ≠ .error (.provider .notConnected) := by
  unfold Run.connect
  split
  case isFalse => exact ⟨note h _, by simp⟩
  case isTrue hstart =>
    have hstate : r.machine.state = .disconnected := by
      simpa [ConnectionState.canStartConnect] using hstart
    have htoken : Works handled (r.machine.state = .disconnected) r _ := ask_token network h
    have hmachine : (r.ask ((Exchange.collaborators network).token r.world) .token).2.machine =
        r.machine := rfl
    generalize r.ask ((Exchange.collaborators network).token r.world) .token = asked
      at htoken hmachine ⊢
    obtain ⟨result, r₁⟩ := asked
    cases result with
    | error e => exact ⟨htoken, by simp⟩
    | ok token =>
      have hconnect := ask_connect network htoken.sound (hmachine ▸ hstate) hstate token
      simp only at hconnect ⊢
      generalize r₁.ask ((Exchange.collaborators network).connect token r₁.world)
        (.connect token) = asked at hconnect ⊢
      obtain ⟨result, r₂⟩ := asked
      cases result with
      | error e => exact ⟨htoken.trans hconnect.2, by simpa using hconnect.1⟩
      | ok => exact ⟨htoken.trans hconnect, by simp⟩

/-- The operation `disconnect` works. -/
theorem disconnect (h : Sound handled r) :
    Works handled P r (r.disconnect (Exchange.collaborators network)).2 ∧
      (r.disconnect (Exchange.collaborators network)).1 ≠ .error (.provider .notConnected) := by
  unfold Run.disconnect
  split
  case isFalse => exact ⟨note h _, by simp⟩
  case isTrue hstart =>
    have hstate : r.machine.state = .connecting ∨ r.machine.state = .connected := by
      simpa [ConnectionState.canStartDisconnect] using hstart
    have hdisconnect := ask_disconnect (P := P) network h hstate
    simp only at hdisconnect
    generalize r.ask ((Exchange.collaborators network).disconnect r.world) .disconnect = asked
      at hdisconnect ⊢
    obtain ⟨result, r₁⟩ := asked
    cases result with
    | error e => exact ⟨hdisconnect.2, by simpa using hdisconnect.1⟩
    | ok => exact ⟨hdisconnect, by simp⟩

/-- Publishing the queue in the connected state works. -/
theorem publishAll (events : List (QueuedEvent κ)) (h : Sound handled r)
    (hstate : r.machine.state = .connected) :
    Works handled P r (Run.publishAll (Exchange.collaborators network) events r).2 ∧
      (Run.publishAll (Exchange.collaborators network) events r).1 ≠ .error .notConnected := by
  induction events generalizing r with
  | nil => exact ⟨refl h, by simp [Run.publishAll]⟩
  | cons event rest ih =>
    have hpublish := ask_publish (P := P) network h hstate event.payload event.callback
    have hmachine : (r.ask ((Exchange.collaborators network).publish r.machine.topic event.payload
        r.world) (.publish r.machine.topic event.payload)).2.machine = r.machine := rfl
    unfold Run.publishAll
    simp only at hpublish ⊢
    generalize r.ask ((Exchange.collaborators network).publish r.machine.topic event.payload r.world)
      (.publish r.machine.topic event.payload) = asked at hpublish hmachine ⊢
    obtain ⟨result, r₁⟩ := asked
    simp only at hmachine
    cases result with
    | error e => exact ⟨hpublish.2.trans (note hpublish.2.sound _), by simpa using hpublish.1⟩
    | ok id =>
      have hfirst := hpublish rest
      rw [← hmachine] at hfirst
      obtain ⟨hrest, hresult⟩ := ih hfirst.sound (by simpa [hmachine] using hstate)
      exact ⟨hfirst.trans hrest, hresult⟩

theorem drain (h : Sound handled r) :
    Works handled P r (r.drain (Exchange.collaborators network)).2 ∧
      (r.drain (Exchange.collaborators network)).1 ≠ .error .notConnected := by
  unfold Run.drain
  split
  case isTrue hstate =>
    exact publishAll network _ h (by simpa [ConnectionState.canPublish] using hstate)
  case isFalse => exact ⟨refl h, by simp⟩

/-- A `send` that publishes at once works. -/
theorem sendAtOnce (payload : Bytes) (callback : Option κ) (h : Sound handled r)
    (hstate : r.machine.state = .connected) (hpending : r.machine.pending = []) :
    Works handled P r (r.send (Exchange.collaborators network) payload callback).2 ∧
      (r.send (Exchange.collaborators network) payload callback).1 ≠
        .error (.provider .notConnected) := by
  have hpublish := ask_publish (P := P) network h hstate payload callback
  have hmachine : (r.ask ((Exchange.collaborators network).publish r.machine.topic payload r.world)
      (.publish r.machine.topic payload)).2.machine = r.machine := rfl
  simp only at hpublish
  simp only [Run.send, hstate, hpending, List.isEmpty_nil, if_true]
  generalize r.ask ((Exchange.collaborators network).publish r.machine.topic payload r.world)
    (.publish r.machine.topic payload) = asked at hpublish hmachine ⊢
  obtain ⟨result, r₁⟩ := asked
  simp only at hmachine
  cases result with
  | error e => exact ⟨hpublish.2.trans (discard hpublish.2.sound _), by simpa using hpublish.1⟩
  | ok id =>
    have hdone := hpublish r.machine.pending
    rw [← hmachine] at hdone
    exact ⟨hdone, by simp⟩

/-- Any `send` works, with a connect request only in the disconnected state. -/
theorem send (payload : Bytes) (callback : Option κ) (h : Sound handled r) :
    Works handled (r.machine.state = .disconnected) r
        (r.send (Exchange.collaborators network) payload callback).2 ∧
      (r.send (Exchange.collaborators network) payload callback).1 ≠
        .error (.provider .notConnected) := by
  cases hstate : r.machine.state with
  | connected =>
    by_cases hpending : r.machine.pending = []
    · exact sendAtOnce network payload callback h hstate hpending
    · -- Behind a queue the event waits for its turn, and the queue is published first.
      have henqueue := enqueue (P := ConnectionState.connected = .disconnected) h payload callback
      obtain ⟨hdrain, hresult⟩ := drain (P := ConnectionState.connected = .disconnected) network
        henqueue.sound
      simp only [Run.send, hstate, List.isEmpty_iff, hpending, if_false]
      generalize (r.enqueue payload callback).drain (Exchange.collaborators network) = drained
        at hdrain hresult ⊢
      obtain ⟨result, r₁⟩ := drained
      cases result with
      | error e => exact ⟨henqueue.trans hdrain, by simpa using hresult⟩
      | ok => exact ⟨henqueue.trans hdrain, by simp⟩
  | disconnected =>
    cases hpolicy : r.machine.policy with
    | never =>
      simp only [Run.send, hstate, hpolicy]
      exact ⟨enqueue h payload callback, by simp⟩
    | onSend =>
      obtain ⟨hconnect, hresult⟩ := connect network h
      simp only [hstate] at hconnect
      simp only [Run.send, hstate, hpolicy]
      generalize r.connect (Exchange.collaborators network) = connected at hconnect hresult ⊢
      obtain ⟨result, r₁⟩ := connected
      cases result with
      | error e => exact ⟨hconnect.trans (discard hconnect.sound _), hresult⟩
      | ok => exact ⟨hconnect.trans (enqueue hconnect.sound payload callback), by simp⟩
  | connecting =>
    simp only [Run.send, hstate]
    exact ⟨enqueue h payload callback, by simp⟩
  | disconnecting =>
    have hnote := note (P := ConnectionState.disconnecting = .disconnected) h
      (.rejected r.machine.topic)
    simp only [Run.send, hstate]
    exact ⟨hnote.trans (discard hnote.sound _), by simp⟩

/-- Any request works, with a connect request only in the disconnected state. -/
theorem perform (request : Request κ) (h : Sound handled r) :
    Works handled (r.machine.state = .disconnected) r
        (r.perform (Exchange.collaborators network) request).2 ∧
      (r.perform (Exchange.collaborators network) request).1 ≠
        .error (.provider .notConnected) := by
  cases request with
  | connect => exact connect network h
  | send payload callback => exact send network payload callback h
  | disconnect => exact disconnect network h

theorem releaseQueue (h : Sound handled r) :
    Works handled P r (r.releaseQueue (Exchange.collaborators network)) := by
  obtain ⟨hdrain, -⟩ := drain (P := P) network h
  unfold Run.releaseQueue
  generalize r.drain (Exchange.collaborators network) = drained at hdrain ⊢
  obtain ⟨result, r₁⟩ := drained
  cases result with
  | error e => exact hdrain.trans (note hdrain.sound _)
  | ok => exact hdrain

/-- Losing the connection handles `disconnected`. -/
theorem lose (h : Sound handled r) {rest : List Notification}
    (hnext : r.world.unhandled handled = .disconnected :: rest) :
    Works (handled + 1) P r r.lose := by
  obtain ⟨-, hfits⟩ := h.handle_end hnext
  let entered : Run (Exchange L) κ :=
    { r.enter .disconnected with
      machine := { (r.enter .disconnected).machine with pending := [], inFlight := [] } }
  have hentered : Works (handled + 1) P r entered :=
    ⟨hfits, .of_silent [_] rfl rfl (by simp [isSilent])⟩
  have hdiscarded := hentered.trans (discard hentered.sound r.machine.callbacks)
  simp only [Run.lose]
  split
  case isTrue => exact hdiscarded
  case isFalse => exact hdiscarded.trans (note hdiscarded.sound _)

/-- Acknowledging a message handles its `published`. -/
theorem acknowledge (h : Sound handled r) {id : MessageId} {rest : List Notification}
    (hnext : r.world.unhandled handled = .published id :: rest) :
    Works (handled + 1) P r (r.acknowledge id) := by
  obtain ⟨-, hfits⟩ := h.handle_published hnext
  rw [← InFlight.ids_erase] at hfits
  exact ⟨hfits, .of_silent [_] rfl rfl (by simp [isSilent])⟩

/-- If the first stage handles the notification and every later stage works, taking stages up to a
failing hook works. -/
theorem takeStages (fails : Effect κ → Option String) {first : Stage (Exchange L) κ}
    {rest : List (Stage (Exchange L) κ)} (hfirst : Works handled P r (first.take r))
    (hrest : ∀ stage ∈ rest, ∀ r, Sound handled r → Works handled P r (stage.take r)) :
    Works handled P r (Task.takeStages fails (first :: rest) r) := by
  induction rest generalizing r first with
  | nil => simpa [Task.takeStages] using hfirst
  | cons second rest ih =>
    rw [Task.takeStages]
    split
    case isTrue => exact hfirst
    case isFalse =>
      have hsecond := hrest second List.mem_cons_self _ hfirst.sound
      exact hfirst.trans (ih hsecond fun stage hstage => hrest stage (List.mem_cons_of_mem _ hstage))

/-- Handling any notification works, up to a failing hook, and makes no connect request. -/
theorem notified (fails : Effect κ → Option String) (h : Sound handled r) {n : Notification}
    {rest : List Notification} (hnext : r.world.unhandled handled = n :: rest) :
    Works (handled + 1) P r
      (Task.takeStages fails (Run.stages (Exchange.collaborators network) n r.machine) r) := by
  cases n with
  | connected =>
    simp only [Run.stages]
    split
    case isTrue hstate =>
      have hentered : Works (handled + 1) P r (r.enter .connected) :=
        ⟨h.handle_connected hnext (.inr ⟨hstate, rfl⟩), .enter r .connected⟩
      refine takeStages fails hentered
        (List.forall_mem_cons.2 ⟨fun _ hsound => report hsound _ _, ?_⟩)
      exact List.forall_mem_singleton.2 fun _ hsound => releaseQueue network hsound
    case isFalse =>
      have hsound : Sound (handled + 1) r := h.handle_connected hnext (.inl rfl)
      exact takeStages fails (note hsound _) (by simp)
  | disconnected =>
    obtain ⟨hopen, -⟩ := h.handle_end hnext
    simp only [Run.stages, if_neg hopen]
    refine takeStages fails (lose h hnext)
      (List.forall_mem_cons.2 ⟨fun _ hsound => report hsound _ _, ?_⟩)
    exact List.forall_mem_singleton.2 fun _ hsound => report hsound _ _
  | published id =>
    cases hfind : r.machine.inFlight.find? id with
    | some callback =>
      simp only [Run.stages, hfind]
      refine takeStages fails (acknowledge h hnext)
        (List.forall_mem_cons.2 ⟨fun _ hsound => complete hsound _, ?_⟩)
      exact List.forall_mem_singleton.2 fun _ hsound => report hsound _ _
    | none =>
      obtain ⟨-, hsound⟩ := h.handle_published hnext
      rw [← InFlight.ids_erase, InFlight.erase_of_find?_eq_none hfind] at hsound
      simp only [Run.stages, hfind]
      exact takeStages fails (note hsound _) (by simp)

end Works
end HubLink.Session
