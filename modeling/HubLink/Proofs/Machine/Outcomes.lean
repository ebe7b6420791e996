import HubLink.Transport.Trace

namespace HubLink.Transport

variable {σ κ ε α : Type}

namespace Run

/-- A collaborator's answer leaves the machine unchanged. -/
theorem ask_machine {r r' : Run σ κ} {reply : Reply σ ε α} {effect : Except ε α → Effect κ}
    {result : Except ε α} (h : r.ask reply effect = (result, r')) : r'.machine = r.machine := by
  obtain rfl : (r.ask reply effect).2 = r' := congrArg Prod.snd h
  rfl

/-- A report to an observer leaves the machine unchanged. -/
@[simp] theorem report_machine (r : Run σ κ) (observer : Option κ) (report : Report) :
    (r.report observer report).machine = r.machine := by
  cases observer <;> rfl

/-- The call of a callback leaves the machine unchanged. -/
@[simp] theorem complete_machine (r : Run σ κ) (callback : Option κ) :
    (r.complete callback).machine = r.machine := by
  cases callback <;> rfl

@[simp] theorem acknowledge_machine (id : MessageId) (r : Run σ κ) :
    (r.acknowledge id).machine =
      { r.machine with inFlight := r.machine.inFlight.erase id } :=
  rfl

/-- A lost connection leaves the queue and the map of messages in flight empty. -/
@[simp] theorem lose_machine (r : Run σ κ) :
    r.lose.machine = { r.machine with state := .disconnected, pending := [], inFlight := [] } := by
  unfold lose
  dsimp only
  split <;> rfl

theorem report_effects (r : Run σ κ) (observer : Option κ) (report : Report) :
    (r.report observer report).effects =
      r.effects ++ observer.toList.map (.report · report) := by
  cases observer with
  | none => exact (List.append_nil _).symm
  | some hook => rfl

theorem complete_effects (r : Run σ κ) (callback : Option κ) :
    (r.complete callback).effects = r.effects ++ callback.toList.map .complete := by
  cases callback with
  | none => exact (List.append_nil _).symm
  | some hook => rfl

/-- A lost connection leaves a remark on the transition, then the dropped callbacks, then a remark
with the numbers of lost events unless both are 0. -/
theorem lose_effects (r : Run σ κ) :
    r.lose.effects = r.effects ++
      (.aside (.remark (.transition r.machine.deviceId r.machine.state .disconnected)) ::
        r.machine.callbacks.map .discard ++
        if r.machine.load = 0 then []
        else [.aside (.remark
          (.abandoned r.machine.inFlight.length r.machine.pending.length))]) := by
  unfold lose
  dsimp only
  split <;> simp [enter, note, emit, discard]

/-- The outcomes of `connect`: ignored, refused by the token provider, refused by the network, or
begun. Each has the answers that lead to it and the run that it leaves. -/
inductive Connects (c : Collaborators σ) (r : Run σ κ) :
    Except TransportError Unit × Run σ κ → Prop
  | ignored (hstate : r.machine.state ≠ .disconnected) :
    Connects c r (.ok (), r.note (.connectIgnored r.machine.state))
  | unsigned (hstate : r.machine.state = .disconnected) {e : Credential.Error} {r₁ : Run σ κ}
      (htoken : r.ask (c.token r.world) .token = (.error e, r₁)) :
    Connects c r (.error (.auth e), r₁)
  | refused (hstate : r.machine.state = .disconnected) {token : String} {r₁ : Run σ κ}
      (htoken : r.ask (c.token r.world) .token = (.ok token, r₁)) {e : ProviderError} {r₂ : Run σ κ}
      (hconnect : r₁.ask (c.connect token r₁.world) (.connect token) = (.error e, r₂)) :
    Connects c r (.error (.provider e), r₂)
  | begun (hstate : r.machine.state = .disconnected) {token : String} {r₁ : Run σ κ}
      (htoken : r.ask (c.token r.world) .token = (.ok token, r₁)) {r₂ : Run σ κ}
      (hconnect : r₁.ask (c.connect token r₁.world) (.connect token) = (.ok (), r₂)) :
    Connects c r (.ok (), r₂.enter .connecting)

theorem connects (c : Collaborators σ) (r : Run σ κ) : r.Connects c (r.connect c) := by
  unfold connect
  split
  case isFalse hstate =>
    exact .ignored (by simpa [ConnectionState.canStartConnect] using hstate)
  case isTrue hstate =>
    replace hstate : r.machine.state = .disconnected := by
      simpa [ConnectionState.canStartConnect] using hstate
    split
    case h_1 e r₁ htoken => exact .unsigned hstate htoken
    case h_2 token r₁ htoken =>
      split
      case h_1 e r₂ hconnect => exact .refused hstate htoken hconnect
      case h_2 r₂ hconnect => exact .begun hstate htoken hconnect

/-- The outcomes of `disconnect`: ignored, refused, or begun. -/
inductive Disconnects (c : Collaborators σ) (r : Run σ κ) :
    Except TransportError Unit × Run σ κ → Prop
  | ignored (hstate : r.machine.state.canStartDisconnect = false) :
    Disconnects c r (.ok (), r.note (.disconnectIgnored r.machine.state))
  | refused (hstate : r.machine.state.canStartDisconnect = true) {e : ProviderError} {r₁ : Run σ κ}
      (hdisconnect : r.ask (c.disconnect r.world) .disconnect = (.error e, r₁)) :
    Disconnects c r (.error (.provider e), r₁)
  | begun (hstate : r.machine.state.canStartDisconnect = true) {r₁ : Run σ κ}
      (hdisconnect : r.ask (c.disconnect r.world) .disconnect = (.ok (), r₁)) :
    Disconnects c r (.ok (), r₁.enter .disconnecting)

theorem disconnects (c : Collaborators σ) (r : Run σ κ) : r.Disconnects c (r.disconnect c) := by
  unfold disconnect
  split
  case isFalse hstate => exact .ignored (by simpa using hstate)
  case isTrue hstate =>
    split
    case h_1 e r₁ hdisconnect => exact .refused hstate hdisconnect
    case h_2 r₁ hdisconnect => exact .begun hstate hdisconnect

/-- The outcomes of `publishAll`: the list is empty, its first event is refused, or its first event is
published and the rest follows. -/
inductive Publishes (c : Collaborators σ) :
    List (QueuedEvent κ) → Run σ κ → Except ProviderError Unit × Run σ κ → Prop
  | done (r : Run σ κ) : Publishes c [] r (.ok (), r)
  | refused {event : QueuedEvent κ} {rest : List (QueuedEvent κ)} {r r₁ : Run σ κ} {e : ProviderError}
      (hpublish : r.ask (c.publish r.machine.topic event.payload r.world)
        (.publish r.machine.topic event.payload) = (.error e, r₁)) :
    Publishes c (event :: rest) r (.error e, r₁.note (.queuedPublishFailed e (rest.length + 1)))
  | published {event : QueuedEvent κ} {rest : List (QueuedEvent κ)} {r r₁ : Run σ κ} {id : MessageId}
      (hpublish : r.ask (c.publish r.machine.topic event.payload r.world)
        (.publish r.machine.topic event.payload) = (.ok id, r₁))
      {last : Except ProviderError Unit × Run σ κ}
      (hrest : Publishes c rest
        ({ r₁ with machine := { r₁.machine with pending := rest } }.track id event.callback) last) :
    Publishes c (event :: rest) r last

theorem publishes (c : Collaborators σ) (events : List (QueuedEvent κ)) (r : Run σ κ) :
    Publishes c events r (publishAll c events r) := by
  induction events generalizing r with
  | nil => exact .done r
  | cons event rest ih =>
    unfold publishAll
    split
    case h_1 id r₁ hpublish => exact .published hpublish (ih _)
    case h_2 e r₁ hpublish => exact .refused hpublish

/-- The outcomes of `send`: published or refused at once, queued behind others and the queue
published, queued after a connect request, refused with the connect request, queued without one, or
rejected while disconnecting. -/
inductive Sends (c : Collaborators σ) (payload : Bytes) (callback : Option κ) (r : Run σ κ) :
    Except TransportError Unit × Run σ κ → Prop
  | published (hstate : r.machine.state = .connected) (hpending : r.machine.pending = [])
      {id : MessageId} {r₁ : Run σ κ}
      (hpublish : r.ask (c.publish r.machine.topic payload r.world)
        (.publish r.machine.topic payload) = (.ok id, r₁)) :
    Sends c payload callback r (.ok (), r₁.track id callback)
  | refused (hstate : r.machine.state = .connected) (hpending : r.machine.pending = [])
      {e : ProviderError} {r₁ : Run σ κ}
      (hpublish : r.ask (c.publish r.machine.topic payload r.world)
        (.publish r.machine.topic payload) = (.error e, r₁)) :
    Sends c payload callback r (.error (.provider e), r₁.discard callback.toList)
  | behind (hstate : r.machine.state = .connected) (hpending : r.machine.pending ≠ [])
      {result : Except ProviderError Unit} {r₁ : Run σ κ}
      (hdrain : (r.enqueue payload callback).drain c = (result, r₁)) :
    Sends c payload callback r (result.mapError .provider, r₁)
  | dialled (hstate : r.machine.state = .disconnected) (hpolicy : r.machine.policy = .onSend)
      {r₁ : Run σ κ} (hconnect : r.connect c = (.ok (), r₁)) :
    Sends c payload callback r (.ok (), r₁.enqueue payload callback)
  | undialled (hstate : r.machine.state = .disconnected) (hpolicy : r.machine.policy = .onSend)
      {e : TransportError} {r₁ : Run σ κ} (hconnect : r.connect c = (.error e, r₁)) :
    Sends c payload callback r (.error e, r₁.discard callback.toList)
  | queued (hstate : r.machine.state = .connecting ∨
      r.machine.state = .disconnected ∧ r.machine.policy = .never) :
    Sends c payload callback r (.ok (), r.enqueue payload callback)
  | rejected (hstate : r.machine.state = .disconnecting) :
    Sends c payload callback r
      (.error .disconnecting, (r.note (.rejected r.machine.topic)).discard callback.toList)

theorem sends (c : Collaborators σ) (payload : Bytes) (callback : Option κ) (r : Run σ κ) :
    r.Sends c payload callback (r.send c payload callback) := by
  unfold send
  split
  case h_1 hstate =>
    split
    case isTrue hpending =>
      replace hpending := List.isEmpty_iff.1 hpending
      split
      case h_1 id r₁ hpublish => exact .published hstate hpending hpublish
      case h_2 e r₁ hpublish => exact .refused hstate hpending hpublish
    case isFalse hpending =>
      replace hpending : r.machine.pending ≠ [] := by simpa using hpending
      split
      case h_1 r₁ hdrain => exact .behind hstate hpending hdrain
      case h_2 e r₁ hdrain => exact .behind hstate hpending hdrain
  case h_2 hstate =>
    split
    case h_1 hpolicy =>
      split
      case h_1 r₁ hconnect => exact .dialled hstate hpolicy hconnect
      case h_2 e r₁ hconnect => exact .undialled hstate hpolicy hconnect
    case h_2 hpolicy => exact .queued (.inr ⟨hstate, hpolicy⟩)
  case h_3 hstate => exact .queued (.inl hstate)
  case h_4 hstate => exact .rejected hstate

end Run
end HubLink.Transport
