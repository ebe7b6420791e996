import HubLink.Text.Bytes
import HubLink.Transport.Remark

namespace HubLink.Transport

/-- An event in the queue. -/
structure QueuedEvent (κ : Type) where
  payload : Bytes
  /-- The hook that is called when the event is acknowledged. -/
  callback : Option κ
  deriving DecidableEq

/-- The debug text of a queued event, with the length of its payload and whether it has a callback. -/
def QueuedEvent.shown {κ : Type} (e : QueuedEvent κ) : String :=
  Text.showRecord "PendingEvent"
    [("payload_len", toString e.payload.length), ("has_callback", Text.showBool e.callback.isSome)]

/-- The four occasions for which an observer can be set. -/
inductive Occasion where
  | connected
  | disconnected
  /-- A publish in flight was acknowledged. -/
  | sent
  /-- A lost connection dropped at least one event. -/
  | abandoned
  deriving DecidableEq

/-- The argument with which an observer is called. -/
inductive Report where
  | status (status : Status)
  | sent
  | abandoned (count : Nat)
  deriving DecidableEq

/-- The observers of the application, at most one for each occasion. -/
structure Observers (κ : Type) where
  connected : Option κ := none
  disconnected : Option κ := none
  sent : Option κ := none
  abandoned : Option κ := none
  deriving DecidableEq

namespace Observers

variable {κ : Type}

/-- Sets the observer of one occasion. -/
def set (o : Observers κ) (occasion : Occasion) (hook : κ) : Observers κ :=
  match occasion with
  | .connected => { o with connected := some hook }
  | .disconnected => { o with disconnected := some hook }
  | .sent => { o with sent := some hook }
  | .abandoned => { o with abandoned := some hook }

/-- Sets the same hook for each of the given occasions. -/
def forOccasions (occasions : List Occasion) (hook : κ) : Observers κ :=
  occasions.foldl (·.set · hook) {}

/-- The debug text of the observers: which of them are set. -/
def shown (o : Observers κ) : String :=
  Text.showRecord "Observers"
    [("on_connected", Text.showBool o.connected.isSome),
     ("on_disconnected", Text.showBool o.disconnected.isSome),
     ("on_event_sent", Text.showBool o.sent.isSome),
     ("on_events_abandoned", Text.showBool o.abandoned.isSome)]

end Observers

/-- The publishes that wait for an acknowledgement, with their callbacks. No identity occurs twice,
and the order is that of the publishes. -/
abbrev InFlight (κ : Type) := List (MessageId × Option κ)

namespace InFlight

variable {κ : Type}

/-- Looks up the callback of a message in flight; `none` if the message is not in flight. -/
def find? (f : InFlight κ) (id : MessageId) : Option (Option κ) :=
  (List.find? (·.1 = id) f).map (·.2)

/-- Removes a message. -/
def erase (f : InFlight κ) (id : MessageId) : InFlight κ :=
  List.filter (·.1 ≠ id) f

/-- Adds a message at the end and replaces the entry with the same identity. -/
def insert (f : InFlight κ) (id : MessageId) (callback : Option κ) : InFlight κ :=
  f.erase id ++ [(id, callback)]

/-- The callbacks of all messages in flight. -/
def callbacks (f : InFlight κ) : List κ :=
  f.filterMap (·.2)

/-- The identities of all messages in flight. -/
def ids (f : InFlight κ) : List MessageId :=
  f.map (·.1)

theorem mem_ids_iff (f : InFlight κ) (id : MessageId) : id ∈ f.ids ↔ (f.find? id).isSome := by
  simp [ids, find?]

theorem ids_erase (f : InFlight κ) (id : MessageId) : (f.erase id).ids = f.ids.filter (· ≠ id) := by
  simp [ids, erase, List.filter_map, Function.comp_def]

theorem mem_ids_insert (f : InFlight κ) (id id' : MessageId) (callback : Option κ) :
    id' ∈ (f.insert id callback).ids ↔ id' = id ∨ id' ∈ f.ids := by
  have hinsert : (f.insert id callback).ids = f.ids.filter (· ≠ id) ++ [id] := by
    rw [← ids_erase]
    simp [ids, insert]
  by_cases h : id' = id <;> simp [hinsert, h]

/-- To erase a message that is not in flight changes nothing. -/
theorem erase_of_find?_eq_none {f : InFlight κ} {id : MessageId} (h : f.find? id = none) :
    f.erase id = f := by
  unfold find? at h
  unfold erase
  rw [Option.map_eq_none_iff, List.find?_eq_none] at h
  exact List.filter_eq_self.2 fun p hp => by simpa using h p hp

end InFlight

/-- The connection state machine of one device: its state, its queue, its messages in flight, and its
observers. -/
structure Machine (κ : Type) where
  deviceId : String
  policy : ConnectPolicy := .onSend
  observers : Observers κ := {}
  state : ConnectionState := .disconnected
  /-- The queued events, the oldest first. -/
  pending : List (QueuedEvent κ) := []
  inFlight : InFlight κ := []
  deriving DecidableEq

namespace Machine

variable {κ : Type}

/-- The topic of every publish. -/
def topic (m : Machine κ) : String :=
  telemetryTopic m.deviceId

/-- The callbacks of the queued events, followed by those of the messages in flight. -/
def callbacks (m : Machine κ) : List κ :=
  m.pending.filterMap (·.callback) ++ m.inFlight.callbacks

/-- The number of events in the queue and in flight. -/
def load (m : Machine κ) : Nat :=
  m.pending.length + m.inFlight.length

/-- The debug text of a machine. -/
def shown (m : Machine κ) : String :=
  Text.showRecord "TransportStateMachine"
    [("state", m.state.shown),
     ("topic", Text.quote m.topic),
     ("pending", toString m.pending.length),
     ("in_flight", toString m.inFlight.length),
     ("observers", m.observers.shown),
     ("connect_policy", m.policy.shown)]

end Machine

/-- A side effect of a collaborator, other than its answer. -/
inductive Aside where
  | raise (notification : Notification)
  | remark (remark : Remark)
  deriving DecidableEq

/-- The answer of a collaborator whose own state has type `σ`. -/
structure Reply (σ ε α : Type) where
  result : Except ε α
  /-- The collaborator's state after the answer. -/
  world : σ
  asides : List Aside := []

/-- The two collaborators of a machine: the token provider (`token`) and the network provider (the
other three). -/
structure Collaborators (σ : Type) where
  token : σ → Reply σ Credential.Error String
  connect : String → σ → Reply σ ProviderError Unit
  publish : String → Bytes → σ → Reply σ ProviderError MessageId
  disconnect : σ → Reply σ ProviderError Unit

/-- One entry of a machine's trace. Requests to collaborators are recorded with their answers. -/
inductive Effect (κ : Type) where
  /-- A token request. -/
  | token (result : Except Credential.Error String)
  /-- A connect request with the token it carried. -/
  | connect (token : String) (result : Except ProviderError Unit)
  /-- A publish request. -/
  | publish (topic : String) (payload : Bytes) (result : Except ProviderError MessageId)
  /-- A disconnect request. -/
  | disconnect (result : Except ProviderError Unit)
  /-- A call of an observer. -/
  | report (observer : κ) (report : Report)
  /-- A call of the callback of an acknowledged event. -/
  | complete (callback : κ)
  /-- A callback was dropped without being called. -/
  | discard (callback : κ)
  | aside (aside : Aside)

/-- The hook that an effect calls, if it calls one. -/
def Effect.hook? {κ : Type} : Effect κ → Option κ
  | .report observer _ => some observer
  | .complete callback => some callback
  | _ => none

/-- A machine in execution, with the state of its collaborators and the trace so far. -/
structure Run (σ κ : Type) where
  machine : Machine κ
  world : σ
  effects : List (Effect κ) := []

/-- A request of the application. -/
inductive Request (κ : Type) where
  | connect
  | send (payload : Bytes) (callback : Option κ)
  | disconnect
  deriving DecidableEq

namespace Run

variable {σ κ ε α : Type}

/-- Appends an effect to the trace. -/
def emit (r : Run σ κ) (e : Effect κ) : Run σ κ :=
  { r with effects := r.effects ++ [e] }

/-- Appends a remark to the trace. -/
def note (r : Run σ κ) (remark : Remark) : Run σ κ :=
  r.emit (.aside (.remark remark))

/-- Calls an observer, if it is set. -/
def report (r : Run σ κ) (observer : Option κ) (report : Report) : Run σ κ :=
  match observer with
  | some hook => r.emit (.report hook report)
  | none => r

/-- Calls the callback of an acknowledged event, if it has one. -/
def complete (r : Run σ κ) (callback : Option κ) : Run σ κ :=
  match callback with
  | some hook => r.emit (.complete hook)
  | none => r

/-- Drops callbacks without calling them. -/
def discard (r : Run σ κ) (callbacks : List κ) : Run σ κ :=
  { r with effects := r.effects ++ callbacks.map .discard }

/-- Records a collaborator's answer, behind its side effects, and takes over its state. -/
def ask (r : Run σ κ) (reply : Reply σ ε α) (effect : Except ε α → Effect κ) :
    Except ε α × Run σ κ :=
  (reply.result,
    { r with
      world := reply.world
      effects := r.effects ++ reply.asides.map .aside ++ [effect reply.result] })

/-- Remarks on the transition to `next` and sets the state. -/
def enter (r : Run σ κ) (next : ConnectionState) : Run σ κ :=
  let r := r.note (.transition r.machine.deviceId r.machine.state next)
  { r with machine := { r.machine with state := next } }

/-- Appends an event to the queue and remarks on it. -/
def enqueue (r : Run σ κ) (payload : Bytes) (callback : Option κ) : Run σ κ :=
  let pending := r.machine.pending ++ [⟨payload, callback⟩]
  { r with machine := { r.machine with pending } }.note (.queued pending.length r.machine.state)

/-- Inserts a published message into the map of messages in flight. An entry with the same identity is
replaced, and its callback dropped. -/
def track (r : Run σ κ) (id : MessageId) (callback : Option κ) : Run σ κ :=
  let displaced := r.machine.inFlight.find? id
  let inFlight := r.machine.inFlight.insert id callback
  let r : Run σ κ := { r with machine := { r.machine with inFlight } }
  let r := match displaced with
    | some old => (r.discard old.toList).note (.reusedId id)
    | none => r
  r.note (.published id inFlight.length)

@[simp] theorem track_machine (r : Run σ κ) (id : MessageId) (callback : Option κ) :
    (r.track id callback).machine =
      { r.machine with inFlight := r.machine.inFlight.insert id callback } := by
  unfold track
  cases r.machine.inFlight.find? id <;> rfl

@[simp] theorem track_world (r : Run σ κ) (id : MessageId) (callback : Option κ) :
    (r.track id callback).world = r.world := by
  unfold track
  cases r.machine.inFlight.find? id <;> rfl

/-- Publishes the events of the queue in order, and tracks each under the identity that it is given.
At the first refusal the refused event and all later ones stay queued, and the refusal is returned. -/
def publishAll (c : Collaborators σ) :
    List (QueuedEvent κ) → Run σ κ → Except ProviderError Unit × Run σ κ
  | [], r => (.ok (), r)
  | event :: rest, r =>
    match r.ask (c.publish r.machine.topic event.payload r.world)
        (.publish r.machine.topic event.payload) with
    | (.ok id, r) =>
      publishAll c rest
        ({ r with machine := { r.machine with pending := rest } }.track id event.callback)
    | (.error e, r) => (.error e, r.note (.queuedPublishFailed e (rest.length + 1)))

/-- Publishes the queue if the state is connected, and does nothing otherwise. -/
def drain (c : Collaborators σ) (r : Run σ κ) : Except ProviderError Unit × Run σ κ :=
  if r.machine.state.canPublish then publishAll c r.machine.pending r else (.ok (), r)

/-- Fetches a token and asks for a connection if the state is disconnected. A refused token or
connection is returned and leaves the state unchanged; in any other state the request is ignored. -/
def connect (c : Collaborators σ) (r : Run σ κ) : Except TransportError Unit × Run σ κ :=
  if r.machine.state.canStartConnect then
    match r.ask (c.token r.world) .token with
    | (.error e, r) => (.error (.auth e), r)
    | (.ok token, r) =>
      match r.ask (c.connect token r.world) (.connect token) with
      | (.error e, r) => (.error (.provider e), r)
      | (.ok (), r) => (.ok (), r.enter .connecting)
  else (.ok (), r.note (.connectIgnored r.machine.state))

/-- Sends an event. Connected, it is published at once, or queued and the whole queue published if
events are queued already. Connecting, it is queued. Disconnected, it is queued, after a connect
request if the policy asks for one. Disconnecting, it is rejected. -/
def send (c : Collaborators σ) (payload : Bytes) (callback : Option κ) (r : Run σ κ) :
    Except TransportError Unit × Run σ κ :=
  match r.machine.state with
  | .connected =>
    if r.machine.pending.isEmpty then
      match r.ask (c.publish r.machine.topic payload r.world)
          (.publish r.machine.topic payload) with
      | (.ok id, r) => (.ok (), r.track id callback)
      | (.error e, r) => (.error (.provider e), r.discard callback.toList)
    else
      match (r.enqueue payload callback).drain c with
      | (.ok (), r) => (.ok (), r)
      | (.error e, r) => (.error (.provider e), r)
  | .disconnected =>
    match r.machine.policy with
    | .onSend =>
      match r.connect c with
      | (.ok (), r) => (.ok (), r.enqueue payload callback)
      | (.error e, r) => (.error e, r.discard callback.toList)
    | .never => (.ok (), r.enqueue payload callback)
  | .connecting => (.ok (), r.enqueue payload callback)
  | .disconnecting =>
    (.error .disconnecting, (r.note (.rejected r.machine.topic)).discard callback.toList)

/-- Asks for the end of the connection if the state is connecting or connected. A refusal leaves the
state unchanged; in any other state the request is ignored. -/
def disconnect (c : Collaborators σ) (r : Run σ κ) : Except TransportError Unit × Run σ κ :=
  if r.machine.state.canStartDisconnect then
    match r.ask (c.disconnect r.world) .disconnect with
    | (.error e, r) => (.error (.provider e), r)
    | (.ok (), r) => (.ok (), r.enter .disconnecting)
  else (.ok (), r.note (.disconnectIgnored r.machine.state))

/-- Executes a request of the application. -/
def perform (c : Collaborators σ) (request : Request κ) (r : Run σ κ) :
    Except TransportError Unit × Run σ κ :=
  match request with
  | .connect => r.connect c
  | .send payload callback => r.send c payload callback
  | .disconnect => r.disconnect c

/-- Publishes the queue after a connection was established. A refusal is only remarked on. -/
def releaseQueue (c : Collaborators σ) (r : Run σ κ) : Run σ κ :=
  match r.drain c with
  | (.ok (), r) => r
  | (.error _, r) => r.note (.queueWaits r.machine.pending.length)

/-- Loses the connection: enters the disconnected state, empties the queue and the map of messages in
flight, and drops their callbacks. Calls no hook. -/
def lose (r : Run σ κ) : Run σ κ :=
  let before := r.machine
  let r := r.enter .disconnected
  let r := { r with machine := { r.machine with pending := [], inFlight := [] } }.discard
    before.callbacks
  if before.load = 0 then r
  else r.note (.abandoned before.inFlight.length before.pending.length)

/-- Removes an acknowledged message from the map of messages in flight. Calls no hook. -/
def acknowledge (id : MessageId) (r : Run σ κ) : Run σ κ :=
  let inFlight := r.machine.inFlight.erase id
  { r with machine := { r.machine with inFlight } }.note (.acknowledged id inFlight.length)

end Run

/-- One stage of handling a notification. A stage that calls a hook does nothing else, so the hook
finds the machine that the stages before it have left. -/
inductive Stage (σ κ : Type) where
  /-- Changes the machine, asks the collaborators, or remarks. -/
  | work (f : Run σ κ → Run σ κ)
  /-- Calls an observer, if it is set. -/
  | report (observer : Option κ) (report : Report)
  /-- Calls the callback of an acknowledged event, if it has one. -/
  | complete (callback : Option κ)

/-- Takes a stage. -/
def Stage.take {σ κ : Type} : Stage σ κ → Run σ κ → Run σ κ
  | .work f, r => f r
  | .report observer what, r => r.report observer what
  | .complete callback, r => r.complete callback

namespace Run

/-- The stages of a notification for the machine that receives it. A notification that does not fit
the state, or acknowledges no message in flight, has a remark as its only stage. -/
def stages (c : Collaborators σ) (n : Notification) (m : Machine κ) : List (Stage σ κ) :=
  match n with
  | .connected =>
    if m.state = .connecting then
      [.work (·.enter .connected), .report m.observers.connected (.status .connected),
        .work (releaseQueue c)]
    else [.work (·.note (.unexpectedConnected m.state))]
  | .disconnected =>
    if m.state = .disconnected then [.work (·.note .unexpectedDisconnected)]
    else
      [.work lose,
        .report (if m.load = 0 then none else m.observers.abandoned) (.abandoned m.load),
        .report m.observers.disconnected (.status .disconnected)]
  | .published id =>
    match m.inFlight.find? id with
    | some callback => [.work (acknowledge id), .complete callback, .report m.observers.sent .sent]
    | none => [.work (·.note (.untrackedAcknowledgement id))]

/-- Handles a notification by taking all its stages in order. -/
def handle (c : Collaborators σ) (n : Notification) (r : Run σ κ) : Run σ κ :=
  (stages c n r.machine).foldl (fun r stage => stage.take r) r

theorem handle_connected (c : Collaborators σ) (r : Run σ κ) :
    r.handle c .connected =
      if r.machine.state = .connecting then
        releaseQueue c
          ((r.enter .connected).report r.machine.observers.connected (.status .connected))
      else r.note (.unexpectedConnected r.machine.state) := by
  simp only [handle, stages]
  split <;> rfl

theorem handle_disconnected (c : Collaborators σ) (r : Run σ κ) :
    r.handle c .disconnected =
      if r.machine.state = .disconnected then r.note .unexpectedDisconnected
      else
        (r.lose.report (if r.machine.load = 0 then none else r.machine.observers.abandoned)
          (.abandoned r.machine.load)).report r.machine.observers.disconnected
            (.status .disconnected) := by
  simp only [handle, stages]
  split <;> rfl

theorem handle_published (c : Collaborators σ) (id : MessageId) (r : Run σ κ) :
    r.handle c (.published id) =
      match r.machine.inFlight.find? id with
      | some callback =>
        ((r.acknowledge id).complete callback).report r.machine.observers.sent .sent
      | none => r.note (.untrackedAcknowledgement id) := by
  simp only [handle, stages]
  split <;> rfl

/-- Destroys the machine: all callbacks that it holds are dropped. -/
def destroy (r : Run σ κ) : Run σ κ :=
  r.discard r.machine.callbacks

end Run
end HubLink.Transport
