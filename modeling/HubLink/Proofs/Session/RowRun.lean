import HubLink.Proofs.Machine.Outcomes
import HubLink.Proofs.Session.Device
import HubLink.Proofs.Session.Row
import HubLink.Transport.Handle

namespace HubLink.Session

open Mqtt Transport

variable {κ ε α : Type}

/-- Whether an effect raises no notification and neither calls nor drops a callback. -/
def isCalm : Effect κ → Bool
  | .aside (.raise _) | .complete _ | .discard _ => false
  | _ => true

/-- All effects of the run are calm. -/
def Calm (r : Run Device κ) : Prop :=
  ∀ e ∈ r.effects, isCalm e = true

namespace Calm

variable {r : Run Device κ}

theorem emit (h : Calm r) {e : Effect κ} (he : isCalm e = true) : Calm (r.emit e) := by
  intro e' he'
  obtain he' | he' := List.mem_append.1 he'
  · exact h e' he'
  · rwa [List.mem_singleton.1 he']

theorem note (h : Calm r) (remark : Remark) : Calm (r.note remark) :=
  h.emit rfl

theorem enter (h : Calm r) (next : ConnectionState) : Calm (r.enter next) :=
  h.note (.transition r.machine.deviceId r.machine.state next)

theorem enqueue (h : Calm r) (payload : Bytes) (callback : Option κ) :
    Calm (r.enqueue payload callback) := by
  unfold Run.enqueue
  exact note (r := { r with machine := { r.machine with
    pending := r.machine.pending ++ [⟨payload, callback⟩] } }) h _

theorem report (h : Calm r) (observer : Option κ) (report : Report) :
    Calm (r.report observer report) := by
  cases observer with
  | none => exact h
  | some hook => exact h.emit rfl

theorem ask (h : Calm r) {reply : Reply Device ε α} {effect : Except ε α → Effect κ}
    (hasides : notifications reply.asides = []) (heffect : isCalm (effect reply.result) = true) :
    Calm (r.ask reply effect).2 := by
  have hnone : ∀ n, Aside.raise n ∉ reply.asides := fun n hn =>
    absurd (List.filterMap_eq_nil_iff.1 hasides _ hn) (by simp)
  intro e he
  obtain he | he := List.mem_append.1 he
  · obtain he | he := List.mem_append.1 he
    · exact h e he
    · obtain ⟨aside, haside, rfl⟩ := List.mem_map.1 he
      cases aside with
      | raise n => exact absurd haside (hnone n)
      | remark remark => rfl
  · rwa [List.mem_singleton.1 he]

theorem track (h : Calm r) {id : MessageId} (hfresh : r.machine.inFlight.find? id = none)
    (callback : Option κ) : Calm (r.track id callback) := by
  unfold Run.track
  simp only [hfresh]
  exact h.note _

theorem raised (h : Calm r) : Trace.raised r.effects = [] := by
  refine List.filterMap_eq_nil_iff.2 fun e he => ?_
  have hcalm := h e he
  unfold isCalm at hcalm
  split at hcalm <;> simp_all

end Calm

/-- A calm run leaves all receipts unchanged. -/
theorem Calm.foldl_fill {r : Run Device (Hook κ)} (h : Calm r) (receipts : List Receipt) :
    (r.effects.map .effect).foldl Handle.fill receipts = receipts := by
  have hcalm : ∀ e ∈ r.effects, isCalm e = true := h
  generalize r.effects = effects at hcalm
  induction effects with
  | nil => rfl
  | cons e rest ih =>
    have hsame : Handle.fill receipts (.effect e) = receipts := by
      cases e with
      | complete _ | discard _ => exact absurd (hcalm _ (List.mem_cons_self ..)) (by simp [isCalm])
      | _ => rfl
    rw [List.map_cons, List.foldl_cons, hsame]
    exact ih fun e' he' => hcalm e' (List.mem_cons_of_mem _ he')

/-- A change of the link is one of the session, if that has not ended. -/
theorem Device.onLink_of_alive {d : Device} {c c' : Connection} {asides : List Aside}
    {change : Connection → Connection × List Aside} (hsession : d.provider.session = some c)
    (halive : c.isAlive = true) (hchange : change c = (c', asides)) :
    d.onLink change = ({ d with provider := { d.provider with session := some c' } }, asides) := by
  have hfilter : (some c).filter Connection.isAlive = some c := if_pos halive
  simp only [Device.onLink, Provider.onLink, hsession, hfilter, hchange]

namespace Row

/-- The event of message `i`, with receipt `i` as its callback. -/
def event (r : Row) (i : Nat) : QueuedEvent (Hook κ) :=
  ⟨r.payload i, some (.receipt i)⟩

/-- The messages from `acked` to `count` as they are in flight. -/
def inFlight (acked count : Nat) : InFlight (Hook κ) :=
  (List.range' acked (count - acked)).map fun i => (id i, some (.receipt i))

/-- The messages before `count` are queued, and nothing is in flight. -/
structure Waits (r : Row) (m : Machine (Hook κ)) (count : Nat) : Prop where
  topic : m.topic = r.topic
  pending : m.pending = (List.range' 0 count).map r.event
  inFlight : m.inFlight = []

/-- A connected machine has published the messages before `count`; those from `acked` on are in
flight, and the next `left` ones are queued. -/
structure Tracks (r : Row) (m : Machine (Hook κ)) (left count acked : Nat) : Prop where
  topic : m.topic = r.topic
  state : m.state = .connected
  pending : m.pending = (List.range' count left).map r.event
  inFlight : m.inFlight = Row.inFlight acked count

/-- The device has a session with orders for the messages before `count`, and no other connection. -/
structure Serves (r : Row) (d : Device) (count acked read : Nat) : Prop where
  session : ∃ c sent, d.provider.session = some c ∧ r.Streams c count acked read sent
  nextId : d.provider.nextId = id count
  leaving : d.provider.leaving = []

variable {r : Row} {m : Machine (Hook κ)} {d : Device} {left count acked read : Nat}

theorem find?_inFlight_of_lt (h : acked < count) :
    (Row.inFlight acked count : InFlight (Hook κ)).find? (id acked) = some (some (.receipt acked)) := by
  rw [Row.inFlight, range'_eq_cons h]
  simp [InFlight.find?]

theorem id_ne {i : Nat} (hi : i ∈ List.range' acked (count - acked)) (hcount : count < UInt64.size) :
    id i ≠ id count := by
  rw [List.mem_range'_1] at hi
  rw [Ne, id_inj (by omega) hcount]
  omega

theorem find?_inFlight_count (hcount : count < UInt64.size) :
    (Row.inFlight acked count : InFlight (Hook κ)).find? (id count) = none := by
  rw [InFlight.find?, Option.map_eq_none_iff, List.find?_eq_none]
  intro p hp
  obtain ⟨i, hi, rfl⟩ := List.mem_map.1 hp
  simpa using id_ne hi hcount

theorem inFlight_insert (hle : acked ≤ count) (hcount : count < UInt64.size) :
    InFlight.insert (Row.inFlight acked count : InFlight (Hook κ)) (id count) (some (.receipt count)) =
      Row.inFlight acked (count + 1) := by
  rw [InFlight.insert, InFlight.erase_of_find?_eq_none (find?_inFlight_count hcount)]
  simp [Row.inFlight, range'_concat hle]

theorem inFlight_erase (hlt : acked < count) (hcount : count ≤ UInt64.size) :
    InFlight.erase (Row.inFlight acked count : InFlight (Hook κ)) (id acked) =
      Row.inFlight (acked + 1) count := by
  rw [Row.inFlight, range'_eq_cons hlt, InFlight.erase, List.map_cons,
    List.filter_cons_of_neg (by simp)]
  refine List.filter_eq_self.2 fun p hp => ?_
  obtain ⟨i, hi, rfl⟩ := List.mem_map.1 hp
  rw [List.mem_range'_1] at hi
  have hother : id i ≠ id acked := by
    rw [Ne, id_inj (by omega) (by omega)]
    omega
  simpa using hother

namespace Serves

theorem publish (h : r.Serves d count acked read) (hfits : ∀ i < count + 1, r.Fits i) :
    ∃ d' asides, Device.collaborators.publish r.topic (r.payload count) d =
        { result := .ok (id count), world := d', asides } ∧
      notifications asides = [] ∧ r.Serves d' (count + 1) acked read := by
  obtain ⟨c, sent, hsession, hstreams⟩ := h.session
  obtain ⟨c', asides, sent', hask, hquiet, hstreams'⟩ := hstreams.ask hfits
  have hpublish := Device.publish_of_alive hsession hstreams.isAlive r.topic (r.payload count)
  have hnoted : d.noted c =
      { c with reader := { c.reader with ids := c.reader.ids.request (id count) } } := by
    rw [Device.noted, h.nextId]
  rw [hnoted, h.nextId] at hpublish
  have hask' : Connection.ask _ (.publish r.topic (r.payload count)) = (c', asides) := hask
  rw [hask', next_id] at hpublish
  exact ⟨_, _, hpublish, by simpa using hquiet, ⟨c', sent', rfl, hstreams'⟩, rfl, h.leaving⟩

theorem readDue (h : r.Serves d count acked acked) (hacked : acked < count) :
    ∃ d', d.readDue = (some (r.packet acked), d') ∧ r.Serves d' count acked (acked + 1) := by
  obtain ⟨c, sent, hsession, hstreams⟩ := h.session
  have hsent : acked < sent := by
    obtain hall | hfull := Nat.eq_or_lt_of_le hstreams.sent_le
    · omega
    · rw [hstreams.full hfull]
      exact Nat.lt_add_of_pos_right (by decide)
  obtain ⟨c', hread, hstreams'⟩ := hstreams.readDue hsent
  refine ⟨{ d with provider := { d.provider with session := some c' } }, ?_,
    ⟨c', sent, rfl, hstreams'⟩, h.nextId, h.leaving⟩
  simp only [Device.readDue, Provider.readDue, hsession, hread]

theorem readDue_none (h : r.Serves d count count count) : d.readDue = (none, d) := by
  obtain ⟨c, sent, hsession, hstreams⟩ := h.session
  have hdue : c.due = [] := by
    have hsent := hstreams.sent_le
    simp [hstreams.due, show sent - count = 0 by omega]
  have hread : c.readDue = (none, c) := by simp only [Connection.readDue, hdue]
  simp only [Device.readDue, Provider.readDue, hsession, hread]
  rw [← hsession]

/-- Receiving the acknowledgement of the oldest message in flight raises `published` for it. -/
theorem receive (h : r.Serves d count acked (acked + 1)) (hfits : ∀ i < count, r.Fits i) :
    ∃ d' asides, d.onLink (·.receive (pubAckBytes (packetId acked))) = (d', asides) ∧
      notifications asides = [.published (id acked)] ∧
      r.Serves d' count (acked + 1) (acked + 1) := by
  obtain ⟨c, sent, hsession, hstreams⟩ := h.session
  obtain ⟨c', asides, sent', hreceive, hraised, hstreams'⟩ := hstreams.receive (Nat.lt_succ_self acked)
    hfits
  exact ⟨_, asides, Device.onLink_of_alive hsession hstreams.isAlive hreceive, hraised,
    ⟨c', sent', rfl, hstreams'⟩, h.nextId, h.leaving⟩

theorem disconnect (h : r.Serves d count count count) :
    ∃ d' c asides, Device.collaborators.disconnect d = { result := .ok (), world := d', asides } ∧
      notifications asides = [.disconnected] ∧ d'.provider.session = none ∧
      d'.provider.leaving = [c] ∧ c.due = [.disconnect] := by
  obtain ⟨c, sent, hsession, hstreams⟩ := h.session
  obtain rfl : sent = count := Nat.le_antisymm hstreams.sent_le hstreams.read_le
  obtain ⟨c', asides, hask, hraised, hdue⟩ := hstreams.leave
  have hdisconnect := Device.disconnect_of_alive hsession hstreams.isAlive
  rw [hask, h.leaving] at hdisconnect
  exact ⟨_, c', asides, hdisconnect, hraised, rfl, rfl, hdue⟩

end Serves

namespace Waits

theorem enqueue (h : r.Waits m count) (run : Run Device (Hook κ)) (hmachine : run.machine = m) :
    r.Waits (run.enqueue (r.payload count) (some (.receipt count))).machine (count + 1) ∧
      (run.enqueue (r.payload count) (some (.receipt count))).machine.state = m.state ∧
      (run.enqueue (r.payload count) (some (.receipt count))).machine.policy = m.policy := by
  subst hmachine
  refine ⟨⟨h.topic, ?_, h.inFlight⟩, rfl, rfl⟩
  simp [Run.enqueue, Run.note, Run.emit, h.pending, List.range'_1_concat, event]

/-- Without a connect request, `send` queues the next message. -/
theorem send (h : r.Waits m count)
    (hstate : m.state = .connecting ∨ m.state = .disconnected ∧ m.policy = .never) (d : Device) :
    ∃ run : Run Device (Hook κ), Run.send Device.collaborators (r.payload count)
        (some (.receipt count)) { machine := m, world := d } = (.ok (), run) ∧
      Calm run ∧ r.Waits run.machine (count + 1) ∧ run.machine.state = m.state ∧
      run.machine.policy = m.policy ∧ run.world = d := by
  let run : Run Device (Hook κ) := { machine := m, world := d }
  obtain ⟨hwaits, hsame, hpolicy⟩ := h.enqueue run rfl
  refine ⟨run.enqueue (r.payload count) (some (.receipt count)), ?_,
    Calm.enqueue (r := run) (by simp [Calm, run]) _ _, hwaits, hsame, hpolicy, rfl⟩
  obtain hstate | ⟨hstate, hpolicy⟩ := hstate
  · simp only [Run.send, hstate, run]
  · simp only [Run.send, hstate, hpolicy, run]

/-- Under policy `onSend`, the first `send` makes a connect request and queues its message. -/
theorem dial (h : r.Waits m 0) (hstate : m.state = .disconnected) (hpolicy : m.policy = .onSend)
    {token : Credential.Token} {login : Login} (htoken : d.signer.signNow d.now = .ok token)
    (hlogin : d.provider.options.login? token.text = some login) :
    ∃ run : Run Device (Hook κ), Run.send Device.collaborators (r.payload 0)
        (some (.receipt 0)) { machine := m, world := d } = (.ok (), run) ∧
      Calm run ∧ r.Waits run.machine 1 ∧ run.machine.state = .connecting ∧
      run.world = { d with provider := { d.provider with session := some (.start login) } } := by
  let dialled : Device := { d with provider := { d.provider with session := some (.start login) } }
  let run : Run Device (Hook κ) := { machine := m, world := d }
  let signed := run.ask (Device.collaborators.token d) .token
  let asked := signed.2.ask (Device.collaborators.connect token.text d) (.connect token.text)
  have hsigned : Device.collaborators.token d =
      { result := .ok token.text
        world := d
        asides := [.remark (.tokenSigned d.signer.deviceId token.expiry)] } := by
    simp only [Device.collaborators, signedReply, htoken]
  have hasked : Device.collaborators.connect token.text d =
      { result := .ok ()
        world := dialled
        asides := [.remark (.sessionStarted d.provider.options.hostName
          d.provider.options.port.toNat)] } := by
    simp only [Device.collaborators, Device.connect, Provider.connect?, hlogin, Option.map_some, dialled]
  have hcalm : Calm asked.2 := by
    refine Calm.ask (Calm.ask (r := run) (by simp [Calm, run]) ?_ rfl) ?_ rfl
    · rw [hsigned]
      rfl
    · rw [hasked]
      rfl
  have hwaits : r.Waits (asked.2.enter .connecting).machine 0 := ⟨h.topic, h.pending, h.inFlight⟩
  refine ⟨(asked.2.enter .connecting).enqueue (r.payload 0) (some (.receipt 0)), ?_,
    (hcalm.enter .connecting).enqueue _ _, (hwaits.enqueue _ rfl).1, rfl, ?_⟩
  · have hcan : m.state.canStartConnect = true := by rw [hstate]; rfl
    have htoken' : run.ask (Device.collaborators.token run.world) .token = (.ok token.text, signed.2) :=
      Prod.ext (congrArg Reply.result hsigned) rfl
    have hconnect' : signed.2.ask (Device.collaborators.connect token.text signed.2.world)
        (.connect token.text) = (.ok (), asked.2) := by
      rw [show signed.2.world = d from congrArg Reply.world hsigned]
      exact Prod.ext (congrArg Reply.result hasked) rfl
    have hconnect : run.connect Device.collaborators = (.ok (), asked.2.enter .connecting) := by
      rw [Run.connect, if_pos hcan]
      simp only [htoken', hconnect']
    simp only [Run.send, hstate, hpolicy]
    rw [hconnect]
  · exact congrArg Reply.world hasked

end Waits

namespace Tracks

/-- Tracking the next message extends the messages in flight by it. -/
theorem track (h : r.Tracks m left count acked) (hle : acked ≤ count) (hcount : count < UInt64.size)
    {rest : Nat} {run : Run Device (Hook κ)}
    (hmachine : run.machine = { m with pending := (List.range' (count + 1) rest).map r.event }) :
    r.Tracks (run.track (id count) (some (.receipt count))).machine rest (count + 1) acked := by
  rw [Run.track_machine, hmachine, h.inFlight, inFlight_insert hle hcount]
  exact ⟨h.topic, h.state, rfl, rfl⟩

theorem ask_publish (h : r.Tracks m left count acked) (run : Run Device (Hook κ))
    (hmachine : run.machine = m) (hcalm : Calm run) (hd : r.Serves run.world count acked read)
    (hfits : ∀ i < count + 1, r.Fits i) :
    ∃ run' : Run Device (Hook κ),
      run.ask (Device.collaborators.publish run.machine.topic (r.payload count) run.world)
        (.publish run.machine.topic (r.payload count)) = (.ok (id count), run') ∧
      run'.machine = m ∧ Calm run' ∧ r.Serves run'.world (count + 1) acked read := by
  obtain ⟨d', asides, hpublish, hquiet, hd'⟩ := hd.publish hfits
  have htopic : run.machine.topic = r.topic := by rw [hmachine, h.topic]
  rw [htopic, hpublish]
  exact ⟨_, rfl, hmachine, hcalm.ask hquiet rfl, hd'⟩

/-- On a connected machine with an empty queue, `send` publishes the next message. -/
theorem send (h : r.Tracks m 0 count acked) (hle : acked ≤ count) (hcount : count < UInt64.size)
    (hd : r.Serves d count acked read) (hfits : ∀ i < count + 1, r.Fits i) :
    ∃ run : Run Device (Hook κ), Run.send Device.collaborators (r.payload count)
        (some (.receipt count)) { machine := m, world := d } = (.ok (), run) ∧
      Calm run ∧ r.Tracks run.machine 0 (count + 1) acked ∧ r.Serves run.world (count + 1) acked read := by
  obtain ⟨run, hask, hmachine, hcalm, hd'⟩ := h.ask_publish { machine := m, world := d } rfl
    (by simp [Calm]) hd hfits
  have hempty : m.pending = [] := h.pending
  have hsame : run.machine = { m with pending := [] } := by rw [hmachine, ← hempty]
  refine ⟨run.track (id count) (some (.receipt count)), ?_, ?_, h.track hle hcount hsame, ?_⟩
  · simp only [Run.send, h.state, hempty, List.isEmpty_nil, if_true, hask]
  · refine hcalm.track ?_ _
    rw [hmachine, h.inFlight]
    exact find?_inFlight_count hcount
  · rwa [Run.track_world]

/-- Publishing the queue publishes all messages in it. -/
theorem publishAll (hle : acked ≤ count) (hcount : count + left ≤ UInt64.size)
    (hfits : ∀ i < count + left, r.Fits i) {run : Run Device (Hook κ)}
    (h : r.Tracks run.machine left count acked) (hcalm : Calm run)
    (hd : r.Serves run.world count acked read) :
    ∃ run' : Run Device (Hook κ), Run.publishAll Device.collaborators
        ((List.range' count left).map r.event) run = (.ok (), run') ∧
      Calm run' ∧ r.Tracks run'.machine 0 (count + left) acked ∧
      r.Serves run'.world (count + left) acked read := by
  induction left generalizing count run with
  | zero => exact ⟨run, rfl, hcalm, h, hd⟩
  | succ left ih =>
    obtain ⟨run₁, hask, hmachine, hcalm₁, hd₁⟩ := h.ask_publish run rfl hcalm hd
      fun i hi => hfits i (by omega)
    -- `publishAll` takes the event off the queue first, and tracks it only then.
    let popped : Run Device (Hook κ) := { run₁ with
      machine := { run₁.machine with pending := (List.range' (count + 1) left).map r.event } }
    have hpopped : popped.machine =
        { run.machine with pending := (List.range' (count + 1) left).map r.event } := by
      simp only [popped, hmachine]
    have hcalm₂ : Calm (popped.track (id count) (some (.receipt count))) := by
      refine Calm.track (r := popped) hcalm₁ ?_ _
      rw [hpopped, h.inFlight]
      exact find?_inFlight_count (by omega)
    obtain ⟨run', hall, hrest⟩ := ih (by omega) (by omega) (fun i hi => hfits i (by omega))
      (h.track hle (by omega) hpopped) hcalm₂ (by rwa [Run.track_world])
    refine ⟨run', ?_, by rwa [show count + (left + 1) = count + 1 + left by omega]⟩
    rw [List.range'_succ, List.map_cons]
    unfold Run.publishAll
    simp only [event, hask]
    exact hall

/-- Handling `published` for the oldest message in flight removes it and fills its receipt. -/
theorem handle_published (h : r.Tracks m 0 count acked) (hacked : acked < count)
    (hcount : count ≤ UInt64.size) (d : Device) :
    ∃ run : Run Device (Hook κ),
      Run.handle Device.collaborators (.published (id acked)) { machine := m, world := d } = run ∧
      Trace.raised run.effects = [] ∧
      (∀ receipts, (run.effects.map .effect).foldl Handle.fill receipts =
        receipts.set acked .acknowledged) ∧
      r.Tracks run.machine 0 count (acked + 1) ∧ run.world = d := by
  have hfind : m.inFlight.find? (id acked) = some (some (.receipt acked)) := by
    rw [h.inFlight, find?_inFlight_of_lt hacked]
  have hmachine : r.Tracks { m with inFlight := m.inFlight.erase (id acked) } 0 count (acked + 1) := by
    rw [h.inFlight, inFlight_erase hacked hcount]
    exact ⟨h.topic, h.state, h.pending, rfl⟩
  refine ⟨_, rfl, ?_⟩
  rw [Run.handle_published]
  simp only [hfind]
  cases m.observers.sent with
  | none => exact ⟨rfl, fun _ => rfl, hmachine, rfl⟩
  | some hook => exact ⟨rfl, fun _ => rfl, hmachine, rfl⟩

end Tracks

namespace Waits

/-- Handling `connected` publishes all queued messages. -/
theorem handle_connected (h : r.Waits m count) (hstate : m.state = .connecting)
    (hcount : count ≤ UInt64.size) (hfits : ∀ i < count, r.Fits i) (hd : r.Serves d 0 0 0) :
    ∃ run : Run Device (Hook κ),
      Run.handle Device.collaborators .connected { machine := m, world := d } = run ∧
      Calm run ∧ r.Tracks run.machine 0 count 0 ∧ r.Serves run.world count 0 0 := by
  let run : Run Device (Hook κ) := { machine := m, world := d }
  let there := (run.enter .connected).report m.observers.connected (.status .connected)
  have hcalm : Calm there :=
    Calm.report (Calm.enter (r := run) (by simp [Calm, run]) .connected) m.observers.connected _
  have hmachine : there.machine = { m with state := .connected } :=
    Run.report_machine (run.enter .connected) m.observers.connected _
  have hworld : there.world = d := by
    cases hobserver : m.observers.connected <;> simp [there, run, Run.report, hobserver] <;> rfl
  have htracks : r.Tracks there.machine count 0 0 := by
    rw [hmachine]
    exact ⟨h.topic, rfl, h.pending, h.inFlight⟩
  obtain ⟨run', hall, hcalm', htracks', hd'⟩ := htracks.publishAll (Nat.le_refl 0)
    (by omega) (by simpa using hfits) hcalm (by rwa [hworld])
  rw [Nat.zero_add] at htracks' hd'
  refine ⟨run', ?_, hcalm', htracks', hd'⟩
  have hdrain : there.drain Device.collaborators = (.ok (), run') := by
    have hcan : ConnectionState.connected.canPublish = true := rfl
    rw [Run.drain, htracks.state, if_pos hcan, htracks.pending]
    exact hall
  have hrelease : there.releaseQueue Device.collaborators = run' := by
    simp only [Run.releaseQueue, hdrain]
  rw [Run.handle_connected, if_pos hstate]
  exact hrelease

end Waits

/-- After all messages were acknowledged, `disconnect` raises `disconnected` at once. -/
theorem Tracks.disconnect (h : r.Tracks m 0 count count) (hd : r.Serves d count count count) :
    ∃ (run : Run Device (Hook κ)) (c : Connection),
      Run.disconnect Device.collaborators { machine := m, world := d } = (.ok (), run) ∧
      Trace.raised run.effects = [.disconnected] ∧ run.world.provider.session = none ∧
      run.world.provider.leaving = [c] ∧ c.due = [.disconnect] := by
  obtain ⟨d', c, asides, hdisconnect, hraised, hsession, hleaving, hdue⟩ := hd.disconnect
  let run : Run Device (Hook κ) := { machine := m, world := d }
  let asked := run.ask (Device.collaborators.disconnect d) .disconnect
  have hworld : (asked.2.enter .disconnecting).world = d' := congrArg Reply.world hdisconnect
  refine ⟨asked.2.enter .disconnecting, c, ?_, ?_, by rwa [hworld], by rwa [hworld], hdue⟩
  · have hcan : m.state.canStartDisconnect = true := by rw [h.state]; rfl
    have hasked : run.ask (Device.collaborators.disconnect run.world) .disconnect = (.ok (), asked.2) :=
      Prod.ext (congrArg Reply.result hdisconnect) rfl
    rw [Run.disconnect, if_pos hcan]
    simp only [run] at hasked
    simp only [hasked]
  · have heffects : (asked.2.enter .disconnecting).effects =
        asides.map .aside ++ [.disconnect (.ok ()),
          .aside (.remark (.transition m.deviceId m.state .disconnecting))] := by
      simp [asked, Run.ask, hdisconnect, Run.enter, Run.note, Run.emit, run]
    rw [heffects, Trace.raised_append, Trace.raised_map_aside, hraised]
    rfl

/-- The broker reads the connect packet and accepts the session, which raises `connected`. -/
theorem serves_accept (r : Row) {login : Login} (hsession : d.provider.session = some (.start login))
    (hnextId : d.provider.nextId = id 0) (hleaving : d.provider.leaving = []) :
    ∃ d₁ d₂ asides, d.readDue = (some (.connect login.connect), d₁) ∧
      d₁.onLink Connection.accept = (d₂, asides) ∧ notifications asides = [.connected] ∧
      r.Serves d₂ 0 0 0 := by
  obtain ⟨c, asides, haccept, hraised, hstreams⟩ := r.streams_accept login
  let d₁ : Device := { d with provider := { d.provider with
    session := some { Connection.start login with due := [] } } }
  refine ⟨d₁, _, asides, ?_, Device.onLink_of_alive (d := d₁) rfl rfl haccept, hraised,
    ⟨c, 0, rfl, hstreams⟩, hnextId, hleaving⟩
  simp only [Device.readDue, Provider.readDue, hsession]
  rfl

end Row
end HubLink.Session
