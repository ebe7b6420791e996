import HubLink.Command.Send
import HubLink.Proofs.Session.RowRun
import HubLink.Proofs.Task.Rest
import HubLink.Proofs.Task.Settling

namespace HubLink.Command

open Session Transport Mqtt

namespace Scene

theorem fails_eq_none (e : Effect (Hook Unit)) : fails e = none :=
  rfl

/-- A scene with a waiting task after `count` messages were sent, `acked` of them acknowledged, and
`packets` read. -/
structure Stands (s : Scene) (count acked : Nat) (packets : List Outgoing) : Prop where
  holds : s.handle.task.Holds []
  receipts : s.handle.receipts =
    List.replicate acked .acknowledged ++ List.replicate (count - acked) .waiting
  packets : s.packets = packets
  isClosed : s.isClosed = false
  isInterrupted : s.isInterrupted = false

/-- The machine is disconnected with no session, and the messages are queued. -/
structure Stays (s : Scene) (r : Row) (count : Nat) : Prop extends s.Stands count 0 [] where
  waits : r.Waits s.handle.task.machine count
  state : s.handle.task.machine.state = .disconnected
  session : s.handle.task.world.provider.session = none
  leaving : s.handle.task.world.provider.leaving = []

/-- The machine is connecting, the connect packet is due, and the messages are queued. -/
structure Dials (s : Scene) (r : Row) (login : Login) (count : Nat) : Prop
    extends s.Stands count 0 [] where
  waits : r.Waits s.handle.task.machine count
  state : s.handle.task.machine.state = .connecting
  session : s.handle.task.world.provider.session = some (.start login)
  nextId : s.handle.task.world.provider.nextId = Row.id 0
  leaving : s.handle.task.world.provider.leaving = []

/-- The connect packet and the publish packets of the first `count` messages. -/
def introduced (r : Row) (login : Login) (count : Nat) : List Outgoing :=
  .connect login.connect :: (List.range' 0 count).map r.packet

theorem introduced_append (r : Row) (login : Login) (count : Nat) :
    introduced r login count ++ [r.packet count] = introduced r login (count + 1) := by
  rw [introduced, introduced, List.range'_1_concat, List.map_append, Nat.zero_add]
  rfl

/-- The machine is connected and all messages were published; the broker has read and acknowledged
those before `acked`. -/
structure Flows (s : Scene) (r : Row) (login : Login) (count acked : Nat) : Prop
    extends s.Stands count acked (introduced r login acked) where
  acked_le : acked ≤ count
  tracks : r.Tracks s.handle.task.machine 0 count acked
  serves : r.Serves s.handle.task.world count acked acked

variable {r : Row} {login : Login} {s : Scene} {count acked : Nat} {packets : List Outgoing}

/-- Setting receipt `acked` extends the acknowledged receipts by one. -/
theorem set_receipts (h : acked < count) :
    (List.replicate acked Receipt.acknowledged ++ List.replicate (count - acked) Receipt.waiting).set
        acked .acknowledged =
      List.replicate (acked + 1) .acknowledged ++ List.replicate (count - (acked + 1)) .waiting := by
  obtain ⟨k, rfl⟩ := Nat.exists_eq_add_of_lt h
  rw [show acked + k + 1 - acked = k + 1 by omega, show acked + k + 1 - (acked + 1) = k by omega,
    List.set_append_right acked _ (by simp), List.length_replicate, Nat.sub_self, List.replicate_succ,
    List.set_cons_zero, List.replicate_succ', List.append_assoc]
  rfl

namespace Stands

theorem receipts_length (h : s.Stands count acked packets) (hle : acked ≤ count) :
    s.handle.receipts.length = count := by
  rw [h.receipts, List.length_append, List.length_replicate, List.length_replicate]
  omega

/-- A tracked send that succeeds calmly appends a waiting receipt. -/
theorem call (h : s.Stands count acked packets) (hle : acked ≤ count) {payload : Bytes}
    {run : Run Device (Hook Unit)} (hcalm : Calm run)
    (hsend : Run.send Device.collaborators payload (some (.receipt count))
      { machine := s.handle.task.machine, world := s.handle.task.world } = (.ok (), run)) :
    ∃ s', s.call (.sendTracked payload) = (.tracked count, s') ∧ s'.Stands (count + 1) acked packets ∧
      s'.handle.task.machine = run.machine ∧ s'.handle.task.world = run.world := by
  have hlength := h.receipts_length hle
  rw [← hlength] at hsend
  obtain ⟨h', seen, hcall, hholds, hmachine, hworld, hreceipts⟩ :=
    Handle.call_sendTracked fails_eq_none h.holds payload hsend hcalm.raised
  rw [hcalm.foldl_fill, h.receipts, List.append_assoc, ← List.replicate_succ',
    ← Nat.sub_add_comm hle] at hreceipts
  refine ⟨s.after h' seen, ?_, ⟨hholds, hreceipts, h.packets, h.isClosed, h.isInterrupted⟩, hmachine,
    hworld⟩
  rw [Scene.call, hcall, hlength]

/-- A change of the link that raises one notification, which raises nothing, leads to the scene after
that notification. -/
theorem onLink (h : s.Stands count acked packets) {change : Connection → Connection × List Aside}
    {d : Device} {asides : List Aside} {n : Notification}
    (hchange : s.handle.task.world.onLink change = (d, asides)) (hasides : notifications asides = [n])
    {run : Run Device (Hook Unit)}
    (hhandle : Run.handle Device.collaborators n { machine := s.handle.task.machine, world := d } = run)
    (hraised : Trace.raised run.effects = []) {acked' : Nat}
    (hreceipts : (run.effects.map .effect).foldl Handle.fill s.handle.receipts =
      List.replicate acked' .acknowledged ++ List.replicate (count - acked') .waiting) :
    (s.onLink change).Stands count acked' packets ∧
      (s.onLink change).handle.task.machine = run.machine ∧
      (s.onLink change).handle.task.world = run.world := by
  obtain ⟨h', seen, houtside, hholds, hmachine, hworld, hfill⟩ :=
    Handle.outside_notification fails_eq_none h.holds hchange hasides hhandle hraised
  rw [Scene.onLink, houtside]
  exact ⟨⟨hholds, hfill.trans hreceipts, h.packets, h.isClosed, h.isInterrupted⟩, hmachine, hworld⟩

theorem read (h : s.Stands count acked packets) (packet : Outgoing) (d : Device) :
    (s.read packet d).Stands count acked (packets ++ [packet]) :=
  ⟨⟨h.holds.phase, h.holds.mailbox, h.holds.commands, h.holds.isOpen⟩, h.receipts,
    congrArg (· ++ [packet]) h.packets, h.isClosed, h.isInterrupted⟩

end Stands

/-- One step of `serve` with a due packet reads it and applies the reactions. -/
theorem serve_succ {packet : Outgoing} {d : Device} (hopen : s.isClosed = false)
    (hread : s.handle.task.world.readDue = (some packet, d)) (b : Broker) (n : Nat) :
    serve b (n + 1) s = serve b n ((b.react s.messages packet).foldl react (s.read packet d)) := by
  simp only [serve, hopen, hread]
  rfl

theorem serve_of_none {d : Device} (hopen : s.isClosed = false)
    (hread : s.handle.task.world.readDue = (none, d)) (b : Broker) (n : Nat) : serve b n s = s := by
  cases n with
  | zero => rfl
  | succ n =>
    simp only [serve, hopen, hread]
    rfl

namespace Stays

/-- Under policy `never`, a tracked send queues the message. -/
theorem call (h : s.Stays r count) (hpolicy : s.handle.task.machine.policy = .never) :
    ∃ s', s.call (.sendTracked (r.payload count)) = (.tracked count, s') ∧ s'.Stays r (count + 1) ∧
      s'.handle.task.machine.policy = .never := by
  obtain ⟨run, hsend, hcalm, hwaits, hstate, hpolicy', hworld⟩ :=
    h.waits.send (.inr ⟨h.state, hpolicy⟩) s.handle.task.world
  obtain ⟨s', hcall, hstands, hmachine, hworld'⟩ := h.toStands.call (Nat.zero_le count) hcalm hsend
  refine ⟨s', hcall, ⟨hstands, ?_, ?_, ?_, ?_⟩, ?_⟩
  · rwa [hmachine]
  · rw [hmachine, hstate, h.state]
  · rw [hworld', hworld, h.session]
  · rw [hworld', hworld, h.leaving]
  · rw [hmachine, hpolicy', hpolicy]

/-- Under policy `onSend`, the first tracked send makes a connect request. -/
theorem dial (h : s.Stays r 0) (hpolicy : s.handle.task.machine.policy = .onSend)
    {token : Credential.Token}
    (htoken : s.handle.task.world.signer.signNow s.handle.task.world.now = .ok token)
    (hlogin : s.handle.task.world.provider.options.login? token.text = some login)
    (hnextId : s.handle.task.world.provider.nextId = Row.id 0) :
    ∃ s', s.call (.sendTracked (r.payload 0)) = (.tracked 0, s') ∧ s'.Dials r login 1 := by
  obtain ⟨run, hsend, hcalm, hwaits, hstate, hworld⟩ := h.waits.dial h.state hpolicy htoken hlogin
  obtain ⟨s', hcall, hstands, hmachine, hworld'⟩ := h.toStands.call (Nat.le_refl 0) hcalm hsend
  refine ⟨s', hcall, hstands, ?_, ?_, ?_, ?_, ?_⟩
  · rwa [hmachine]
  · rw [hmachine, hstate]
  · rw [hworld', hworld]
  · rw [hworld', hworld]
    exact hnextId
  · rw [hworld', hworld]
    exact h.leaving

theorem serve (h : s.Stays r count) (b : Broker) (n : Nat) : Scene.serve b n s = s := by
  refine serve_of_none (d := { s.handle.task.world with
    provider := { s.handle.task.world.provider with leaving := [] } }) h.isClosed ?_ b n
  simp [Device.readDue, Provider.readDue, h.session, h.leaving]

end Stays

namespace Dials

theorem call (h : s.Dials r login count) :
    ∃ s', s.call (.sendTracked (r.payload count)) = (.tracked count, s') ∧
      s'.Dials r login (count + 1) := by
  obtain ⟨run, hsend, hcalm, hwaits, hstate, -, hworld⟩ :=
    h.waits.send (.inl h.state) s.handle.task.world
  obtain ⟨s', hcall, hstands, hmachine, hworld'⟩ := h.toStands.call (Nat.zero_le count) hcalm hsend
  refine ⟨s', hcall, hstands, ?_, ?_, ?_, ?_, ?_⟩
  · rwa [hmachine]
  · rw [hmachine, hstate, h.state]
  · rw [hworld', hworld, h.session]
  · rw [hworld', hworld, h.nextId]
  · rw [hworld', hworld, h.leaving]

/-- Reading the connect packet accepts the session, and all queued messages are published. -/
theorem serve (h : s.Dials r login count) (hcount : count ≤ UInt64.size)
    (hfits : ∀ i < count, r.Fits i) (n : Nat) :
    ∃ s', Scene.serve .acknowledges (n + 1) s = Scene.serve .acknowledges n s' ∧
      s'.Flows r login count 0 := by
  obtain ⟨d₁, d₂, asides, hread, haccept, hraised, hserves⟩ :=
    Row.serves_accept r h.session h.nextId h.leaving
  obtain ⟨run, hhandle, hcalm, htracks, hserves'⟩ :=
    h.waits.handle_connected h.state hcount hfits hserves
  have hread' := h.toStands.read (.connect login.connect) d₁
  obtain ⟨hstands, hmachine, hworld⟩ := hread'.onLink haccept hraised hhandle hcalm.raised
    (by rw [hcalm.foldl_fill, hread'.receipts])
  refine ⟨_, ?_, hstands, Nat.zero_le count, ?_, ?_⟩
  · exact serve_succ h.isClosed hread .acknowledges n
  · rwa [hmachine]
  · rwa [hworld]

end Dials

namespace Flows

theorem call (h : s.Flows r login count acked) (hcount : count < UInt64.size)
    (hfits : ∀ i < count + 1, r.Fits i) :
    ∃ s', s.call (.sendTracked (r.payload count)) = (.tracked count, s') ∧
      s'.Flows r login (count + 1) acked := by
  obtain ⟨run, hsend, hcalm, htracks, hserves⟩ := h.tracks.send h.acked_le hcount h.serves hfits
  obtain ⟨s', hcall, hstands, hmachine, hworld⟩ := h.toStands.call h.acked_le hcalm hsend
  refine ⟨s', hcall, hstands, Nat.le_succ_of_le h.acked_le, ?_, ?_⟩
  · rwa [hmachine]
  · rwa [hworld]

/-- Reading the next publish packet acknowledges its message. -/
theorem serve (h : s.Flows r login count acked) (hacked : acked < count)
    (hcount : count ≤ UInt64.size) (hfits : ∀ i < count, r.Fits i) (n : Nat) :
    ∃ s', Scene.serve .acknowledges (n + 1) s = Scene.serve .acknowledges n s' ∧
      s'.Flows r login count (acked + 1) := by
  obtain ⟨d₁, hread, hserves⟩ := h.serves.readDue hacked
  obtain ⟨d₂, asides, hreceive, hraised, hserves'⟩ := hserves.receive hfits
  obtain ⟨run, hhandle, hcalm, hfill, htracks, hworld⟩ := h.tracks.handle_published hacked hcount d₂
  have hread' := h.toStands.read (r.packet acked) d₁
  obtain ⟨hstands, hmachine, hworld'⟩ := hread'.onLink hreceive hraised hhandle hcalm
    (by rw [hfill, hread'.receipts, set_receipts hacked])
  rw [introduced_append] at hstands
  refine ⟨_, ?_, hstands, hacked, ?_, ?_⟩
  · exact serve_succ h.isClosed hread .acknowledges n
  · rwa [hmachine]
  · rwa [hworld', hworld]

theorem serve_all (h : s.Flows r login count count) (b : Broker) (n : Nat) : Scene.serve b n s = s :=
  serve_of_none h.isClosed h.serves.readDue_none b n

end Flows

/-- The scene dials or flows. -/
def IsUnderWay (s : Scene) (r : Row) (login : Login) (count : Nat) : Prop :=
  s.Dials r login count ∨ ∃ acked, s.Flows r login count acked

namespace IsUnderWay

theorem call (h : s.IsUnderWay r login count) (hcount : count < UInt64.size)
    (hfits : ∀ i < count + 1, r.Fits i) :
    ∃ s', s.call (.sendTracked (r.payload count)) = (.tracked count, s') ∧
      s'.IsUnderWay r login (count + 1) := by
  obtain hdials | ⟨acked, hflows⟩ := h
  · obtain ⟨s', hcall, hdials'⟩ := hdials.call
    exact ⟨s', hcall, .inl hdials'⟩
  · obtain ⟨s', hcall, hflows'⟩ := hflows.call hcount hfits
    exact ⟨s', hcall, .inr ⟨acked, hflows'⟩⟩

end IsUnderWay

namespace Flows

/-- From a scene that flows, `serve n` acknowledges the next `n` messages, or all if there are
fewer. -/
theorem serve_run (h : s.Flows r login count acked) (hcount : count ≤ UInt64.size)
    (hfits : ∀ i < count, r.Fits i) (n : Nat) :
    (Scene.serve .acknowledges n s).Flows r login count (min count (acked + n)) := by
  induction n generalizing s acked with
  | zero =>
    rw [Nat.add_zero, Nat.min_eq_right h.acked_le]
    exact h
  | succ n ih =>
    -- Once all messages are acknowledged the broker reads nothing more, however often it looks.
    obtain rfl | hacked := Nat.eq_or_lt_of_le h.acked_le
    · rw [h.serve_all, Nat.min_eq_left (Nat.le_add_right _ _)]
      exact h
    · obtain ⟨s', hserve, hflows⟩ := h.serve hacked hcount hfits n
      rw [hserve, Nat.add_comm n, ← Nat.add_assoc]
      exact ih hflows

end Flows

namespace IsUnderWay

/-- Reading any number of packets keeps the messages under way. -/
theorem serve (h : s.IsUnderWay r login count) (hcount : count ≤ UInt64.size)
    (hfits : ∀ i < count, r.Fits i) (n : Nat) :
    (Scene.serve .acknowledges n s).IsUnderWay r login count := by
  obtain hdials | ⟨acked, hflows⟩ := h
  · cases n with
    | zero => exact .inl hdials
    | succ n =>
      obtain ⟨s', hserve, hflows⟩ := hdials.serve hcount hfits n
      rw [hserve]
      exact .inr ⟨_, hflows.serve_run hcount hfits n⟩
  · exact .inr ⟨_, hflows.serve_run hcount hfits n⟩

/-- Reading more than `count` packets acknowledges all messages. -/
theorem serve_all (h : s.IsUnderWay r login count) (hcount : count ≤ UInt64.size)
    (hfits : ∀ i < count, r.Fits i) {n : Nat} (hn : count < n) :
    (Scene.serve .acknowledges n s).Flows r login count count := by
  obtain hdials | ⟨acked, hflows⟩ := h
  · obtain ⟨n, rfl⟩ := Nat.exists_eq_add_of_lt hn
    obtain ⟨s', hserve, hflows⟩ := hdials.serve hcount hfits (count + n)
    have hall := hflows.serve_run hcount hfits (count + n)
    rw [Nat.zero_add, Nat.min_eq_left (Nat.le_add_right count n)] at hall
    rwa [hserve]
  · have hall := hflows.serve_run hcount hfits n
    rwa [Nat.min_eq_left (by omega)] at hall

/-- Messages under way stay so while further messages are sent, whatever the broker reads in
between. -/
theorem submit (h : s.IsUnderWay r login count) {messages : List String}
    (hpayload : ∀ i message, messages[i]? = some message → r.payload (count + i) = Text.utf8 message)
    (hcount : count + messages.length ≤ UInt64.size)
    (hfits : ∀ i < count + messages.length, r.Fits i) (pauses : List Nat) :
    ∃ s', Scene.submit (.broker .acknowledges) pauses messages s = (.ok (), s') ∧
      s'.IsUnderWay r login (count + messages.length) := by
  induction messages generalizing s count pauses with
  | nil => exact ⟨s, rfl, h⟩
  | cons message rest ih =>
    rw [List.length_cons] at hcount hfits
    obtain ⟨s₁, hcall, h₁⟩ := h.call (by omega) fun i hi => hfits i (by omega)
    have hfirst : r.payload count = Text.utf8 message := hpayload 0 message rfl
    rw [hfirst] at hcall
    -- Whatever the broker reads behind this message, the messages stay under way.
    obtain ⟨s', hsubmit, h'⟩ := ih (h₁.serve (by omega) (fun i hi => hfits i (by omega)) (pauses.headD 0))
      (fun i next hnext => by
        rw [Nat.add_assoc, Nat.add_comm 1]
        exact hpayload (i + 1) next hnext)
      (by omega) (fun i hi => hfits i (by omega)) pauses.tail
    refine ⟨s', ?_, by rwa [List.length_cons, Nat.add_comm rest.length, ← Nat.add_assoc]⟩
    simp only [Scene.submit, hcall]
    exact hsubmit

end IsUnderWay

namespace Stays

/-- Under policy `never`, all messages are queued, for every broker. -/
theorem submit (h : s.Stays r count) (hpolicy : s.handle.task.machine.policy = .never)
    {messages : List String}
    (hpayload : ∀ i message, messages[i]? = some message → r.payload (count + i) = Text.utf8 message)
    (b : Broker) (pauses : List Nat) :
    ∃ s', Scene.submit (.broker b) pauses messages s = (.ok (), s') ∧
      s'.Stays r (count + messages.length) := by
  induction messages generalizing s count pauses with
  | nil => exact ⟨s, rfl, h⟩
  | cons message rest ih =>
    obtain ⟨s₁, hcall, h₁, hpolicy₁⟩ := h.call hpolicy
    have hfirst : r.payload count = Text.utf8 message := hpayload 0 message rfl
    rw [hfirst] at hcall
    obtain ⟨s', hsubmit, h'⟩ := ih h₁ hpolicy₁
      (fun i next hnext => by
        rw [Nat.add_assoc, Nat.add_comm 1]
        exact hpayload (i + 1) next hnext)
      pauses.tail
    refine ⟨s', ?_, by rwa [List.length_cons, Nat.add_comm rest.length, ← Nat.add_assoc]⟩
    simp only [Scene.submit, hcall, settle, h₁.serve]
    exact hsubmit

end Stays

/-- The scene before the first message, with the observers set. -/
structure Starts (s : Scene) (config : Config) (signer : Credential.Signer) (now : Int64) : Prop where
  phase : s.handle.task.phase = .created ∨ s.handle.task.phase = .running
  holds : Task.Holds { s.handle.task with phase := .running } []
  machine : ∃ observers, s.handle.task.machine = { machineOf config signer with observers }
  world : s.handle.task.world = { provider := { options := .ofConfig config signer }, signer, now }
  receipts : s.handle.receipts = []
  packets : s.packets = []
  isClosed : s.isClosed = false
  isInterrupted : s.isInterrupted = false

namespace Starts

variable {config : Config} {signer : Credential.Signer} {now : Int64}

theorem observe (h : s.Starts config signer now) (occasion : Occasion) :
    (s.call (.observe occasion ())).2.Starts config signer now ∧
      (s.call (.observe occasion ())).2.handle.task.phase = .running := by
  obtain ⟨seen, hcall⟩ := Handle.call_observe fails Device.collaborators h.phase h.holds
    occasion ()
  obtain ⟨observers, hmachine⟩ := h.machine
  have hholds := h.holds
  rw [call, hcall]
  refine ⟨⟨.inr rfl, ⟨rfl, hholds.mailbox, hholds.commands, hholds.isOpen⟩, ?_, h.world, h.receipts,
    h.packets, h.isClosed, h.isInterrupted⟩, rfl⟩
  exact ⟨observers.set occasion (.own ()), by simp only [after, hmachine]⟩

theorem observeAll (h : s.Starts config signer now) (occasions : List Occasion)
    (hphase : occasions ≠ [] ∨ s.handle.task.phase = .running) :
    (occasions.foldl (fun s occasion => (s.call (.observe occasion ())).2) s).Starts config signer now ∧
      (occasions.foldl (fun s occasion => (s.call (.observe occasion ())).2) s).handle.task.phase =
        .running := by
  induction occasions generalizing s with
  | nil => exact ⟨h, hphase.resolve_left fun hne => hne rfl⟩
  | cons occasion rest ih => exact ih (h.observe occasion).1 (.inr (h.observe occasion).2)

/-- A starting scene has no queued message. -/
theorem stays (h : s.Starts config signer now) (hphase : s.handle.task.phase = .running) {r : Row}
    (htopic : telemetryTopic signer.deviceId = r.topic) : s.Stays r 0 := by
  obtain ⟨observers, hmachine⟩ := h.machine
  have hholds := h.holds
  refine ⟨⟨⟨hphase, hholds.mailbox, hholds.commands, hholds.isOpen⟩, h.receipts, h.packets, h.isClosed,
    h.isInterrupted⟩, ?_, ?_, ?_, ?_⟩
  · rw [hmachine]
    exact ⟨htopic, rfl, rfl⟩
  · rw [hmachine]
    rfl
  · rw [h.world]
  · rw [h.world]

end Starts

theorem starts_start (config : Config) (signer : Credential.Signer) (now : Int64) :
    (start config signer now).Starts config signer now ∧
      (start config signer now).handle.task.phase = .running := by
  obtain ⟨first, hfirst, hstart⟩ : ∃ first : Scene, first.Starts config signer now ∧
      start config signer now =
        observed.foldl (fun s occasion => (s.call (.observe occasion ())).2) first :=
    ⟨{ handle := .ofMachine (machineOf config signer)
        { provider := { options := .ofConfig config signer }, signer, now } 0 },
      ⟨.inl rfl, ⟨rfl, rfl, rfl, rfl⟩, ⟨{}, rfl⟩, rfl, rfl, rfl, rfl, rfl⟩, rfl⟩
  rw [hstart]
  exact hfirst.observeAll observed (.inl nofun)

theorem warnOf_eq (context : String) (result : Transport.Outcome × Scene) :
    ∃ log, warnOf context result = { result.2 with log } := by
  unfold warnOf
  split
  · exact ⟨_, rfl⟩
  · exact ⟨_, rfl⟩

/-- The packets of `finish` are those read after the disconnect request. -/
theorem packets_finish {outcome : Transport.Outcome} {h' : Handle Device Unit}
    {seen : List (Happening (Hook Unit))}
    (hcall : s.handle.call fails Device.collaborators (.request .disconnect) = (outcome, h', seen))
    (network : Network) (n : Nat) :
    ∃ told : Scene, (s.finish network n).packets = (settle network n told).packets ∧
      told.handle = h' ∧ told.packets = s.packets ∧ told.isClosed = s.isClosed := by
  have htold : s.call (.request .disconnect) = (outcome, s.after h' seen) := by rw [call, hcall]
  obtain ⟨log, hlog⟩ := warnOf_eq "Disconnect failed: " (s.call (.request .disconnect))
  obtain ⟨log', hlog'⟩ := warnOf_eq "" (call
    (settle network n (warnOf "Disconnect failed: " (s.call (.request .disconnect))))
    (.wait .disconnected endTimeout))
  refine ⟨warnOf "Disconnect failed: " (s.call (.request .disconnect)), ?_, ?_⟩
  · simp only [finish, hlog']
    rfl
  · rw [hlog, htold]
    exact ⟨rfl, rfl, rfl⟩

/-- From a scene that flows with all messages acknowledged, `finish` sends the disconnect packet. -/
theorem Flows.packets_finish (h : s.Flows r login count count) (n : Nat) :
    (s.finish (.broker .acknowledges) (n + 1)).packets = introduced r login count ++ [.disconnect] := by
  obtain ⟨run, c, hdisconnect, hraised, hsession, hleaving, hdue⟩ := h.tracks.disconnect h.serves
  have hquiet : raisedIn (Bare.takeAll Device.collaborators ⟨run.machine, run.world, []⟩
      ([.disconnected].map .notification)).seen = [] := by
    change raisedIn ([] ++ (Run.handle Device.collaborators .disconnected _).effects.map .effect) = []
    rw [List.nil_append, raisedIn_effects, Run.raised_handle_disconnected]
    rfl
  have hperform : s.handle.task.run.perform Device.collaborators (Handle.ownRequest .disconnect) =
      (.ok (), run) := hdisconnect
  obtain ⟨h', seen, hcall, -, hworld⟩ := Handle.call_request fails_eq_none h.holds hperform
    hraised (Nat.le_refl 1) hquiet
  have hdevice : h'.task.world = run.world :=
    hworld.trans (Run.world_handle_disconnected Device.collaborators _)
  obtain ⟨told, hfinish, hhandle, hpackets, hclosed⟩ := Scene.packets_finish hcall
    (.broker .acknowledges) (n + 1)
  -- The session is now one of those asked to end; its due packets are read from there.
  let gone : Device := { run.world with
    provider := { run.world.provider with leaving := [{ c with due := [] }] } }
  have hread : told.handle.task.world.readDue = (some .disconnect, gone) := by
    simp [hhandle, hdevice, Device.readDue, Provider.readDue, hsession, hleaving, hdue,
      Connection.readDue, gone]
  have hnone : gone.readDue = (none, { gone with
      provider := { gone.provider with
        leaving := gone.provider.leaving.filter Connection.isAlive } }) := by
    simp [Device.readDue, Provider.readDue, gone, hsession]
  rw [h.isClosed] at hclosed
  let last : Scene := told.read .disconnect gone
  have hlast : Scene.serve .acknowledges n last = last :=
    serve_of_none (s := last) hclosed hnone .acknowledges n
  have hserve : Scene.serve .acknowledges (n + 1) told = Scene.serve .acknowledges n last :=
    serve_succ hclosed hread .acknowledges n
  have hend : last.packets = told.packets ++ [.disconnect] := rfl
  rw [hfinish, settle, hserve, hlast, hend, hpackets, h.packets]

/-- From a scene without a connection, `finish` sends nothing. -/
theorem Stays.packets_finish (h : s.Stays r count) (b : Broker) (n : Nat) :
    (s.finish (.broker b) n).packets = [] := by
  let run : Run Device (Hook Unit) :=
    s.handle.task.run.note (.disconnectIgnored s.handle.task.machine.state)
  have hcannot : s.handle.task.run.machine.state.canStartDisconnect = false := by
    rw [show s.handle.task.run.machine.state = .disconnected from h.state]
    rfl
  have hperform : s.handle.task.run.perform Device.collaborators (Handle.ownRequest .disconnect) =
      (.ok (), run) := if_neg (by simp [hcannot])
  have hraised : Trace.raised run.effects = [] := rfl
  obtain ⟨h', seen, hcall, -, hworld⟩ := Handle.call_request fails_eq_none h.holds hperform
    hraised (Nat.zero_le 1) rfl
  obtain ⟨told, hfinish, hhandle, hpackets, hclosed⟩ := Scene.packets_finish hcall (.broker b) n
  have hread : told.handle.task.world.readDue = (none, { s.handle.task.world with
      provider := { s.handle.task.world.provider with leaving := [] } }) := by
    have hsame : told.handle.task.world = s.handle.task.world := by
      rw [hhandle]
      exact hworld
    simp [hsame, Device.readDue, Provider.readDue, h.session, h.leaving]
  rw [h.isClosed] at hclosed
  rw [hfinish, settle, serve_of_none hclosed hread, hpackets, h.packets]

theorem Flows.conclude (h : s.Flows r login count count) (seconds : UInt64) :
    (s.conclude seconds).1 = .ok () ∧ (s.conclude seconds).2.Flows r login count count := by
  have hreceipts : s.handle.receipts = List.replicate count .acknowledged := by
    rw [h.receipts, Nat.sub_self]
    exact List.append_nil _
  have hnone : s.handle.receipts.contains .waiting = false := by
    simp [hreceipts, List.mem_replicate]
  have hall : s.acknowledged = s.handle.receipts.length := by
    simp [acknowledged, hreceipts]
  unfold Scene.conclude
  simp only [hnone, hall, if_true]
  exact ⟨rfl, ⟨h.holds, h.receipts, h.packets, h.isClosed, h.isInterrupted⟩, h.acked_le, h.tracks,
    h.serves⟩

theorem Stays.conclude (h : s.Stays r count) (hcount : 0 < count) (seconds : UInt64) :
    s.conclude seconds = (.error (.timedOut seconds), s) := by
  have hwaiting : s.handle.receipts.contains .waiting = true := by
    simp [h.receipts, List.mem_replicate, Nat.ne_of_gt hcount]
  unfold Scene.conclude
  simp only [hwaiting, h.isInterrupted, if_true]
  rfl

end Scene
end HubLink.Command
