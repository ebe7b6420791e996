import HubLink.Proofs.Command.Loading
import HubLink.Proofs.Command.Stages

namespace HubLink.Command

open Session Transport Mqtt

/-- The publish packets of messages for a topic, in order. -/
def packetsOf (topic : String) (messages : List String) : List Outgoing :=
  messages.mapIdx fun i message =>
    .publish { topic, payload := Text.utf8 message, packetId := i % windowSize + 1 }

/-- The messages of a command as a row. -/
def rowOf (topic : String) (messages : List String) : Row where
  topic := topic
  payload i := Text.utf8 (messages.getD i "")

theorem payload_rowOf {topic : String} {messages : List String} {i : Nat} {message : String}
    (h : messages[i]? = some message) : (rowOf topic messages).payload i = Text.utf8 message := by
  simp [rowOf, h]

theorem map_packet_rowOf (topic : String) (messages : List String) :
    (List.range' 0 messages.length).map (rowOf topic messages).packet = packetsOf topic messages := by
  refine List.ext_getElem (by simp [packetsOf]) fun i hi hi' => ?_
  have hlt : i < messages.length := by simpa [packetsOf] using hi'
  simp [packetsOf, Row.packet, rowOf, Row.packetId, hlt]

theorem fits_rowOf {topic : String} {messages : List String}
    (hfits : ∀ message ∈ messages, messageSize topic (Text.utf8 message) ≤ maxPacketSize) :
    ∀ i < messages.length, (rowOf topic messages).Fits i := by
  intro i hi
  have hget : messages[i]? = some messages[i] := List.getElem?_eq_getElem hi
  rw [Row.Fits, payload_rowOf hget]
  exact hfits _ (List.getElem_mem hi)

/-- After all messages were sent and with `seconds ≠ 0`, the result of `sendOver` is that of the
settled scene. -/
theorem sendOver_eq {network : Network} {pauses : List Nat} {config : Config}
    {signer : Credential.Signer} {now : Int64} {messages : List String} {s : Scene}
    (hsubmit : Scene.submit network pauses messages (.start config signer now) = (.ok (), s))
    {seconds : UInt64} (hseconds : seconds ≠ 0) :
    sendOver network pauses config signer now messages seconds =
      (((s.settle network (messages.length + 3)).conclude seconds).1,
        ((s.settle network (messages.length + 3)).conclude seconds).2.finish network
          (messages.length + 3)) := by
  simp only [sendOver, hsubmit, if_neg hseconds]

section

variable {config : Config} {signer : Credential.Signer} {messages : List String} {now : Int64}
  {seconds : UInt64}

/-- If `connect_on_send` is set, sending all messages leaves them under way. -/
theorem submit_of_onSend (hpolicy : config.transport.connectOnSend = true)
    {token : Credential.Token} (htoken : signer.signNow now = .ok token)
    (hname : signer.deviceId ≠ "") (hmessages : messages ≠ [])
    (hcount : messages.length ≤ UInt64.size)
    (hfits : ∀ message ∈ messages,
      messageSize (telemetryTopic signer.deviceId) (Text.utf8 message) ≤ maxPacketSize)
    (pauses : List Nat) :
    ∃ (login : Login) (s : Scene), (Options.ofConfig config signer).login? token.text = some login ∧
      Scene.submit (.broker .acknowledges) pauses messages (.start config signer now) = (.ok (), s) ∧
      s.IsUnderWay (rowOf (telemetryTopic signer.deviceId) messages) login messages.length := by
  obtain ⟨first, rest, rfl⟩ := List.exists_cons_of_ne_nil hmessages
  let r := rowOf (telemetryTopic signer.deviceId) (first :: rest)
  have hlogin : ∃ login, (Options.ofConfig config signer).login? token.text = some login :=
    ⟨_, if_neg hname⟩
  obtain ⟨login, hlogin⟩ := hlogin
  obtain ⟨hstarts, hphase⟩ := Scene.starts_start config signer now
  -- From here on only what is known of the first scene counts, not how it is made.
  generalize Scene.start config signer now = s₀ at hstarts hphase ⊢
  obtain ⟨observers, hmachine⟩ := hstarts.machine
  have honSend : s₀.handle.task.machine.policy = .onSend := by
    rw [hmachine]
    simp [machineOf, hpolicy, ConnectPolicy.ofFlag]
  have htoken' : s₀.handle.task.world.signer.signNow s₀.handle.task.world.now = .ok token := by
    rwa [hstarts.world]
  have hlogin' : s₀.handle.task.world.provider.options.login? token.text = some login := by
    rwa [hstarts.world]
  have hnextId : s₀.handle.task.world.provider.nextId = Row.id 0 := by
    rw [hstarts.world]
    rfl
  obtain ⟨s₁, hcall, hdials⟩ := (hstarts.stays hphase (r := r) rfl).dial honSend htoken' hlogin' hnextId
  have hfits' : ∀ i < rest.length + 1, r.Fits i := fits_rowOf hfits
  rw [List.length_cons] at hcount
  have hfirst : s₁.IsUnderWay r login 1 := .inl hdials
  have hrest (i : Nat) (message : String) (hmessage : rest[i]? = some message) :
      r.payload (1 + i) = Text.utf8 message :=
    payload_rowOf (by simpa [Nat.add_comm] using hmessage)
  obtain ⟨s, hsubmit, hunderWay⟩ :=
    (hfirst.serve (by omega) (fun i hi => hfits' i (by omega)) (pauses.headD 0)).submit hrest (by omega)
      (fun i hi => hfits' i (by omega)) pauses.tail
  refine ⟨login, s, hlogin, ?_, by rwa [Nat.add_comm] at hunderWay⟩
  have hpayload : r.payload 0 = Text.utf8 first := rfl
  rw [hpayload] at hcall
  simp only [Scene.submit, hcall]
  exact hsubmit

/-- If `connect_on_send` is set, all messages are published in order and `sendOver` succeeds, whatever
number of packets the broker reads between the sends. -/
theorem sendOver_of_onSend (hpolicy : config.transport.connectOnSend = true)
    {token : Credential.Token} (htoken : signer.signNow now = .ok token)
    (hname : signer.deviceId ≠ "") (hmessages : messages ≠ [])
    (hcount : messages.length ≤ UInt64.size)
    (hfits : ∀ message ∈ messages,
      messageSize (telemetryTopic signer.deviceId) (Text.utf8 message) ≤ maxPacketSize)
    (pauses : List Nat) (hseconds : seconds ≠ 0) :
    ∃ login : Login, (Options.ofConfig config signer).login? token.text = some login ∧
      (sendOver (.broker .acknowledges) pauses config signer now messages seconds).1 = .ok () ∧
      (sendOver (.broker .acknowledges) pauses config signer now messages seconds).2.packets =
        .connect login.connect :: packetsOf (telemetryTopic signer.deviceId) messages ++
          [.disconnect] := by
  obtain ⟨login, s, hlogin, hsubmit, hunderWay⟩ :=
    submit_of_onSend hpolicy htoken hname hmessages hcount hfits pauses
  have hflows := hunderWay.serve_all hcount (fits_rowOf hfits) (n := messages.length + 3) (by omega)
  obtain ⟨hok, hflows'⟩ := hflows.conclude seconds
  have hpackets := hflows'.packets_finish (messages.length + 2)
  have hsettle : s.settle (.broker .acknowledges) (messages.length + 3) =
      Scene.serve .acknowledges (messages.length + 3) s := rfl
  rw [sendOver_eq hsubmit hseconds, hsettle]
  refine ⟨login, hlogin, hok, hpackets.trans ?_⟩
  rw [Scene.introduced, map_packet_rowOf]

/-- If `connect_on_send` is not set, no packet is sent and `sendOver` times out, for every broker. -/
theorem sendOver_of_never (hpolicy : config.transport.connectOnSend = false) (hmessages : messages ≠ [])
    (b : Broker) (pauses : List Nat) (now : Int64) (hseconds : seconds ≠ 0) :
    (sendOver (.broker b) pauses config signer now messages seconds).1 = .error (.timedOut seconds) ∧
      (sendOver (.broker b) pauses config signer now messages seconds).2.packets = [] := by
  obtain ⟨hstarts, hphase⟩ := Scene.starts_start config signer now
  obtain ⟨observers, hmachine⟩ := hstarts.machine
  have hnever : (Scene.start config signer now).handle.task.machine.policy = .never := by
    rw [hmachine]
    simp [machineOf, hpolicy, ConnectPolicy.ofFlag]
  let r := rowOf (telemetryTopic signer.deviceId) messages
  have hpayload (i : Nat) (message : String) (hmessage : messages[i]? = some message) :
      r.payload (0 + i) = Text.utf8 message := by
    rw [Nat.zero_add]
    exact payload_rowOf hmessage
  obtain ⟨s, hsubmit, hstays⟩ :=
    (hstarts.stays hphase (r := r) rfl).submit hnever hpayload b pauses
  rw [Nat.zero_add] at hstays
  have hsettle : s.settle (.broker b) (messages.length + 3) = s := hstays.serve b _
  have hconclude := hstays.conclude (List.length_pos_iff.2 hmessages) seconds
  have hpackets := hstays.packets_finish b (messages.length + 3)
  rw [sendOver_eq hsubmit hseconds, hsettle, hconclude]
  exact ⟨rfl, hpackets⟩

/-- A loaded configuration has a signer with a device id that is not empty. -/
theorem signer_of_load {s : Surroundings} {a : Arguments} (h : load s a = .ok config) :
    ∃ signer, config.signer s.env = .ok signer ∧ signer.deviceId ≠ "" := by
  obtain ⟨-, -, signer, hsigner⟩ := load_eq_ok_iff.1 h
  obtain ⟨text, c, -, hparse, rfl⟩ := Config.signer_eq_ok_iff.1 hsigner
  exact ⟨_, hsigner, c.deviceId_ne_empty hparse⟩

/-- A signer with a key that can be decoded signs a token at any time. -/
theorem exists_token
    (hkey : (Credential.Token.keyBytes? signer.connectionString.sharedAccessKey).isSome) (now : Int64) :
    ∃ token, signer.signNow now = .ok token := by
  obtain ⟨bytes, hbytes⟩ := Option.isSome_iff_exists.1 hkey
  simp only [Credential.Signer.signNow, Credential.Signer.sign, Credential.Token.sign, hbytes]
  exact ⟨_, rfl⟩

/-- For every loaded configuration whose key can be decoded, for at most `2 ^ 64` messages that fit
into packets, and for a broker that accepts the session and acknowledges each message within the time
limit: `sendOver` succeeds exactly if `connect_on_send` is set. Then each message is published once,
in the given order; otherwise no packet is sent. -/
theorem delivers_iff_connectOnSend {s : Surroundings} {a : Arguments} {config : Config}
    (hload : load s a = .ok config) :
    ∃ signer, config.signer s.env = .ok signer ∧
      ((Credential.Token.keyBytes? signer.connectionString.sharedAccessKey).isSome →
      ∀ (pauses : List Nat) (messages : List String) (seconds : UInt64),
        messages ≠ [] → messages.length ≤ UInt64.size → seconds ≠ 0 →
        (∀ message ∈ messages,
          messageSize (telemetryTopic signer.deviceId) (Text.utf8 message) ≤ maxPacketSize) →
        let sent := sendOver (.broker .acknowledges) pauses config signer s.now messages seconds
        (sent.1 = .ok () ↔ config.transport.connectOnSend = true) ∧
        (config.transport.connectOnSend = true → ∃ token login,
          signer.signNow s.now = .ok token ∧
          (Options.ofConfig config signer).login? token.text = some login ∧
          sent.2.packets = .connect login.connect ::
            packetsOf (telemetryTopic signer.deviceId) messages ++ [.disconnect]) ∧
        (config.transport.connectOnSend = false →
          sent.1 = .error (.timedOut seconds) ∧ sent.2.packets = [])) := by
  obtain ⟨signer, hsigner, hname⟩ := signer_of_load hload
  refine ⟨signer, hsigner, fun hkey pauses messages seconds hmessages hcount hseconds hfits => ?_⟩
  intro sent
  cases hpolicy : config.transport.connectOnSend with
  | true =>
    obtain ⟨token, htoken⟩ := exists_token hkey s.now
    obtain ⟨login, hlogin, hok, hpackets⟩ :=
      sendOver_of_onSend hpolicy htoken hname hmessages hcount hfits pauses hseconds
    exact ⟨iff_of_true hok rfl, fun _ => ⟨token, login, htoken, hlogin, hpackets⟩, nofun⟩
  | false =>
    have hunsent : sent.1 = .error (.timedOut seconds) ∧ sent.2.packets = [] :=
      sendOver_of_never hpolicy hmessages .acknowledges pauses s.now hseconds
    refine ⟨iff_of_false (fun hok => ?_) nofun, nofun, fun _ => hunsent⟩
    cases hunsent.1.symm.trans hok

end

/-- A configuration file for a connection without TLS, with the given `connect_on_send`. -/
def clearFile (connectOnSend : Bool) : String :=
  "[device]\nconnection_string = \"HostName=127.0.0.1;DeviceId=d;SharedAccessKey=a2V5\"\n" ++
    "[mqtt]\nport = 1883\nuse_tls = false\n[transport]\nconnect_on_send = " ++
    Text.showBool connectOnSend ++ "\n"

/-- Surroundings with that file and a broker that acknowledges each message. -/
def clearSurroundings (connectOnSend : Bool) : Surroundings where
  fileAt path :=
    if path = "device.toml" then .ok (Text.utf8 (clearFile connectOnSend)) else .error .notFound
  broker := some .acknowledges
  now := 1700000000

/-- The configuration in that file. -/
def clearConfig (connectOnSend : Bool) : Config where
  device := { connectionString := some "HostName=127.0.0.1;DeviceId=d;SharedAccessKey=a2V5" }
  mqtt := { port := 1883, useTls := false }
  transport := { connectOnSend }

def clearSigner : Credential.Signer where
  connectionString :=
    { hostName := "127.0.0.1"
      deviceId := "d"
      sharedAccessKey := "a2V5"
      sharedAccessKeyName := none
      gatewayHostName := none }

def clearArguments : Arguments where
  configFile := none
  connectionString := none
  action := .send ["a", "b"] 1

theorem load_clear (connectOnSend : Bool) :
    load (clearSurroundings connectOnSend) clearArguments = .ok (clearConfig connectOnSend) := by
  have hload : (load (clearSurroundings connectOnSend) clearArguments).toOption =
      some (clearConfig connectOnSend) := by
    cases connectOnSend <;> decide +kernel
  generalize load (clearSurroundings connectOnSend) clearArguments = loaded at hload
  cases loaded with
  | error e => cases hload
  | ok config => exact congrArg Except.ok (Option.some.inj hload)

theorem signer_clear (connectOnSend : Bool) :
    (clearConfig connectOnSend).signer [] = .ok clearSigner := by
  rfl

theorem delivers_iff_connectOnSend_clear :
    ∃ signer, (clearConfig true).signer [] = .ok signer ∧
      (sendOver (.broker .acknowledges) [1] (clearConfig true) signer 1700000000 ["a", "b"] 1).1 =
        .ok () := by
  obtain ⟨signer, hsigner, hdelivers⟩ := delivers_iff_connectOnSend (load_clear true)
  obtain rfl : clearSigner = signer := Except.ok.inj ((signer_clear true).symm.trans hsigner)
  refine ⟨clearSigner, hsigner, ?_⟩
  exact (hdelivers (by decide +kernel) [1] ["a", "b"] 1 (by simp) (by decide) (by decide)
    (by decide +kernel)).1.2 rfl

/-- With `connect_on_send = false` the configuration is loaded, its key can be decoded and the broker
is reachable, but the message is not sent and `sendOver` times out. -/
theorem unsent_without_connectOnSend :
    load (clearSurroundings false) clearArguments = .ok (clearConfig false) ∧
      (clearConfig false).signer [] = .ok clearSigner ∧
      (Credential.Token.keyBytes? clearSigner.connectionString.sharedAccessKey).isSome ∧
      Network.of (some .acknowledges) (.ofConfig (clearConfig false) clearSigner) =
        .broker .acknowledges ∧
      (send (clearSurroundings false) (clearConfig false) ["a", "b"] 1).1 = .error (.timedOut 1) ∧
      (send (clearSurroundings false) (clearConfig false) ["a", "b"] 1).2.2 = [] := by
  have hnetwork : Network.of (some .acknowledges) (.ofConfig (clearConfig false) clearSigner) =
      .broker .acknowledges := by decide +kernel
  refine ⟨load_clear false, signer_clear false, by decide +kernel, hnetwork, ?_⟩
  have hsigner : (clearConfig false).signer (clearSurroundings false).env = .ok clearSigner :=
    signer_clear false
  have hbroker : (clearSurroundings false).broker = some .acknowledges := rfl
  simp only [send, hsigner, hbroker, hnetwork]
  exact sendOver_of_never rfl (by simp) .acknowledges [] (clearSurroundings false).now (by decide)

end HubLink.Command
