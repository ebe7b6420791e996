import HubLink.Proofs.Command.Mirror

namespace HubLink.Command

open Session Transport Mqtt

/-- Only the broker `interrupts` reacts with an interrupt. -/
theorem interrupt_not_mem_react {b : Broker} (hb : b ≠ .interrupts) (earlier : List PacketId)
    (packet : Outgoing) : .interrupt ∉ b.react earlier packet := by
  cases packet with
  | connect login =>
    simp only [Broker.react]
    split <;> simp
  | publish p =>
    simp only [Broker.react, Broker.reactToMessage]
    split <;> simp_all
  | _ => exact List.not_mem_nil

theorem isInterrupted_reactAll {reactions : List Reaction} (h : .interrupt ∉ reactions) (scene : Scene) :
    (reactions.foldl Scene.react scene).isInterrupted = scene.isInterrupted := by
  induction reactions generalizing scene with
  | nil => rfl
  | cons reaction rest ih =>
    rw [List.mem_cons, not_or] at h
    rw [List.foldl_cons, ih h.2]
    cases reaction with
    | interrupt => exact absurd rfl h.1
    | _ => rfl

theorem isInterrupted_serve {b : Broker} (hb : b ≠ .interrupts) (n : Nat) (scene : Scene) :
    (Scene.serve b n scene).isInterrupted = scene.isInterrupted := by
  induction n generalizing scene with
  | zero => rfl
  | succ n ih =>
    unfold Scene.serve
    split
    case isTrue => rfl
    case isFalse =>
      split
      case h_1 => rfl
      case h_2 packet world hread =>
        rw [ih, isInterrupted_reactAll (interrupt_not_mem_react hb _ packet)]
        rfl

section

variable {network : Network} (hnetwork : network ≠ .broker .interrupts)

include hnetwork

theorem isInterrupted_settle (bound : Nat) (scene : Scene) :
    (scene.settle network bound).isInterrupted = scene.isInterrupted := by
  cases network with
  | broker b => exact isInterrupted_serve (fun hb => hnetwork (congrArg Network.broker hb)) bound scene
  | unreachable =>
    by_cases hbound : bound = 0
    · rw [Scene.settle, if_pos hbound]
    · rw [Scene.settle, if_neg hbound]
      rfl

theorem isInterrupted_submit (reads : List Nat) (messages : List String) (scene : Scene) :
    (Scene.submit network reads messages scene).2.isInterrupted = scene.isInterrupted := by
  induction messages generalizing reads scene with
  | nil => rfl
  | cons message rest ih =>
    have hcall : (scene.call (.sendTracked (Text.utf8 message))).2.isInterrupted =
        scene.isInterrupted := rfl
    unfold Scene.submit
    split
    case h_1 heq =>
      rwa [heq] at hcall
    case h_2 heq =>
      rw [heq] at hcall
      rw [ih, isInterrupted_settle hnetwork]
      exact hcall

end

section

variable {config : Config} {signer : Credential.Signer} {now : Int64} {scene : Scene}
  {h : Chronicle Device (Hook Unit)} {payloads : List Bytes}

/-- Sending messages in a scene corresponds to sending them under a schedule with suitable pauses.
Only a missing answer is `closed` in the scene and `none` under the schedule. -/
theorem Mirrors.handOver (hm : Mirrors scene.handle h payloads.length)
    (hsent : HasSentAnew config signer now payloads h) (haccepted : Accepted h.seen payloads.length)
    (network : Network) (reads : List Nat) (messages : List String) :
    ∃ pauses : Nat → List (Turn LinkNews), ∀ schedule : Schedule LinkNews,
      (∀ i, payloads.length ≤ i → i < payloads.length + messages.length →
        schedule.pauses i = pauses i) →
      let handed := Setting.device.handOver schedule payloads.length messages h
      let submitted := Scene.submit network reads messages scene
      (submitted.1 = .ok () ∧ handed.1 = some (.ok ()) ∧
        Mirrors submitted.2.handle handed.2 (payloads.length + messages.length)) ∨
      ∃ e, submitted.1 = .error e ∧
        (handed.1 = some (.error e) ∨ handed.1 = none ∧ e = .closed) := by
  induction messages generalizing scene h payloads reads with
  | nil => exact ⟨fun _ => [], fun _ _ => .inl ⟨rfl, rfl, hm⟩⟩
  | cons message rest ih =>
    obtain ⟨turns, hcalled, houtcome⟩ := hm.call hsent haccepted message
    generalize hcall : scene.call (.sendTracked (Text.utf8 message)) = call at hcalled houtcome
    obtain ⟨outcome, after⟩ := call
    dsimp only at hcalled houtcome
    let last := Setting.device.pass turns
      (Setting.device.submit (trackedCommand payloads.length message) h)
    by_cases hgranted : Handle.answer? last.seen payloads.length = some (.done (.ok ()))
    · -- The network acts once the answer is there, and the rest is handed over in the same way.
      obtain rfl : outcome = .tracked payloads.length :=
        houtcome.trans (congrArg (outcomeOf payloads.length) hgranted)
      obtain ⟨more, hmore⟩ := hcalled.settleNetwork network (reads.headD 0)
      let next := Setting.device.pass more last
      have hnext : HasSentAnew config signer now (payloads ++ [Text.utf8 message]) next :=
        ((hsent.send message).pass turns).pass more
      have hlength : (payloads ++ [Text.utf8 message]).length = payloads.length + 1 := by simp
      have hlast : Accepted last.seen (payloads.length + 1) :=
        (Setting.accepted_pass (Setting.accepted_submit haccepted Setting.device _) Setting.device _).succ
          hgranted
      have haccepted' : Accepted next.seen (payloads.length + 1) :=
        Setting.accepted_pass hlast Setting.device more
      rw [← hlength] at haccepted' hmore
      obtain ⟨pauses, hpauses⟩ := ih hmore hnext haccepted' reads.tail
      rw [hlength] at hpauses
      refine ⟨fun i => if i = payloads.length then turns ++ more else pauses i,
        fun schedule hschedule => ?_⟩
      have hfirst : schedule.pauses payloads.length = turns ++ more :=
        (hschedule payloads.length (Nat.le_refl _) (by simp)).trans (if_pos rfl)
      have hrest := hpauses schedule fun i hi hi' =>
        (hschedule i (by omega) (by rw [List.length_cons]; omega)).trans (if_neg (by omega))
      have hhanded : Setting.device.handOver schedule payloads.length (message :: rest) h =
          Setting.device.handOver schedule (payloads.length + 1) rest next :=
        Setting.handOver_of_granted (by rw [hfirst, Setting.pass_append]) rest (haccepted' _ (by omega))
      have hsubmitted : Scene.submit network reads (message :: rest) scene =
          Scene.submit network reads.tail rest (after.settle network (reads.headD 0)) := by
        simp only [Scene.submit, hcall]
      rw [hhanded, hsubmitted, List.length_cons, Nat.add_comm rest.length, ← Nat.add_assoc]
      exact hrest
    · refine ⟨fun _ => turns, fun schedule hschedule => .inr ?_⟩
      have hfirst : schedule.pauses payloads.length = turns :=
        hschedule payloads.length (Nat.le_refl _) (by simp)
      have hlast : Setting.device.pass (schedule.pauses payloads.length)
          (Setting.device.submit (trackedCommand payloads.length message) h) = last := by rw [hfirst]
      obtain ⟨result, hhanded, hresult⟩ := Setting.handOver_of_not_granted hlast rest hgranted
      rw [hhanded]
      simp only [Scene.submit, hcall]
      obtain ⟨e, hanswer, rfl⟩ | ⟨hnone, hresult⟩ := hresult
      · obtain rfl : outcome = .done (.error e) :=
          houtcome.trans (congrArg (outcomeOf payloads.length) hanswer)
        exact ⟨e, rfl, .inl rfl⟩
      · obtain rfl : outcome = .closed := houtcome.trans (outcomeOf_eq_closed _ hnone)
        refine ⟨.closed, rfl, ?_⟩
        obtain rfl | rfl := hresult
        · exact .inr ⟨rfl, rfl⟩
        · exact .inl rfl

/-- The ending of the wait in a scene: by an interrupt or by the time limit. -/
def Scene.ending (s : Scene) : Ending :=
  if s.isInterrupted && s.handle.receipts.contains .waiting then .interrupted else .timeOver

theorem Mirrors.verdict?_eq {messages : Nat} (hm : Mirrors scene.handle h messages) (seconds : UInt64) :
    verdict? seconds scene.ending (receiptsOf h.seen messages) = some (scene.conclude seconds).1 := by
  rw [verdict?, awaitAll?_eq, ← hm.receipts, Scene.conclude, Scene.ending]
  generalize scene.handle.receipts.contains .waiting = waits
  cases waits with
  | true => cases scene.isInterrupted <;> rfl
  | false =>
    rw [Bool.and_false]
    by_cases hall : scene.acknowledged = scene.handle.receipts.length
    · simp only [if_pos hall, Bool.false_eq_true, if_false, reduceCtorEq]
      exact congrArg some (if_pos hall)
    · simp only [if_neg hall, Bool.false_eq_true, if_false, reduceCtorEq]
      exact congrArg some (if_neg hall)

/-- For every network there is a schedule under which `deliver` has the result of `sendOver`, or none
where that is `closed`. Only the broker `interrupts` leads to an interrupt. -/
theorem sendOver_eq_deliver (network : Network) (reads : List Nat) (config : Config)
    (signer : Credential.Signer) (now : Int64) (messages : List String) (seconds : UInt64) :
    ∃ schedule : Schedule LinkNews,
      let result := (sendOver network reads config signer now messages seconds).1
      let sent := Setting.device.deliver schedule (machineOf config signer)
        (newDevice config signer now) messages seconds
      (sent.1 = some result ∨ sent.1 = none ∧ result = .error (.transport .closed)) ∧
        (network ≠ .broker .interrupts → schedule.ending ≠ .interrupted) := by
  let machine : Machine (Hook Unit) := machineOf config signer
  let device := newDevice config signer now
  obtain ⟨opening, hopening⟩ := mirrors_start config signer now
  let opened : Schedule LinkNews := { opening, pauses := fun _ => [], ending := .receipts }
  have hopened : HasSentAnew config signer now [] (Setting.device.prepare opened machine device) :=
    Setting.hasSent_prepare _ _ _ _
  obtain ⟨pauses, hpauses⟩ :=
    Mirrors.handOver (hopening opened rfl) hopened (Accepted.zero _) network reads messages
  let handing : Schedule LinkNews := { opened with pauses }
  have hhanded := hpauses handing fun i _ _ => rfl
  have hprepare : Setting.device.prepare opened machine device =
      Setting.device.prepare handing machine device := Setting.device.prepare_congr rfl machine device
  dsimp only at hhanded
  rw [List.length_nil, Nat.zero_add, hprepare] at hhanded
  -- What is done after the last message stands in the last pause, which no message depends on.
  have hdeliver (last : List (Turn LinkNews)) (ending : Ending) :=
    Setting.device.deliver_endWith handing last ending machine device messages seconds
  generalize Setting.device.handOver handing 0 messages (Setting.device.prepare handing machine device) =
    handed at hhanded hdeliver
  generalize hsubmit : Scene.submit network reads messages (.start config signer now) = submitted
    at hhanded
  obtain ⟨outcome, h⟩ := handed
  obtain ⟨result, scene⟩ := submitted
  obtain ⟨rfl, rfl, hm⟩ | ⟨e, rfl, hgivenUp⟩ := hhanded
  · let final := if seconds = 0 then scene else scene.settle network (messages.length + 3)
    obtain ⟨last, hlast⟩ :
        ∃ last, Mirrors final.handle (Setting.device.pass last h) messages.length := by
      by_cases hseconds : seconds = 0
      · exact ⟨[], by rwa [show final = scene from if_pos hseconds]⟩
      · rw [show final = scene.settle network (messages.length + 3) from if_neg hseconds]
        exact hm.settleNetwork network (messages.length + 3)
    refine ⟨handing.endWith messages.length last final.ending, .inl ?_, fun hnetwork => ?_⟩
    · rw [hdeliver, sendOver, hsubmit]
      exact hlast.verdict?_eq seconds
    · have hscene := isInterrupted_submit hnetwork reads messages (.start config signer now)
      rw [hsubmit] at hscene
      have hfinal : final.isInterrupted = scene.isInterrupted := by
        by_cases hseconds : seconds = 0
        · rw [show final = scene from if_pos hseconds]
        · rw [show final = scene.settle network (messages.length + 3) from if_neg hseconds,
            isInterrupted_settle hnetwork]
      have hnever : final.isInterrupted = false := hfinal.trans hscene
      change final.ending ≠ .interrupted
      rw [Scene.ending, hnever]
      nofun
  · refine ⟨handing.endWith messages.length [] .receipts, ?_, fun _ => nofun⟩
    rw [hdeliver, sendOver, hsubmit]
    obtain rfl | ⟨rfl, rfl⟩ := hgivenUp
    · exact .inl rfl
    · exact .inr ⟨rfl, rfl⟩

/-- If `sendOver` succeeds without an interrupt, every message was accepted and acknowledged in a run
of `deliver`. -/
theorem acknowledged_of_sendOver_ok {network : Network} (hnetwork : network ≠ .broker .interrupts)
    {reads : List Nat} {messages : List String} {seconds : UInt64}
    (hok : (sendOver network reads config signer now messages seconds).1 = .ok ()) :
    ∃ schedule : Schedule LinkNews,
      let machine : Machine (Hook Unit) := machineOf config signer
      let device := newDevice config signer now
      let sent := Setting.device.deliver schedule machine device messages seconds
      sent.1 = some (.ok ()) ∧ Accepted sent.2.seen messages.length ∧
        ∀ e ∈ Setting.device.ledger machine device sent.2, e.fate.isAcknowledged = true := by
  obtain ⟨schedule, hresult, hending⟩ :=
    sendOver_eq_deliver network reads config signer now messages seconds
  rw [hok] at hresult
  have hsent := hresult.resolve_right fun hclosed => nomatch hclosed.2
  have hreports := Setting.deliver_reports Setting.numbers_device (hending hnetwork) signer.deviceId
    (.ofFlag config.transport.connectOnSend) {} (rfl : (newDevice config signer now).provider.nextId = _)
    messages seconds
  exact ⟨schedule, hsent, hreports.1.1 hsent⟩

end

end HubLink.Command
