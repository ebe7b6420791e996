import HubLink.Proofs.Command.Dispatch
import HubLink.Proofs.Session.Exchange

namespace HubLink.Command

open Transport

/-- The messages before `count` were all answered with success. -/
def Accepted (seen : List (Happening (Hook Unit))) (count : Nat) : Prop :=
  ∀ i < count, Handle.answer? seen i = some (.done (.ok ()))

namespace Accepted

variable {seen : List (Happening (Hook Unit))} {count : Nat}

theorem zero (seen : List (Happening (Hook Unit))) : Accepted seen 0 :=
  nofun

theorem append (h : Accepted seen count) (more : List (Happening (Hook Unit))) :
    Accepted (seen ++ more) count := by
  intro i hi
  rw [Handle.answer?_append, h i hi]
  rfl

theorem succ (h : Accepted seen count) (hlast : Handle.answer? seen count = some (.done (.ok ()))) :
    Accepted seen (count + 1) := by
  intro i hi
  obtain hlt | rfl := Nat.lt_succ_iff_lt_or_eq.1 hi
  · exact h i hlt
  · exact hlast

end Accepted

namespace Setting

variable {σ ν : Type} {s : Setting σ ν} {schedule : Schedule ν} {b : Bare σ (Hook Unit)}
  {payloads : List Bytes} {h : Chronicle σ (Hook Unit)}

/-- The state change of some outside news. -/
def Drifts (s : Setting σ ν) (change : σ → σ) : Prop :=
  ∃ news, change = fun world => (s.goOn news world).1

/-- The task is alive and was sent exactly the given payloads, each with its ticket and receipt. -/
def HasSent (s : Setting σ ν) (b : Bare σ (Hook Unit)) (payloads : List Bytes)
    (h : Chronicle σ (Hook Unit)) : Prop :=
  ∃ commands, Attended s.collaborators b s.Drifts commands h ∧ Tracks commands payloads

theorem seen_pass (s : Setting σ ν) (turns : List (Turn ν)) (h : Chronicle σ (Hook Unit)) :
    ∃ more, (s.pass turns h).seen = h.seen ++ more :=
  h.seen_play Scene.fails s.collaborators (turns.map s.move)

theorem seen_submit (s : Setting σ ν) (command : Command (Hook Unit)) (h : Chronicle σ (Hook Unit)) :
    ∃ more, (s.submit command h).seen = h.seen ++ more :=
  h.seen_move Scene.fails s.collaborators (.submit command)

theorem accepted_pass {count : Nat} (haccepted : Accepted h.seen count) (s : Setting σ ν)
    (turns : List (Turn ν)) : Accepted (s.pass turns h).seen count := by
  obtain ⟨more, hmore⟩ := s.seen_pass turns h
  rw [hmore]
  exact haccepted.append more

theorem accepted_submit {count : Nat} (haccepted : Accepted h.seen count) (s : Setting σ ν)
    (command : Command (Hook Unit)) : Accepted (s.submit command h).seen count := by
  obtain ⟨more, hmore⟩ := s.seen_submit command h
  rw [hmore]
  exact haccepted.append more

/-- Turns preserve `HasSent`. -/
theorem HasSent.pass (hh : s.HasSent b payloads h) (turns : List (Turn ν)) :
    s.HasSent b payloads (s.pass turns h) := by
  obtain ⟨commands, hattended, htracks⟩ := hh
  refine ⟨commands, ?_, htracks⟩
  induction turns generalizing h with
  | nil => exact hattended
  | cons turn rest ih =>
    cases turn with
    | work => exact ih (hattended.work fun _ => rfl)
    | news news => exact ih (hattended.outside ⟨news, rfl⟩)

theorem HasSent.ask (hh : s.HasSent b payloads h) (occasion : Occasion) :
    s.HasSent b payloads (s.submit (.observe occasion (.own ())) h) := by
  obtain ⟨commands, hattended, htracks⟩ := hh
  exact ⟨_, hattended.submit _, htracks.observe _ _⟩

theorem HasSent.observe (hh : s.HasSent b payloads h) (occasion : Occasion) :
    s.HasSent b payloads (s.observe schedule h occasion) :=
  (hh.ask occasion).pass _

theorem HasSent.isOpen (hh : s.HasSent b payloads h) : h.task.isOpen = true := by
  obtain ⟨commands, hattended, -⟩ := hh
  exact hattended.isOpen

theorem HasSent.send (hh : s.HasSent b payloads h) (message : String) :
    s.HasSent b (payloads ++ [Text.utf8 message])
      (s.submit (trackedCommand payloads.length message) h) := by
  obtain ⟨commands, hattended, htracks⟩ := hh
  exact ⟨_, hattended.submit _, htracks.send _⟩

theorem hasSent_prepare (s : Setting σ ν) (schedule : Schedule ν) (machine : Machine (Hook Unit))
    (world : σ) : s.HasSent ⟨machine, world, []⟩ [] (s.prepare schedule machine world) := by
  have hstart : s.HasSent ⟨machine, world, []⟩ [] (.start machine world 0) :=
    ⟨[], .start s.collaborators s.Drifts machine world 0, .nil⟩
  exact ((hstart.observe .connected).observe .disconnected).observe .abandoned

/-- If all messages so far were accepted, then either all further messages are sent and accepted, or
one is not and the result is not success. -/
theorem HasSent.handOver_cases (hh : s.HasSent b payloads h) (schedule : Schedule ν)
    (haccepted : Accepted h.seen payloads.length) (messages : List String) :
    let r := s.handOver schedule payloads.length messages h
    (r.1 = some (.ok ()) ∧ s.HasSent b (payloads ++ messages.map Text.utf8) r.2 ∧
      Accepted r.2.seen (payloads.length + messages.length)) ∨
    (r.1 ≠ some (.ok ()) ∧ ¬ Accepted r.2.seen (payloads.length + messages.length)) := by
  induction messages generalizing payloads h with
  | nil =>
    refine .inl ⟨rfl, ?_, haccepted⟩
    rw [List.map_nil, List.append_nil]
    exact hh
  | cons message rest ih =>
    -- A message that is accepted goes over to those that were sent before.
    intro r
    let next := s.pass (schedule.pauses payloads.length)
      (s.submit (trackedCommand payloads.length message) h)
    have hsent : s.HasSent b (payloads ++ [Text.utf8 message]) next := (hh.send message).pass _
    have hstays : Accepted next.seen payloads.length :=
      accepted_pass (accepted_submit haccepted s _) s _
    by_cases hanswer : Handle.answer? next.seen payloads.length = some (.done (.ok ()))
    · have hr : r = s.handOver schedule (payloads.length + 1) rest next :=
        handOver_of_granted rfl rest hanswer
      have hrest := ih hsent (by simpa using hstays.succ hanswer)
      rw [List.length_append, List.length_singleton, ← hr, List.append_assoc, Nat.add_assoc,
        Nat.add_comm 1] at hrest
      exact hrest
    · obtain ⟨result, hr, hresult⟩ := handOver_of_not_granted rfl rest hanswer
      rw [show r = (result, next) from hr]
      refine .inr ⟨?_, fun hall => hanswer (hall payloads.length (by simp))⟩
      obtain ⟨e, -, rfl⟩ | ⟨-, rfl | rfl⟩ := hresult <;> nofun

/-- Either all messages were sent and accepted, and the result is the verdict on their receipts, or
one was not accepted and the result is not success. -/
theorem deliver_cases (s : Setting σ ν) (schedule : Schedule ν) (machine : Machine (Hook Unit))
    (world : σ) (messages : List String) (seconds : UInt64) :
    let r := s.deliver schedule machine world messages seconds
    (Accepted r.2.seen messages.length ∧
      s.HasSent ⟨machine, world, []⟩ (messages.map Text.utf8) r.2 ∧
      r.1 = verdict? seconds schedule.ending (receiptsOf r.2.seen messages.length)) ∨
    (¬ Accepted r.2.seen messages.length ∧
      (r.1 = none ∨ ∃ e, r.1 = some (.error (.transport e)))) := by
  have hcases := (s.hasSent_prepare schedule machine world).handOver_cases schedule (Accepted.zero _)
    messages
  rw [List.length_nil, List.nil_append, Nat.zero_add] at hcases
  unfold deliver
  generalize s.handOver schedule 0 messages (s.prepare schedule machine world) = handed at hcases
  obtain ⟨hok, hsent, haccepted⟩ | ⟨hnot, hrefused⟩ := hcases
  · obtain ⟨result, h⟩ := handed
    subst hok
    exact .inl ⟨accepted_pass haccepted s _, hsent.pass _, rfl⟩
  · refine .inr ?_
    obtain ⟨_ | (e | _), h⟩ := handed
    · exact ⟨hrefused, .inl rfl⟩
    · exact ⟨hrefused, .inr ⟨e, rfl⟩⟩
    · exact absurd rfl hnot

/-- The ledger of the bare machine for the messages handled so far. -/
def ledger (s : Setting σ ν) (machine : Machine (Hook Unit)) (world : σ)
    (h : Chronicle σ (Hook Unit)) : Ledger (Hook Unit) :=
  (Bare.history s.collaborators ⟨machine, world, []⟩ h.handled).ledger

/-- The collaborators number their messages, and outside changes leave the count unchanged. -/
structure Numbers (s : Setting σ ν) (nextId : σ → MessageId) : Prop where
  collaborators : s.collaborators.Numbers nextId
  goOn : ∀ news world, nextId (s.goOn news world).1 = nextId world

section

variable {deviceId : String} {policy : ConnectPolicy} {observers : Observers (Hook Unit)} {world : σ}
  {messages : List String}

/-- If all messages were accepted, the ledger has one entry for each in order, and the receipts are
those for the fates of the entries. -/
theorem HasSent.receipts_eq
    (hh : s.HasSent ⟨.fresh deviceId policy observers, world, []⟩ (messages.map Text.utf8) h)
    (haccepted : Accepted h.seen messages.length) :
    (s.ledger (.fresh deviceId policy observers) world h).map (·.event.payload) =
        messages.map Text.utf8 ∧
      receiptsOf h.seen messages.length =
        (s.ledger (.fresh deviceId policy observers) world h).map (·.fate.receipt) := by
  obtain ⟨commands, hattended, htracks⟩ := hh
  have hreceipts := hattended.receipts_eq htracks (by rwa [List.length_map])
  rwa [List.length_map] at hreceipts

theorem HasSent.count_displaced
    (hh : s.HasSent ⟨.fresh deviceId policy observers, world, []⟩ payloads h)
    {nextId : σ → MessageId} (hnumbers : s.Numbers nextId) (hworld : nextId world = Session.Row.id 0)
    (hfew : 2 * payloads.length ≤ UInt64.size) :
    (s.ledger (.fresh deviceId policy observers) world h).count Fate.isDisplaced = 0 := by
  obtain ⟨commands, hattended, htracks⟩ := hh
  refine hattended.count_displaced htracks hnumbers.collaborators ?_ hworld hfew
  rintro change ⟨news, rfl⟩ w
  exact hnumbers.goOn news w

end
end Setting

theorem count_acknowledged_receipts (l : Ledger (Hook Unit)) :
    (l.map (·.fate.receipt)).count .acknowledged = l.count Fate.isAcknowledged := by
  induction l with
  | nil => rfl
  | cons e rest ih =>
    rw [List.map_cons, Ledger.count_cons, ← ih]
    cases hfate : e.fate <;> simp [Fate.receipt, Fate.isAcknowledged, Nat.add_comm]

theorem receipt_eq_acknowledged_iff (fate : Fate) :
    fate.receipt = .acknowledged ↔ fate.isAcknowledged = true := by
  cases fate <;> simp [Fate.receipt, Fate.isAcknowledged]

/-- If no receipt is waiting, every entry is acknowledged, abandoned or displaced. -/
theorem count_of_no_waiting {l : Ledger (Hook Unit)} (h : .waiting ∉ l.map (·.fate.receipt)) :
    l.count (· = .abandoned) + l.count Fate.isDisplaced = l.length - l.count Fate.isAcknowledged := by
  have hqueued : l.queued = [] := by
    refine List.filterMap_eq_nil_iff.2 fun e he => if_neg fun hfate => h ?_
    exact List.mem_map.2 ⟨e, he, by rw [hfate]; rfl⟩
  have hinFlight : l.inFlight = [] := by
    refine List.filterMap_eq_nil_iff.2 fun e he => ?_
    cases hfate : e.fate with
    | inFlight id => exact absurd (List.mem_map.2 ⟨e, he, by rw [hfate]; rfl⟩) h
    | _ => rfl
  have hlength := l.length_eq
  rw [hqueued, hinFlight] at hlength
  simp only [List.length_nil] at hlength
  omega

/-- For all collaborators that number their messages, and without an interrupt: the result of
`deliver` is success exactly if every message was accepted and its acknowledgement handled, and the
counts in `unacknowledged` are exact. -/
theorem Setting.deliver_reports {σ ν : Type} {s : Setting σ ν} {nextId : σ → MessageId}
    (hnumbers : s.Numbers nextId) {schedule : Schedule ν} (hending : schedule.ending ≠ .interrupted)
    (deviceId : String) (policy : ConnectPolicy) (observers : Observers (Hook Unit)) {world : σ}
    (hworld : nextId world = Session.Row.id 0) (messages : List String) (seconds : UInt64) :
    let machine : Machine (Hook Unit) := .fresh deviceId policy observers
    let sent := s.deliver schedule machine world messages seconds
    let ledger := s.ledger machine world sent.2
    (sent.1 = some (.ok ()) ↔
      Accepted sent.2.seen messages.length ∧ ∀ e ∈ ledger, e.fate.isAcknowledged = true) ∧
    (∀ a n, sent.1 = some (.error (.unacknowledged a n)) →
      Accepted sent.2.seen messages.length ∧ n = messages.length ∧
        ledger.count Fate.isAcknowledged = a ∧
        ledger.count (· = .abandoned) + ledger.count Fate.isDisplaced = n - a ∧
        (2 * messages.length ≤ UInt64.size → ledger.count (· = .abandoned) = n - a)) ∧
    (Accepted sent.2.seen messages.length →
      ledger.map (·.event.payload) = messages.map Text.utf8) := by
  intro machine sent ledger
  obtain ⟨haccepted, hsent, hverdict⟩ | ⟨hrefused, hgivenUp⟩ :=
    s.deliver_cases schedule machine world messages seconds
  · obtain ⟨hpayloads, hreceipts⟩ := hsent.receipts_eq haccepted
    have hlength : ledger.length = messages.length := by
      simpa using congrArg List.length hpayloads
    rw [hreceipts] at hverdict
    refine ⟨?_, fun a n hreport => ?_, fun _ => hpayloads⟩
    · rw [show sent.1 = _ from hverdict, verdict?_eq_ok_iff hending]
      simp only [List.forall_mem_map, receipt_eq_acknowledged_iff]
      exact (and_iff_right haccepted).symm
    · obtain ⟨htotal, hcount, hnone⟩ :=
        verdict?_eq_unacknowledged hending (hverdict.symm.trans hreport)
      rw [List.length_map] at htotal
      rw [count_acknowledged_receipts] at hcount
      have hothers : ledger.count (· = .abandoned) + ledger.count Fate.isDisplaced = n - a := by
        rw [htotal, hcount]
        exact count_of_no_waiting hnone
      -- Messages are displaced only once the count of identities comes round.
      refine ⟨haccepted, htotal.trans hlength, hcount.symm, hothers, fun hfew => ?_⟩
      have hdisplaced : ledger.count Fate.isDisplaced = 0 :=
        hsent.count_displaced hnumbers hworld (by rwa [List.length_map])
      rwa [hdisplaced, Nat.add_zero] at hothers
  · have hgivesUp : sent.1 = none ∨ ∃ e, sent.1 = some (.error (.transport e)) := hgivenUp
    refine ⟨iff_of_false (fun hok => ?_) fun hall => hrefused hall.1, fun a n hreport => ?_,
      fun haccepted => absurd haccepted hrefused⟩
    · obtain hnone | ⟨e, he⟩ := hgivesUp
      · cases hnone.symm.trans hok
      · cases he.symm.trans hok
    · obtain hnone | ⟨e, he⟩ := hgivesUp
      · cases hnone.symm.trans hreport
      · cases he.symm.trans hreport

section

open Session

variable {L : Type}

/-- A provider over any network, whose sessions receive news between the steps. -/
def Setting.exchange (network : Session.Network L) : Setting (Exchange L) (List News × L) where
  collaborators := Exchange.collaborators network
  goOn := fun (news, drifted) x => { x with network := drifted }.hearAll news

theorem Setting.numbers_exchange (network : Session.Network L) :
    (Setting.exchange network).Numbers (·.nextId) :=
  ⟨Exchange.numbers network, fun _ _ => (Exchange.hears_hearAll _ _).nextId⟩

/-- For every configuration, network, list of messages and schedule without an interrupt: the result
is success exactly if the transport accepted every message and handled its acknowledgement before the
wait ended. If the result is `unacknowledged a n`, all `n` messages were accepted and exactly `a`
acknowledged; the others were abandoned or displaced, and all abandoned if `2 * n ≤ 2 ^ 64`. The
ledger has the accepted messages in order. -/
theorem reports_success_iff_delivered (network : Session.Network L) (l : L)
    (schedule : Schedule (List News × L)) (hending : schedule.ending ≠ .interrupted) (config : Config)
    (signer : Credential.Signer) (messages : List String) (seconds : UInt64) :
    let s := Setting.exchange network
    let machine : Machine (Hook Unit) := machineOf config signer
    let sent := s.deliver schedule machine { network := l } messages seconds
    let ledger := s.ledger machine { network := l } sent.2
    (sent.1 = some (.ok ()) ↔
      Accepted sent.2.seen messages.length ∧ ∀ e ∈ ledger, e.fate.isAcknowledged = true) ∧
    (∀ a n, sent.1 = some (.error (.unacknowledged a n)) →
      Accepted sent.2.seen messages.length ∧ n = messages.length ∧
        ledger.count Fate.isAcknowledged = a ∧
        ledger.count (· = .abandoned) + ledger.count Fate.isDisplaced = n - a ∧
        (2 * messages.length ≤ UInt64.size → ledger.count (· = .abandoned) = n - a)) ∧
    (Accepted sent.2.seen messages.length →
      ledger.map (·.event.payload) = messages.map Text.utf8) :=
  Setting.deliver_reports (Setting.numbers_exchange network) hending signer.deviceId
    (.ofFlag config.transport.connectOnSend) {} rfl messages seconds

/-- A network that takes every request. -/
def takingNetwork : Session.Network Unit :=
  fun _ _ => ({ isTaken := true }, ())

/-- The session is accepted, two messages leave, the given events follow, and then the time limit is
over. -/
def twoLeave (events : List Mqtt.Event) : Schedule (List News × Unit) where
  opening _ := [.work]
  pauses
    | 0 => [.work, .work]
    | 1 => [.work]
    | _ => [.news ([.event 0 .accepted], ()), .work,
        .news ((Mqtt.Event.sentPublish 1 :: .sentPublish 2 :: events).map (.event 0 ·), ()), .work, .work]
  ending := .timeOver

/-- The configuration of a device. -/
def shortConfig : Config where
  device := {}

def shortSigner : Credential.Signer where
  connectionString :=
    { hostName := "h"
      deviceId := "d"
      sharedAccessKey := ""
      sharedAccessKeyName := none
      gatewayHostName := none }

/-- A run in which two messages leave. -/
def sendTwo (events : List Mqtt.Event) :
    Option (Except Failure Unit) × Chronicle (Exchange Unit) (Hook Unit) :=
  (Setting.exchange takingNetwork).deliver (twoLeave events) (machineOf shortConfig shortSigner)
    { network := () } ["a", "b"] 1

/-- The ledger of that run. -/
def fatesOfTwo (events : List Mqtt.Event) : Ledger (Hook Unit) :=
  (Setting.exchange takingNetwork).ledger (machineOf shortConfig shortSigner) { network := () }
    (sendTwo events).2

/-- With both acknowledgements, in the opposite order, the result is success. If the connection is
lost after the first, one message is acknowledged and one abandoned. -/
theorem reports_success_iff_delivered_two :
    (∀ events, (twoLeave events).ending ≠ .interrupted) ∧
      (sendTwo [.pubAck 2, .pubAck 1]).1 = some (.ok ()) ∧
      (∀ e ∈ fatesOfTwo [.pubAck 2, .pubAck 1], e.fate.isAcknowledged = true) ∧
      (sendTwo [.pubAck 2, .failed]).1 = some (.error (.unacknowledged 1 2)) ∧
      (fatesOfTwo [.pubAck 2, .failed]).count Fate.isAcknowledged = 1 ∧
      (fatesOfTwo [.pubAck 2, .failed]).count (· = .abandoned) = 1 := by
  have hending (events : List Mqtt.Event) : (twoLeave events).ending ≠ .interrupted := nofun
  have hreports (events : List Mqtt.Event) :=
    reports_success_iff_delivered takingNetwork () (twoLeave events) (hending events) shortConfig
      shortSigner ["a", "b"] 1
  have hall : (sendTwo [.pubAck 2, .pubAck 1]).1 = some (.ok ()) := by decide +kernel
  have hone : (sendTwo [.pubAck 2, .failed]).1 = some (.error (.unacknowledged 1 2)) := by
    decide +kernel
  obtain ⟨-, -, hacknowledged, -, habandoned⟩ := (hreports [.pubAck 2, .failed]).2.1 1 2 hone
  exact ⟨hending, hall, ((hreports [.pubAck 2, .pubAck 1]).1.1 hall).2, hone, hacknowledged,
    habandoned (by decide)⟩

end

end HubLink.Command
