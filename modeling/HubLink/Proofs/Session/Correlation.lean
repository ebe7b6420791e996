import HubLink.Session.Reader
import HubLink.Transport.Trace

namespace HubLink.Session

open Mqtt Transport

/-- One thing that a session sees: a request of the provider, its outcome, or an event. -/
inductive Turn where
  /-- A message is requested. -/
  | request (id : MessageId)
  /-- The request was taken over by the event loop, which will send its packet. -/
  | taken
  /-- The request has failed. -/
  | refused (id : MessageId)
  | event (e : Event)
  deriving DecidableEq

/-- The reader's reaction to a turn. -/
def Reader.meet (r : Reader) : Turn → Reader × List Aside
  | .request id => ({ r with ids := r.ids.request id }, [])
  | .taken => (r, [])
  | .refused id => ({ r with ids := r.ids.forget id }, [])
  | .event e => r.read e

/-- The side effects of the reader over all turns, in order. -/
def Reader.meetAll : List Turn → Reader → List Aside
  | [], _ => []
  | t :: rest, r => (r.meet t).2 ++ meetAll rest (r.meet t).1

/-- The messages of the `published` notifications among side effects. -/
def reported (asides : List Aside) : List MessageId :=
  confirmed (notifications asides)

/-- The messages of a session that were not acknowledged by the broker yet. It records which packet
carries which message, which the reader does not see. -/
structure Wire where
  /-- The identity of the next request. -/
  next : MessageId
  /-- The message whose request is under way. -/
  making : Option MessageId := none
  /-- The messages taken over and not sent yet, the oldest first. -/
  channel : List MessageId := []
  /-- The messages sent and not acknowledged yet, with their packet ids, the oldest first. -/
  flying : List (PacketId × MessageId) := []
  isOver : Bool := false
  deriving DecidableEq

namespace Wire

/-- The sent messages with a packet id, the oldest first. -/
def uses (w : Wire) (packet : PacketId) : List MessageId :=
  (w.flying.filter (·.1 = packet)).map (·.2)

/-- The messages under way, taken over or sent, and not acknowledged. -/
def outstanding (w : Wire) : List MessageId :=
  w.flying.map (·.2) ++ (w.channel ++ w.making.toList)

/-- The messages after an event of a session that has not ended. -/
def hear (w : Wire) : Event → Wire
  | .sentPublish packet =>
    match w.channel with
    | [] => w
    | id :: rest => { w with channel := rest, flying := w.flying ++ [(packet, id)] }
  | .pubAck packet => { w with flying := w.flying.eraseP (·.1 = packet) }
  | .accepted | .other => w
  | .refused _ | .disconnected | .failed | .sentDisconnect => { w with isOver := true }

/-- The messages after a turn. -/
def step (w : Wire) : Turn → Wire
  | .request id => { w with next := id.next, making := some id }
  | .taken => { w with making := none, channel := w.channel ++ w.making.toList }
  | .refused _ => { w with making := none }
  | .event e => if w.isOver then w else w.hear e

/-- The message that an acknowledgement is for: the oldest one sent with that packet id. -/
def acknowledges (w : Wire) : Turn → List MessageId
  | .event (.pubAck packet) => if w.isOver then [] else (w.uses packet).head?.toList
  | _ => []

/-- Whether a turn is possible. The provider makes one request at a time and numbers them, and the
next identity is not that of an outstanding message. A packet leaves only for a message taken over,
and only if at most one unacknowledged message has its id. -/
def allows (w : Wire) : Turn → Bool
  | .request id => w.making.isNone && id = w.next && id ∉ w.outstanding
  | .taken => w.making.isSome
  | .refused id => w.making = some id
  | .event (.sentPublish packet) =>
    w.isOver || !w.channel.isEmpty && (w.uses packet).length ≤ 1
  | .event _ => true

/-- Whether a turn is an acknowledgement seen after the next packet with the same id has left. -/
def isLate (w : Wire) : Turn → Bool
  | .event (.pubAck packet) => !w.isOver && 1 < (w.uses packet).length
  | _ => false

/-- Whether the turns are possible one after another. -/
def allowsAll : List Turn → Wire → Bool
  | [], _ => true
  | t :: rest, w => w.allows t && allowsAll rest (w.step t)

/-- Whether one of the turns is late. -/
def anyLate : List Turn → Wire → Bool
  | [], _ => false
  | t :: rest, w => w.isLate t || anyLate rest (w.step t)

/-- The messages that the acknowledgements are for, in order. -/
def acknowledgesAll : List Turn → Wire → List MessageId
  | [], _ => []
  | t :: rest, w => w.acknowledges t ++ acknowledgesAll rest (w.step t)

/-- Each packet id is bound to the last message sent with it, and the messages awaiting a packet id
are those taken over and the one under way. -/
structure Mirrors (w : Wire) (r : Reader) : Prop where
  isDone : r.isDone = w.isOver
  awaiting : r.ids.awaiting = w.channel ++ w.making.toList
  message : ∀ packet, r.ids.message? packet = (w.uses packet).getLast?
  nodup : w.outstanding.Nodup

/-- Sending a packet appends its message to the uses of its id. -/
theorem uses_sent (w : Wire) (packet other : PacketId) (id : MessageId) (rest : List MessageId) :
    uses { w with channel := rest, flying := w.flying ++ [(packet, id)] } other =
      if other = packet then w.uses other ++ [id] else w.uses other := by
  unfold uses
  by_cases h : other = packet
  · simp [h]
  · have hne : packet ≠ other := fun h' => h h'.symm
    simp [h, hne]

/-- An acknowledgement removes the first use of its packet id. -/
theorem uses_acknowledged (w : Wire) (packet other : PacketId) :
    uses { w with flying := w.flying.eraseP (·.1 = packet) } other =
      if other = packet then (w.uses other).tail else w.uses other := by
  unfold uses
  induction w.flying with
  | nil => simp
  | cons p rest ih =>
    by_cases hp : p.1 = packet
    · by_cases h : other = packet
      · simp [hp, h]
      · have hne : packet ≠ other := fun h' => h h'.symm
        simp [hp, h, hne]
    · rw [List.eraseP_cons_of_neg (by simpa using hp)]
      by_cases h : p.1 = other
      · have hne : other ≠ packet := fun h' => hp (h.trans h')
        simpa [h, hne] using ih
      · simpa [h] using ih

theorem nodup_uses {w : Wire} (h : w.outstanding.Nodup) (packet : PacketId) :
    (w.uses packet).Nodup :=
  (List.nodup_append.1 h).1.sublist (List.filter_sublist.map _)

namespace Mirrors

variable {w : Wire} {r : Reader}

theorem start (first : MessageId) : Mirrors { next := first } {} :=
  ⟨rfl, rfl, fun _ => rfl, List.nodup_nil⟩

theorem request (h : Mirrors w r) {id : MessageId} (hallows : w.allows (.request id) = true) :
    Mirrors (w.step (.request id)) { r with ids := r.ids.request id } := by
  obtain ⟨⟨hmaking, -⟩, hfresh⟩ : (w.making = none ∧ id = w.next) ∧ id ∉ w.outstanding := by
    simpa [allows] using hallows
  have hawaiting := h.awaiting
  have hnodup := h.nodup
  have houtstanding : (w.step (.request id)).outstanding = w.outstanding ++ [id] := by
    simp [outstanding, step, hmaking]
  refine ⟨h.isDone, ?_, h.message, ?_⟩
  · rw [hmaking] at hawaiting
    simp [PacketIds.request, step, hawaiting]
  · rw [houtstanding]
    exact (List.perm_append_singleton id w.outstanding).nodup_iff.2
      (List.nodup_cons.2 ⟨hfresh, hnodup⟩)

theorem taken (h : Mirrors w r) : Mirrors (w.step .taken) r := by
  refine ⟨h.isDone, ?_, h.message, ?_⟩
  · simp [step, h.awaiting]
  · simpa [outstanding, step] using h.nodup

theorem refused (h : Mirrors w r) {id : MessageId} (hallows : w.allows (.refused id) = true) :
    Mirrors (w.step (.refused id)) { r with ids := r.ids.forget id } := by
  have hmaking : w.making = some id := by simpa [allows] using hallows
  have hawaiting := h.awaiting
  have hnodup := h.nodup
  simp only [outstanding, hmaking, Option.toList_some] at hawaiting hnodup
  obtain ⟨hflying, hwaiting, hapart⟩ := List.nodup_append.1 hnodup
  have hnotin : ∀ x ∈ w.channel, x ≠ id := fun x hx =>
    (List.nodup_append.1 hwaiting).2.2 x hx id (by simp)
  refine ⟨h.isDone, ?_, h.message, ?_⟩
  · simp only [PacketIds.forget, step, hawaiting, List.filter_append, Option.toList_none,
      List.append_nil]
    simpa using hnotin
  · simpa [outstanding, step] using hnodup.sublist
      ((List.Sublist.refl _).append (List.sublist_append_left _ [id]))

theorem sent (h : Mirrors w r) {packet : PacketId} {id : MessageId} {rest : List MessageId}
    (hchannel : w.channel = id :: rest) :
    Mirrors { w with channel := rest, flying := w.flying ++ [(packet, id)] }
      { r with ids := r.ids.sent packet } := by
  have hawaiting : r.ids.awaiting = id :: (rest ++ w.making.toList) := by
    rw [h.awaiting, hchannel]
    rfl
  refine ⟨h.isDone, ?_, fun other => ?_, ?_⟩
  · simp [PacketIds.sent, hawaiting]
  · rw [uses_sent, PacketIds.message?_sent hawaiting, h.message]
    split <;> simp
  · simpa [outstanding, hchannel] using h.nodup

/-- An acknowledgement of a packet id with at most one use preserves `Mirrors`. -/
theorem acknowledged (h : Mirrors w r) {packet : PacketId} (hone : (w.uses packet).length ≤ 1) :
    Mirrors { w with flying := w.flying.eraseP (·.1 = packet) }
      { r with ids := (r.ids.acknowledged packet).2 } := by
  refine ⟨h.isDone, h.awaiting, fun other => ?_, ?_⟩
  · rw [uses_acknowledged, PacketIds.message?_acknowledged, h.message]
    split
    case isTrue heq =>
      have htail : (w.uses other).tail = [] := by
        rw [← List.length_eq_zero_iff, List.length_tail, heq]
        omega
      rw [htail]
      rfl
    case isFalse => rfl
  · exact h.nodup.sublist ((List.eraseP_sublist.map _).append (List.Sublist.refl _))

/-- A possible turn that is not late preserves `Mirrors`. -/
theorem step (h : Mirrors w r) {t : Turn} (hallows : w.allows t = true)
    (hlate : w.isLate t = false) : Mirrors (w.step t) (r.meet t).1 := by
  cases t with
  | request id => exact h.request hallows
  | taken => exact h.taken
  | refused id => exact h.refused hallows
  | event e =>
    cases hover : w.isOver with
    | true =>
      have hdone : r.isDone = true := h.isDone.trans hover
      simpa [Wire.step, Reader.meet, Reader.read, hover, hdone] using h
    | false =>
      obtain ⟨ids, isDone⟩ := r
      obtain rfl : isDone = false := h.isDone.trans hover
      simp only [Wire.step, Reader.meet, Reader.read, hover, Bool.false_eq_true, if_false]
      cases e with
      | sentPublish packet =>
        cases hchannel : w.channel with
        | nil => simp [allows, hover, hchannel] at hallows
        | cons id rest =>
          simp only [hear, hchannel]
          exact h.sent hchannel
      | pubAck packet =>
        have hone : (w.uses packet).length ≤ 1 := by simpa [isLate, hover] using hlate
        have hacknowledged := h.acknowledged hone
        cases hmessage : (ids.acknowledged packet).1 with
        | none => simpa [hmessage, hear] using hacknowledged
        | some id => simpa [hmessage, hear] using hacknowledged
      | accepted => exact h
      | other => exact h
      | refused code => exact ⟨rfl, h.awaiting, h.message, h.nodup⟩
      | disconnected => exact ⟨rfl, h.awaiting, h.message, h.nodup⟩
      | failed => exact ⟨rfl, h.awaiting, h.message, h.nodup⟩
      | sentDisconnect => exact ⟨rfl, h.awaiting, h.message, h.nodup⟩

/-- An acknowledgement is reported for the last message sent with its packet id. -/
theorem reported_read (h : Mirrors w r) (hover : w.isOver = false) (packet : PacketId) :
    reported (r.read (.pubAck packet)).2 = (w.uses packet).getLast?.toList := by
  have hdone : r.isDone = false := h.isDone.trans hover
  have hmessage : (r.ids.acknowledged packet).1 = (w.uses packet).getLast? := h.message packet
  simp only [Reader.read, hdone, Bool.false_eq_true, if_false]
  cases huses : (w.uses packet).getLast? <;> simp [hmessage, huses, reported]

/-- A turn that is not late reports the message that it acknowledges. -/
theorem reported_meet (h : Mirrors w r) {t : Turn} (hlate : w.isLate t = false) :
    reported (r.meet t).2 = w.acknowledges t := by
  cases t with
  | event e =>
    cases hover : w.isOver with
    | true =>
      have hdone : r.isDone = true := h.isDone.trans hover
      cases e <;> simp [Reader.meet, Reader.read, hdone, reported, acknowledges, hover]
    | false =>
      have hdone : r.isDone = false := h.isDone.trans hover
      cases e with
      | pubAck packet =>
        have hone : (w.uses packet).length ≤ 1 := by simpa [isLate, hover] using hlate
        have hends : (w.uses packet).getLast? = (w.uses packet).head? := by
          match huses : w.uses packet with
          | [] | [_] => rfl
          | _ :: _ :: _ => simp [huses] at hone
        rw [Reader.meet, h.reported_read hover, hends, acknowledges, hover]
        rfl
      | _ =>
        simp [Reader.meet, Reader.read, Reader.finish, hdone, reported, acknowledges]
  | _ => rfl

/-- A late turn reports another message than the one it acknowledges. -/
theorem reported_meet_ne (h : Mirrors w r) {t : Turn} (hlate : w.isLate t = true) :
    ∃ other message, other ≠ message ∧ reported (r.meet t).2 = [other] ∧
      w.acknowledges t = [message] := by
  obtain ⟨packet, rfl, hover, hmany⟩ :
      ∃ packet, t = .event (.pubAck packet) ∧ w.isOver = false ∧ 1 < (w.uses packet).length := by
    unfold isLate at hlate
    split at hlate
    case h_1 packet => exact ⟨packet, rfl, by simpa using hlate⟩
    case h_2 => cases hlate
  have hnodup := nodup_uses h.nodup packet
  match huses : w.uses packet with
  | [] | [_] => simp [huses] at hmany
  | message :: next :: rest =>
    have hlast := List.getLast_mem (l := next :: rest) (by simp)
    rw [huses] at hnodup
    refine ⟨(next :: rest).getLast (by simp), message, ?_, ?_, ?_⟩
    · intro heq
      rw [heq] at hlast
      exact (List.nodup_cons.1 hnodup).1 hlast
    · rw [Reader.meet, h.reported_read hover, huses, List.getLast?_cons_cons,
        List.getLast?_eq_some_getLast (by simp)]
      rfl
    · simp [acknowledges, hover, huses]

/-- The reported messages are the acknowledged ones exactly if no turn is late. -/
theorem reported_eq_iff (h : Mirrors w r) {turns : List Turn}
    (hallows : allowsAll turns w = true) :
    reported (Reader.meetAll turns r) = acknowledgesAll turns w ↔ anyLate turns w = false := by
  induction turns generalizing w r with
  | nil => simp [Reader.meetAll, acknowledgesAll, anyLate, reported]
  | cons t rest ih =>
    obtain ⟨hfirst, hrest⟩ : w.allows t = true ∧ allowsAll rest (w.step t) = true := by
      simpa [allowsAll] using hallows
    have hsplit : reported (Reader.meetAll (t :: rest) r) =
        reported (r.meet t).2 ++ reported (Reader.meetAll rest (r.meet t).1) := by
      simp [reported, Reader.meetAll]
    rw [hsplit, acknowledgesAll, anyLate]
    cases hlate : w.isLate t with
    | true =>
      -- Here the two lists differ already, and nothing that is reported later makes up for it.
      obtain ⟨other, message, hne, hother, hmessage⟩ := h.reported_meet_ne hlate
      simp [hother, hmessage, hne]
    | false =>
      rw [h.reported_meet hlate, List.append_cancel_left_eq, Bool.false_or]
      exact ih (h.step hfirst hlate) hrest

end Mirrors
end Wire

/-- In every session with possible turns, the messages reported as acknowledged are those that the
broker acknowledged, in the same order, exactly if no acknowledgement is seen after the next packet
with its id. -/
theorem reported_eq_acknowledged_iff (first : MessageId) (turns : List Turn)
    (hallows : Wire.allowsAll turns { next := first } = true) :
    reported (Reader.meetAll turns {}) = Wire.acknowledgesAll turns { next := first } ↔
      Wire.anyLate turns { next := first } = false :=
  (Wire.Mirrors.start first).reported_eq_iff hallows

/-- Two messages acknowledged in the opposite order are reported in that order. -/
theorem reported_eq_acknowledged_out_of_order :
    let turns : List Turn :=
      [.request ⟨0⟩, .taken, .event (.sentPublish 1), .request ⟨1⟩, .taken, .event (.sentPublish 2),
        .event (.pubAck 2), .event (.pubAck 1)]
    Wire.allowsAll turns { next := ⟨0⟩ } = true ∧ Wire.anyLate turns { next := ⟨0⟩ } = false ∧
      reported (Reader.meetAll turns {}) = Wire.acknowledgesAll turns { next := ⟨0⟩ } := by
  intro turns
  have hallows : Wire.allowsAll turns { next := ⟨0⟩ } = true := by decide
  have hlate : Wire.anyLate turns { next := ⟨0⟩ } = false := by decide
  exact ⟨hallows, hlate, (reported_eq_acknowledged_iff ⟨0⟩ turns hallows).2 hlate⟩

/-- The packet of the second message is seen before the acknowledgement that freed its id: the first
acknowledgement is reported for the second message, and the second one for none. -/
theorem reported_for_other_message :
    let turns : List Turn :=
      [.request ⟨0⟩, .taken, .event (.sentPublish 1), .request ⟨1⟩, .taken, .event (.sentPublish 1),
        .event (.pubAck 1), .event (.pubAck 1)]
    Wire.allowsAll turns { next := ⟨0⟩ } = true ∧
      Wire.acknowledgesAll turns { next := ⟨0⟩ } = [⟨0⟩, ⟨1⟩] ∧
      reported (Reader.meetAll turns {}) = [⟨1⟩] := by
  decide

end HubLink.Session
