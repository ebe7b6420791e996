import HubLink.Session.Reader
import HubLink.Transport.Trace
import Mathlib.Data.List.Perm.Subperm

namespace HubLink.Session

open Mqtt Transport

/-- A session as the provider and its reader see it. -/
structure Line where
  reader : Reader := {}
  /-- The number of messages taken and not sent yet. -/
  unsent : Nat := 0
  /-- Whether the reader was stopped by the provider. -/
  isStopped : Bool := false

/-- The number of messages that leave in an event. -/
def leaving : Event → Nat
  | .sentPublish _ => 1
  | _ => 0

namespace Line

/-- Reads an event. A stopped reader reads none, and a publish cannot leave without an unsent
message. -/
def read (l : Line) (e : Event) : Line × List Aside :=
  if l.isStopped || l.unsent < leaving e then (l, [])
  else
    let (reader, asides) := l.reader.read e
    ({ l with reader, unsent := l.unsent - leaving e }, asides)

/-- Notes the request for a message. -/
def request (l : Line) (id : MessageId) : Line :=
  { l with reader := { l.reader with ids := l.reader.ids.request id } }

/-- The request was taken: one more message is unsent. -/
def take (l : Line) : Line :=
  { l with unsent := l.unsent + 1 }

/-- The request has failed: the message is forgotten. -/
def forget (l : Line) (id : MessageId) : Line :=
  { l with reader := { l.reader with ids := l.reader.ids.forget id } }

/-- Stops the reader. -/
def stop (l : Line) : Line :=
  { l with isStopped := true }

end Line

namespace PacketIds

/-- The messages of the table, awaiting a packet id or bound to one. -/
def messages (t : PacketIds) : List MessageId :=
  t.awaiting ++ t.bound.map (·.2)

/-- A packet that leaves adds no message to the table. -/
theorem messages_sent (t : PacketIds) (packet : PacketId) :
    (t.sent packet).messages.Subperm t.messages := by
  unfold messages
  cases hawaiting : t.awaiting with
  | nil => simpa [sent, hawaiting] using List.Subperm.refl _
  | cons id rest =>
    simp only [sent, hawaiting]
    have hbound : ((t.bound.filter (·.1 ≠ packet)).map (·.2)).Sublist (t.bound.map (·.2)) :=
      List.filter_sublist.map _
    exact List.perm_middle.subperm.trans
      ((List.Sublist.refl (id :: rest)).append hbound).subperm

/-- An acknowledgement removes the message that it reports. -/
theorem messages_acknowledged (t : PacketIds) (packet : PacketId) :
    ((t.acknowledged packet).2.messages ++ (t.acknowledged packet).1.toList).Subperm t.messages := by
  unfold acknowledged messages message?
  cases hfind : t.bound.find? (·.1 = packet) with
  | none =>
    have hbound : ((t.bound.filter (·.1 ≠ packet)).map (·.2)).Sublist (t.bound.map (·.2)) :=
      List.filter_sublist.map _
    simpa using ((List.Sublist.refl t.awaiting).append hbound).subperm
  | some p =>
    obtain ⟨hp, front, back, hsplit, -⟩ := List.find?_eq_some_iff_append.1 hfind
    have hleft : (t.bound.filter (·.1 ≠ packet)).Sublist (front ++ back) := by
      have hgone : p.1 = packet := by simpa using hp
      rw [hsplit, List.filter_append, List.filter_cons_of_neg (by simp [hgone])]
      exact List.filter_sublist.append List.filter_sublist
    have hall : (t.awaiting ++ (front ++ back).map (·.2) ++ [p.2]).Perm
        (t.awaiting ++ t.bound.map (·.2)) := by
      rw [hsplit, List.append_assoc]
      refine List.Perm.append_left _ ?_
      simpa using (List.perm_append_singleton p.2 ((front ++ back).map (·.2))).trans
        (by simpa using List.perm_middle.symm)
    exact (((List.Sublist.refl t.awaiting).append (hleft.map (·.2))).append
      (List.Sublist.refl [p.2])).subperm.trans hall.subperm

end PacketIds

namespace Line

/-- The messages of the session that are not acknowledged. -/
def messages (l : Line) : List MessageId :=
  l.reader.ids.messages

/-- The messages awaiting a packet id end with `making`, and at least as many stand before these as
are unsent. -/
def Holds (l : Line) (making : List MessageId) : Prop :=
  ∃ taken, l.reader.ids.awaiting = taken ++ making ∧ l.unsent ≤ taken.length

/-- What reading does: `raised` ends with `disconnected` exactly if the session ends, an ended session
raises nothing, and reported messages are removed from the table. -/
structure Reads (l l' : Line) (raised : List Notification) : Prop where
  isStopped : l'.isStopped = l.isStopped
  done : l.reader.isDone = true → l'.reader.isDone = true ∧ raised = []
  ends : l.reader.isDone = false → ∃ quiet, .disconnected ∉ quiet ∧
    raised = quiet ++ if l'.reader.isDone then [.disconnected] else []
  messages : (l'.messages ++ confirmed raised).Subperm l.messages
  holds : ∀ making, l.Holds making → l'.Holds making

namespace Reads

variable {l : Line}

/-- Reading nothing. -/
theorem refl (l : Line) : l.Reads l [] := by
  refine ⟨rfl, fun h => ⟨h, rfl⟩, fun h => ⟨[], by simp, by simp [h]⟩, ?_, fun _ h => h⟩
  simpa using List.Subperm.refl l.messages

/-- Lowering `unsent` raises nothing. -/
theorem of_same_reader {unsent : Nat} (h : unsent ≤ l.unsent) :
    l.Reads { l with unsent } [] := by
  refine ⟨rfl, fun h => ⟨h, rfl⟩, fun h => ⟨[], by simp, by simp [h]⟩, ?_, ?_⟩
  · simpa [Line.messages] using List.Subperm.refl l.messages
  · rintro making ⟨taken, hawaiting, htaken⟩
    exact ⟨taken, hawaiting, Nat.le_trans h htaken⟩

/-- Reading `accepted`. -/
theorem accepted (hdone : l.reader.isDone = false) : l.Reads l [.connected] := by
  refine ⟨rfl, fun h => absurd h (by simp [hdone]),
    fun _ => ⟨[.connected], by simp, by simp [hdone]⟩, ?_, fun _ h => h⟩
  simpa using List.Subperm.refl l.messages

/-- Reading the end of the session. -/
theorem finish (hdone : l.reader.isDone = false) :
    l.Reads { l with reader := { l.reader with isDone := true } } [.disconnected] := by
  refine ⟨rfl, fun h => absurd h (by simp [hdone]), fun _ => ⟨[], by simp, rfl⟩, ?_, fun _ h => h⟩
  simpa [Line.messages] using List.Subperm.refl l.messages

/-- Reading a packet that leaves with an unsent message. -/
theorem sent (packet : PacketId) (hdone : l.reader.isDone = false) (hunsent : 0 < l.unsent) :
    l.Reads { l with
      reader := { l.reader with ids := l.reader.ids.sent packet }, unsent := l.unsent - 1 } [] := by
  refine ⟨rfl, fun h => absurd h (by simp [hdone]), fun _ => ⟨[], by simp, by simp [hdone]⟩, ?_, ?_⟩
  · simpa [Line.messages] using l.reader.ids.messages_sent packet
  · rintro making ⟨taken, hawaiting, htaken⟩
    cases taken with
    | nil => exact absurd hunsent (Nat.not_lt.2 htaken)
    | cons id rest =>
      refine ⟨rest, by simp [PacketIds.sent, hawaiting], ?_⟩
      simp only [List.length_cons] at htaken ⊢
      omega

/-- Reading an acknowledgement. -/
theorem acknowledged (packet : PacketId) (hdone : l.reader.isDone = false) :
    l.Reads { l with reader := { l.reader with ids := (l.reader.ids.acknowledged packet).2 } }
      ((l.reader.ids.acknowledged packet).1.toList.map .published) := by
  refine ⟨rfl, fun h => absurd h (by simp [hdone]), fun _ =>
    ⟨(l.reader.ids.acknowledged packet).1.toList.map .published, by simp, by simp [hdone]⟩, ?_,
    fun _ h => h⟩
  · have hmessages := l.reader.ids.messages_acknowledged packet
    cases hmessage : (l.reader.ids.acknowledged packet).1 <;>
      simpa [Line.messages, hmessage] using hmessages

end Reads

/-- Reading any event satisfies `Reads`. -/
theorem reads_read (l : Line) (e : Event) : l.Reads (l.read e).1 (notifications (l.read e).2) := by
  unfold read
  split
  case isTrue => exact .refl l
  case isFalse hcan =>
    obtain ⟨-, hunsent⟩ : l.isStopped = false ∧ leaving e ≤ l.unsent := by simpa using hcan
    cases hdone : l.reader.isDone with
    | true => simpa [Reader.read, hdone] using Reads.of_same_reader (Nat.sub_le l.unsent (leaving e))
    | false =>
      cases e with
      | sentPublish packet =>
        simpa [Reader.read, hdone, leaving] using Reads.sent packet hdone hunsent
      | pubAck packet =>
        have hread := Reads.acknowledged packet hdone
        cases hmessage : (l.reader.ids.acknowledged packet).1 <;>
          simpa [Reader.read, hdone, leaving, hmessage] using hread
      | accepted => simpa [Reader.read, hdone, leaving] using Reads.accepted hdone
      | other => simpa [Reader.read, hdone, leaving] using Reads.refl l
      | _ => simpa [Reader.read, Reader.finish, hdone, leaving] using Reads.finish hdone

end Line
end HubLink.Session
