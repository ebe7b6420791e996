import HubLink.Mqtt.Packet
import HubLink.Transport.State

namespace HubLink.Session

open Mqtt Transport

/-- The requested messages of a session that are not acknowledged, with the packet ids that they were
sent under. -/
structure PacketIds where
  /-- The messages requested and not sent yet, the oldest first. -/
  awaiting : List MessageId := []
  /-- The packet ids in use with their messages; each packet id occurs at most once. -/
  bound : List (PacketId × MessageId) := []
  deriving DecidableEq

namespace PacketIds

/-- Adds a requested message. -/
def request (t : PacketIds) (id : MessageId) : PacketIds :=
  { t with awaiting := t.awaiting ++ [id] }

/-- Removes a message whose request has failed. -/
def forget (t : PacketIds) (id : MessageId) : PacketIds :=
  { t with awaiting := t.awaiting.filter (· ≠ id) }

/-- Binds the packet id to the oldest message not sent yet, and replaces its earlier binding. -/
def sent (t : PacketIds) (packet : PacketId) : PacketIds :=
  match t.awaiting with
  | [] => t
  | id :: rest =>
    { awaiting := rest, bound := (packet, id) :: t.bound.filter (·.1 ≠ packet) }

/-- The message bound to a packet id. -/
def message? (t : PacketIds) (packet : PacketId) : Option MessageId :=
  (t.bound.find? (·.1 = packet)).map (·.2)

/-- Removes the binding of an acknowledged packet id, and returns its message. -/
def acknowledged (t : PacketIds) (packet : PacketId) : Option MessageId × PacketIds :=
  (t.message? packet, { t with bound := t.bound.filter (·.1 ≠ packet) })

/-- A request changes no binding. -/
@[simp] theorem message?_request (t : PacketIds) (id : MessageId) (packet : PacketId) :
    (t.request id).message? packet = t.message? packet := rfl

@[simp] theorem message?_forget (t : PacketIds) (id : MessageId) (packet : PacketId) :
    (t.forget id).message? packet = t.message? packet := rfl

/-- Removing the bindings of one packet id does not affect the others. -/
theorem find?_filter_ne (bound : List (PacketId × MessageId)) (packet other : PacketId) :
    (bound.filter (·.1 ≠ packet)).find? (·.1 = other) =
      if other = packet then none else bound.find? (·.1 = other) := by
  rw [List.find?_filter]
  split
  case isTrue h => simp [h]
  case isFalse h =>
    congr 1
    funext p
    by_cases hp : p.1 = other <;> simp [hp, h]

/-- Sending binds the packet id to the oldest awaiting message, whatever it was bound to before. -/
theorem message?_sent {t : PacketIds} {id : MessageId} {rest : List MessageId}
    (h : t.awaiting = id :: rest) (packet other : PacketId) :
    (t.sent packet).message? other = if other = packet then some id else t.message? other := by
  unfold sent message?
  rw [h]
  by_cases hother : other = packet
  · simp [hother]
  · have hne : packet ≠ other := fun h => hother h.symm
    rw [List.find?_cons_of_neg (by simpa using hne), find?_filter_ne, if_neg hother, if_neg hother]

/-- An acknowledgement removes the binding of its packet id. -/
theorem message?_acknowledged (t : PacketIds) (packet other : PacketId) :
    (t.acknowledged packet).2.message? other =
      if other = packet then none else t.message? other := by
  unfold acknowledged message?
  rw [find?_filter_ne]
  split <;> rfl

end PacketIds
end HubLink.Session
