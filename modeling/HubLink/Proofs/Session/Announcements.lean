import HubLink.Proofs.Session.Correlation
import HubLink.Proofs.Session.Line

namespace HubLink.Session

open Mqtt Transport

/-- Whether a turn ends the session. -/
def Turn.ends : Turn → Bool
  | .event (.refused _) | .event .disconnected | .event .sentDisconnect | .event .failed => true
  | _ => false

/-- The packet ids after a turn of a session that has not ended. -/
def PacketIds.after (ids : PacketIds) : Turn → PacketIds
  | .request id => ids.request id
  | .refused id => ids.forget id
  | .event (.sentPublish packet) => ids.sent packet
  | .event (.pubAck packet) => (ids.acknowledged packet).2
  | _ => ids

/-- The notifications of a turn of a session that has not ended: `connected` for an accepted session,
and `published` for an acknowledged packet with a message. -/
def Turn.announces (ids : PacketIds) : Turn → List Notification
  | .event .accepted => [.connected]
  | .event (.pubAck packet) => (ids.message? packet).toList.map .published
  | _ => []

/-- The notifications of turns that do not end the session, in order. -/
def announced : PacketIds → List Turn → List Notification
  | _, [] => []
  | ids, t :: rest => t.announces ids ++ announced (ids.after t) rest

/-- The requested messages, in order. -/
def requested (turns : List Turn) : List MessageId :=
  turns.filterMap fun
    | .request id => some id
    | _ => none

variable {r : Reader} {t : Turn} {turns : List Turn} {ids : PacketIds}

theorem requested_append (turns more : List Turn) :
    requested (turns ++ more) = requested turns ++ requested more :=
  List.filterMap_append

/-- A reader that is done raises nothing and stays done. -/
theorem Reader.meet_of_isDone (h : r.isDone = true) (t : Turn) :
    (r.meet t).2 = [] ∧ (r.meet t).1.isDone = true := by
  cases t with
  | event e => simp [meet, read, h]
  | _ => exact ⟨rfl, h⟩

/-- A turn that ends the session raises exactly `disconnected`, and the reader is done. -/
theorem Reader.meet_of_ends (h : r.isDone = false) (hends : t.ends = true) :
    notifications (r.meet t).2 = [.disconnected] ∧ (r.meet t).1.isDone = true := by
  cases t with
  | event e => cases e <;> simp_all [Turn.ends, meet, read, finish]
  | _ => cases hends

/-- Any other turn raises what `Turn.announces` says and changes only the packet ids. -/
theorem Reader.meet_of_not_ends (h : r.isDone = false) (hends : t.ends = false) :
    notifications (r.meet t).2 = t.announces r.ids ∧
      (r.meet t).1 = { ids := r.ids.after t, isDone := false } := by
  obtain ⟨ids, isDone⟩ := r
  obtain rfl : isDone = false := h
  cases t with
  | event e =>
    cases e with
    | pubAck packet =>
      have hmessage : (ids.acknowledged packet).1 = ids.message? packet := rfl
      cases hbound : ids.message? packet <;>
        simp [meet, read, Turn.announces, PacketIds.after, hmessage, hbound]
    | accepted | sentPublish | other => exact ⟨rfl, rfl⟩
    | refused | disconnected | sentDisconnect | failed => cases hends
  | _ => exact ⟨rfl, rfl⟩

theorem Reader.meetAll_of_isDone (h : r.isDone = true) (turns : List Turn) : r.meetAll turns = [] := by
  induction turns generalizing r with
  | nil => rfl
  | cons t rest ih =>
    obtain ⟨hsilent, hdone⟩ := r.meet_of_isDone h t
    rw [meetAll, hsilent, ih hdone]
    rfl

/-- The notifications of a session are those announced up to the first ending turn, followed by
`disconnected` if there is one. -/
theorem Reader.notifications_meetAll (h : r.isDone = false) (turns : List Turn) :
    notifications (r.meetAll turns) = announced r.ids (turns.takeWhile fun t => !t.ends) ++
      if turns.any Turn.ends then [.disconnected] else [] := by
  induction turns generalizing r with
  | nil => rfl
  | cons t rest ih =>
    rw [meetAll, notifications_append]
    cases hends : t.ends with
    | true =>
      obtain ⟨hend, hdone⟩ := r.meet_of_ends h hends
      rw [hend, meetAll_of_isDone hdone]
      simp [hends, announced]
    | false =>
      obtain ⟨hturn, hnext⟩ := r.meet_of_not_ends h hends
      rw [hturn, hnext, ih rfl]
      simp [hends, announced]

theorem disconnected_not_mem_announced (ids : PacketIds) (turns : List Turn) :
    .disconnected ∉ announced ids turns := by
  induction turns generalizing ids with
  | nil => exact List.not_mem_nil
  | cons t rest ih =>
    have hturn : .disconnected ∉ t.announces ids := by
      unfold Turn.announces
      split <;> simp
    rw [announced, List.mem_append, not_or]
    exact ⟨hturn, ih (ids.after t)⟩

/-- The messages announced by a turn and those in the table after it were in the table before or are
requested in it, counted with multiplicity. -/
theorem subperm_announces (ids : PacketIds) (t : Turn) :
    (confirmed (t.announces ids) ++ (ids.after t).messages).Subperm
      (ids.messages ++ requested [t]) := by
  cases t with
  | request id =>
    have hperm : (ids.request id).messages.Perm (ids.messages ++ [id]) := by
      simp only [PacketIds.messages, PacketIds.request, List.append_assoc]
      exact List.Perm.append_left _ List.perm_append_comm
    exact hperm.subperm
  | taken => simpa [Turn.announces, PacketIds.after, requested] using List.Subperm.refl _
  | refused id =>
    have hsublist : (ids.forget id).messages.Sublist ids.messages :=
      List.filter_sublist.append (List.Sublist.refl _)
    simpa [Turn.announces, PacketIds.after, requested] using hsublist.subperm
  | event e =>
    cases e with
    | sentPublish packet =>
      simpa [Turn.announces, PacketIds.after, requested] using ids.messages_sent packet
    | pubAck packet =>
      have hmessages := ids.messages_acknowledged packet
      have hconfirmed : confirmed (Turn.announces ids (.event (.pubAck packet))) =
          (ids.acknowledged packet).1.toList := by
        show confirmed ((ids.message? packet).toList.map .published) = (ids.message? packet).toList
        cases ids.message? packet <;> rfl
      rw [hconfirmed]
      simpa [requested, PacketIds.after] using List.perm_append_comm.subperm.trans hmessages
    | _ => simpa [Turn.announces, PacketIds.after, requested] using List.Subperm.refl _

/-- The announced messages were in the first table or were requested, counted with multiplicity. -/
theorem subperm_announced (ids : PacketIds) (turns : List Turn) :
    (confirmed (announced ids turns)).Subperm (ids.messages ++ requested turns) := by
  induction turns generalizing ids with
  | nil => exact List.nil_subperm
  | cons t rest ih =>
    have hrequested : requested (t :: rest) = requested [t] ++ requested rest :=
      requested_append [t] rest
    rw [announced, confirmed_append, hrequested, ← List.append_assoc]
    have hrest : (confirmed (t.announces ids) ++ confirmed (announced (ids.after t) rest)).Subperm
        (confirmed (t.announces ids) ++ (ids.after t).messages ++ requested rest) := by
      rw [List.append_assoc]
      exact (List.Subperm.refl _).append (ih (ids.after t))
    exact hrest.trans ((subperm_announces ids t).append (List.Subperm.refl _))

theorem requested_takeWhile_sublist (p : Turn → Bool) (turns : List Turn) :
    (requested (turns.takeWhile p)).Sublist (requested turns) :=
  (List.takeWhile_sublist p).filterMap _

/-- The notifications of a session are those announced up to the first ending event, followed by
exactly one `disconnected` if there is such an event. The acknowledged messages were requested in the
session, and each is announced at most once if the requests are for distinct messages. -/
theorem session_announces (turns : List Turn) :
    let heard := turns.takeWhile fun t => !t.ends
    let notices := notifications (Reader.meetAll turns {})
    notices = announced {} heard ++ (if turns.any Turn.ends then [.disconnected] else []) ∧
      .disconnected ∉ announced {} heard ∧
      (confirmed notices).Subperm (requested heard) ∧
      ((requested turns).Nodup → (confirmed notices).Nodup) := by
  intro heard notices
  have hnotices : notices = announced {} heard ++
      (if turns.any Turn.ends then [.disconnected] else []) :=
    Reader.notifications_meetAll rfl turns
  have hconfirmed : confirmed notices = confirmed (announced {} heard) := by
    rw [hnotices, confirmed_append]
    split <;> simp
  have hsubperm : (confirmed notices).Subperm (requested heard) := by
    rw [hconfirmed]
    exact subperm_announced {} heard
  refine ⟨hnotices, disconnected_not_mem_announced {} heard, hsubperm, fun hnodup => ?_⟩
  obtain ⟨messages, hperm, hsublist⟩ := hsubperm
  have hheard : (requested heard).Nodup := hnodup.sublist (requested_takeWhile_sublist _ turns)
  exact hperm.nodup_iff.1 (hheard.sublist hsublist)

/-- Requests and acknowledgements cross, one acknowledgement comes twice, and two events end the
session. -/
theorem session_announces_crossing :
    let turns : List Turn :=
      [.event .accepted, .request ⟨0⟩, .request ⟨1⟩, .event (.sentPublish 1), .request ⟨2⟩, .refused ⟨2⟩,
        .event (.sentPublish 2), .event (.pubAck 2), .event (.pubAck 2), .event (.pubAck 1),
        .event .disconnected, .event (.pubAck 1), .event .failed, .event .accepted]
    (requested turns).Nodup ∧
      notifications (Reader.meetAll turns {}) =
        [.connected, .published ⟨1⟩, .published ⟨0⟩, .disconnected] ∧
      (confirmed (notifications (Reader.meetAll turns {}))).Nodup := by
  intro turns
  have hnodup : (requested turns).Nodup := by decide
  obtain ⟨hnotices, -, -, hconfirmed⟩ := session_announces turns
  exact ⟨hnodup, hnotices, hconfirmed hnodup⟩

end HubLink.Session
