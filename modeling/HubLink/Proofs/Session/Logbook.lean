import HubLink.Proofs.Session.Announcements
import Mathlib.Data.List.Induction

namespace HubLink.Session

open Mqtt Transport

/-- The reader after the turns of a session. -/
def Reader.after (r : Reader) (turns : List Turn) : Reader :=
  turns.foldl (fun r t => (r.meet t).1) r

/-- A complete record of the requests and packet ids of a session. -/
structure Logbook where
  /-- The requested messages, in order. -/
  requested : List MessageId := []
  /-- The messages whose requests have failed. -/
  forgotten : List MessageId := []
  /-- The bindings of packet ids, the oldest first; `none` for an id that was released. -/
  bindings : List (PacketId × Option MessageId) := []
  isOver : Bool := false

namespace Logbook

/-- The messages that were ever bound to a packet id, in the order of their packets. -/
def bound (b : Logbook) : List MessageId :=
  b.bindings.filterMap (·.2)

/-- The requested messages that are neither bound nor forgotten, in request order. -/
def waiting (b : Logbook) : List MessageId :=
  b.requested.filter fun id => id ∉ b.forgotten ∧ id ∉ b.bound

/-- The message to which a packet id is bound: the last binding recorded for it. -/
def message? (b : Logbook) (packet : PacketId) : Option MessageId :=
  (b.bindings.reverse.find? (·.1 = packet)).bind (·.2)

/-- Records a binding. -/
def note (b : Logbook) (packet : PacketId) (message : Option MessageId) : Logbook :=
  { b with bindings := b.bindings ++ [(packet, message)] }

/-- The logbook after an event: a packet that leaves is bound to the first waiting message, if there
is one, and an acknowledgement releases its packet id. -/
def hear (b : Logbook) : Event → Logbook
  | .sentPublish packet =>
    match b.waiting with
    | [] => b
    | id :: _ => b.note packet (some id)
  | .pubAck packet => b.note packet none
  | _ => b

/-- The logbook after a turn. Only a requested message can be forgotten, and no event counts after the
end. -/
def add (b : Logbook) : Turn → Logbook
  | .request id => { b with requested := b.requested ++ [id] }
  | .taken => b
  | .refused id => if id ∈ b.requested then { b with forgotten := b.forgotten ++ [id] } else b
  | .event e => if b.isOver then b else { b.hear e with isOver := (Turn.event e).ends }

/-- The logbook of a sequence of turns. -/
def of (turns : List Turn) : Logbook :=
  turns.foldl add {}

/-- The reader that agrees with the logbook. -/
def reader (b : Logbook) : Reader where
  ids := {
    awaiting := b.waiting
    bound := b.bindings.foldl (fun bound n => n.2.toList.map (n.1, ·) ++ bound.filter (·.1 ≠ n.1)) [] }
  isDone := b.isOver

end Logbook

variable {r : Reader}

/-- In a session that has not ended, an event changes only the packet ids and may end the session. -/
theorem Reader.meet_event (h : r.isDone = false) (e : Event) :
    (r.meet (.event e)).1 = { ids := r.ids.after (.event e), isDone := (Turn.event e).ends } := by
  cases hends : (Turn.event e).ends with
  | false => exact (r.meet_of_not_ends h hends).2
  | true => cases e <;> simp_all [Turn.ends, meet, read, finish, PacketIds.after]

/-- An event leaves a reader that is done unchanged. -/
theorem Reader.meet_event_of_isDone (h : r.isDone = true) (e : Event) :
    (r.meet (.event e)).1 = r := by
  simp [meet, read, h]

/-- Filtering a message out of a list without it changes nothing. -/
theorem filter_ne_of_not_mem {id : MessageId} {ids : List MessageId} (h : id ∉ ids) :
    ids.filter (· ≠ id) = ids :=
  List.filter_eq_self.2 fun other hother => by simpa using ne_of_mem_of_not_mem hother h

namespace Logbook

variable {b : Logbook} {id : MessageId} {t : Turn}

theorem of_concat (turns : List Turn) (t : Turn) : of (turns ++ [t]) = (of turns).add t := by
  simp [of]

theorem add_event (hover : b.isOver = false) (e : Event) :
    b.add (.event e) = { b.hear e with isOver := (Turn.event e).ends } := by
  simp [add, hover]

theorem mem_waiting : id ∈ b.waiting ↔ id ∈ b.requested ∧ id ∉ b.forgotten ∧ id ∉ b.bound := by
  simp [waiting]

/-- An event changes nothing, releases a packet id, or binds one to the first waiting message. -/
theorem hear_cases (b : Logbook) (e : Event) :
    b.hear e = b ∨ (∃ packet, b.hear e = b.note packet none) ∨
      ∃ packet id rest, b.waiting = id :: rest ∧ b.hear e = b.note packet (some id) := by
  cases e with
  | sentPublish packet =>
    cases hwaiting : b.waiting with
    | nil => exact .inl (by simp [hear, hwaiting])
    | cons id rest => exact .inr (.inr ⟨packet, id, rest, rfl, by simp [hear, hwaiting]⟩)
  | pubAck packet => exact .inr (.inl ⟨packet, rfl⟩)
  | _ => exact .inl rfl

theorem bound_note (b : Logbook) (packet : PacketId) (message : Option MessageId) :
    (b.note packet message).bound = b.bound ++ message.toList := by
  cases message <;> simp [bound, note]

/-- A release leaves the waiting messages unchanged. -/
theorem waiting_note_none (b : Logbook) (packet : PacketId) :
    (b.note packet none).waiting = b.waiting := by
  rw [waiting, bound_note, Option.toList_none, List.append_nil]
  rfl

/-- The last binding recorded for a packet id is the one that `message?` returns. -/
theorem message?_note (b : Logbook) (packet other : PacketId) (message : Option MessageId) :
    (b.note packet message).message? other =
      if other = packet then message else b.message? other := by
  by_cases h : other = packet
  · simp [message?, note, h]
  · have hne : packet ≠ other := fun h' => h h'.symm
    simp [message?, note, h, hne]

/-- The reader has the same bindings as the logbook. -/
theorem message?_reader (b : Logbook) (packet : PacketId) :
    b.reader.ids.message? packet = b.message? packet := by
  obtain ⟨requested, forgotten, bindings, isOver⟩ := b
  induction bindings using List.reverseRecOn with
  | nil => rfl
  | append_singleton bindings n ih =>
    obtain ⟨used, message⟩ := n
    let before : Logbook := { requested, forgotten, bindings, isOver }
    have hfind : before.reader.ids.message? packet = before.message? packet := ih
    show (before.note used message).reader.ids.message? packet =
      (before.note used message).message? packet
    rw [message?_note, ← hfind]
    cases message with
    | none =>
      simp only [PacketIds.message?, reader, note, List.foldl_concat, Option.toList_none, List.map_nil,
        List.nil_append, PacketIds.find?_filter_ne]
      split <;> rfl
    | some id =>
      by_cases h : packet = used
      · simp [PacketIds.message?, reader, note, h]
      · have hne : used ≠ packet := fun h' => h h'.symm
        simp only [PacketIds.message?, reader, note, List.foldl_concat, Option.toList_some,
          List.map_cons, List.map_nil, List.singleton_append, List.find?_cons, hne, decide_false,
          PacketIds.find?_filter_ne, if_neg h]

theorem requested_add (b : Logbook) (t : Turn) :
    (b.add t).requested = b.requested ++ Session.requested [t] := by
  cases t with
  | request id => rfl
  | taken => exact (List.append_nil _).symm
  | refused id =>
    simp only [add]
    split <;> exact (List.append_nil _).symm
  | event e =>
    have hhear : (b.hear e).requested = b.requested := by
      obtain h | ⟨packet, h⟩ | ⟨packet, id, rest, -, h⟩ := b.hear_cases e
      · rw [h]
      · rw [h, note]
      · rw [h, note]
    simp only [add]
    split
    case isTrue => exact (List.append_nil _).symm
    case isFalse => exact hhear.trans (List.append_nil _).symm

theorem requested_of (turns : List Turn) : (of turns).requested = Session.requested turns := by
  induction turns using List.reverseRecOn with
  | nil => rfl
  | append_singleton turns t ih =>
    rw [of_concat, requested_add, ih, requested_append]

theorem not_mem_requested (hfresh : (b.requested ++ Session.requested [.request id]).Nodup) :
    id ∉ b.requested := fun hid =>
  (List.nodup_append.1 hfresh).2.2 id hid id (by simp [Session.requested]) rfl

/-- A forgotten message is removed from the waiting ones. -/
theorem waiting_refused (b : Logbook) (id : MessageId) :
    (b.add (.refused id)).waiting = b.waiting.filter (· ≠ id) := by
  by_cases hid : id ∈ b.requested
  · simp only [add, if_pos hid]
    show b.requested.filter (fun other => other ∉ b.forgotten ++ [id] ∧ other ∉ b.bound) = _
    rw [waiting, List.filter_filter]
    refine List.filter_congr fun other _ => ?_
    by_cases hother : other = id <;> simp [hother]
  · have habsent : id ∉ b.waiting := fun hwaiting => hid (mem_waiting.1 hwaiting).1
    simp only [add, if_neg hid]
    exact (filter_ne_of_not_mem habsent).symm

/-- The requests are for distinct messages, only requested ones are forgotten, and the bound messages
followed by the waiting ones are the requested ones without those forgotten before they were bound. -/
structure Valid (b : Logbook) : Prop where
  nodup : b.requested.Nodup
  forgotten : ∀ id ∈ b.forgotten, id ∈ b.requested
  order : b.bound ++ b.waiting = b.requested.filter fun id => id ∈ b.bound ∨ id ∉ b.forgotten

namespace Valid

theorem start : Valid {} :=
  ⟨List.nodup_nil, by simp, rfl⟩

theorem mem_requested (h : b.Valid) (hid : id ∈ b.bound) : id ∈ b.requested := by
  have hkept : id ∈ b.bound ++ b.waiting := List.mem_append_left _ hid
  rw [h.order] at hkept
  exact List.mem_of_mem_filter hkept

theorem nodup_waiting (h : b.Valid) : b.waiting.Nodup :=
  h.nodup.sublist List.filter_sublist

/-- A new message is appended to the waiting ones. -/
theorem waiting_request (h : b.Valid) (hid : id ∉ b.requested) :
    (b.add (.request id)).waiting = b.waiting ++ [id] := by
  have hforgotten : id ∉ b.forgotten := fun hmem => hid (h.forgotten id hmem)
  have hbound : id ∉ b.bound := fun hmem => hid (h.mem_requested hmem)
  show (b.requested ++ [id]).filter (fun other => other ∉ b.forgotten ∧ other ∉ b.bound) = _
  simp [waiting, hforgotten, hbound]

theorem request (h : b.Valid) (hid : id ∉ b.requested) : (b.add (.request id)).Valid := by
  have hforgotten : id ∉ b.forgotten := fun hmem => hid (h.forgotten id hmem)
  refine ⟨?_, fun other hother => List.mem_append_left _ (h.forgotten other hother), ?_⟩
  · exact (List.perm_append_singleton id b.requested).nodup_iff.2 (List.nodup_cons.2 ⟨hid, h.nodup⟩)
  · show b.bound ++ (b.add (.request id)).waiting =
      (b.requested ++ [id]).filter fun other => other ∈ b.bound ∨ other ∉ b.forgotten
    rw [h.waiting_request hid, ← List.append_assoc, h.order, List.filter_append]
    simp [hforgotten]

theorem refused (h : b.Valid) (id : MessageId) : (b.add (.refused id)).Valid := by
  have hwaiting := b.waiting_refused id
  by_cases hid : id ∈ b.requested
  · simp only [add, if_pos hid] at hwaiting ⊢
    refine ⟨h.nodup, fun other hother => ?_, ?_⟩
    · obtain hother | hother := List.mem_append.1 hother
      · exact h.forgotten other hother
      · exact List.mem_singleton.1 hother ▸ hid
    · -- A message that was bound before stays where it is.
      have hbound : b.bound.filter (fun other => other ∈ b.bound ∨ other ≠ id) = b.bound :=
        List.filter_eq_self.2 fun other hother => by simp [hother]
      have hleft : b.waiting.filter (fun other => other ∈ b.bound ∨ other ≠ id) =
          b.waiting.filter (· ≠ id) :=
        List.filter_congr fun other hother => by simp [(mem_waiting.1 hother).2.2]
      calc b.bound ++ _ = b.bound ++ b.waiting.filter (· ≠ id) := by rw [hwaiting]
        _ = (b.bound ++ b.waiting).filter (fun other => other ∈ b.bound ∨ other ≠ id) := by
          rw [List.filter_append, hbound, hleft]
        _ = b.requested.filter (fun other => other ∈ b.bound ∨ other ∉ b.forgotten ++ [id]) := by
          rw [h.order, List.filter_filter]
          refine List.filter_congr fun other _ => ?_
          by_cases hother : other ∈ b.bound <;> simp [hother, and_comm]
  · simpa only [add, if_neg hid] using h

/-- Binding the first waiting message leaves the others waiting. -/
theorem waiting_note (h : b.Valid) {rest : List MessageId} (hwaiting : b.waiting = id :: rest)
    (packet : PacketId) : (b.note packet (some id)).waiting = rest := by
  obtain ⟨hid, -⟩ := List.nodup_cons.1 (hwaiting ▸ h.nodup_waiting)
  have hleft : (b.note packet (some id)).waiting = b.waiting.filter (· ≠ id) := by
    rw [waiting, bound_note, waiting, List.filter_filter]
    refine List.filter_congr fun other _ => ?_
    by_cases hother : other = id <;> simp [hother, note]
  rw [hleft, hwaiting, List.filter_cons_of_neg (by simp), filter_ne_of_not_mem hid]

theorem take (h : b.Valid) {rest : List MessageId} (hwaiting : b.waiting = id :: rest)
    (packet : PacketId) : (b.note packet (some id)).Valid := by
  have hid : id ∉ b.forgotten := (mem_waiting.1 (hwaiting ▸ List.mem_cons_self)).2.1
  refine ⟨h.nodup, h.forgotten, ?_⟩
  rw [h.waiting_note hwaiting, bound_note, Option.toList_some, List.append_assoc, List.singleton_append,
    ← hwaiting, h.order]
  refine List.filter_congr fun other _ => ?_
  by_cases hother : other = id <;> simp [hother, hid, note]

theorem free (h : b.Valid) (packet : PacketId) : (b.note packet none).Valid := by
  refine ⟨h.nodup, h.forgotten, ?_⟩
  rw [waiting_note_none, bound_note, Option.toList_none, List.append_nil]
  exact h.order

theorem hear (h : b.Valid) (e : Event) : (b.hear e).Valid := by
  obtain hsame | ⟨packet, hfree⟩ | ⟨packet, id, rest, hwaiting, htake⟩ := b.hear_cases e
  · rwa [hsame]
  · rw [hfree]
    exact h.free packet
  · rw [htake]
    exact h.take hwaiting packet

/-- Validity does not depend on whether the session has ended. -/
theorem ending (h : b.Valid) (isOver : Bool) : Valid { b with isOver } :=
  ⟨h.nodup, h.forgotten, h.order⟩

theorem add (h : b.Valid) (hfresh : (b.requested ++ Session.requested [t]).Nodup) :
    (b.add t).Valid := by
  cases t with
  | request id => exact h.request (not_mem_requested hfresh)
  | taken => exact h
  | refused id => exact h.refused id
  | event e =>
    simp only [Logbook.add]
    split
    case isTrue => exact h
    case isFalse => exact (h.hear e).ending _

/-- The packet ids of the reader after an event are those of the logbook after it. -/
theorem ids_hear (h : b.Valid) (e : Event) :
    (b.hear e).reader.ids = b.reader.ids.after (.event e) := by
  cases e with
  | sentPublish packet =>
    cases hwaiting : b.waiting with
    | nil => simp [Logbook.hear, hwaiting, PacketIds.after, PacketIds.sent, reader]
    | cons id rest =>
      have hrest := h.waiting_note hwaiting packet
      simp only [Logbook.hear, hwaiting, PacketIds.after, PacketIds.sent, reader, hrest]
      simp [note]
  | pubAck packet =>
    have hwaiting := b.waiting_note_none packet
    simp only [Logbook.hear, PacketIds.after, PacketIds.acknowledged, reader, hwaiting]
    simp [note]
  | _ => rfl

/-- The reader after a turn is that of the logbook after it. -/
theorem reader_meet (h : b.Valid) (hfresh : (b.requested ++ Session.requested [t]).Nodup) :
    (b.reader.meet t).1 = (b.add t).reader := by
  cases t with
  | request id =>
    have hwaiting := h.waiting_request (not_mem_requested hfresh)
    simp only [reader, hwaiting]
    rfl
  | taken => rfl
  | refused id =>
    have hwaiting := b.waiting_refused id
    have hrest : (b.add (.refused id)).bindings = b.bindings ∧
        (b.add (.refused id)).isOver = b.isOver := by
      simp only [Logbook.add]
      split <;> exact ⟨rfl, rfl⟩
    simp only [reader, hwaiting, hrest]
    rfl
  | event e =>
    cases hover : b.isOver with
    | true =>
      rw [b.reader.meet_event_of_isDone hover]
      simp [Logbook.add, hover]
    | false =>
      rw [b.reader.meet_event hover, ← h.ids_hear e, add_event hover]
      rfl

end Valid

/-- For requests of distinct messages, the logbook is valid and its reader is the reader after the
turns. -/
theorem valid_of {turns : List Turn} (hfresh : (Session.requested turns).Nodup) :
    (of turns).Valid ∧ Reader.after {} turns = (of turns).reader := by
  induction turns using List.reverseRecOn with
  | nil => exact ⟨.start, rfl⟩
  | append_singleton turns t ih =>
    rw [requested_append] at hfresh
    obtain ⟨hvalid, hreader⟩ := ih (List.nodup_append.1 hfresh).1
    rw [← requested_of] at hfresh
    rw [of_concat, Reader.after, List.foldl_concat, ← Reader.after, hreader]
    exact ⟨hvalid.add hfresh, hvalid.reader_meet hfresh⟩

end Logbook
end HubLink.Session
