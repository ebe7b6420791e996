import HubLink.Proofs.Session.Logbook

namespace HubLink.Session

open Mqtt Transport

/-- Whether a turn is the request of message `id` or the failure of that request. -/
def Turn.concerns (id : MessageId) : Turn → Bool
  | .request other | .refused other => other = id
  | _ => false

namespace Logbook

variable {b : Logbook} {id : MessageId} {t : Turn}

/-- The logbook with message `id` removed from its requested and forgotten messages. -/
def without (id : MessageId) (b : Logbook) : Logbook :=
  { b with
    requested := b.requested.filter (· ≠ id)
    forgotten := b.forgotten.filter (· ≠ id) }

theorem waiting_without (id : MessageId) (b : Logbook) :
    (b.without id).waiting = b.waiting.filter (· ≠ id) := by
  show (b.requested.filter (· ≠ id)).filter
    (fun other => other ∉ b.forgotten.filter (· ≠ id) ∧ other ∉ b.bound) = _
  rw [waiting, List.filter_filter, List.filter_filter]
  refine List.filter_congr fun other _ => ?_
  by_cases hother : other = id <;> simp [hother]

/-- If an event does not bind `id`, removing `id` commutes with it. -/
theorem hear_without {e : Event} (hid : id ∉ (b.hear e).bound) :
    (b.without id).hear e = (b.hear e).without id := by
  cases e with
  | sentPublish packet =>
    cases hwaiting : b.waiting with
    | nil => simp [hear, waiting_without, hwaiting]
    | cons first rest =>
      have hfirst : first ≠ id := fun heq => hid (by simp [hear, hwaiting, bound_note, heq])
      have hwithout : (b.without id).waiting = first :: rest.filter (· ≠ id) := by
        simp [waiting_without, hwaiting, hfirst]
      simp only [hear, hwaiting, hwithout]
      rfl
  | _ => rfl

/-- A turn only appends to the bound messages. -/
theorem bound_prefix_add (b : Logbook) (t : Turn) : b.bound <+: (b.add t).bound := by
  cases t with
  | event e =>
    have hhear : b.bound <+: (b.hear e).bound := by
      obtain h | ⟨packet, h⟩ | ⟨packet, id, rest, -, h⟩ := b.hear_cases e
      · exact h.symm ▸ List.prefix_rfl
      · exact ⟨_, h ▸ (b.bound_note packet none).symm⟩
      · exact ⟨_, h ▸ (b.bound_note packet (some id)).symm⟩
    simp only [add]
    split
    case isTrue => exact List.prefix_rfl
    case isFalse => exact hhear
  | refused other =>
    simp only [add]
    split <;> exact List.prefix_rfl
  | _ => exact List.prefix_rfl

/-- A turn that concerns `id` changes nothing once `id` is removed. -/
theorem without_add_of_concerns (b : Logbook) (h : t.concerns id = true) :
    (b.add t).without id = b.without id := by
  cases t with
  | request other =>
    obtain rfl : other = id := by simpa [Turn.concerns] using h
    simp [add, without]
  | refused other =>
    obtain rfl : other = id := by simpa [Turn.concerns] using h
    by_cases hmem : other ∈ b.requested <;> simp [add, without, hmem]
  | _ => cases h

/-- A turn that neither concerns nor binds `id` commutes with the removal of `id`. -/
theorem without_add (h : t.concerns id = false) (hid : id ∉ (b.add t).bound) :
    (b.add t).without id = (b.without id).add t := by
  cases t with
  | request other =>
    have hother : other ≠ id := by simpa [Turn.concerns] using h
    simp [add, without, hother]
  | taken => rfl
  | refused other =>
    have hother : other ≠ id := by simpa [Turn.concerns] using h
    by_cases hmem : other ∈ b.requested <;> simp [add, without, hother, hmem]
  | event e =>
    cases hover : b.isOver with
    | true => simp [add, without, hover]
    | false =>
      have hover' : (b.without id).isOver = false := hover
      rw [add_event hover] at hid ⊢
      rw [add_event hover', hear_without hid]
      rfl

/-- If `id` is never bound, the logbook of the turns that do not concern `id` is the whole logbook
with `id` removed. -/
theorem of_filter_concerns {turns : List Turn} (hid : id ∉ (of turns).bound) :
    of (turns.filter fun t => !t.concerns id) = (of turns).without id := by
  induction turns using List.reverseRecOn with
  | nil => rfl
  | append_singleton turns t ih =>
    rw [of_concat] at hid ⊢
    have hbefore : id ∉ (of turns).bound := fun hmem => hid ((bound_prefix_add _ t).subset hmem)
    rw [List.filter_append]
    cases hconcerns : t.concerns id with
    | true =>
      rw [without_add_of_concerns _ hconcerns, ← ih hbefore]
      simp [hconcerns]
    | false =>
      rw [without_add hconcerns hid, ← ih hbefore, ← of_concat]
      simp [hconcerns]

/-- The reader with `id` removed from the logbook is the reader after `refused id`. -/
theorem reader_without (id : MessageId) (b : Logbook) :
    (b.without id).reader = (b.reader.meet (.refused id)).1 := by
  simp only [reader, waiting_without]
  rfl

/-- A `refused` for a bound message leaves the reader unchanged. -/
theorem reader_refused_of_mem_bound (hid : id ∈ b.bound) :
    (b.reader.meet (.refused id)).1 = b.reader := by
  have habsent : id ∉ b.waiting := fun hwaiting => (mem_waiting.1 hwaiting).2.2 hid
  rw [← reader_without]
  simp only [reader, waiting_without, filter_ne_of_not_mem habsent]
  rfl

end Logbook

namespace Wire

/-- The message carried by a packet that leaves: the first in the channel. -/
def carries (w : Wire) : Turn → List MessageId
  | .event (.sentPublish _) => if w.isOver then [] else w.channel.head?.toList
  | _ => []

/-- The messages carried by the packets, in order. -/
def carriesAll : List Turn → Wire → List MessageId
  | [], _ => []
  | t :: rest, w => w.carries t ++ carriesAll rest (w.step t)

/-- The waiting messages of the logbook are those in the channel and the one whose request is under
way, and no forgotten message is bound. -/
structure Feeds (w : Wire) (b : Logbook) : Prop extends b.Valid where
  isOver : b.isOver = w.isOver
  waiting : b.waiting = w.channel ++ w.making.toList
  apart : ∀ id ∈ b.forgotten, id ∉ b.bound

namespace Feeds

variable {w : Wire} {b : Logbook} {id : MessageId} {t : Turn}

theorem start (first : MessageId) : Feeds { next := first } {} :=
  { Logbook.Valid.start with isOver := rfl, waiting := rfl, apart := by simp }

theorem request (h : w.Feeds b) (hallows : w.allows (.request id) = true)
    (hid : id ∉ b.requested) :
    (w.step (.request id)).Feeds (b.add (.request id)) where
  toValid := h.toValid.request hid
  isOver := h.isOver
  waiting := by
    obtain ⟨⟨hmaking, -⟩, -⟩ : (w.making = none ∧ id = w.next) ∧ id ∉ w.outstanding := by
      simpa [allows] using hallows
    rw [h.waiting_request hid, h.waiting, hmaking]
    simp [Wire.step]
  apart := h.apart

theorem taken (h : w.Feeds b) : (w.step .taken).Feeds b where
  toValid := h.toValid
  isOver := h.isOver
  waiting := by simp [Wire.step, h.waiting]
  apart := h.apart

/-- A refused message is not in the channel, so it was never bound. -/
theorem refused (h : w.Feeds b) (hallows : w.allows (.refused id) = true) :
    (w.step (.refused id)).Feeds (b.add (.refused id)) := by
  have hmaking : w.making = some id := by simpa [allows] using hallows
  have hwaiting : b.waiting = w.channel ++ [id] := by
    rw [h.waiting, hmaking]
    rfl
  have hnodup := hwaiting ▸ h.nodup_waiting
  have hmem : id ∈ b.waiting := by simp [hwaiting]
  obtain ⟨hrequested, -, hbound⟩ := Logbook.mem_waiting.1 hmem
  refine ⟨h.toValid.refused id, ?_, ?_, ?_⟩
  · simpa [Logbook.add, hrequested, Wire.step] using h.isOver
  · have habsent : id ∉ w.channel := fun hchannel =>
      (List.nodup_append.1 hnodup).2.2 id hchannel id (by simp) rfl
    rw [Logbook.waiting_refused, hwaiting, List.filter_append, filter_ne_of_not_mem habsent]
    simp [Wire.step]
  · simp only [Logbook.add, if_pos hrequested]
    intro other hother
    obtain hother | hother := List.mem_append.1 hother
    · exact h.apart other hother
    · exact List.mem_singleton.1 hother ▸ hbound

/-- A packet that leaves carries the message to which its id is bound. -/
theorem sent (h : w.Feeds b) (packet : PacketId)
    (hallows : w.allows (.event (.sentPublish packet)) = true) (hover : w.isOver = false) :
    (w.hear (.sentPublish packet)).Feeds (b.hear (.sentPublish packet)) ∧
      (b.hear (.sentPublish packet)).bound = b.bound ++ w.channel.head?.toList := by
  cases hchannel : w.channel with
  | nil => simp [allows, hover, hchannel] at hallows
  | cons id rest =>
    have hwaiting : b.waiting = id :: (rest ++ w.making.toList) := by
      rw [h.waiting, hchannel]
      rfl
    have hid : id ∉ b.forgotten := (Logbook.mem_waiting.1 (hwaiting ▸ List.mem_cons_self)).2.1
    simp only [hear, Logbook.hear, hchannel, hwaiting, Logbook.bound_note]
    refine ⟨⟨h.take hwaiting packet, h.isOver, h.waiting_note hwaiting packet, fun other hother => ?_⟩,
      rfl⟩
    rw [Logbook.bound_note, List.mem_append, not_or]
    refine ⟨h.apart other hother, ?_⟩
    simpa using fun heq : other = id => hid (heq ▸ hother)

theorem event (h : w.Feeds b) {e : Event} (hallows : w.allows (.event e) = true) :
    (w.step (.event e)).Feeds (b.add (.event e)) ∧
      (b.add (.event e)).bound = b.bound ++ w.carries (.event e) := by
  cases hover : w.isOver with
  | true =>
    have hover' : b.isOver = true := h.isOver.trans hover
    have hcarries : w.carries (.event e) = [] := by
      unfold carries
      split <;> simp [hover]
    simpa [Wire.step, Logbook.add, hover, hover', hcarries] using h
  | false =>
    have hover' : b.isOver = false := h.isOver.trans hover
    rw [Logbook.add_event hover', Wire.step, if_neg (by simp [hover])]
    cases e with
    | sentPublish packet =>
      obtain ⟨hfeeds, hbound⟩ := h.sent packet hallows hover
      have hgoes : (w.hear (.sentPublish packet)).isOver = false := by
        simp only [hear]
        split <;> exact hover
      refine ⟨⟨hfeeds.toValid.ending _, hgoes.symm, hfeeds.waiting, hfeeds.apart⟩, ?_⟩
      rwa [carries, if_neg (by simp [hover])]
    | pubAck packet =>
      have hbound : (b.note packet none).bound = b.bound := by simp [Logbook.bound_note]
      refine ⟨⟨(h.free packet).ending _, hover.symm, (b.waiting_note_none packet).trans h.waiting,
        fun other hother => ?_⟩, hbound.trans (List.append_nil _).symm⟩
      exact hbound ▸ h.apart other hother
    | accepted | other =>
      exact ⟨⟨h.toValid.ending _, hover.symm, h.waiting, h.apart⟩, (List.append_nil _).symm⟩
    | _ => exact ⟨⟨h.toValid.ending _, rfl, h.waiting, h.apart⟩, (List.append_nil _).symm⟩

theorem step (h : w.Feeds b) (hallows : w.allows t = true)
    (hfresh : (b.requested ++ requested [t]).Nodup) :
    (w.step t).Feeds (b.add t) ∧ (b.add t).bound = b.bound ++ w.carries t := by
  cases t with
  | request id =>
    exact ⟨h.request hallows (Logbook.not_mem_requested hfresh), (List.append_nil _).symm⟩
  | taken => exact ⟨h.taken, (List.append_nil _).symm⟩
  | refused id =>
    refine ⟨h.refused hallows, ?_⟩
    simp only [Logbook.add]
    split <;> exact (List.append_nil _).symm
  | event e => exact h.event hallows

theorem bound_foldl (h : w.Feeds b) {turns : List Turn} (hallows : allowsAll turns w = true)
    (hfresh : (b.requested ++ requested turns).Nodup) :
    (turns.foldl Logbook.add b).bound = b.bound ++ carriesAll turns w ∧
      ∀ id ∈ (turns.foldl Logbook.add b).forgotten, id ∉ (turns.foldl Logbook.add b).bound := by
  induction turns generalizing w b with
  | nil => exact ⟨(List.append_nil _).symm, h.apart⟩
  | cons t rest ih =>
    obtain ⟨hfirst, hrest⟩ : w.allows t = true ∧ allowsAll rest (w.step t) = true := by
      simpa [allowsAll] using hallows
    have hrequested : requested (t :: rest) = requested [t] ++ requested rest :=
      requested_append [t] rest
    rw [hrequested, ← List.append_assoc] at hfresh
    obtain ⟨hstep, hbound⟩ := h.step hfirst (List.nodup_append.1 hfresh).1
    rw [← Logbook.requested_add] at hfresh
    obtain ⟨hcarried, hapart⟩ := ih hstep hrest hfresh
    refine ⟨?_, hapart⟩
    rw [List.foldl_cons, hcarried, hbound, carriesAll, List.append_assoc]

end Feeds
end Wire

/-- For every session whose requests are for distinct messages: the waiting messages are those
requested and neither forgotten nor bound, in request order, and a packet that leaves is bound to the
first of them. The bound messages followed by the waiting ones are the requested ones without those
forgotten before they were bound. A `refused` for a bound message changes nothing; one for any other
leaves the reader, and all bindings, as if the message had never been requested. If packets carry the
messages of the channel, each is bound to the message it carries, and no forgotten message is among
these. -/
theorem bound_in_request_order (turns : List Turn) (hfresh : (requested turns).Nodup) :
    let b := Logbook.of turns
    let r := Reader.after {} turns
    r.ids.awaiting = b.waiting ∧
      (∀ packet id rest, r.isDone = false → b.waiting = id :: rest →
        let next := (r.meet (.event (.sentPublish packet))).1
        next.ids.awaiting = rest ∧ ∀ other, next.ids.message? other =
          if other = packet then some id else r.ids.message? other) ∧
      (∀ packet, r.ids.message? packet = b.message? packet) ∧
      b.bound ++ b.waiting =
        (requested turns).filter (fun id => id ∈ b.bound ∨ id ∉ b.forgotten) ∧
      (∀ id ∈ b.bound, (r.meet (.refused id)).1 = r) ∧
      (∀ id ∉ b.bound,
        let others := turns.filter fun t => !t.concerns id
        (Logbook.of others).bindings = b.bindings ∧
          (r.meet (.refused id)).1 = Reader.after {} others) ∧
      ∀ first, Wire.allowsAll turns { next := first } = true →
        b.bound = Wire.carriesAll turns { next := first } ∧ ∀ id ∈ b.forgotten, id ∉ b.bound := by
  intro b r
  obtain ⟨hvalid, hreader⟩ : b.Valid ∧ r = b.reader := Logbook.valid_of hfresh
  rw [hreader]
  refine ⟨rfl, fun packet id rest hdone hwaiting => ?_, b.message?_reader, ?_,
    fun id hid => Logbook.reader_refused_of_mem_bound hid, fun id hid => ?_,
    fun first hallows => (Wire.Feeds.start first).bound_foldl hallows hfresh⟩
  · intro next
    have hnext : next.ids = b.reader.ids.sent packet := by
      rw [show next = _ from Reader.meet_event hdone (.sentPublish packet)]
      rfl
    have hawaiting : b.reader.ids.awaiting = id :: rest := hwaiting
    rw [hnext]
    refine ⟨by simp only [PacketIds.sent, hawaiting], PacketIds.message?_sent hawaiting packet⟩
  · rw [← Logbook.requested_of]
    exact hvalid.order
  · intro others
    have hsame : Logbook.of others = b.without id := Logbook.of_filter_concerns hid
    have hothers : (requested others).Nodup := hfresh.sublist (List.filter_sublist.filterMap _)
    refine ⟨by rw [hsame]; rfl, ?_⟩
    rw [(Logbook.valid_of hothers).2, hsame, Logbook.reader_without]

/-- A request fails while the packet of the message before it leaves, and a packet id is used
twice. -/
theorem bound_in_request_order_failing :
    let turns : List Turn :=
      [.event .accepted, .request ⟨0⟩, .taken, .request ⟨1⟩, .event (.sentPublish 1), .refused ⟨1⟩,
        .request ⟨2⟩, .taken, .event (.pubAck 1), .event (.sentPublish 1), .request ⟨3⟩]
    let r := Reader.after {} turns
    (requested turns).Nodup ∧ (Logbook.of turns).bound = [⟨0⟩, ⟨2⟩] ∧
      r.ids.awaiting = [⟨3⟩] ∧ r.ids.message? 1 = some ⟨2⟩ ∧
      (r.meet (.event (.sentPublish 2))).1.ids.message? 2 = some ⟨3⟩ ∧
      (r.meet (.refused ⟨3⟩)).1 = Reader.after {} (turns.filter fun t => !t.concerns ⟨3⟩) ∧
      Wire.carriesAll turns { next := ⟨0⟩ } = [⟨0⟩, ⟨2⟩] := by
  intro turns r
  have hfresh : (requested turns).Nodup := by decide
  have hbound : (Logbook.of turns).bound = [⟨0⟩, ⟨2⟩] := by decide
  have hwaiting : (Logbook.of turns).waiting = [⟨3⟩] := by decide
  obtain ⟨hawaiting, hsent, hmessage, -, -, hforget, hcarried⟩ := bound_in_request_order turns hfresh
  refine ⟨hfresh, hbound, hawaiting.trans hwaiting, (hmessage 1).trans (by decide), ?_,
    (hforget ⟨3⟩ (by decide)).2, ?_⟩
  · exact (hsent 2 ⟨3⟩ [] (by decide) hwaiting).2 2
  · exact (hcarried ⟨0⟩ (by decide)).1.symm.trans hbound

/-- Two requests are made before either is taken, and the first of them fails. -/
example : (Reader.after {} [.request ⟨0⟩, .request ⟨1⟩, .refused ⟨0⟩,
    .event (.sentPublish 3)]).ids.message? 3 = some ⟨1⟩ := by
  decide

end HubLink.Session
