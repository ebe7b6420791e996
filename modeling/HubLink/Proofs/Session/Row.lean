import HubLink.Session.Connection
import HubLink.Transport.Trace
import Mathlib.Data.List.Nodup

namespace HubLink.Session

open Mqtt Transport

/-- A sequence of payloads for one topic. -/
structure Row where
  topic : String
  payload : Nat → Bytes

namespace Row

/-- The identity of message `i`, counted modulo `2 ^ 64`. -/
def id (i : Nat) : MessageId :=
  ⟨UInt64.ofNat i⟩

/-- The packet id of message `i`. -/
def packetId (i : Nat) : PacketId :=
  i % windowSize + 1

theorem next_id (i : Nat) : (id i).next = id (i + 1) := by
  simp [id, MessageId.next, UInt64.ofNat_add]

theorem id_inj {i j : Nat} (hi : i < UInt64.size) (hj : j < UInt64.size) : id i = id j ↔ i = j := by
  refine ⟨fun h => ?_, congrArg id⟩
  have hnumber := congrArg (UInt64.toNat ∘ MessageId.number) h
  simpa [id, Nat.mod_eq_of_lt, hi, hj] using hnumber

theorem nextId_packetId (i : Nat) : Window.nextId (packetId i) = packetId (i + 1) := by
  change ((i % 100 + 1) % 100 + 1 : Nat) = (i + 1) % 100 + 1
  omega

/-- Messages less than a window apart have different packet ids. -/
theorem packetId_inj {i j : Nat} (hij : i ≤ j) (hj : j < i + windowSize) :
    packetId i = packetId j ↔ i = j := by
  change (i % 100 + 1 : Nat) = j % 100 + 1 ↔ i = j
  have hj : j < i + 100 := hj
  omega

/-- The order for message `i`. -/
def order (r : Row) (i : Nat) : Order :=
  .publish r.topic (r.payload i)

/-- The packet of message `i`. -/
def packet (r : Row) (i : Nat) : Outgoing :=
  .publish { topic := r.topic, payload := r.payload i, packetId := packetId i }

/-- Whether message `i` fits into a packet. -/
def Fits (r : Row) (i : Nat) : Prop :=
  messageSize r.topic (r.payload i) ≤ maxPacketSize

/-- The state of a session with orders for the messages before `noted`: those before `sent` were sent,
those before `read` were read by the broker, and those before `acked` were acknowledged. -/
structure Carries (r : Row) (c : Connection) (noted acked read sent : Nat) : Prop where
  acked_le : acked ≤ read
  read_le : read ≤ sent
  sent_le : sent ≤ noted
  window_le : sent ≤ acked + windowSize
  isOpen : c.isOpen = true
  isDone : c.reader.isDone = false
  buffer : c.buffer = []
  nextId : Window.nextId c.window.lastId = packetId sent
  count : c.window.count = sent - acked
  collision : c.window.collision = none
  occupied : ∀ p, p ∈ c.window.occupied ↔ ∃ i, acked ≤ i ∧ i < sent ∧ packetId i = p
  nodup : c.window.occupied.Nodup
  awaiting : c.reader.ids.awaiting = (List.range' sent (noted - sent)).map id
  message : ∀ i, acked ≤ i → i < sent → c.reader.ids.message? (packetId i) = some (id i)
  due : c.due = (List.range' read (sent - read)).map r.packet

/-- As `Carries`, with orders for the messages from `sent` on, and the window full if there are
any. -/
structure Streams (r : Row) (c : Connection) (noted acked read sent : Nat) : Prop
    extends r.Carries c noted acked read sent where
  orders : c.orders = (List.range' sent (noted - sent)).map r.order
  full : sent < noted → sent = acked + windowSize

variable {r : Row} {c : Connection} {noted acked read sent : Nat}

theorem range'_eq_cons {i n : Nat} (h : i < n) :
    List.range' i (n - i) = i :: List.range' (i + 1) (n - (i + 1)) := by
  obtain ⟨k, rfl⟩ := Nat.exists_eq_add_of_lt h
  rw [show i + k + 1 - i = k + 1 by omega, show i + k + 1 - (i + 1) = k by omega, List.range'_succ]

theorem range'_concat {i n : Nat} (h : i ≤ n) :
    List.range' i (n + 1 - i) = List.range' i (n - i) ++ [n] := by
  obtain ⟨k, rfl⟩ := Nat.exists_eq_add_of_le h
  rw [show i + k + 1 - i = k + 1 by omega, show i + k - i = k by omega, List.range'_1_concat]

namespace Carries

theorem isAlive (h : r.Carries c noted acked read sent) : c.isAlive = true := by
  simp [Connection.isAlive, h.isDone]

theorem publish (h : r.Carries c noted acked read sent) (hsent : sent < noted)
    (hroom : sent < acked + windowSize) (hfits : r.Fits sent) :
    ∃ c' remark, c.fulfil (r.order sent) = (c', [.remark remark]) ∧
      r.Carries c' noted acked read (sent + 1) := by
  -- Fewer messages are in flight than there are numbers, so the next number is free.
  have hfree : packetId sent ∉ c.window.occupied := by
    rw [h.occupied]
    rintro ⟨i, hacked, hi, hsame⟩
    have := (packetId_inj (Nat.le_of_lt hi) (by omega)).1 hsame
    omega
  have hawaiting := h.awaiting
  rw [range'_eq_cons hsent, List.map_cons] at hawaiting
  let c' : Connection := { c with
    window := { c.window with
      lastId := packetId sent
      occupied := packetId sent :: c.window.occupied
      count := c.window.count + 1 }
    due := c.due ++ [r.packet sent]
    reader := { c.reader with ids := c.reader.ids.sent (packetId sent) } }
  refine ⟨c', .packetPublished r.topic (packetId sent) (r.payload sent).length, ?_, ?_⟩
  · simp only [Connection.fulfil, order, Connection.publish]
    rw [if_pos (show messageSize r.topic (r.payload sent) ≤ maxPacketSize from hfits)]
    simp [Window.publish, h.nextId, hfree, Connection.apply, Connection.hear, Reader.readAll,
      Reader.read, h.isDone, Connection.publishRemark, c', packet]
  · have hread := h.read_le
    have hmessage (i : Nat) (hacked : acked ≤ i) (hi : i < sent + 1) :
        (c.reader.ids.sent (packetId sent)).message? (packetId i) = some (id i) := by
      rw [PacketIds.message?_sent hawaiting]
      split
      case isTrue hsame => rw [(packetId_inj (by omega) (by omega)).1 hsame]
      case isFalse hother =>
        have hearlier : i ≠ sent := fun hlast => hother (congrArg packetId hlast)
        exact h.message i hacked (by omega)
    refine ⟨h.acked_le, by omega, by omega, by omega, h.isOpen, h.isDone, h.buffer,
      nextId_packetId sent, ?_, h.collision, fun p => ?_, List.nodup_cons.2 ⟨hfree, h.nodup⟩, ?_,
      hmessage, ?_⟩
    · have hcount := h.count
      have hacked := h.acked_le
      simp only [c']
      omega
    · simp only [c', List.mem_cons, h.occupied]
      constructor
      · rintro (rfl | ⟨i, hacked, hi, rfl⟩)
        · exact ⟨sent, by have := h.acked_le; omega, by omega, rfl⟩
        · exact ⟨i, hacked, by omega, rfl⟩
      · rintro ⟨i, hacked, hi, rfl⟩
        by_cases hlast : i = sent
        · exact .inl (by rw [hlast])
        · exact .inr ⟨i, hacked, by omega, rfl⟩
    · simp [c', PacketIds.sent, hawaiting]
    · simp only [c', h.due]
      rw [range'_concat hread, List.map_append, List.map_singleton]

theorem isBlocked_iff (h : r.Carries c noted acked read sent) :
    c.window.isBlocked = false ↔ sent < acked + windowSize := by
  have hacked := h.acked_le
  have hread := h.read_le
  simp [Window.isBlocked, h.collision, h.count]
  omega

/-- Working off the orders sends as many messages as the window allows. -/
theorem obey (h : r.Carries c noted acked read sent) (hfits : ∀ i < noted, r.Fits i) :
    ∃ c' asides sent', Connection.obey ((List.range' sent (noted - sent)).map r.order) c = (c', asides) ∧
      notifications asides = [] ∧ r.Streams c' noted acked read sent' := by
  -- The induction is on the messages that have not left; it ends early where the window is full.
  generalize hleft : noted - sent = left
  induction left generalizing c sent with
  | zero =>
    have hall : noted = sent := by have := h.sent_le; omega
    refine ⟨{ c with orders := [] }, [], sent, rfl, rfl, { h with orders := ?_, full := ?_ }⟩
    · simp [hleft]
    · omega
  | succ left ih =>
    have hsent : sent < noted := by omega
    rw [List.range'_succ, List.map_cons]
    unfold Connection.obey
    cases hblocked : c.window.isBlocked with
    | true =>
      refine ⟨{ c with orders := r.order sent :: (List.range' (sent + 1) left).map r.order }, [], sent,
        by simp [h.isOpen], rfl, { h with orders := ?_, full := fun _ => ?_ }⟩
      · rw [hleft, List.range'_succ, List.map_cons]
      · have hwindow := h.window_le
        have hfull := mt h.isBlocked_iff.2 (by simp [hblocked])
        omega
    | false =>
      obtain ⟨c', remark, hfulfil, hc'⟩ := h.publish hsent (h.isBlocked_iff.1 hblocked)
        (hfits sent hsent)
      obtain ⟨c'', asides, sent', hobey, hquiet, hstreams⟩ := ih hc' (by omega)
      refine ⟨c'', .remark remark :: asides, sent', ?_, hquiet, hstreams⟩
      simp [h.isOpen, hfulfil, Connection.isAlive, hc'.isDone, hobey]

/-- The acknowledgement of the oldest message in flight, before further orders are worked off. -/
theorem acknowledge (h : r.Carries c noted acked read sent) (hacked : acked < read) :
    ∃ window c', c.window.pubAck? (packetId acked) =
        some { window, events := [.pubAck (packetId acked)] } ∧
      c.apply { window, events := [.pubAck (packetId acked)] } =
        (c', [.raise (.published (id acked))]) ∧
      c'.orders = c.orders ∧ r.Carries c' noted (acked + 1) read sent := by
  have hread := h.read_le
  have hwindow := h.window_le
  have hmem : packetId acked ∈ c.window.occupied :=
    (h.occupied _).2 ⟨acked, Nat.le_refl acked, by omega, rfl⟩
  let window : Window := { c.window with
    occupied := c.window.occupied.erase (packetId acked)
    count := c.window.count - 1 }
  let ids : PacketIds := (c.reader.ids.acknowledged (packetId acked)).2
  refine ⟨window, { c with window, reader := { c.reader with ids } }, ?_, ?_, rfl, ?_⟩
  · simp [Window.pubAck?, hmem, Window.released?, h.collision, window]
  · have hmessage : (c.reader.ids.acknowledged (packetId acked)).1 = some (id acked) :=
      h.message acked (Nat.le_refl acked) (by omega)
    simp [Connection.apply, Connection.hear, Reader.readAll, Reader.read, h.isDone, hmessage, ids]
  · refine { h with
      acked_le := hacked
      window_le := by omega
      count := ?_
      occupied := fun p => ?_
      nodup := h.nodup.erase _
      message := fun i hi hsent => ?_ }
    · simp only [window, h.count]
      omega
    · simp only [window, h.nodup.mem_erase_iff, h.occupied]
      constructor
      · rintro ⟨hother, i, hi, hsent, rfl⟩
        refine ⟨i, ?_, hsent, rfl⟩
        have : i ≠ acked := fun hsame => hother (congrArg packetId hsame)
        omega
      · rintro ⟨i, hi, hsent, rfl⟩
        refine ⟨fun hsame => ?_, i, by omega, hsent, rfl⟩
        have := (packetId_inj (i := acked) (j := i) (by omega) (by omega)).1 hsame.symm
        omega
    · have hother : packetId i ≠ packetId acked := fun hsame => by
        have := (packetId_inj (i := acked) (j := i) (by omega) (by omega)).1 hsame.symm
        omega
      simp only [ids, PacketIds.message?_acknowledged, if_neg hother]
      exact h.message i (by omega) hsent

end Carries

/-- A buffer with one acknowledgement is taken as one batch. -/
theorem takeBatch?_pubAck {w w' : Window} {p : PacketId} (hp : p < 0x10000)
    (h : w.pubAck? p = some { window := w', events := [.pubAck p] }) :
    Connection.takeBatch? Connection.batchSize { window := w, rest := pubAckBytes p } =
      some { window := w', rest := [], events := [.pubAck p] } := by
  have hread : Frame.read (pubAckBytes p) = .packet (.pubAck p) [] := by
    simpa using Frame.read_pubAckBytes hp []
  simp [Connection.batchSize, Connection.takeBatch?, hread, Window.take?, h, Frame.read_nil]

namespace Streams

/-- Receiving the acknowledgement of the oldest message in flight raises `published` for it. -/
theorem receive (h : r.Streams c noted acked read sent) (hacked : acked < read)
    (hfits : ∀ i < noted, r.Fits i) :
    ∃ c' asides sent', c.receive (pubAckBytes (packetId acked)) = (c', asides) ∧
      notifications asides = [.published (id acked)] ∧
      r.Streams c' noted (acked + 1) read sent' := by
  obtain ⟨window, c₁, hwindow, happly, horders, hcarries⟩ := h.acknowledge hacked
  obtain ⟨c', asides, sent', hobey, hquiet, hstreams⟩ := hcarries.obey hfits
  have hlt : packetId acked < 0x10000 := by
    change (acked % 100 + 1 : Nat) < 0x10000
    omega
  have hbatch := takeBatch?_pubAck hlt hwindow
  have hrest : Connection.takeAll 4 c' = (c', []) := by
    simp [Connection.takeAll, hstreams.buffer, Connection.batchSize, Connection.takeBatch?, Frame.read_nil]
  have hwork : c₁.work = (c', asides) := by
    rw [Connection.work, horders, h.orders]
    exact hobey
  refine ⟨c', .raise (.published (id acked)) :: asides, sent', ?_, by simp [hquiet], hstreams⟩
  have hgone : { c with buffer := [] } = c := by rw [← h.buffer]
  have htake : Connection.takeAll 5 { c with buffer := pubAckBytes (packetId acked) } =
      (c', .raise (.published (id acked)) :: asides) := by
    unfold Connection.takeAll
    simp only [hbatch, hgone, happly, hwork, hstreams.isAlive, if_true, hrest]
    simp [pubAckBytes]
  unfold Connection.receive
  rw [if_pos h.isAlive, h.buffer]
  exact htake

theorem ask (h : r.Streams c noted acked read sent) (hfits : ∀ i < noted + 1, r.Fits i) :
    let noting : Connection :=
      { c with reader := { c.reader with ids := c.reader.ids.request (id noted) } }
    ∃ c' asides sent', noting.ask (r.order noted) = (c', asides) ∧ notifications asides = [] ∧
      r.Streams c' (noted + 1) acked read sent' := by
  intro noting
  have hsent := h.sent_le
  have hnoted : r.Carries { noting with orders := noting.orders ++ [r.order noted] } (noted + 1) acked
      read sent := by
    refine { h.toCarries with sent_le := by omega, awaiting := ?_ }
    rw [range'_concat hsent, List.map_append, ← h.awaiting]
    rfl
  obtain ⟨c', asides, sent', hobey, hquiet, hstreams⟩ := hnoted.obey hfits
  refine ⟨c', asides, sent', ?_, hquiet, hstreams⟩
  rw [range'_concat hsent, List.map_append, ← h.orders] at hobey
  exact hobey

theorem readDue (h : r.Streams c noted acked read sent) (hread : read < sent) :
    ∃ c', c.readDue = (some (r.packet read), c') ∧ r.Streams c' noted acked (read + 1) sent := by
  have hdue := h.due
  rw [range'_eq_cons hread, List.map_cons] at hdue
  refine ⟨{ c with due := (List.range' (read + 1) (sent - (read + 1))).map r.packet }, ?_, ?_⟩
  · simp only [Connection.readDue, hdue]
  · have hacked := h.acked_le
    exact { h with acked_le := by omega, read_le := hread, due := rfl }

/-- A disconnect order after all messages were acknowledged raises `disconnected` and sends the
disconnect packet. -/
theorem leave (h : r.Streams c noted noted noted noted) :
    ∃ c' asides, c.ask .disconnect = (c', asides) ∧ notifications asides = [.disconnected] ∧
      c'.due = [.disconnect] := by
  have hblocked : c.window.isBlocked = false :=
    h.isBlocked_iff.2 (Nat.lt_add_of_pos_right (by decide))
  refine ⟨{ c with
    due := c.due ++ [.disconnect]
    reader := { c.reader with isDone := true }
    orders := [] },
    [.remark .packetDisconnected, .remark .sessionEnded, .raise .disconnected], ?_, rfl,
    by simp [h.due]⟩
  simp [Connection.ask, Connection.work, h.orders, Connection.obey, h.isOpen, hblocked,
    Connection.fulfil, Connection.leave, Connection.hear, Reader.readAll, Reader.read, h.isDone,
    Reader.finish, Connection.isAlive]

end Streams

/-- Accepting a new session raises `connected`, and no message was sent yet. -/
theorem streams_accept (r : Row) (login : Login) :
    ∃ c asides, Connection.accept { Connection.start login with due := [] } = (c, asides) ∧
      notifications asides = [.connected] ∧ r.Streams c 0 0 0 0 := by
  refine ⟨{ login, isOpen := true }, [.remark .sessionAccepted, .raise .connected], rfl, rfl, ?_⟩
  exact ⟨⟨Nat.le_refl 0, Nat.le_refl 0, Nat.le_refl 0, Nat.zero_le _, rfl, rfl, rfl, rfl, rfl, rfl,
    fun p => by simp, List.nodup_nil, rfl, by omega, rfl⟩, rfl, by omega⟩

end Row
end HubLink.Session
