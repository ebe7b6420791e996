import HubLink.Proofs.Session.Line
import HubLink.Session.Connection
import Mathlib.Algebra.Ring.Nat

namespace HubLink.Session

open Mqtt Transport

/-- One event or remark of a session. -/
inductive Beat where
  | event (e : Event)
  | remark (remark : Remark)

/-- The line after a script of events and remarks, and the side effects. -/
def Line.play : List Beat → Line → Line × List Aside
  | [], l => (l, [])
  | .event e :: rest, l =>
    let (l, asides) := l.read e
    let (l, more) := l.play rest
    (l, asides ++ more)
  | .remark remark :: rest, l =>
    let (l, more) := l.play rest
    (l, .remark remark :: more)

/-- Playing two scripts in a row is playing their concatenation. -/
theorem Line.play_append (l : Line) (script more : List Beat) :
    l.play (script ++ more) =
      (((l.play script).1.play more).1, (l.play script).2 ++ ((l.play script).1.play more).2) := by
  induction script generalizing l with
  | nil => rfl
  | cons first rest ih => cases first <;> simp [play, ih]

/-- The number of messages that leave in a list of events. -/
def leavingAll (events : List Event) : Nat :=
  (events.map leaving).sum

@[simp] theorem leavingAll_append (events more : List Event) :
    leavingAll (events ++ more) = leavingAll events + leavingAll more := by
  simp [leavingAll]

/-- A line that is not stopped reads events as its reader does, if enough messages are unsent. -/
theorem Line.play_events (l : Line) (events : List Event) (left : Nat)
    (hstopped : l.isStopped = false) (hunsent : leavingAll events + left ≤ l.unsent) :
    (l.play (events.map .event)).1.isStopped = false ∧
      (l.play (events.map .event)).1.reader = (l.reader.readAll events).1 ∧
      left ≤ (l.play (events.map .event)).1.unsent ∧
      (l.play (events.map .event)).2 = (l.reader.readAll events).2 := by
  induction events generalizing l with
  | nil =>
    have hleft : left ≤ l.unsent := by simpa [leavingAll] using hunsent
    exact ⟨hstopped, rfl, hleft, rfl⟩
  | cons e rest ih =>
    have hall : leavingAll (e :: rest) = leaving e + leavingAll rest := by simp [leavingAll]
    have hcan : ¬(l.isStopped || l.unsent < leaving e) = true := by
      simp only [hstopped, Bool.false_or, decide_eq_true_eq]
      omega
    have hread : l.read e = ({ l with reader := (l.reader.read e).1, unsent := l.unsent - leaving e },
        (l.reader.read e).2) := by
      simp only [read, if_neg hcan]
    obtain ⟨hstopped', hreader, hleft, hasides⟩ := ih (l.read e).1 (by simp [hread, hstopped])
      (by simp only [hread]; omega)
    simp only [List.map_cons, play, Reader.readAll]
    refine ⟨hstopped', ?_, hleft, ?_⟩
    · rw [hreader, hread]
    · rw [hasides, hread]

namespace Connection

/-- The number of publish orders. -/
def publishes (orders : List Order) : Nat :=
  orders.countP fun
    | .publish _ _ => true
    | .disconnect => false

end Connection

/-- The number of messages kept back by the window: 0 or 1. -/
def keptBack (w : Window) : Nat :=
  w.collision.toList.length

/-- The line has the connection's reader, is not stopped, and counts at least as many unsent messages
as the connection can still send for `orders`. -/
structure Line.Follows (l : Line) (c : Connection) (orders : List Order) : Prop where
  isStopped : l.isStopped = false
  reader : l.reader = c.reader
  unsent : Connection.publishes orders + keptBack c.window ≤ l.unsent

/-- There is a script that takes every line following `c` to one that follows the new connection, with
the same side effects. -/
def Connection.Plays (c : Connection) (orders : List Order) (p : Connection × List Aside)
    (orders' : List Order) : Prop :=
  ∃ script, ∀ l : Line, l.Follows c orders →
    (l.play script).1.Follows p.1 orders' ∧ (l.play script).2 = p.2

namespace Connection.Plays

variable {c : Connection} {orders orders' orders'' : List Order} {p q : Connection × List Aside}

theorem refl (c : Connection) (orders : List Order) : c.Plays orders (c, []) orders :=
  ⟨[], fun _ h => ⟨h, rfl⟩⟩

theorem trans (h : c.Plays orders p orders') (h' : p.1.Plays orders' q orders'') :
    c.Plays orders (q.1, p.2 ++ q.2) orders'' := by
  obtain ⟨script, hscript⟩ := h
  obtain ⟨more, hmore⟩ := h'
  refine ⟨script ++ more, fun l hl => ?_⟩
  obtain ⟨hp, hpasides⟩ := hscript l hl
  obtain ⟨hq, hqasides⟩ := hmore _ hp
  rw [Line.play_append, hpasides, hqasides]
  exact ⟨hq, rfl⟩

/-- A remark in front preserves `Plays`. -/
theorem remark (h : c.Plays orders p orders') (remark : Remark) :
    c.Plays orders (p.1, .remark remark :: p.2) orders' := by
  obtain ⟨script, hscript⟩ := h
  refine ⟨.remark remark :: script, fun l hl => ?_⟩
  obtain ⟨hp, hasides⟩ := hscript l hl
  exact ⟨hp, congrArg (_ :: ·) hasides⟩

/-- The predicate `Plays` depends on the new connection only through its reader and the number of
messages that it can still send. -/
theorem congr (h : c.Plays orders p orders') {c' : Connection} (hreader : c'.reader = p.1.reader)
    (hunsent : publishes orders'' + keptBack c'.window ≤ publishes orders' + keptBack p.1.window) :
    c.Plays orders (c', p.2) orders'' := by
  obtain ⟨script, hscript⟩ := h
  refine ⟨script, fun l hl => ?_⟩
  obtain ⟨⟨hstopped, hsame, hleft⟩, hasides⟩ := hscript l hl
  exact ⟨⟨hstopped, hsame.trans hreader.symm, Nat.le_trans hunsent hleft⟩, hasides⟩

/-- Hearing events is a script, if they send no more messages than the connection can. -/
theorem hear {c' : Connection} {events : List Event} (hreader : c'.reader = c.reader)
    (hunsent : leavingAll events + (publishes orders' + keptBack c'.window) ≤
      publishes orders + keptBack c.window) :
    c.Plays orders (c'.hear events) orders' := by
  refine ⟨events.map .event, fun l hl => ?_⟩
  obtain ⟨hstopped, hread, hleft, hasides⟩ := l.play_events events
    (publishes orders' + keptBack c'.window) hl.isStopped (Nat.le_trans hunsent hl.unsent)
  rw [hl.reader, ← hreader] at hread hasides
  exact ⟨⟨hstopped, hread, hleft⟩, hasides⟩

end Connection.Plays

namespace Connection

variable (c : Connection)

/-- A publish sends at most its own message and one kept back. -/
theorem leavingAll_publish (w : Window) (topic : String) (payload : Bytes) :
    leavingAll (w.publish topic payload).events + keptBack (w.publish topic payload).window ≤
      1 + keptBack w := by
  simp only [Window.publish]
  split <;> simp [leavingAll, leaving, keptBack]

/-- A packet of the broker makes at most a kept back message leave. -/
theorem leavingAll_take? {w : Window} {packet : Incoming} {r : Window.Result}
    (h : w.take? packet = some r) : leavingAll r.events + keptBack r.window ≤ keptBack w := by
  -- A message is released only from the place where it was kept back.
  have hreleased {id : PacketId} {message : Publish} (hmessage : w.released? id = some message) :
      w.collision = some message := (Option.filter_eq_some_iff.1 hmessage).1
  cases packet with
  | publish quality id =>
    cases quality <;> cases h <;> simp [leavingAll, leaving, keptBack, Window.receive]
  | pubAck id =>
    simp only [Window.take?, Window.pubAck?] at h
    split at h
    case isFalse => cases h
    case isTrue =>
      split at h <;> cases h
      case h_1 message hmessage => simp [leavingAll, leaving, keptBack, hreleased hmessage]
      case h_2 => simp [leavingAll, leaving, keptBack]
  | pubRec id =>
    simp only [Window.take?, Window.pubRec?] at h
    split at h <;> cases h
    simp [leavingAll, leaving, keptBack]
  | pubRel id =>
    simp only [Window.take?, Window.pubRel?] at h
    split at h <;> cases h
    simp [leavingAll, leaving, keptBack]
  | pubComp id =>
    simp only [Window.take?, Window.pubComp?] at h
    split at h
    case isFalse => cases h
    case isTrue =>
      split at h <;> cases h
      case h_1 message hmessage =>
        have hcollision : w.collision = some message := hreleased hmessage
        simp [leavingAll, leaving, keptBack, hcollision]
      case h_2 => simp [leavingAll, leaving, keptBack]
  | idle =>
    cases h
    simp [leavingAll, leaving]

/-- Publishing an order is a script. -/
theorem plays_publish (topic : String) (payload : Bytes) (rest : List Order) :
    c.Plays (.publish topic payload :: rest) (c.publish topic payload) rest := by
  unfold publish
  split
  case isTrue =>
    have hleaving := leavingAll_publish c.window topic payload
    have happly : c.Plays (.publish topic payload :: rest)
        (c.apply (c.window.publish topic payload)) rest := by
      refine .hear rfl ?_
      simp only [publishes, List.countP_cons_of_pos]
      omega
    exact happly.remark _
  case isFalse =>
    refine .hear rfl ?_
    simp [leavingAll, leaving, publishes]

theorem plays_leave (rest : List Order) : c.Plays (.disconnect :: rest) c.leave rest := by
  have hhear : c.Plays (.disconnect :: rest)
      ({ c with due := c.due ++ [Outgoing.disconnect] }.hear [.sentDisconnect]) rest := by
    refine .hear rfl ?_
    simp [leavingAll, leaving, publishes]
  exact hhear.remark _

/-- Working off orders is a script. -/
theorem plays_obey (orders : List Order) :
    c.Plays orders (obey orders c) (obey orders c).1.orders := by
  induction orders generalizing c with
  | nil => exact .congr (.refl c []) rfl (Nat.le_refl _)
  | cons order rest ih =>
    unfold obey
    split
    case isTrue => exact .congr (.refl c (order :: rest)) rfl (Nat.le_refl _)
    case isFalse =>
      have hfirst : c.Plays (order :: rest) (c.fulfil order) rest := by
        cases order with
        | publish topic payload => exact c.plays_publish topic payload rest
        | disconnect => exact c.plays_leave rest
      generalize c.fulfil order = done at hfirst ⊢
      obtain ⟨c', asides⟩ := done
      simp only
      split
      case isTrue => exact hfirst.trans (ih c')
      case isFalse => exact hfirst.congr rfl (by simp [publishes])

theorem plays_work : c.Plays c.orders c.work c.work.1.orders :=
  c.plays_obey c.orders

/-- Hearing events, with the orders dropped if the session ends, is a script. -/
theorem plays_hear {c' : Connection} {events : List Event} (hreader : c'.reader = c.reader)
    (hunsent : leavingAll events + (publishes c'.orders + keptBack c'.window) ≤
      publishes c.orders + keptBack c.window) :
    c.Plays c.orders (c'.hear events) (c'.hear events).1.orders := by
  refine (Plays.hear hreader hunsent).congr rfl ?_
  simp only [hear]
  split <;> simp [publishes]

theorem plays_accept : c.Plays c.orders c.accept c.accept.1.orders := by
  have hopened : c.Plays c.orders ({ c with isOpen := true }.hear [.accepted]) _ :=
    c.plays_hear rfl (by simp [leavingAll, leaving])
  exact hopened.trans (plays_work _)

theorem plays_refuse (code : Nat) : c.Plays c.orders (c.refuse code) (c.refuse code).1.orders :=
  c.plays_hear rfl (by simp [leavingAll, leaving])

theorem plays_fail : c.Plays c.orders c.fail c.fail.1.orders :=
  c.plays_hear rfl (by simp [leavingAll, leaving])

/-- A batch of packets makes no more messages leave than were kept back. -/
theorem leavingAll_takeBatch? {n : Nat} {b b' : Batch} (h : takeBatch? n b = some b') :
    leavingAll b'.events + keptBack b'.window ≤ leavingAll b.events + keptBack b.window := by
  induction n generalizing b with
  | zero =>
    cases h
    exact Nat.le_refl _
  | succ n ih =>
    unfold takeBatch? at h
    split at h
    case h_1 =>
      cases h
      exact Nat.le_refl _
    case h_2 => cases h
    case h_3 packet rest _ =>
      split at h
      case h_1 => cases h
      case h_2 r htake =>
        have hfirst := leavingAll_take? htake
        have hrest := ih h
        simp only [leavingAll_append] at hrest
        omega

theorem plays_takeAll (n : Nat) : c.Plays c.orders (takeAll n c) (takeAll n c).1.orders := by
  induction n generalizing c with
  | zero => exact .refl c c.orders
  | succ n ih =>
    unfold takeAll
    split
    case h_1 => exact c.plays_fail
    case h_2 b hbatch =>
      have hleaving := leavingAll_takeBatch? hbatch
      split
      case isTrue => exact .refl c c.orders
      case isFalse =>
        let taken : Connection × List Aside := { c with buffer := b.rest }.apply
          { window := b.window, events := b.events, packets := b.packets }
        have htaken : c.Plays c.orders taken taken.1.orders := by
          refine c.plays_hear rfl ?_
          simp only [leavingAll, List.map_nil, List.sum_nil] at hleaving
          simp only [leavingAll]
          omega
        have hworked := htaken.trans taken.1.plays_work
        simp only
        split
        case isTrue => exact hworked.trans (ih _)
        case isFalse => simpa using hworked

/-- Receiving bytes is a script. -/
theorem plays_receive (bytes : Bytes) :
    c.Plays c.orders (c.receive bytes) (c.receive bytes).1.orders := by
  unfold receive
  split
  case isTrue =>
    let buffered : Connection := { c with buffer := c.buffer ++ bytes }
    have hbuffered : c.Plays c.orders (buffered, []) buffered.orders :=
      .congr (.refl c c.orders) rfl (Nat.le_refl _)
    exact hbuffered.trans (buffered.plays_takeAll (buffered.buffer.length + 1))
  case isFalse => exact .refl c c.orders

/-- Asking for an order is a script. -/
theorem plays_ask (order : Order) :
    Plays { c with orders := c.orders ++ [order] } (c.orders ++ [order]) (c.ask order)
      (c.ask order).1.orders :=
  plays_work _

end Connection
end HubLink.Session
