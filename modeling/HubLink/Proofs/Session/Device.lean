import HubLink.Proofs.Machine.Simulation
import HubLink.Proofs.Session.Follow
import HubLink.Proofs.Session.Interleaving
import HubLink.Session.Provider

namespace HubLink.Session

open Mqtt Transport

variable {L κ : Type}

/-- The beat as news of session `line`. -/
def Beat.news (line : Nat) : Beat → News
  | .event e => .event line e
  | .remark r => .remark r

/-- Hearing a script in session `k` plays it on that line and raises its notifications for `k`. -/
theorem Exchange.hearAll_play (x : Exchange L) {k : Nat} {l : Line} (hl : x.lines[k]? = some l)
    (script : List Beat) :
    x.hearAll (script.map (·.news k)) =
      ({ x with
         lines := x.lines.set k (l.play script).1
         raised := x.raised ++ (notifications (l.play script).2).map (k, ·) },
        (l.play script).2) := by
  induction script generalizing x l with
  | nil =>
    have hsame : x.lines.set k l = x.lines := by
      obtain ⟨hk, rfl⟩ := List.getElem?_eq_some_iff.1 hl
      exact List.set_getElem_self hk
    simp [Exchange.hearAll, Line.play, hsame]
  | cons first rest ih =>
    cases first with
    | remark r =>
      have hbeat : Beat.news k (.remark r) = .remark r := rfl
      simp [Exchange.hearAll, Exchange.hear, hbeat, Line.play, ih x hl]
    | event e =>
      let y : Exchange L := { x with
        lines := x.lines.set k (l.read e).1
        raised := x.raised ++ (notifications (l.read e).2).map (k, ·) }
      have hy : y.lines[k]? = some (l.read e).1 := by
        obtain ⟨hk, -⟩ := List.getElem?_eq_some_iff.1 hl
        simp [y, hk]
      have hbeat : Beat.news k (.event e) = .event k e := rfl
      have hhear : x.hear (.event k e) = (y, (l.read e).2) := by simp [Exchange.hear, hl, y]
      simp [Exchange.hearAll, hbeat, hhear, Line.play, ih y hy, y]

theorem Exchange.publish_of_none {x : Exchange L} (hcurrent : x.current = none) (i : Interval) :
    x.publish i = { result := .error .notConnected, world := x } := by
  simp only [publish, hcurrent]

theorem Exchange.publish_of_current {x : Exchange L} {k : Nat} (hcurrent : x.current = some k)
    (i : Interval) :
    x.publish i =
      (let (y, asides) := (x.note k).hearAll i.before
       let (z, more) := (y.settle k x.nextId i.isTaken).hearAll i.after
       { result := if i.isTaken then .ok x.nextId else .error (.publishFailed i.cause)
         world := z
         asides := asides ++ more }) := by
  simp only [publish, hcurrent]

theorem Exchange.disconnect_of_none {x : Exchange L} (hcurrent : x.current = none)
    (i : Interval) : x.disconnect i = { result := .error .notConnected, world := x } := by
  simp only [disconnect, hcurrent]

theorem Exchange.disconnect_of_current {x : Exchange L} {k : Nat} (hcurrent : x.current = some k)
    (i : Interval) :
    x.disconnect i =
      (let (y, asides) := x.hearAll i.before
       let (z, more) := y.hearAll i.after
       if i.isTaken then
         { result := .ok (), world := { z with current := none }, asides := asides ++ more }
       else { result := .error (.disconnectFailed i.cause), world := z, asides := asides ++ more }) := by
  simp only [disconnect, hcurrent]

/-- A request that is noted and settled at once changes only its line and the counts. -/
theorem Exchange.settle_note {x : Exchange L} {k : Nat} {l : Line} (hl : x.lines[k]? = some l)
    (isTaken : Bool) :
    (x.note k).settle k x.nextId isTaken =
      { x with
        lines := x.lines.set k
          ((if isTaken then Line.take else (·.forget x.nextId)) (l.request x.nextId))
        nextId := x.nextId.next
        requested := x.requested + 1 } := by
  obtain ⟨hk, rfl⟩ := List.getElem?_eq_some_iff.1 hl
  simp [Exchange.note, Exchange.settle, Exchange.change, hk]

namespace Line.Follows

variable {l : Line} {c : Connection}

/-- A line that follows a connection still does so after a message was requested, taken and
ordered. -/
theorem request_take (h : l.Follows c c.orders) (id : MessageId) (topic : String)
    (payload : Bytes) :
    (l.request id).take.Follows
      { c with
        reader := { c.reader with ids := c.reader.ids.request id }
        orders := c.orders ++ [.publish topic payload] }
      (c.orders ++ [.publish topic payload]) := by
  have hunsent := h.unsent
  refine ⟨h.isStopped, ?_, ?_⟩
  · simp only [Line.take, Line.request, h.reader]
  · simp only [Connection.publishes, List.countP_append] at hunsent ⊢
    simp only [Line.take, Line.request, List.countP_singleton, if_true]
    omega

/-- A line that follows a connection still does so after a message was requested and forgotten. -/
theorem request_forget (h : l.Follows c c.orders) (id : MessageId) :
    ((l.request id).forget id).Follows
      { c with reader := { c.reader with ids := (c.reader.ids.request id).forget id } }
      c.orders := by
  refine ⟨h.isStopped, ?_, h.unsent⟩
  simp only [Line.forget, Line.request, h.reader]

theorem order_disconnect (h : l.Follows c c.orders) :
    l.Follows { c with orders := c.orders ++ [.disconnect] } (c.orders ++ [.disconnect]) := by
  refine ⟨h.isStopped, h.reader, ?_⟩
  simpa [Connection.publishes] using h.unsent

end Line.Follows

namespace Device

/-- The beats of a connection that is given an order. -/
noncomputable def script (c : Connection) (order : Order) : List Beat :=
  (c.plays_ask order).choose

theorem script_spec {l : Line} {c : Connection} {order : Order}
    (h : l.Follows { c with orders := c.orders ++ [order] } (c.orders ++ [order])) :
    (l.play (script c order)).1.Follows (c.ask order).1 (c.ask order).1.orders ∧
      (l.play (script c order)).2 = (c.ask order).2 :=
  (c.plays_ask order).choose_spec l h

/-- The connection after the next message of the device was noted by the reader. -/
def noted (d : Device) (c : Connection) : Connection :=
  { c with reader := { c.reader with ids := c.reader.ids.request d.provider.nextId } }

/-- The interval of an inquiry: the device's own answer, with the beats of its connection as news of
session `line`. -/
noncomputable def interval (d : Device) (line : Nat) : Inquiry → Interval
  | .token =>
    match d.signer.signNow d.now with
    | .ok token =>
      { token := .ok token.text
        before := [.remark (.tokenSigned d.signer.deviceId token.expiry)] }
    | .error e => { token := .error e }
  | .connect text =>
    if (d.provider.options.login? text).isSome then
      { isTaken := true
        after := [.remark (.sessionStarted d.provider.options.hostName
          d.provider.options.port.toNat)] }
    else { cause := "the device has no name" }
  | .publish topic payload =>
    match d.provider.session with
    | some c =>
      if c.isAlive then
        { before := [.remark (.publishRequested d.provider.nextId topic)]
          isTaken := true
          after := (script (d.noted c) (.publish topic payload)).map (·.news line) }
      else { cause := Provider.lostCause }
    | none => {}
  | .disconnect =>
    match d.provider.session with
    | some c =>
      if c.isAlive then { before := (script c .disconnect).map (·.news line), isTaken := true }
      else { cause := Provider.lostCause }
    | none => {}

/-- The device after the answer to an inquiry. -/
def answered (d : Device) : Inquiry → Device
  | .token => d
  | .connect text => (collaborators.connect text d).world
  | .publish topic payload => (collaborators.publish topic payload d).world
  | .disconnect => (collaborators.disconnect d).world

/-- The network of a device, with the number of its sessions: it answers each inquiry as the device
does. -/
noncomputable def network : Network (Device × Nat) := fun inquiry (d, count) =>
  let more := match inquiry with
    | .connect text => if (d.provider.options.login? text).isSome then 1 else 0
    | _ => 0
  (d.interval (count - 1) inquiry, d.answered inquiry, count + more)

section Replies

variable {d : Device} {c : Connection}

theorem publish_of_none (hsession : d.provider.session = none) (topic : String)
    (payload : Bytes) :
    collaborators.publish topic payload d = { result := .error .notConnected, world := d } := by
  simp only [collaborators, reply, Provider.publish, hsession]

theorem publish_of_alive (hsession : d.provider.session = some c) (halive : c.isAlive = true)
    (topic : String) (payload : Bytes) :
    collaborators.publish topic payload d =
      { result := .ok d.provider.nextId
        world := { d with provider :=
          { d.provider with
            nextId := d.provider.nextId.next
            session := some ((d.noted c).ask (.publish topic payload)).1 } }
        asides := .remark (.publishRequested d.provider.nextId topic) ::
          ((d.noted c).ask (.publish topic payload)).2 } := by
  simp only [collaborators, reply, Provider.publish, hsession, halive, if_true]
  rfl

/-- A publish over an ended session is refused and uses up an identity. -/
theorem publish_of_lost (hsession : d.provider.session = some c) (hlost : c.isAlive = false)
    (topic : String) (payload : Bytes) :
    collaborators.publish topic payload d =
      { result := .error (.publishFailed Provider.lostCause)
        world := { d with provider :=
          { d.provider with
            nextId := d.provider.nextId.next
            session := some { c with reader := { c.reader with
              ids := (c.reader.ids.request d.provider.nextId).forget d.provider.nextId } } } } } := by
  simp only [collaborators, reply, Provider.publish, hsession, hlost, Bool.false_eq_true, if_false]

theorem disconnect_of_none (hsession : d.provider.session = none) :
    collaborators.disconnect d = { result := .error .notConnected, world := d } := by
  simp only [collaborators, reply, Provider.disconnect, hsession]

theorem disconnect_of_alive (hsession : d.provider.session = some c)
    (halive : c.isAlive = true) :
    collaborators.disconnect d =
      { result := .ok ()
        world := { d with provider :=
          { d.provider with
            session := none
            leaving := d.provider.leaving ++ [(c.ask .disconnect).1] } }
        asides := (c.ask .disconnect).2 } := by
  simp only [collaborators, reply, Provider.disconnect, hsession, halive, if_true]

theorem disconnect_of_lost (hsession : d.provider.session = some c)
    (hlost : c.isAlive = false) :
    collaborators.disconnect d =
      { result := .error (.disconnectFailed Provider.lostCause), world := d } := by
  simp only [collaborators, reply, Provider.disconnect, hsession, hlost, Bool.false_eq_true,
    if_false]

end Replies

end Device

namespace Exchange

/-- Session `k` of the exchange follows the connection `c`. -/
def Has (x : Exchange L) (k : Nat) (c : Connection) : Prop :=
  ∃ l, x.lines[k]? = some l ∧ l.Follows c c.orders

/-- The exchange has the same message count as the device, its current session follows the device's
session, and distinct other sessions follow the connections that were asked to end. -/
structure Shows (x : Exchange (Device × Nat)) (d : Device) : Prop where
  network : x.network = (d, x.lines.length)
  nextId : x.nextId = d.provider.nextId
  session : x.current = none ∧ d.provider.session = none ∨
    ∃ k c, x.current = some k ∧ d.provider.session = some c ∧ k + 1 = x.lines.length ∧ x.Has k c
  leaving : ∃ numbers, (∀ k ∈ x.current, k ∉ numbers) ∧ numbers.Nodup ∧
    List.Forall₂ x.Has numbers d.provider.leaving

/-- If the sessions with these numbers are unchanged, they follow the same connections. -/
theorem has_of_kept {x y : Exchange L} {numbers : List Nat} {cs : List Connection}
    (hkept : ∀ k ∈ numbers, ∀ l, x.lines[k]? = some l → y.lines[k]? = some l)
    (h : List.Forall₂ x.Has numbers cs) : List.Forall₂ y.Has numbers cs := by
  induction h with
  | nil => exact .nil
  | cons hfirst _ ih =>
    obtain ⟨l, hl, hfollows⟩ := hfirst
    refine .cons ⟨l, hkept _ (List.mem_cons_self ..) l hl, hfollows⟩ ?_
    exact ih fun k hk => hkept k (List.mem_cons_of_mem _ hk)

namespace Shows

variable {x : Exchange (Device × Nat)} {d : Device}

/-- Changing the device's session, and the exchange's current session so that it follows, preserves
`Shows`. -/
theorem set (h : x.Shows d) {k : Nat} {l : Line} {c : Connection} (hcurrent : x.current = some k)
    (hlast : k + 1 = x.lines.length) (hfollows : l.Follows c c.orders)
    {y : Exchange (Device × Nat)} {e : Device} (hlines : y.lines = x.lines.set k l)
    (hkept : y.current = x.current) (hnetwork : y.network = (e, x.lines.length))
    (hnextId : y.nextId = e.provider.nextId) (hsession : e.provider.session = some c)
    (hleaving : e.provider.leaving = d.provider.leaving) : y.Shows e := by
  obtain ⟨numbers, hother, hnodup, hall⟩ := h.leaving
  have hne : k ∉ numbers := hother k hcurrent
  have hget : y.lines[k]? = some l := by rw [hlines, List.getElem?_set_self (by omega)]
  refine ⟨by rw [hnetwork, hlines, List.length_set], hnextId, .inr ⟨k, c, hkept.trans hcurrent,
    hsession, by rw [hlines, List.length_set, hlast], l, hget, hfollows⟩, numbers,
    by rwa [hkept], hnodup, hleaving ▸ has_of_kept (x := x) (fun i hi m hm => ?_) hall⟩
  rw [hlines]
  rwa [List.getElem?_set_ne (by rintro rfl; exact hne hi)]

/-- Replacing the network's state by that of the device changes nothing. -/
theorem still (h : x.Shows d) : Shows { x with network := (d, x.lines.length) } d :=
  ⟨rfl, h.nextId, h.session, h.leaving⟩

theorem token (h : x.Shows d) :
    ((collaborators Device.network).token x).Like Shows (Device.collaborators.token d) := by
  have hnetwork : Device.network .token x.network = (d.interval (x.lines.length - 1) .token, d,
      x.lines.length) := by
    rw [h.network]
    rfl
  simp only [collaborators, ask, hnetwork, Device.interval, Device.collaborators, signedReply]
  cases d.signer.signNow d.now <;> exact ⟨rfl, h.still, rfl⟩

/-- A publish of the exchange asks the network first. -/
theorem publish_eq (h : x.Shows d) (topic : String) (payload : Bytes) :
    (collaborators Device.network).publish topic payload x =
      { x with network := (d.answered (.publish topic payload), x.lines.length) }.publish
        (d.interval (x.lines.length - 1) (.publish topic payload)) := by
  simp only [collaborators, ask, h.network]
  rfl

/-- A publish over a session that has not ended gives replies that are alike. -/
theorem publish_of_alive (h : x.Shows d) {k : Nat} {c : Connection}
    (hcurrent : x.current = some k) (hsession : d.provider.session = some c)
    (hlast : k + 1 = x.lines.length) (hhas : x.Has k c) (halive : c.isAlive = true)
    (topic : String) (payload : Bytes) :
    ((collaborators Device.network).publish topic payload x).Like Shows
      (Device.collaborators.publish topic payload d) := by
  obtain ⟨l, hl, hfollows⟩ := hhas
  let before : Exchange (Device × Nat) :=
    { x with network := (d.answered (.publish topic payload), x.lines.length) }
  let script := Device.script (d.noted c) (.publish topic payload)
  have hline : x.lines.length - 1 = k := by omega
  have hinterval : d.interval k (.publish topic payload) =
      { before := [.remark (.publishRequested d.provider.nextId topic)]
        isTaken := true
        after := script.map (·.news k) } := by
    simp only [Device.interval, hsession, halive, if_true]
    rfl
  have hdevice := Device.publish_of_alive hsession halive topic payload
  have hsettle := settle_note (x := before) hl true
  have hget : (x.lines.set k (l.request before.nextId).take)[k]? =
      some (l.request before.nextId).take := List.getElem?_set_self (by omega)
  have hnoted : (l.request before.nextId).take.Follows
      { d.noted c with orders := (d.noted c).orders ++ [.publish topic payload] }
      ((d.noted c).orders ++ [.publish topic payload]) := by
    rw [Device.noted, ← h.nextId]
    exact hfollows.request_take before.nextId topic payload
  obtain ⟨hplayed, hasides⟩ := Device.script_spec hnoted
  rw [h.publish_eq, hline, publish_of_current (x := before) hcurrent, hinterval, hdevice]
  simp only [hearAll, hear, hsettle, if_true]
  rw [hearAll_play _ hget script]
  refine ⟨congrArg _ h.nextId, h.set hcurrent hlast hplayed ?_ rfl ?_ ?_ rfl rfl,
    congrArg (_ :: ·) hasides⟩
  · exact List.set_set ..
  · simp only [before, Device.answered, hdevice]
  · simp only [before, h.nextId]

/-- A publish over an ended session gives replies that are alike. -/
theorem publish_of_lost (h : x.Shows d) {k : Nat} {c : Connection}
    (hcurrent : x.current = some k) (hsession : d.provider.session = some c)
    (hlast : k + 1 = x.lines.length) (hhas : x.Has k c) (hlost : c.isAlive = false)
    (topic : String) (payload : Bytes) :
    ((collaborators Device.network).publish topic payload x).Like Shows
      (Device.collaborators.publish topic payload d) := by
  obtain ⟨l, hl, hfollows⟩ := hhas
  let before : Exchange (Device × Nat) :=
    { x with network := (d.answered (.publish topic payload), x.lines.length) }
  have hline : x.lines.length - 1 = k := by omega
  have hinterval : d.interval k (.publish topic payload) = { cause := Provider.lostCause } := by
    simp only [Device.interval, hsession, hlost, Bool.false_eq_true, if_false]
  have hdevice := Device.publish_of_lost hsession hlost topic payload
  have hsettle := settle_note (x := before) hl false
  have hnextId : before.nextId = d.provider.nextId := h.nextId
  have hforgotten := hfollows.request_forget before.nextId
  rw [h.publish_eq, hline, publish_of_current (x := before) hcurrent, hinterval, hdevice]
  simp only [hearAll, hsettle, Bool.false_eq_true, if_false]
  refine ⟨rfl, h.set hcurrent hlast hforgotten rfl rfl ?_ ?_ ?_ rfl, rfl⟩
  · simp only [before, Device.answered, hdevice]
  · rw [hnextId]
  · rw [hnextId]

theorem publish (h : x.Shows d) (topic : String) (payload : Bytes) :
    ((collaborators Device.network).publish topic payload x).Like Shows
      (Device.collaborators.publish topic payload d) := by
  obtain ⟨hcurrent, hsession⟩ | ⟨k, c, hcurrent, hsession, hlast, hhas⟩ := h.session
  · have hdevice := Device.publish_of_none hsession topic payload
    have hanswered : d.answered (.publish topic payload) = d := by rw [Device.answered, hdevice]
    rw [h.publish_eq, hanswered, hdevice,
      publish_of_none (x := { x with network := (d, x.lines.length) }) hcurrent]
    exact ⟨rfl, h.still, rfl⟩
  · cases halive : c.isAlive with
    | true => exact h.publish_of_alive hcurrent hsession hlast hhas halive topic payload
    | false => exact h.publish_of_lost hcurrent hsession hlast hhas halive topic payload

theorem disconnect_eq (h : x.Shows d) :
    (collaborators Device.network).disconnect x =
      { x with network := (d.answered .disconnect, x.lines.length) }.disconnect
        (d.interval (x.lines.length - 1) .disconnect) := by
  simp only [collaborators, ask, h.network]
  rfl

/-- A disconnect request over a session that has not ended gives replies that are alike. -/
theorem disconnect_of_alive (h : x.Shows d) {k : Nat} {c : Connection}
    (hcurrent : x.current = some k) (hsession : d.provider.session = some c)
    (hlast : k + 1 = x.lines.length) (hhas : x.Has k c) (halive : c.isAlive = true) :
    ((collaborators Device.network).disconnect x).Like Shows
      (Device.collaborators.disconnect d) := by
  obtain ⟨l, hl, hfollows⟩ := hhas
  let before : Exchange (Device × Nat) :=
    { x with network := (d.answered .disconnect, x.lines.length) }
  let script := Device.script c .disconnect
  have hline : x.lines.length - 1 = k := by omega
  have hinterval : d.interval k .disconnect =
      { before := script.map (·.news k), isTaken := true } := by
    simp only [Device.interval, hsession, halive, if_true]
    rfl
  have hdevice := Device.disconnect_of_alive hsession halive
  obtain ⟨hplayed, hasides⟩ := Device.script_spec hfollows.order_disconnect
  rw [h.disconnect_eq, hline, disconnect_of_current (x := before) hcurrent, hinterval, hdevice]
  simp only [hearAll_play before hl script, hearAll, if_true, List.append_nil]
  obtain ⟨numbers, hother, hnodup, hall⟩ := h.leaving
  have hne : k ∉ numbers := hother k hcurrent
  refine ⟨rfl, ⟨?_, h.nextId, .inl ⟨rfl, rfl⟩, numbers ++ [k], by simp, ?_, ?_⟩, hasides⟩
  · simp [before, Device.answered, hdevice]
  · simpa [List.nodup_append, hnodup] using fun i hi => by rintro rfl; exact hne hi
  · refine List.rel_append (has_of_kept (x := x) (fun i hi m hm => ?_) hall)
      (.cons ⟨_, ?_, hplayed⟩ .nil)
    · rwa [List.getElem?_set_ne (by rintro rfl; exact hne hi)]
    · exact List.getElem?_set_self (by simp only [before]; omega)

theorem disconnect (h : x.Shows d) :
    ((collaborators Device.network).disconnect x).Like Shows
      (Device.collaborators.disconnect d) := by
  obtain ⟨hcurrent, hsession⟩ | ⟨k, c, hcurrent, hsession, hlast, hhas⟩ := h.session
  · have hdevice := Device.disconnect_of_none hsession
    have hanswered : d.answered .disconnect = d := by rw [Device.answered, hdevice]
    rw [h.disconnect_eq, hanswered, hdevice,
      disconnect_of_none (x := { x with network := (d, x.lines.length) }) hcurrent]
    exact ⟨rfl, h.still, rfl⟩
  · cases halive : c.isAlive with
    | true => exact h.disconnect_of_alive hcurrent hsession hlast hhas halive
    | false =>
      have hdevice := Device.disconnect_of_lost hsession halive
      have hanswered : d.answered .disconnect = d := by rw [Device.answered, hdevice]
      have hinterval (line : Nat) : d.interval line .disconnect =
          { cause := Provider.lostCause } := by
        simp only [Device.interval, hsession, halive, Bool.false_eq_true, if_false]
      rw [h.disconnect_eq, hanswered, hinterval, hdevice,
        disconnect_of_current (x := { x with network := (d, x.lines.length) }) hcurrent]
      simp only [hearAll, Bool.false_eq_true, if_false]
      exact ⟨rfl, h.still, rfl⟩

/-- Starting a session on both sides preserves `Shows`. -/
theorem start (h : x.Shows d) (login : Login) :
    Shows
      { x.giveUp.start with
        network := ({ d with provider := { d.provider with session := some (.start login) } },
          x.lines.length + 1) }
      { d with provider := { d.provider with session := some (.start login) } } := by
  obtain ⟨numbers, hother, hnodup, hall⟩ := h.leaving
  have hlength : x.giveUp.lines.length = x.lines.length := by
    unfold giveUp
    cases x.current <;> simp
  have hgiven : ∀ k ∈ numbers, ∀ l, x.lines[k]? = some l → x.giveUp.lines[k]? = some l := by
    intro k hk l hl
    unfold giveUp
    cases hcurrent : x.current with
    | none => exact hl
    | some i =>
      have hne : i ≠ k := by
        rintro rfl
        exact hother i hcurrent hk
      unfold change
      simp only
      split
      · exact hl
      · rwa [List.getElem?_set_ne hne]
  have hlt : ∀ k ∈ numbers, k < x.lines.length := by
    intro k hk
    obtain ⟨i, hi, rfl⟩ := List.mem_iff_getElem.1 hk
    obtain ⟨l, hl, -⟩ := (List.forall₂_iff_get.1 hall).2 i hi ((List.forall₂_iff_get.1 hall).1 ▸ hi)
    exact (List.getElem?_eq_some_iff.1 hl).1
  have hstarted : x.giveUp.start.lines = x.giveUp.lines ++ [({} : Line)] := rfl
  refine ⟨by simp [hstarted, hlength], h.nextId, .inr ⟨x.giveUp.lines.length, .start login, rfl, rfl,
    by simp [hstarted], {}, by simp [hstarted], rfl, rfl, Nat.le_refl 0⟩, numbers, ?_, hnodup, ?_⟩
  · rintro k hk hmem
    obtain rfl : x.giveUp.lines.length = k := Option.some.inj hk
    exact absurd (hlt _ hmem) (by omega)
  · refine has_of_kept (x := x) (fun k hk l hl => ?_) hall
    simp only [hstarted]
    rw [List.getElem?_append_left (hlength ▸ hlt k hk)]
    exact hgiven k hk l hl

/-- A connect request gives replies that are alike. -/
theorem connect (h : x.Shows d) (text : String) :
    ((collaborators Device.network).connect text x).Like Shows
      (Device.collaborators.connect text d) := by
  cases hlogin : d.provider.options.login? text with
  | none =>
    have hdevice : Device.collaborators.connect text d =
        { result := .error (.connectionFailed "the device has no name"), world := d } := by
      simp [Device.collaborators, Device.connect, Provider.connect?, hlogin]
    have hexchange : (collaborators Device.network).connect text x =
        { result := .error (.connectionFailed "the device has no name")
          world := { x with network := (d, x.lines.length) } } := by
      simp [collaborators, ask, h.network, Device.network, Device.interval, Device.answered, hlogin,
        hdevice, Exchange.connect, hearAll]
    rw [hexchange, hdevice]
    exact ⟨rfl, h.still, rfl⟩
  | some login =>
    let connected : Device :=
      { d with provider := { d.provider with session := some (.start login) } }
    let asides : List Aside := [.remark (.sessionStarted d.provider.options.hostName
      d.provider.options.port.toNat)]
    have hdevice : Device.collaborators.connect text d =
        { result := .ok (), world := connected, asides } := by
      simp [Device.collaborators, Device.connect, Provider.connect?, hlogin, connected, asides]
    have hexchange : (collaborators Device.network).connect text x =
        { result := .ok ()
          world := { x.giveUp.start with network := (connected, x.lines.length + 1) }
          asides } := by
      simp [collaborators, ask, h.network, Device.network, Device.interval, Device.answered, hlogin,
        hdevice, Exchange.connect, hearAll, hear, asides]
      rfl
    rw [hexchange, hdevice]
    exact ⟨rfl, h.start login, rfl⟩

end Shows
end Exchange

/-- The collaborators of a device and those of an exchange over its network are alike. -/
theorem Device.collaborators_like :
    (Exchange.collaborators Device.network).Like Exchange.Shows Device.collaborators :=
  ⟨fun _ _ h => h.token, fun text _ _ h => h.connect text,
    fun topic payload _ _ h => h.publish topic payload, fun _ _ h => h.disconnect⟩

end HubLink.Session
