import HubLink.Proofs.Session.Exchange

namespace HubLink.Session

open Mqtt Transport

variable {L : Type}

namespace Exchange

/-- The notifications raised in the exchange after the first `handled` ones. -/
def unhandled (x : Exchange L) (handled : Nat) : List Notification :=
  (x.raised.drop handled).map (·.2)

/-- Newly raised notifications are appended to the unhandled ones. -/
theorem unhandled_append {x y : Exchange L} {handled : Nat} {new : List Notification}
    (hle : handled ≤ x.raised.length)
    (hraised : y.raised.map (·.2) = x.raised.map (·.2) ++ new) :
    y.unhandled handled = x.unhandled handled ++ new := by
  unfold unhandled
  rw [List.map_drop, List.map_drop, hraised, List.drop_append_of_le_length (by simpa using hle)]

/-- The number of `disconnected` among the first `handled` notifications. -/
def endsHandled (x : Exchange L) (handled : Nat) : Nat :=
  ((x.raised.take handled).map (·.2)).count .disconnected

end Exchange

/-- The sessions of an exchange agree with a machine in state `s` that has handled the first `handled`
notifications. -/
structure Aligned (handled : Nat) (s : ConnectionState) (x : Exchange L) : Prop where
  handled_le : handled ≤ x.raised.length
  /-- A stopped reader belongs to an ended session. -/
  stopped : ∀ l ∈ x.lines, l.isStopped = true → l.reader.isDone = true
  /-- Every session but the last has ended. -/
  earlier : ∀ (k : Nat) (l : Line), x.lines[k]? = some l → k + 1 < x.lines.length →
    l.reader.isDone = true
  reported : ∀ (k : Nat) (l : Line), x.lines[k]? = some l → l.reader.isDone = true →
    (k, .disconnected) ∈ x.raised
  current : ∀ k, x.current = some k → k + 1 = x.lines.length
  held : s = .connecting ∨ s = .connected → x.current.isSome = true
  /-- Every unhandled notification was raised by the last session. -/
  latest : ∀ p ∈ x.raised.drop handled, p.1 + 1 = x.lines.length
  /-- In the disconnected state all sessions have ended and no notification is unhandled. -/
  rest : s = .disconnected → (∀ l ∈ x.lines, l.reader.isDone = true) ∧ x.raised.drop handled = []
  /-- In any other state the unhandled notifications end with `disconnected` if the last session has
  ended, and contain no `disconnected` otherwise. -/
  ends : s ≠ .disconnected → ∃ k l quiet, k + 1 = x.lines.length ∧ x.lines[k]? = some l ∧
    .disconnected ∉ quiet ∧
    x.unhandled handled = quiet ++ if l.reader.isDone then [.disconnected] else []
  count : x.endsHandled handled + (if s = .disconnected then 0 else 1) = x.lines.length

namespace Aligned

variable {handled : Nat} {s : ConnectionState} {x : Exchange L}

theorem fresh (network : L) : Aligned 0 .disconnected { network : Exchange L } := by
  constructor <;> simp [Exchange.endsHandled]

/-- A session that has not ended is the last one, and the machine is not disconnected. -/
theorem last_of_isDone_eq_false (h : Aligned handled s x) {k : Nat} {l : Line}
    (hl : x.lines[k]? = some l) (hdone : l.reader.isDone = false) :
    k + 1 = x.lines.length ∧ s ≠ .disconnected := by
  obtain ⟨hk, -⟩ := List.getElem?_eq_some_iff.1 hl
  constructor
  · by_contra hlast
    rw [h.earlier k l hl (by omega)] at hdone
    cases hdone
  · intro hs
    rw [(h.rest hs).1 l (List.mem_of_getElem? hl)] at hdone
    cases hdone

/-- If the last session raises notifications that end with `disconnected` exactly when the session
ends, the condition `ends` is preserved. -/
theorem ends_set (h : Aligned handled s x) (hs : s ≠ .disconnected) {k : Nat} {l l' : Line}
    {raised : List Notification} (hl : x.lines[k]? = some l)
    (hover : l.reader.isDone = true → l'.reader.isDone = true ∧ raised = [])
    (hends : l.reader.isDone = false → ∃ quiet, .disconnected ∉ quiet ∧
      raised = quiet ++ if l'.reader.isDone then [.disconnected] else []) :
    ∃ i m quiet, i + 1 = x.lines.length ∧ (x.lines.set k l')[i]? = some m ∧
      .disconnected ∉ quiet ∧
      x.unhandled handled ++ raised =
        quiet ++ if m.reader.isDone then [.disconnected] else [] := by
  obtain ⟨i, m, quiet, hi, hm, hquiet, hunhandled⟩ := h.ends hs
  have hget : (x.lines.set k l')[k]? = some l' := by
    obtain ⟨hk, -⟩ := List.getElem?_eq_some_iff.1 hl
    exact List.getElem?_set_self hk
  cases hdone : l.reader.isDone with
  | true =>
    obtain ⟨hdone', rfl⟩ := hover hdone
    rw [List.append_nil]
    by_cases hik : i = k
    · subst hik
      obtain rfl : m = l := Option.some.inj (hm.symm.trans hl)
      refine ⟨i, l', quiet, hi, hget, hquiet, ?_⟩
      rw [hunhandled, hdone, hdone']
    · refine ⟨i, m, quiet, hi, ?_, hquiet, hunhandled⟩
      rwa [List.getElem?_set_ne (Ne.symm hik)]
  | false =>
    -- A session that can still raise something is the last one.
    obtain ⟨hlast, -⟩ := h.last_of_isDone_eq_false hl hdone
    obtain rfl : i = k := by omega
    obtain rfl : m = l := Option.some.inj (hm.symm.trans hl)
    obtain ⟨quiet', hquiet', rfl⟩ := hends hdone
    refine ⟨i, l', quiet ++ quiet', hi, hget, by simp [hquiet, hquiet'], ?_⟩
    rw [hunhandled, hdone]
    simp

/-- A step of one session that raises `disconnected` exactly when it ends, and last, preserves the
agreement. -/
theorem set (h : Aligned handled s x) {k : Nat} {l l' : Line} {raised : List Notification}
    (hl : x.lines[k]? = some l) (hstopped : l'.isStopped = true → l'.reader.isDone = true)
    (hover : l.reader.isDone = true → l'.reader.isDone = true ∧ raised = [])
    (hends : l.reader.isDone = false → ∃ quiet, .disconnected ∉ quiet ∧
      raised = quiet ++ if l'.reader.isDone then [.disconnected] else []) :
    Aligned handled s
      { x with lines := x.lines.set k l', raised := x.raised ++ raised.map (k, ·) } := by
  have hdrop : (x.raised ++ raised.map (k, ·)).drop handled =
      x.raised.drop handled ++ raised.map (k, ·) := List.drop_append_of_le_length h.handled_le
  have htake : (x.raised ++ raised.map (k, ·)).take handled = x.raised.take handled :=
    List.take_append_of_le_length h.handled_le
  have hget (i : Nat) (m : Line) (hm : (x.lines.set k l')[i]? = some m) :
      i = k ∧ m = l' ∨ i ≠ k ∧ x.lines[i]? = some m := by
    grind
  constructor
  · simpa using Nat.le_add_right_of_le h.handled_le
  · intro m hm hstop
    obtain hm | rfl := List.mem_or_eq_of_mem_set hm
    · exact h.stopped m hm hstop
    · exact hstopped hstop
  · intro i m hm hi
    rw [List.length_set] at hi
    obtain ⟨rfl, rfl⟩ | ⟨-, hm⟩ := hget i m hm
    · exact (hover (h.earlier i l hl hi)).1
    · exact h.earlier i m hm hi
  · intro i m hm hdone'
    obtain ⟨rfl, rfl⟩ | ⟨-, hm⟩ := hget i m hm
    · cases hdone : l.reader.isDone with
      | true => exact List.mem_append_left _ (h.reported i l hl hdone)
      | false =>
        obtain ⟨quiet, -, rfl⟩ := hends hdone
        simp [hdone']
    · exact List.mem_append_left _ (h.reported i m hm hdone')
  · simpa using h.current
  · exact h.held
  · rw [hdrop, List.length_set]
    intro p hp
    obtain hp | hp := List.mem_append.1 hp
    · exact h.latest p hp
    · cases hdone : l.reader.isDone with
      | true => simp [(hover hdone).2] at hp
      | false =>
        obtain ⟨n, -, rfl⟩ := List.mem_map.1 hp
        exact (h.last_of_isDone_eq_false hl hdone).1
  · intro hs
    obtain ⟨hall, hnone⟩ := h.rest hs
    obtain ⟨hdone, hraised⟩ := hover (hall l (List.mem_of_getElem? hl))
    refine ⟨fun m hm => ?_, by rw [hdrop, hnone, hraised]; rfl⟩
    obtain hm | rfl := List.mem_or_eq_of_mem_set hm
    · exact hall m hm
    · exact hdone
  · intro hs
    obtain ⟨i, m, quiet, hi, hm, hquiet, hunhandled⟩ := h.ends_set hs hl hover hends
    refine ⟨i, m, quiet, by simpa using hi, hm, hquiet, ?_⟩
    rw [← hunhandled]
    exact Exchange.unhandled_append h.handled_le (by simp [Function.comp_def])
  · simpa [Exchange.endsHandled, htake] using h.count

/-- Replacing a session by one that has ended exactly if the old one had preserves the agreement. -/
theorem replace (h : Aligned handled s x) {k : Nat} {l l' : Line} (hl : x.lines[k]? = some l)
    (hstopped : l'.isStopped = true → l'.reader.isDone = true)
    (hdone : l'.reader.isDone = l.reader.isDone) :
    Aligned handled s { x with lines := x.lines.set k l' } := by
  have hset : Aligned handled s
      { x with
        lines := x.lines.set k l'
        raised := x.raised ++ ([] : List Notification).map (k, ·) } :=
    h.set hl hstopped (fun hover => ⟨hdone.trans hover, rfl⟩)
      fun halive => ⟨[], by simp, by simp [hdone, halive]⟩
  simpa using hset

/-- Reading in a session preserves the agreement. -/
theorem read (h : Aligned handled s x) {k : Nat} {l l' : Line} {raised : List Notification}
    (hl : x.lines[k]? = some l) (hreads : l.Reads l' raised) :
    Aligned handled s
      { x with lines := x.lines.set k l', raised := x.raised ++ raised.map (k, ·) } := by
  refine h.set hl (fun hstop => ?_) hreads.done hreads.ends
  rw [hreads.isStopped] at hstop
  exact (hreads.done (h.stopped l (List.mem_of_getElem? hl) hstop)).1

theorem hear (h : Aligned handled s x) (news : News) : Aligned handled s (x.hear news).1 := by
  cases news with
  | remark remark => exact h
  | event k e =>
    unfold Exchange.hear
    cases hl : x.lines[k]? with
    | none => simpa [hl] using h
    | some l => simpa [hl] using h.read hl (l.reads_read e)

theorem hearAll (h : Aligned handled s x) (news : List News) :
    Aligned handled s (x.hearAll news).1 := by
  induction news generalizing x with
  | nil => exact h
  | cons first rest ih => exact ih (h.hear first)

theorem change (h : Aligned handled s x) (k : Nat) {f : Line → Line}
    (hf : ∀ l, (f l).reader.isDone = l.reader.isDone ∧ (f l).isStopped = l.isStopped) :
    Aligned handled s (x.change k f) := by
  unfold Exchange.change
  cases hl : x.lines[k]? with
  | none => exact h
  | some l =>
    obtain ⟨hdone, hstopped⟩ := hf l
    refine h.replace hl (fun hstop => ?_) hdone
    rw [hdone]
    exact h.stopped l (List.mem_of_getElem? hl) (hstopped ▸ hstop)

/-- In the disconnected state, giving up the current session preserves the agreement. -/
theorem giveUp (h : Aligned handled .disconnected x) :
    Aligned handled .disconnected x.giveUp := by
  have hfree {y : Exchange L} (hy : Aligned handled .disconnected y) :
      Aligned handled .disconnected { y with current := none } :=
    ⟨hy.handled_le, hy.stopped, hy.earlier, hy.reported, by simp, by simp, hy.latest, hy.rest,
      hy.ends, hy.count⟩
  have hstop (k : Nat) : Aligned handled .disconnected (x.change k .stop) := by
    unfold Exchange.change
    cases hl : x.lines[k]? with
    | none => exact h
    | some l => exact h.replace hl (fun _ => (h.rest rfl).1 l (List.mem_of_getElem? hl)) rfl
  unfold Exchange.giveUp
  cases x.current with
  | none => exact hfree h
  | some k => exact hfree (hstop k)

/-- After an accepted disconnect request no session takes requests. -/
theorem release (h : Aligned handled s x) (hs : s = .connecting ∨ s = .connected) :
    Aligned handled .disconnecting { x with current := none } := by
  have hopen : s ≠ .disconnected := by obtain rfl | rfl := hs <;> simp
  refine ⟨h.handled_le, h.stopped, h.earlier, h.reported, by simp, by simp, h.latest,
    by simp, fun _ => h.ends hopen, ?_⟩
  simpa [hopen, Exchange.endsHandled] using h.count

/-- The agreement does not depend on message counts or on the network's state. -/
theorem recount (h : Aligned handled s x) (nextId : MessageId) (requested : Nat) (network : L) :
    Aligned handled s { x with nextId, requested, network } :=
  ⟨h.handled_le, h.stopped, h.earlier, h.reported, h.current, h.held, h.latest, h.rest, h.ends,
    h.count⟩

/-- A session started in the disconnected state agrees with the connecting state. -/
theorem start (h : Aligned handled .disconnected x) : Aligned handled .connecting x.start := by
  obtain ⟨hall, hnone⟩ := h.rest rfl
  have hcount := h.count
  have hmem (l : Line) (hl : l ∈ x.start.lines) : l ∈ x.lines ∨ l = {} := by
    simpa [Exchange.start] using hl
  constructor
  · exact h.handled_le
  · intro l hl hstop
    obtain hl | rfl := hmem l hl
    · exact hall l hl
    · cases hstop
  · intro k l hl hk
    have hold : x.lines[k]? = some l := by
      simp only [Exchange.start, List.length_append, List.length_singleton] at hk hl
      rwa [List.getElem?_append_left (by omega)] at hl
    exact hall l (List.mem_of_getElem? hold)
  · intro k l hl hdone
    by_cases hk : k < x.lines.length
    · refine h.reported k l ?_ hdone
      rwa [Exchange.start, List.getElem?_append_left hk] at hl
    · obtain rfl : l = {} := by
        rw [Exchange.start, List.getElem?_append_right (by omega)] at hl
        exact (List.mem_singleton.1 (List.mem_of_getElem? hl))
      cases hdone
  · simp [Exchange.start]
  · exact fun _ => rfl
  · simp [Exchange.start, hnone]
  · exact fun hs => absurd hs (by simp)
  · refine fun _ => ⟨x.lines.length, {}, [], ?_, ?_, by simp, ?_⟩
    · simp [Exchange.start]
    · simp [Exchange.start]
    · simp [Exchange.unhandled, Exchange.start, hnone]
  · simpa [Exchange.start, Exchange.endsHandled] using hcount

theorem note (h : Aligned handled s x) (k : Nat) : Aligned handled s (x.note k) :=
  (h.change k (f := (·.request x.nextId)) fun _ => ⟨rfl, rfl⟩).recount _ _ _

theorem settle (h : Aligned handled s x) (k : Nat) (id : MessageId) (isTaken : Bool) :
    Aligned handled s (x.settle k id isTaken) :=
  h.change k fun _ => by cases isTaken <;> exact ⟨rfl, rfl⟩

/-- The next notification was raised by the last session; handling it removes it, and adds 1 to
`endsHandled` if it is `disconnected`. -/
theorem next (h : Aligned handled s x) {n : Notification} {rest : List Notification}
    (hnext : x.unhandled handled = n :: rest) :
    (∃ k, x.raised[handled]? = some (k, n) ∧ k + 1 = x.lines.length) ∧
      x.unhandled (handled + 1) = rest ∧
      x.endsHandled (handled + 1) =
        x.endsHandled handled + if n = .disconnected then 1 else 0 := by
  obtain ⟨p, later, hdrop, rfl, rfl⟩ := List.map_eq_cons_iff.1 hnext
  have hget : x.raised[handled]? = some p := by
    rw [← List.head?_drop, hdrop]
    rfl
  have hlater : x.raised.drop (handled + 1) = later := by
    rw [← List.drop_drop, hdrop]
    rfl
  refine ⟨⟨p.1, hget, h.latest p (by simp [hdrop])⟩, ?_, ?_⟩
  · rw [Exchange.unhandled, hlater]
  · simp only [Exchange.endsHandled, List.take_add_one, hget]
    simp [List.count_singleton]

/-- If a notification is unhandled, the machine is not disconnected. -/
theorem handled_lt (h : Aligned handled s x) {n : Notification} {rest : List Notification}
    (hnext : x.unhandled handled = n :: rest) : handled < x.raised.length ∧ s ≠ .disconnected := by
  obtain ⟨⟨k, hget, -⟩, -, -⟩ := h.next hnext
  refine ⟨(List.getElem?_eq_some_iff.1 hget).1, ?_⟩
  rintro rfl
  rw [Exchange.unhandled, (h.rest rfl).2] at hnext
  cases hnext

/-- Handling a notification other than `disconnected` preserves the agreement, also if the machine
goes from connecting to connected. -/
theorem handle (h : Aligned handled s x) {n : Notification} {rest : List Notification}
    (hnext : x.unhandled handled = n :: rest) (hn : n ≠ .disconnected) {s' : ConnectionState}
    (hs' : s' = s ∨ s = .connecting ∧ s' = .connected) : Aligned (handled + 1) s' x := by
  obtain ⟨-, hrest, hcount⟩ := h.next hnext
  obtain ⟨hlt, hopen⟩ := h.handled_lt hnext
  have hopen' : s' ≠ .disconnected := by
    obtain rfl | ⟨-, rfl⟩ := hs'
    · exact hopen
    · simp
  obtain ⟨k, l, quiet, hk, hl, hquiet, htail⟩ := h.ends hopen
  refine ⟨hlt, h.stopped, h.earlier, h.reported, h.current, fun hheld => ?_, fun p hp => ?_,
    fun hs => absurd hs hopen', fun _ => ?_, ?_⟩
  · obtain rfl | ⟨rfl, -⟩ := hs'
    · exact h.held hheld
    · exact h.held (.inl rfl)
  · exact h.latest p (List.mem_of_mem_drop (by rwa [List.drop_drop]))
  · rw [htail] at hnext
    cases quiet with
    | nil =>
      simp only [List.nil_append] at hnext
      split at hnext <;> cases hnext
      exact absurd rfl hn
    | cons first quiet =>
      obtain ⟨rfl, rfl⟩ := List.cons.inj hnext
      exact ⟨k, l, quiet, hk, hl, fun hmem => hquiet (List.mem_cons_of_mem _ hmem), hrest⟩
  · have hbefore := h.count
    rw [if_neg hopen] at hbefore
    rw [hcount, if_neg hn, if_neg hopen']
    exact hbefore

/-- Handling `disconnected` leads from a state other than disconnected to the disconnected state. -/
theorem handle_end (h : Aligned handled s x) {rest : List Notification}
    (hnext : x.unhandled handled = .disconnected :: rest) :
    s ≠ .disconnected ∧ Aligned (handled + 1) .disconnected x := by
  obtain ⟨-, hrest, hcount⟩ := h.next hnext
  obtain ⟨hlt, hopen⟩ := h.handled_lt hnext
  obtain ⟨k, l, quiet, hk, hl, hquiet, htail⟩ := h.ends hopen
  rw [htail] at hnext
  cases quiet with
  | cons first quiet =>
    obtain ⟨rfl, -⟩ := List.cons.inj hnext
    exact absurd (List.mem_cons_self ..) hquiet
  | nil =>
    obtain ⟨hdone, rfl⟩ : l.reader.isDone = true ∧ rest = [] := by
      simp only [List.nil_append] at hnext
      split at hnext
      case isTrue hdone => exact ⟨hdone, (List.cons.inj hnext).2.symm⟩
      case isFalse => cases hnext
    have hnone : x.raised.drop (handled + 1) = [] := List.map_eq_nil_iff.1 hrest
    refine ⟨hopen, hlt, h.stopped, h.earlier, h.reported, h.current, by simp, by simp [hnone],
      fun _ => ⟨fun m hm => ?_, hnone⟩, fun hs => absurd rfl hs, ?_⟩
    · obtain ⟨i, hi⟩ := List.mem_iff_getElem?.1 hm
      by_cases hik : i = k
      · subst hik
        obtain rfl : m = l := Option.some.inj (hi.symm.trans hl)
        exact hdone
      · obtain ⟨hlen, -⟩ := List.getElem?_eq_some_iff.1 hi
        exact h.earlier i m hi (by omega)
    · have hbefore := h.count
      rw [if_neg hopen] at hbefore
      rw [hcount, if_pos rfl, if_pos rfl]
      exact hbefore

/-- In the disconnected state, `disconnected` was raised by every session and handled. -/
theorem ended (h : Aligned handled .disconnected x) :
    (∀ k < x.lines.length, (k, .disconnected) ∈ x.raised.take handled) ∧
      x.endsHandled handled = x.lines.length := by
  obtain ⟨hall, hnone⟩ := h.rest rfl
  have hcount := h.count
  refine ⟨fun k hk => ?_, by simpa using hcount⟩
  rw [List.take_of_length_le (List.drop_eq_nil_iff.1 hnone)]
  have hl := List.getElem?_eq_getElem hk
  exact h.reported k _ hl (hall _ (List.mem_of_getElem? hl))

end Aligned
end HubLink.Session
