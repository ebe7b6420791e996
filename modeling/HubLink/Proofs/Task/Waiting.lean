import HubLink.Proofs.Task.Attendance
import HubLink.Proofs.Task.Watch

namespace HubLink.Transport

variable {σ κ : Type}

open Happening (states)

namespace Chronicle

variable (fails : Effect κ → Option String) (c : Collaborators σ)

/-- The watch channel of a chronicle: the published state, the number of states published, and whether
the task is alive. -/
def channel (h : Chronicle σ κ) : Channel where
  state := h.task.watched
  version := (states h.seen).length
  isOpen := h.task.isAlive

/-- Moves that leave the version unchanged leave the published state unchanged. -/
theorem state_of_version (h : Chronicle σ κ) (moves : List (Move σ κ))
    (hversion : (h.play fails c moves).channel.version = h.channel.version) :
    (h.play fails c moves).channel.state = h.channel.state := by
  obtain ⟨more, hseen, hwatched⟩ := getLastD_play fails c h moves
  have hnone : states more = [] := by
    change (states (h.play fails c moves).seen).length = (states h.seen).length at hversion
    rw [hseen, Happening.states_append, List.length_append] at hversion
    exact List.eq_nil_of_length_eq_zero (by omega)
  rw [hnone] at hwatched
  exact hwatched

end Chronicle

namespace Look

variable {look : Look} {target : ConnectionState}

theorem verdict?_eq_none :
    look.verdict? target = none ↔
      look.state ≠ target ∧ look.isRunning = true ∧ look.isOver = false := by
  unfold verdict?
  split
  case isTrue hstate => simp [hstate]
  case isFalse hstate => cases look.isRunning <;> cases look.isOver <;> simp [hstate]

/-- A look is decided exactly if it shows the target, or shows another state of an ended task, or
shows another state of a living task at the end of the time limit. -/
theorem verdict?_eq_some {outcome : Except TransportError Unit} :
    look.verdict? target = some outcome ↔
      (outcome = .ok () ∧ look.state = target) ∨
      (outcome = .error .closed ∧ look.state ≠ target ∧ look.isRunning = false) ∨
      (outcome = .error (.timeout target) ∧ look.state ≠ target ∧ look.isRunning = true ∧
        look.isOver = true) := by
  unfold verdict?
  split
  case isTrue hstate => simp [hstate, eq_comm (a := outcome)]
  case isFalse hstate =>
    cases look.isRunning <;> cases look.isOver <;> simp [hstate, eq_comm (a := outcome)]

end Look

namespace Waiter

variable {target : ConnectionState} {ch : Channel} {w : Waiter}

/-- If the channel still has the version that the waiter has seen, its state is not the target. -/
def Fits (target : ConnectionState) (ch : Channel) : Waiter → Prop
  | .looking => True
  | .listening version => ch.version = version → ch.state ≠ target

theorem looking_fits (target : ConnectionState) (ch : Channel) : looking.Fits target ch :=
  trivial

/-- A turn of a fitting waiter ends with the verdict of a look at the channel; without a verdict the
waiter listens from the current version on. -/
theorem turn_eq (hw : w.Fits target ch) (isOver : Bool) :
    w.turn target ch isOver =
      match (ch.look isOver).verdict? target with
      | some outcome => .done outcome
      | none => .pending (.listening ch.version) := by
  -- Where nothing is new, the version is the one that was seen, and its state not the target.
  have hpoll : w.poll target ch = look target ch := by
    cases w with
    | looking => rfl
    | listening version =>
      by_cases hversion : ch.version = version
      · have hstate : ch.state ≠ target := hw hversion
        obtain rfl := hversion
        simp only [poll, look, if_neg hstate]
        cases ch.newsSince ch.version <;> rfl
      · simp only [poll, Channel.newsSince, ne_eq, hversion, not_false_eq_true, if_true]
  unfold turn
  rw [hpoll]
  unfold look Look.verdict? Channel.look Channel.newsSince
  by_cases hstate : ch.state = target
  · simp [hstate]
  · cases ch.isOpen <;> cases isOver <;> simp [hstate]

theorem attend_cons {x : Channel × Bool} (hw : w.Fits target x.1) (rest : List (Channel × Bool)) :
    w.attend target (x :: rest) =
      match (x.1.look x.2).verdict? target with
      | some outcome => some (outcome, 0)
      | none =>
        ((listening x.1.version).attend target rest).map fun (outcome, n) => (outcome, n + 1) := by
  rw [attend, turn_eq hw]
  cases (x.1.look x.2).verdict? target <;> rfl

/-- Two turns with the same version show the same state. -/
def Consistent (turns : List (Channel × Bool)) : Prop :=
  turns.Pairwise fun x y => y.1.version = x.1.version → y.1.state = x.1.state

/-- After a turn without a verdict, the waiter fits all later turns. -/
theorem fits_rest {x : Channel × Bool} {rest : List (Channel × Bool)}
    (hturns : Consistent (x :: rest)) (hx : (x.1.look x.2).verdict? target = none) :
    ∀ y ∈ rest, (listening x.1.version).Fits target y.1 := by
  intro y hy hversion hstate
  have hsame : y.1.state = x.1.state := (List.pairwise_cons.1 hturns).1 y hy hversion
  exact (Look.verdict?_eq_none.1 hx).1 (hsame.symm.trans hstate)

/-- The outcome of `attend` is the first verdict of the looks at its turns. -/
theorem attend_eq_waitFor? {turns : List (Channel × Bool)} (hturns : Consistent turns)
    (hw : ∀ x ∈ turns, w.Fits target x.1) :
    (w.attend target turns).map (·.1) = waitFor? target (turns.map fun x => x.1.look x.2) := by
  induction turns generalizing w with
  | nil => rfl
  | cons x rest ih =>
    rw [attend_cons (hw x List.mem_cons_self), waitFor?, List.map_cons, List.findSome?_cons]
    cases hx : (x.1.look x.2).verdict? target with
    | some outcome => rfl
    | none =>
      rw [Option.map_map]
      exact ih (List.pairwise_cons.1 hturns).2 (fits_rest hturns hx)

/-- The outcome of `attend` comes in turn `n` exactly if turn `n` has it as its verdict and no earlier
turn has a verdict. -/
theorem attend_eq_some {turns : List (Channel × Bool)} (hturns : Consistent turns)
    (hw : ∀ x ∈ turns, w.Fits target x.1) {outcome : Except TransportError Unit} {n : Nat} :
    w.attend target turns = some (outcome, n) ↔
      (∃ x, turns[n]? = some x ∧ (x.1.look x.2).verdict? target = some outcome) ∧
        ∀ i < n, ∀ x, turns[i]? = some x → (x.1.look x.2).verdict? target = none := by
  induction turns generalizing w n with
  | nil => simp [attend]
  | cons x rest ih =>
    rw [attend_cons (hw x List.mem_cons_self)]
    cases hx : (x.1.look x.2).verdict? target with
    | some found =>
      cases n with
      | zero => simp [hx]
      | succ n =>
        refine iff_of_false (by simp) fun h => ?_
        have hnone := h.2 0 (Nat.succ_pos n) x rfl
        rw [hx] at hnone
        cases hnone
    | none =>
      cases n with
      | zero => simp [hx]
      | succ n =>
        have hrest := ih (n := n) (List.pairwise_cons.1 hturns).2 (fits_rest hturns hx)
        have hshift : ((listening x.1.version).attend target rest).map
              (fun (outcome, n) => (outcome, n + 1)) = some (outcome, n + 1) ↔
            (listening x.1.version).attend target rest = some (outcome, n) := by
          simp
        rw [hshift, hrest, List.getElem?_cons_succ, Nat.forall_lt_succ_left']
        simp [hx]

/-- A target published and left again between two turns is missed; found in a turn, it takes
precedence over an ended task, which takes precedence over the time limit. -/
example : attend .connected .looking [(⟨.disconnected, 0, true⟩, false),
    (⟨.disconnected, 2, true⟩, false), (⟨.connected, 3, false⟩, true)] = some (.ok (), 2) :=
  rfl

end Waiter

/-- The chronicle and the clock at one turn of a waiter. -/
structure Wake (σ κ : Type) where
  chronicle : Chronicle σ κ
  /-- The milliseconds since the call. -/
  clock : Nat

/-- The moves of the task between two turns of a waiter. -/
structure Spell (σ κ : Type) where
  /-- The milliseconds between the two turns. -/
  pause : Nat
  moves : List (Move σ κ)

namespace Wake

variable (fails : Effect κ → Option String) (c : Collaborators σ) (limit : Nat)

/-- The turn after a spell. The clock stops at `limit`, since the time limit wakes the waiter. -/
def next (w : Wake σ κ) (spell : Spell σ κ) : Wake σ κ where
  chronicle := w.chronicle.play fails c spell.moves
  clock := min (w.clock + spell.pause) limit

/-- The turns of a waiter called at `h`, the first one at clock 0. -/
def wakes (h : Chronicle σ κ) (spells : List (Spell σ κ)) : List (Wake σ κ) :=
  spells.scanl (next fails c limit) ⟨h, 0⟩

/-- The channel at a turn, and whether the time limit has been reached. -/
def turn (w : Wake σ κ) : Channel × Bool :=
  (w.chronicle.channel, limit ≤ w.clock)

/-- The look at the transport at a turn. -/
def look (w : Wake σ κ) : Look :=
  w.chronicle.channel.look (limit ≤ w.clock)

/-- Turn `n` satisfies `now`, and every turn before it satisfies `before`. -/
def First (wakes : List (Wake σ κ)) (n : Nat) (now before : Wake σ κ → Prop) : Prop :=
  (∃ w, wakes[n]? = some w ∧ now w) ∧ ∀ i < n, ∀ w, wakes[i]? = some w → before w

variable {fails c limit} {h : Chronicle σ κ} {spells : List (Spell σ κ)}

theorem First.imp {wakes : List (Wake σ κ)} {n : Nat} {now before now' before' : Wake σ κ → Prop}
    (hfirst : First wakes n now before) (hnow : ∀ w ∈ wakes, now w → now' w)
    (hbefore : ∀ w ∈ wakes, before w → before' w) : First wakes n now' before' := by
  obtain ⟨⟨w, hw, hthen⟩, hall⟩ := hfirst
  refine ⟨⟨w, hw, hnow w (List.mem_of_getElem? hw) hthen⟩, fun i hi e he => ?_⟩
  exact hbefore e (List.mem_of_getElem? he) (hall i hi e he)

theorem wakes_zero : (wakes fails c limit h spells)[0]? = some ⟨h, 0⟩ := by
  unfold wakes
  cases spells with
  | nil => rfl
  | cons spell rest => rw [List.scanl_cons, List.getElem?_cons_zero]

/-- Each later turn comes after further moves, with its clock at most `limit`. -/
theorem later_of_mem {first w : Wake σ κ} (hw : w ∈ spells.scanl (next fails c limit) first) :
    (∃ moves, w.chronicle = first.chronicle.play fails c moves) ∧
      (first.clock ≤ limit → w.clock ≤ limit) := by
  induction spells generalizing first with
  | nil =>
    obtain rfl := List.mem_singleton.1 hw
    exact ⟨⟨[], rfl⟩, id⟩
  | cons spell rest ih =>
    rw [List.scanl_cons] at hw
    obtain rfl | hrest := List.mem_cons.1 hw
    · exact ⟨⟨[], rfl⟩, id⟩
    · obtain ⟨⟨moves, hmoves⟩, hclock⟩ := ih hrest
      refine ⟨⟨spell.moves ++ moves, ?_⟩, fun _ => hclock (Nat.min_le_right _ _)⟩
      rw [hmoves, Chronicle.play, Chronicle.play, List.foldl_append]
      rfl

theorem clock_le {w : Wake σ κ} (hw : w ∈ wakes fails c limit h spells) : w.clock ≤ limit :=
  (later_of_mem hw).2 (Nat.zero_le limit)

theorem pairwise_wakes :
    (wakes fails c limit h spells).Pairwise fun x y =>
      ∃ moves, y.chronicle = x.chronicle.play fails c moves := by
  unfold wakes
  generalize (⟨h, 0⟩ : Wake σ κ) = first
  induction spells generalizing first with
  | nil => exact List.pairwise_singleton _ _
  | cons spell rest ih =>
    rw [List.scanl_cons]
    refine List.pairwise_cons.2 ⟨fun w hw => ?_, ih _⟩
    have hmem : w ∈ (spell :: rest).scanl (next fails c limit) first := by
      rw [List.scanl_cons]
      exact List.mem_cons_of_mem _ hw
    exact (later_of_mem hmem).1

theorem later_of_lt {i n : Nat} {e w : Wake σ κ} (hi : i < n)
    (he : (wakes fails c limit h spells)[i]? = some e)
    (hw : (wakes fails c limit h spells)[n]? = some w) :
    ∃ moves, w.chronicle = e.chronicle.play fails c moves := by
  obtain ⟨hilen, rfl⟩ := List.getElem?_eq_some_iff.1 he
  obtain ⟨hnlen, rfl⟩ := List.getElem?_eq_some_iff.1 hw
  exact List.pairwise_iff_getElem.1 pairwise_wakes i n hilen hnlen hi

theorem consistent_wakes :
    Waiter.Consistent ((wakes fails c limit h spells).map (turn limit)) := by
  refine List.pairwise_map.2 (pairwise_wakes.imp fun {x y} hlater hversion => ?_)
  obtain ⟨moves, hmoves⟩ := hlater
  simp only [turn] at hversion ⊢
  rw [hmoves] at hversion ⊢
  exact Chronicle.state_of_version fails c x.chronicle moves hversion

section Answers

variable {target : ConnectionState} {w : Wake σ κ} {n : Nat}

/-- A turn has no verdict exactly if the published state is not the target, the task is alive, and the
clock is below `limit`. -/
theorem verdict?_eq_none :
    (w.look limit).verdict? target = none ↔
      w.chronicle.task.watched ≠ target ∧ w.chronicle.task.isAlive = true ∧ w.clock < limit := by
  rw [Look.verdict?_eq_none]
  simp [look, Channel.look, Chronicle.channel]

theorem verdict?_eq_some {outcome : Except TransportError Unit} :
    (w.look limit).verdict? target = some outcome ↔
      (outcome = .ok () ∧ w.chronicle.task.watched = target) ∨
      (outcome = .error .closed ∧ w.chronicle.task.watched ≠ target ∧
        w.chronicle.task.isAlive = false) ∨
      (outcome = .error (.timeout target) ∧ w.chronicle.task.watched ≠ target ∧
        w.chronicle.task.isAlive = true ∧ limit ≤ w.clock) := by
  rw [Look.verdict?_eq_some]
  simp [look, Channel.look, Chronicle.channel]

variable (fails c limit h spells target) in
/-- The outcome of a waiter called at `h`, with the number of the turn in which it is given. -/
def answer? : Option (Except TransportError Unit × Nat) :=
  Waiter.attend target .looking ((wakes fails c limit h spells).map (turn limit))

variable (fails c limit h spells target) in
/-- The outcome of `answer?` is the first verdict of the looks at its turns. -/
theorem answer?_eq_waitFor? :
    (answer? fails c limit h spells target).map (·.1) =
      waitFor? target ((wakes fails c limit h spells).map (look limit)) := by
  rw [answer?, Waiter.attend_eq_waitFor? consistent_wakes fun x _ => Waiter.looking_fits target x.1,
    List.map_map]
  rfl

/-- The outcome of `answer?` comes in turn `n` exactly if that turn has it as its verdict and no
earlier turn has a verdict. -/
theorem answer?_eq_some {outcome : Except TransportError Unit} :
    answer? fails c limit h spells target = some (outcome, n) ↔
      First (wakes fails c limit h spells) n (fun w => (w.look limit).verdict? target = some outcome)
        fun w => (w.look limit).verdict? target = none := by
  rw [answer?, Waiter.attend_eq_some consistent_wakes fun x _ => Waiter.looking_fits target x.1]
  simp only [First, List.getElem?_map, Option.map_eq_some_iff]
  constructor
  · rintro ⟨⟨_, ⟨w, hw, rfl⟩, hverdict⟩, hall⟩
    exact ⟨⟨w, hw, hverdict⟩, fun i hi e he => hall i hi _ ⟨e, he, rfl⟩⟩
  · rintro ⟨⟨w, hw, hverdict⟩, hall⟩
    refine ⟨⟨_, ⟨w, hw, rfl⟩, hverdict⟩, ?_⟩
    rintro i hi _ ⟨e, he, rfl⟩
    exact hall i hi e he

/-- Success is answered exactly in the first turn that finds the target, if the clock is below `limit`
in every earlier turn. No condition on ended tasks is needed: a task that has ended publishes nothing
more. -/
theorem answer?_eq_ok :
    answer? fails c limit h spells target = some (.ok (), n) ↔
      First (wakes fails c limit h spells) n
        (fun w => w.chronicle.task.watched = target ∧ w.clock ≤ limit)
        fun w => w.chronicle.task.watched ≠ target ∧ w.clock < limit := by
  rw [answer?_eq_some]
  constructor
  · intro hfirst
    refine hfirst.imp (fun w hw hverdict => ?_) fun w hw hnone => ?_
    · rw [verdict?_eq_some] at hverdict
      exact ⟨by simpa using hverdict, clock_le hw⟩
    · obtain ⟨hother, -, hclock⟩ := verdict?_eq_none.1 hnone
      exact ⟨hother, hclock⟩
  · rintro ⟨⟨w, hw, hstate, -⟩, hall⟩
    refine ⟨⟨w, hw, verdict?_eq_some.2 (.inl ⟨rfl, hstate⟩)⟩, fun i hi e he => ?_⟩
    obtain ⟨hother, hclock⟩ := hall i hi e he
    refine verdict?_eq_none.2 ⟨hother, ?_, hclock⟩
    obtain ⟨moves, hlater⟩ := later_of_lt hi he hw
    by_contra hended
    have hlast : (e.chronicle.play fails c moves).task.watched = e.chronicle.task.watched :=
      (Chronicle.play_of_ended (Bool.eq_false_of_not_eq_true hended) moves).2
    rw [← hlater, hstate] at hlast
    exact hother hlast.symm

/-- An ended task is answered exactly in the first turn that finds the task ended, if the target was
not published up to then and the clock is below `limit` in every earlier turn. -/
theorem answer?_eq_closed :
    answer? fails c limit h spells target = some (.error .closed, n) ↔
      First (wakes fails c limit h spells) n
        (fun w => w.chronicle.task.isAlive = false ∧ w.clock ≤ limit ∧
          ∀ moves, (w.chronicle.play fails c moves).task.watched ≠ target)
        fun w => w.chronicle.task.watched ≠ target ∧ w.chronicle.task.isAlive = true ∧
          w.clock < limit := by
  rw [answer?_eq_some]
  constructor
  · intro hfirst
    refine hfirst.imp (fun w hw hverdict => ?_) fun w hw hnone => verdict?_eq_none.1 hnone
    rw [verdict?_eq_some] at hverdict
    obtain ⟨hother, hended⟩ :
        w.chronicle.task.watched ≠ target ∧ w.chronicle.task.isAlive = false := by
      simpa using hverdict
    refine ⟨hended, clock_le hw, fun moves => ?_⟩
    rw [(Chronicle.play_of_ended hended moves).2]
    exact hother
  · intro hfirst
    refine hfirst.imp (fun w hw hnow => ?_) fun w hw hbefore => verdict?_eq_none.2 hbefore
    obtain ⟨hended, -, hother⟩ := hnow
    exact verdict?_eq_some.2 (.inr (.inl ⟨rfl, hother [], hended⟩))

/-- The timeout is answered exactly in the turn with `clock = limit`, if the task is alive in it and
neither it nor an earlier turn finds the target. -/
theorem answer?_eq_timeout {s : ConnectionState} :
    answer? fails c limit h spells target = some (.error (.timeout s), n) ↔
      s = target ∧ First (wakes fails c limit h spells) n
        (fun w => w.chronicle.task.watched ≠ target ∧ w.chronicle.task.isAlive = true ∧
          w.clock = limit)
        fun w => w.chronicle.task.watched ≠ target ∧ w.chronicle.task.isAlive = true ∧
          w.clock < limit := by
  rw [answer?_eq_some]
  constructor
  · intro hfirst
    have hnow (w : Wake σ κ) (hverdict : (w.look limit).verdict? target = some (.error (.timeout s))) :
        s = target ∧ w.chronicle.task.watched ≠ target ∧ w.chronicle.task.isAlive = true ∧
          limit ≤ w.clock := by
      rw [verdict?_eq_some] at hverdict
      simpa using hverdict
    have htarget : s = target := by
      obtain ⟨⟨w, -, hverdict⟩, -⟩ := hfirst
      exact (hnow w hverdict).1
    refine ⟨htarget, hfirst.imp (fun w hw hverdict => ?_) fun w hw => verdict?_eq_none.1⟩
    obtain ⟨-, hother, halive, hclock⟩ := hnow w hverdict
    exact ⟨hother, halive, Nat.le_antisymm (clock_le hw) hclock⟩
  · rintro ⟨rfl, hfirst⟩
    refine hfirst.imp (fun w hw hnow => ?_) fun w hw hbefore => verdict?_eq_none.2 hbefore
    obtain ⟨hother, halive, hclock⟩ := hnow
    exact verdict?_eq_some.2 (.inr (.inr ⟨rfl, hother, halive, Nat.le_of_eq hclock.symm⟩))

variable (target) in
/-- If turn `i` has `clock = limit`, the waiter has an outcome in turn `i` or earlier. -/
theorem answer?_of_clock {i : Nat} (hw : (wakes fails c limit h spells)[i]? = some w)
    (hclock : w.clock = limit) :
    ∃ outcome n, answer? fails c limit h spells target = some (outcome, n) ∧ n ≤ i := by
  have hdecides : (w.look limit).verdict? target ≠ none := by
    intro hnone
    have hless := (verdict?_eq_none.1 hnone).2.2
    omega
  cases hanswer : answer? fails c limit h spells target with
  | none =>
    have hnone := answer?_eq_waitFor? fails c limit h spells target
    rw [hanswer, eq_comm, Option.map_none, waitFor?, List.findSome?_eq_none_iff] at hnone
    have hmem := List.mem_map_of_mem (f := look limit) (List.mem_of_getElem? hw)
    exact absurd (hnone _ hmem) hdecides
  | some answer =>
    obtain ⟨outcome, n⟩ := answer
    refine ⟨outcome, n, rfl, ?_⟩
    by_contra hlate
    exact hdecides ((answer?_eq_some.1 hanswer).2 i (by omega) w hw)

end Answers

end Wake

/-- The `wait` call of a handle returns the first verdict of three looks: at the call, after the task
has settled, and at the end of the time limit. -/
theorem Handle.call_wait_eq {fails : Effect (Hook κ) → Option String} {c : Collaborators σ}
    {h : Handle σ κ} {target : ConnectionState} {limit : Nat} {outcome : Except TransportError Unit}
    (houtcome : waitFor? target [h.look (limit = 0), (h.settle fails c).1.look (limit = 0),
      (h.settle fails c).1.look true] = some outcome) :
    (h.call fails c (.wait target limit)).1 = .done outcome := by
  unfold Handle.call Handle.burst Handle.makeAll Handle.makeAll Handle.make
  dsimp only
  rw [waitFor?, List.findSome?_cons] at houtcome
  cases hfirst : (h.look (limit = 0)).verdict? target with
  | some found =>
    rw [hfirst] at houtcome
    obtain rfl := Option.some.inj houtcome
    rfl
  | none =>
    rw [hfirst] at houtcome
    have hlimit : decide (limit = 0) = false := (Look.verdict?_eq_none.1 hfirst).2.2
    rw [hlimit] at houtcome
    have hrest : waitFor? target [(h.settle fails c).1.look false, (h.settle fails c).1.look true] =
        some outcome := houtcome
    simp only [List.map_cons, Handle.Pending.outcome, hrest, List.headD_cons]

/-- The `wait` call of a handle returns the outcome of a waiter with these three turns. -/
theorem Handle.call_wait (fails : Effect (Hook κ) → Option String) (c : Collaborators σ)
    (h : Handle σ κ) (k : Chronicle σ (Hook κ)) (htask : k.task = h.task) (target : ConnectionState)
    (limit : Nat) :
    ∃ outcome n,
      Wake.answer? fails c limit k [⟨0, .replicate h.task.budget .work⟩, ⟨limit, []⟩] target =
        some (outcome, n) ∧
      (h.call fails c (.wait target limit)).1 = .done outcome := by
  let spells : List (Spell σ (Hook κ)) := [⟨0, .replicate h.task.budget .work⟩, ⟨limit, []⟩]
  let settled : Chronicle σ (Hook κ) := k.play fails c (.replicate h.task.budget .work)
  have hsettled : settled.task = (h.settle fails c).1.task := by
    rw [(Chronicle.play_work fails c _ k).1, htask]
    rfl
  have hwakes : Wake.wakes fails c limit k spells = [⟨k, 0⟩, ⟨settled, 0⟩, ⟨settled, limit⟩] := by
    simp [Wake.wakes, Wake.next, spells, settled, List.scanl_cons, Chronicle.play]
  have hlast : (Wake.wakes fails c limit k spells)[2]? = some ⟨settled, limit⟩ := by rw [hwakes]; rfl
  obtain ⟨outcome, n, hanswer, -⟩ := Wake.answer?_of_clock target hlast rfl
  refine ⟨outcome, n, hanswer, call_wait_eq ?_⟩
  have hwait := Wake.answer?_eq_waitFor? fails c limit k spells target
  rw [hanswer, hwakes, Option.map_some] at hwait
  rw [hwait]
  simp [Wake.look, Handle.look, Channel.look, Chronicle.channel, hsettled, htask]

/-- For a waiter called after any moves, with any moves between its turns: its outcome is the first
verdict of the looks at its turns. It is success in turn 0 if the published state is the target at the
call, and otherwise in the first turn that finds the target. Closed and timeout are answered exactly
if no turn up to then finds the target: closed in the first turn that finds the task ended, timeout in
the turn with `clock = limit` while the task is alive. By the turn with `clock = limit` there is an
outcome. -/
theorem wait_tells_truth (fails : Effect κ → Option String) (c : Collaborators σ)
    (machine : Machine κ) (world : σ) (number : Nat) (before : List (Move σ κ))
    (target : ConnectionState) (limit : Nat) (spells : List (Spell σ κ)) :
    let called := (Chronicle.start machine world number).play fails c before
    let wakes := Wake.wakes fails c limit called spells
    let answer := Waiter.attend target .looking (wakes.map (Wake.turn limit))
    answer.map (·.1) = waitFor? target (wakes.map (Wake.look limit)) ∧
    (called.task.watched = target → answer = some (.ok (), 0)) ∧
    (∀ n, answer = some (.ok (), n) ↔
      Wake.First wakes n (fun w => w.chronicle.task.watched = target ∧ w.clock ≤ limit)
        fun w => w.chronicle.task.watched ≠ target ∧ w.clock < limit) ∧
    (∀ n, answer = some (.error .closed, n) ↔
      Wake.First wakes n
        (fun w => w.chronicle.task.isAlive = false ∧ w.clock ≤ limit ∧
          ∀ moves, (w.chronicle.play fails c moves).task.watched ≠ target)
        fun w => w.chronicle.task.watched ≠ target ∧ w.chronicle.task.isAlive = true ∧
          w.clock < limit) ∧
    (∀ n s, answer = some (.error (.timeout s), n) ↔
      s = target ∧ Wake.First wakes n
        (fun w => w.chronicle.task.watched ≠ target ∧ w.chronicle.task.isAlive = true ∧
          w.clock = limit)
        fun w => w.chronicle.task.watched ≠ target ∧ w.chronicle.task.isAlive = true ∧
          w.clock < limit) ∧
    (∀ i w, wakes[i]? = some w → w.clock = limit →
      ∃ outcome n, answer = some (outcome, n) ∧ n ≤ i) ∧
    ∀ outcome n, answer = some (outcome, n) →
      outcome = .ok () ∨ outcome = .error .closed ∨ outcome = .error (.timeout target) := by
  intro called wakes answer
  refine ⟨Wake.answer?_eq_waitFor? fails c limit called spells target, fun hstate => ?_,
    fun n => Wake.answer?_eq_ok, fun n => Wake.answer?_eq_closed, fun n s => Wake.answer?_eq_timeout,
    fun i w hw hclock => Wake.answer?_of_clock target hw hclock, fun outcome n hanswer => ?_⟩
  · have hcalled : wakes[0]? = some ⟨called, 0⟩ := Wake.wakes_zero
    refine Wake.answer?_eq_ok.2 ⟨⟨_, hcalled, hstate, Nat.zero_le limit⟩, fun i hi => ?_⟩
    cases hi
  · obtain ⟨⟨w, -, hverdict⟩, -⟩ := Wake.answer?_eq_some.1 hanswer
    obtain ⟨hok, -⟩ | ⟨hclosed, -⟩ | ⟨htimeout, -⟩ := Wake.verdict?_eq_some.1 hverdict
    · exact .inl hok
    · exact .inr (.inl hclosed)
    · exact .inr (.inr htimeout)

/-- A task that was asked to connect. -/
def dialling : Chronicle StandIn Nat :=
  Chronicle.play (fun _ => none) StandIn.collaborators [.submit (.request 0 .connect), .work]
    (.start (.fresh "d" .onSend {}) { tokens := .fixed "t", isResponsive := true } 0)

/-- The task is connecting after 5 milliseconds and connected after 8; then the handle is dropped. -/
def racing : List (Spell StandIn Nat) :=
  [⟨5, [.work]⟩, ⟨3, [.work]⟩, ⟨9, [.close, .work]⟩]

/-- With limit enough, the connection is found in turn 2; with a smaller limit, turn 1 is the timeout.
The state at the call is found with limit 0, and a state that never comes ends with the task. -/
theorem wait_tells_truth_racing :
    let wakes := fun limit =>
      Wake.wakes (fun _ => none) StandIn.collaborators limit dialling racing
    let answer := fun target limit =>
      Waiter.attend target .looking ((wakes limit).map (Wake.turn limit))
    dialling.task.watched = .disconnected ∧ answer .disconnected 0 = some (.ok (), 0) ∧
      (wakes 5)[1]?.map Wake.clock = some 5 ∧
      (∃ outcome n, answer .connected 5 = some (outcome, n) ∧ n ≤ 1) ∧
      answer .connected 5 = some (.error (.timeout .connected), 1) ∧
      answer .connected 10 = some (.ok (), 2) ∧
      answer .disconnecting 20 = some (.error .closed, 3) := by
  intro wakes answer
  have hstate : dialling.task.watched = .disconnected := by rfl
  obtain ⟨-, hatOnce, -⟩ := wait_tells_truth (fun _ => none) StandIn.collaborators (.fresh "d" .onSend {})
    { tokens := .fixed "t", isResponsive := true } 0 [.submit (.request 0 .connect), .work]
    .disconnected 0 racing
  obtain ⟨-, -, -, -, -, hover, -⟩ := wait_tells_truth (fun _ => none) StandIn.collaborators
    (.fresh "d" .onSend {}) { tokens := .fixed "t", isResponsive := true } 0
    [.submit (.request 0 .connect), .work] .connected 5 racing
  exact ⟨hstate, hatOnce hstate, by rfl, hover 1 _ (by rfl) (by rfl), by rfl, by rfl, by rfl⟩

end HubLink.Transport
