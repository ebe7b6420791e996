import HubLink.Command.Send
import HubLink.Proofs.Task.Attendance

namespace HubLink.Command

open Transport

/-- The collaborators of a transport, with their changes from outside. -/
structure Setting (σ ν : Type) where
  collaborators : Collaborators σ
  goOn : ν → σ → σ × List Aside

/-- One thing that happens while the program waits. -/
inductive Turn (ν : Type) where
  /-- The task takes a step, if it can. -/
  | work
  | news (news : ν)

/-- How the wait for the receipts ends. -/
inductive Ending where
  /-- By the last receipt; without it, never. -/
  | receipts
  | timeOver
  | interrupted
  deriving DecidableEq

/-- The turns at each point where the program waits. -/
structure Schedule (ν : Type) where
  /-- The turns after the request to set an observer. -/
  opening : Occasion → List (Turn ν)
  /-- The turns after message `i`; after the last message these are the turns before the end of the
  wait. -/
  pauses : Nat → List (Turn ν)
  ending : Ending

/-- The schedule with other turns after message `count - 1` and another ending. -/
def Schedule.endWith {ν : Type} (schedule : Schedule ν) (count : Nat) (last : List (Turn ν))
    (ending : Ending) : Schedule ν where
  opening := schedule.opening
  pauses i := if i = count then last else schedule.pauses i
  ending := ending

/-- Waits for the receipts in order and counts the acknowledged ones; `none` if one of them is still
waiting. -/
def awaitAll? : List Receipt → Option Nat
  | [] => some 0
  | .waiting :: _ => none
  | .acknowledged :: rest => (awaitAll? rest).map (· + 1)
  | .abandoned :: rest => awaitAll? rest

/-- The result of the wait for the receipts; `none` if it does not end. -/
def verdict? (seconds : UInt64) (ending : Ending) (receipts : List Receipt) :
    Option (Except Failure Unit) :=
  if ending = .interrupted then some (.ok ())
  else
    match awaitAll? receipts with
    | some acknowledged =>
      some (if acknowledged = receipts.length then .ok ()
        else .error (.unacknowledged acknowledged receipts.length))
    | none => if ending = .timeOver then some (.error (.timedOut seconds)) else none

/-- The receipts of the first `count` messages after the happenings `seen`. -/
def receiptsOf (seen : List (Happening (Hook Unit))) (count : Nat) : List Receipt :=
  seen.foldl Handle.fill (.replicate count .waiting)

/-- The command that sends message `i`, with ticket `i` and receipt `i`. -/
def trackedCommand (i : Nat) (message : String) : Command (Hook Unit) :=
  .request i (.send (Text.utf8 message) (some (.receipt i)))

namespace Setting

variable {σ ν : Type}

/-- The move of the task that a turn stands for. -/
def move (s : Setting σ ν) : Turn ν → Move σ (Hook Unit)
  | .work => .work
  | .news news => .outside (s.goOn news)

/-- Lets turns pass. -/
def pass (s : Setting σ ν) (turns : List (Turn ν)) (h : Chronicle σ (Hook Unit)) :
    Chronicle σ (Hook Unit) :=
  h.play Scene.fails s.collaborators (turns.map s.move)

/-- Submits a command. -/
def submit (s : Setting σ ν) (command : Command (Hook Unit)) (h : Chronicle σ (Hook Unit)) :
    Chronicle σ (Hook Unit) :=
  h.move Scene.fails s.collaborators (.submit command)

/-- Sets the observer for an occasion. -/
def observe (s : Setting σ ν) (schedule : Schedule ν) (h : Chronicle σ (Hook Unit))
    (occasion : Occasion) : Chronicle σ (Hook Unit) :=
  s.pass (schedule.opening occasion) (s.submit (.observe occasion (.own ())) h)

/-- A new task with all observers of the program set. -/
def prepare (s : Setting σ ν) (schedule : Schedule ν) (machine : Machine (Hook Unit)) (world : σ) :
    Chronicle σ (Hook Unit) :=
  Scene.observed.foldl (s.observe schedule) (.start machine world 0)

/-- Sends messages from number `i` on, up to the first that is refused; `none` if an answer does not
come. -/
def handOver (s : Setting σ ν) (schedule : Schedule ν) :
    Nat → List String → Chronicle σ (Hook Unit) →
      Option (Except TransportError Unit) × Chronicle σ (Hook Unit)
  | _, [], h => (some (.ok ()), h)
  | i, message :: rest, h =>
    let h := s.pass (schedule.pauses i) (s.submit (trackedCommand i message) h)
    match Handle.answer? h.seen i with
    | some (.done (.ok ())) => s.handOver schedule (i + 1) rest h
    | some (.done (.error e)) => (some (.error e), h)
    | _ => (if h.task.isAlive then none else some (.error .closed), h)

/-- Sends messages through a new task and waits for their receipts. -/
def deliver (s : Setting σ ν) (schedule : Schedule ν) (machine : Machine (Hook Unit)) (world : σ)
    (messages : List String) (seconds : UInt64) :
    Option (Except Failure Unit) × Chronicle σ (Hook Unit) :=
  match s.handOver schedule 0 messages (s.prepare schedule machine world) with
  | (some (.ok ()), h) =>
    let h := s.pass (schedule.pauses messages.length) h
    (verdict? seconds schedule.ending (receiptsOf h.seen messages.length), h)
  | (some (.error e), h) => (some (.error (.transport e)), h)
  | (none, h) => (none, h)

theorem prepare_congr (s : Setting σ ν) {schedule schedule' : Schedule ν}
    (h : schedule.opening = schedule'.opening) (machine : Machine (Hook Unit)) (world : σ) :
    s.prepare schedule machine world = s.prepare schedule' machine world := by
  have hobserve : s.observe schedule = s.observe schedule' := by
    funext h occasion
    rw [observe, observe, ‹schedule.opening = _›]
  rw [prepare, prepare, hobserve]

theorem handOver_congr (s : Setting σ ν) {schedule schedule' : Schedule ν} {i : Nat}
    {messages : List String}
    (hpauses : ∀ j, i ≤ j → j < i + messages.length → schedule.pauses j = schedule'.pauses j)
    (h : Chronicle σ (Hook Unit)) :
    s.handOver schedule i messages h = s.handOver schedule' i messages h := by
  induction messages generalizing i h with
  | nil => rfl
  | cons message rest ih =>
    have hrest := ih (i := i + 1) fun j hj hj' =>
      hpauses j (by omega) (by rw [List.length_cons]; omega)
    simp only [handOver, hpauses i (Nat.le_refl i) (by simp), hrest]

/-- Replacing the last pause and the ending does not affect the messages sent before. -/
theorem deliver_endWith (s : Setting σ ν) (schedule : Schedule ν) (last : List (Turn ν))
    (ending : Ending) (machine : Machine (Hook Unit)) (world : σ) (messages : List String)
    (seconds : UInt64) :
    s.deliver (schedule.endWith messages.length last ending) machine world messages seconds =
      match s.handOver schedule 0 messages (s.prepare schedule machine world) with
      | (some (.ok ()), h) =>
        (verdict? seconds ending (receiptsOf (s.pass last h).seen messages.length), s.pass last h)
      | (some (.error e), h) => (some (.error (.transport e)), h)
      | (none, h) => (none, h) := by
  have hprepare : s.prepare (schedule.endWith messages.length last ending) machine world =
      s.prepare schedule machine world := s.prepare_congr rfl machine world
  have hhandOver (h : Chronicle σ (Hook Unit)) :
      s.handOver (schedule.endWith messages.length last ending) 0 messages h =
        s.handOver schedule 0 messages h :=
    s.handOver_congr (fun i _ hi => if_neg (by omega)) h
  have hlast : (schedule.endWith messages.length last ending).pauses messages.length = last :=
    if_pos rfl
  rw [deliver, hprepare, hhandOver, hlast]
  rfl

section

variable {s : Setting σ ν} {schedule : Schedule ν} {i : Nat} {message : String}
  {h next : Chronicle σ (Hook Unit)}
  (hnext : s.pass (schedule.pauses i) (s.submit (trackedCommand i message) h) = next)
  (rest : List String)

include hnext

/-- After an accepted message, the next one is sent. -/
theorem handOver_of_granted (hanswer : Handle.answer? next.seen i = some (.done (.ok ()))) :
    s.handOver schedule i (message :: rest) h = s.handOver schedule (i + 1) rest next := by
  simp only [handOver, hnext]
  rw [hanswer]

/-- After any other answer to message `i` nothing more is sent. The result is the error answered, or
`none` or `closed` if no answer came. -/
theorem handOver_of_not_granted (hanswer : Handle.answer? next.seen i ≠ some (.done (.ok ()))) :
    ∃ result, s.handOver schedule i (message :: rest) h = (result, next) ∧
      ((∃ e, Handle.answer? next.seen i = some (.done (.error e)) ∧ result = some (.error e)) ∨
        (∀ given, Handle.answer? next.seen i ≠ some (.done given)) ∧
          (result = none ∨ result = some (.error .closed))) := by
  simp only [handOver, hnext]
  split
  case h_1 hok => exact absurd hok hanswer
  case h_2 e he => exact ⟨_, rfl, .inl ⟨e, he, rfl⟩⟩
  case h_3 hok hrefused =>
    refine ⟨_, rfl, .inr ⟨fun given hgiven => ?_, ?_⟩⟩
    · cases given with
      | ok => exact hok hgiven
      | error e => exact hrefused e hgiven
    · split
      · exact .inl rfl
      · exact .inr rfl

end
end Setting

/-- The result of `awaitAll?` is the number of acknowledged receipts, or `none` if one is waiting. -/
theorem awaitAll?_eq (receipts : List Receipt) :
    awaitAll? receipts =
      if receipts.contains .waiting then none else some (receipts.count .acknowledged) := by
  induction receipts with
  | nil => rfl
  | cons first rest ih =>
    cases first with
    | waiting => rfl
    | acknowledged =>
      rw [awaitAll?, ih]
      by_cases hwaiting : rest.contains .waiting <;> simp_all
    | abandoned =>
      rw [awaitAll?, ih]
      by_cases hwaiting : rest.contains .waiting <;> simp_all

section

variable {seconds : UInt64} {ending : Ending} {receipts : List Receipt}

/-- Without an interrupt, the wait succeeds exactly if every receipt is acknowledged. -/
theorem verdict?_eq_ok_iff (hending : ending ≠ .interrupted) :
    verdict? seconds ending receipts = some (.ok ()) ↔ ∀ r ∈ receipts, r = .acknowledged := by
  unfold verdict?
  rw [if_neg hending, awaitAll?_eq]
  by_cases hwaiting : receipts.contains .waiting = true
  · refine iff_of_false ?_ fun hall => ?_
    · simp only [hwaiting, if_true]
      split <;> nofun
    · cases hall _ (List.contains_iff_mem.1 hwaiting)
  · simp only [if_neg hwaiting, Option.some.injEq]
    split
    case isTrue hall => exact iff_of_true rfl fun r hr => (List.count_eq_length.1 hall r hr).symm
    case isFalse hsome =>
      exact iff_of_false nofun fun hall => hsome (List.count_eq_length.2 fun r hr => (hall r hr).symm)

/-- If the wait ends with a count of acknowledged messages, it is the exact one, and no receipt is
waiting. -/
theorem verdict?_eq_unacknowledged (hending : ending ≠ .interrupted) {a n : Nat}
    (h : verdict? seconds ending receipts = some (.error (.unacknowledged a n))) :
    n = receipts.length ∧ a = receipts.count .acknowledged ∧ .waiting ∉ receipts := by
  unfold verdict? at h
  rw [if_neg hending, awaitAll?_eq] at h
  by_cases hwaiting : receipts.contains .waiting = true
  · simp only [hwaiting, if_true] at h
    split at h <;> cases h
  · simp only [if_neg hwaiting, Option.some.injEq] at h
    split at h
    · cases h
    · cases h
      exact ⟨rfl, rfl, fun hmem => hwaiting (List.contains_iff_mem.2 hmem)⟩

end

end HubLink.Command
