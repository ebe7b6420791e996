import HubLink.Proofs.Task.Answers
import HubLink.Transport.Handle

namespace HubLink.Transport

variable {σ κ : Type} {fails : Effect κ → Option String} {c : Collaborators σ} {f : Nat → Nat}

/-- The command with its ticket replaced by `f` of it. -/
def Command.relabel (f : Nat → Nat) : Command κ → Command κ
  | .request ticket asked => .request (f ticket) asked
  | .snapshot ticket => .snapshot (f ticket)
  | .observe occasion hook => .observe occasion hook

@[simp] theorem Command.callbacks_relabel (command : Command κ) :
    (command.relabel f).callbacks = command.callbacks := by
  cases command with
  | request ticket asked => cases asked <;> rfl
  | _ => rfl

/-- The happening with its ticket replaced by `f` of it. -/
def Happening.relabel (f : Nat → Nat) : Happening κ → Happening κ
  | .answer ticket given => .answer (f ticket) given
  | seen => seen

theorem Happening.map_relabel_effects (effects : List (Effect κ)) :
    (effects.map Happening.effect).map (Happening.relabel f) = effects.map .effect := by
  rw [List.map_map]
  rfl

namespace Task

/-- The task with the tickets of its waiting commands replaced. -/
def relabel (f : Nat → Nat) (t : Task σ κ) : Task σ κ :=
  { t with commands := t.commands.map (Command.relabel f) }

/-- The result of a step with all tickets replaced. -/
def relabelStep (f : Nat → Nat) (step : Task σ κ × List (Happening κ)) :
    Task σ κ × List (Happening κ) :=
  (step.1.relabel f, step.2.map (Happening.relabel f))

theorem publishState_relabel (t : Task σ κ) :
    (t.relabel f).publishState = relabelStep f t.publishState := by
  have hsame : (t.relabel f).watched = (t.relabel f).machine.state ↔ t.watched = t.machine.state :=
    Iff.rfl
  simp only [publishState, hsame]
  split <;> rfl

theorem finish_relabel (t : Task σ κ) (phase : Phase) :
    (t.relabel f).finish phase = relabelStep f (t.finish phase) := by
  have hcallbacks : (t.relabel f).commands.flatMap Command.callbacks =
      t.commands.flatMap Command.callbacks := by
    simp [relabel, List.flatMap_map]
  simp only [finish, relabelStep, hcallbacks, List.map_map]
  rfl

theorem handleNotification_relabel (n : Notification) (t : Task σ κ) :
    (t.relabel f).handleNotification fails c n = relabelStep f (t.handleNotification fails c n) := by
  have hrun : (t.relabel f).run = t.run := rfl
  have habsorb (r : Run σ κ) : (t.relabel f).absorb r = (t.absorb r).relabel f := rfl
  have hmachine : (t.relabel f).machine = t.machine := rfl
  simp only [handleNotification, hrun, hmachine, habsorb]
  cases failure? fails (takeStages fails (Run.stages c n t.machine) t.run).effects with
  | none =>
    simp only [publishState_relabel, relabelStep, List.map_cons, List.map_append,
      Happening.map_relabel_effects]
    rfl
  | some message =>
    simp only [finish_relabel, relabelStep, List.map_cons, List.map_append,
      Happening.map_relabel_effects]
    rfl

theorem execute_relabel (command : Command κ) (t : Task σ κ) :
    (t.relabel f).execute c (command.relabel f) = relabelStep f (t.execute c command) := by
  cases command with
  | request ticket request =>
    have hrun : (t.relabel f).run = t.run := rfl
    have habsorb (r : Run σ κ) : (t.relabel f).absorb r = (t.absorb r).relabel f := rfl
    simp only [execute, Command.relabel, hrun, habsorb, publishState_relabel, relabelStep,
      List.map_append, List.map_cons, Happening.map_relabel_effects]
    rfl
  | snapshot ticket => rfl
  | observe occasion hook => rfl

/-- Replacing tickets commutes with `step?`. -/
theorem step?_relabel (t : Task σ κ) :
    (t.relabel f).step? fails c = (t.step? fails c).map (relabelStep f) := by
  obtain ⟨number, machine, world, mailbox, commands, isOpen, watched, phase⟩ := t
  cases phase with
  | created => rfl
  | stopped => rfl
  | failed message => rfl
  | running =>
    simp only [step?, relabel]
    generalize mailbox.receive = reading
    obtain ⟨received, left⟩ := reading
    cases received with
    | received n =>
      exact congrArg some
        (handleNotification_relabel n ⟨number, machine, world, left, commands, isOpen, watched, .running⟩)
    | _ =>
      cases commands with
      | cons command rest =>
        exact congrArg some
          (execute_relabel command ⟨number, machine, world, mailbox, rest, isOpen, watched, .running⟩)
      | nil =>
        cases isOpen with
        | true => rfl
        | false =>
          exact congrArg (fun last => some (last.1, .remark (.taskStopped machine.state) :: last.2))
            (finish_relabel ⟨number, machine, world, mailbox, [], false, watched, .running⟩ .stopped)

theorem work_relabel (n : Nat) (t : Task σ κ) :
    (t.relabel f).work fails c n = relabelStep f (t.work fails c n) := by
  induction n generalizing t with
  | zero => rfl
  | succ n ih =>
    simp only [work, step?_relabel]
    cases t.step? fails c with
    | none => rfl
    | some step =>
      simp only [Option.map_some, relabelStep, ih, List.map_append]

theorem settle_relabel (t : Task σ κ) :
    (t.relabel f).settle fails c = relabelStep f (t.settle fails c) := by
  have hbudget : (t.relabel f).budget = t.budget := by
    simp [budget, relabel]
  rw [settle, hbudget, work_relabel]
  rfl

theorem submit_relabel (command : Command κ) (t : Task σ κ) :
    (t.relabel f).submit (command.relabel f) = relabelStep f (t.submit command) := by
  unfold submit
  rw [show (t.relabel f).isAlive = t.isAlive from rfl]
  split
  · simp [relabelStep, relabel]
  · rw [Command.callbacks_relabel, relabelStep, List.map_map]
    rfl

theorem hear_relabel (t : Task σ κ) (asides : List Aside) :
    (t.relabel f).hear asides = relabelStep f (t.hear asides) := by
  induction asides generalizing t with
  | nil => rfl
  | cons aside rest ih =>
    cases aside with
    | remark r =>
      simp only [hear, ih, relabelStep, List.map_cons]
      rfl
    | raise n =>
      have hraise : (t.relabel f).raise n = relabelStep f (t.raise n) := by
        simp only [raise, relabelStep, List.map_map]
        rfl
      simp only [hear, hraise, relabelStep, ih, List.map_append]

end Task

namespace Handle

theorem foldl_fill_relabel (receipts : List Receipt) (seen : List (Happening (Hook κ))) :
    (seen.map (Happening.relabel f)).foldl fill receipts = seen.foldl fill receipts := by
  rw [List.foldl_map]
  congr 1
  funext rs x
  cases x <;> rfl

/-- If all answers carry the same ticket, the answer is found under the replaced ticket. -/
theorem answer?_relabel {seen : List (Happening (Hook κ))} {ticket : Nat}
    (h : ∀ a ∈ Happening.answers seen, a.1 = ticket) :
    answer? (seen.map (Happening.relabel f)) (f ticket) = answer? seen ticket := by
  induction seen with
  | nil => rfl
  | cons x rest ih =>
    unfold answer? at ih ⊢
    rw [List.map_cons, List.findSome?_cons, List.findSome?_cons]
    cases x with
    | answer t given =>
      have hticket : t = ticket := h (t, given) List.mem_cons_self
      simp [Happening.relabel, hticket]
    | effect e => exact ih h
    | published state => exact ih h

end Handle
end HubLink.Transport
