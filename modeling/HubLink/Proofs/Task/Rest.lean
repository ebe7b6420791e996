import HubLink.Proofs.Machine.Calls
import HubLink.Proofs.Task.Refinement
import HubLink.Transport.StandIn

namespace HubLink.Transport

variable {σ κ : Type}

namespace Run

variable {c : Collaborators σ} {r : Run σ κ}

@[simp] theorem raised_note (r : Run σ κ) (remark : Remark) :
    Trace.raised (r.note remark).effects = Trace.raised r.effects := by
  simp [note, emit, Trace.raised]

@[simp] theorem raised_report (r : Run σ κ) (observer : Option κ) (report : Report) :
    Trace.raised (r.report observer report).effects = Trace.raised r.effects := by
  cases observer <;> simp [Run.report, emit, Trace.raised]

@[simp] theorem raised_discard (r : Run σ κ) (callbacks : List κ) :
    Trace.raised (r.discard callbacks).effects = Trace.raised r.effects := by
  simp [discard, Trace.raised]

theorem raised_lose (r : Run σ κ) : Trace.raised r.lose.effects = Trace.raised r.effects := by
  unfold lose
  dsimp only
  split <;> simp [enter]

@[simp] theorem raised_complete (r : Run σ κ) (callback : Option κ) :
    Trace.raised (r.complete callback).effects = Trace.raised r.effects := by
  cases callback <;> simp [complete, emit, Trace.raised]

/-- The notification `disconnected` makes no request, so nothing is raised. -/
theorem raised_handle_disconnected (c : Collaborators σ) (r : Run σ κ) :
    Trace.raised (r.handle c .disconnected).effects = Trace.raised r.effects := by
  rw [handle_disconnected]
  split <;> simp [raised_lose]

/-- The notification `disconnected` leaves the collaborators unchanged. -/
theorem world_handle_disconnected (c : Collaborators σ) (r : Run σ κ) :
    (r.handle c .disconnected).world = r.world := by
  have hreport (r : Run σ κ) (observer : Option κ) (report : Report) :
      (r.report observer report).world = r.world := by
    cases observer <;> rfl
  rw [handle_disconnected]
  split
  · rfl
  · rw [hreport, hreport, lose]
    split <;> rfl

end Run

namespace Task

variable {fails : Effect κ → Option String} {c : Collaborators σ} {t t' : Task σ κ}
  {seen : List (Happening κ)}

/-- The number of phases after the current one. -/
def phasesLeft (t : Task σ κ) : Nat :=
  match t.phase with
  | .created => 2
  | .running => 1
  | .stopped | .failed _ => 0

/-- Whether the machine is connecting, as 0 or 1. -/
def connecting (t : Task σ κ) : Nat :=
  if t.machine.state = .connecting then 1 else 0

/-- The measure that every step decreases lexicographically: phases left, waiting commands, whether
the machine is connecting, waiting notifications. -/
def rank (t : Task σ κ) : Nat × Nat × Nat × Nat :=
  (t.phasesLeft, t.commands.length, t.connecting, t.mailbox.queue.length)

theorem publishState_isOpen (t : Task σ κ) : t.publishState.1.isOpen = t.isOpen := by
  obtain ⟨watched, htask, -⟩ := t.publishState_spec
  rw [htask]

/-- No step changes whether the handle is open. -/
theorem isOpen_of_step? (h : t.step? fails c = some (t', seen)) : t'.isOpen = t.isOpen := by
  cases steps_of_step? h with
  | begin | stop => rfl
  | command hphase hreceive hcommands =>
    rename_i command rest
    cases command with
    | request ticket request => exact publishState_isOpen _
    | snapshot | observe => rfl
  | notification hphase hreceive =>
    unfold handleNotification
    dsimp only
    split
    · rfl
    · exact publishState_isOpen _

end Task

namespace Chronicle

variable {fails : Effect κ → Option String} {c : Collaborators σ}

end Chronicle

end HubLink.Transport
