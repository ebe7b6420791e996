import HubLink.Proofs.Machine.Custody
import HubLink.Proofs.Machine.Identities
import HubLink.Proofs.Task.Lives

namespace HubLink.Transport

variable {σ κ : Type}

/-- The ticket under which a command is answered; `none` for a command without an answer. -/
def Command.ticket? : Command κ → Option Nat
  | .request ticket _ | .snapshot ticket => some ticket
  | .observe _ _ => none

/-- The event of a `send` command. -/
def Command.event? : Command κ → Option (QueuedEvent κ)
  | .request _ (.send payload callback) => some ⟨payload, callback⟩
  | _ => none

/-- The answers among the happenings, with their tickets. -/
def Happening.answers (seen : List (Happening κ)) : List (Nat × Answer) :=
  seen.filterMap fun
    | .answer ticket given => some (ticket, given)
    | _ => none

@[simp] theorem Happening.answers_append (seen more : List (Happening κ)) :
    Happening.answers (seen ++ more) = Happening.answers seen ++ Happening.answers more :=
  List.filterMap_append

@[simp] theorem Happening.answers_effects (t : Trace κ) :
    Happening.answers (t.map .effect) = [] := by
  simp [answers]

theorem Happening.answers_outward (seen : List (Happening κ)) :
    Happening.answers (outward seen) = Happening.answers seen := by
  unfold answers outward
  rw [List.filterMap_filter]
  congr 1
  funext e
  cases e with
  | effect effect =>
    cases effect with
    | aside aside => cases aside <;> rfl
    | _ => rfl
  | _ => rfl

namespace Bare

variable {c : Collaborators σ} {b : Bare σ κ}

/-- The moments of a bare machine that takes the given messages. -/
def history (c : Collaborators σ) (b : Bare σ κ) (messages : List (Message σ κ)) : History σ κ :=
  (live c (b.steps c messages) b.machine b.world).moments

theorem history_cons (c : Collaborators σ) (b : Bare σ κ) (x : Message σ κ)
    (rest : List (Message σ κ)) :
    b.history c (x :: rest) =
      ((x.step? b.machine).toList.map fun s => (s.moment c b.machine b.world).1) ++
        (b.take c x).history c rest := by
  unfold history
  cases hstep : x.step? b.machine with
  | none =>
    obtain ⟨hmachine, hworld, -⟩ := take_of_no_step (c := c) hstep
    simp [steps, hstep, hmachine, hworld]
  | some s =>
    obtain ⟨hmachine, hworld, -⟩ := take_of_step (c := c) hstep
    simp [steps, hstep, hmachine, hworld, live]

/-- The answers to one message do not depend on the happenings before it. -/
theorem answers_take (c : Collaborators σ) (b : Bare σ κ) (x : Message σ κ) :
    Happening.answers (b.take c x).seen =
      Happening.answers b.seen ++ Happening.answers (take c ⟨b.machine, b.world, []⟩ x).seen := by
  rw [take_eq, Happening.answers_append]

/-- Taking messages only appends answers. -/
theorem answers_takeAll (c : Collaborators σ) (b : Bare σ κ) (messages : List (Message σ κ)) :
    ∃ more, Happening.answers (b.takeAll c messages).seen = Happening.answers b.seen ++ more := by
  induction messages generalizing b with
  | nil => exact ⟨[], (List.append_nil _).symm⟩
  | cons x rest ih =>
    obtain ⟨more, hmore⟩ := ih (b.take c x)
    rw [answers_take, List.append_assoc] at hmore
    exact ⟨_, hmore⟩

theorem mem_answers_request (c : Collaborators σ) (b : Bare σ κ) (ticket : Nat) (request : Request κ)
    (rest : List (Message σ κ)) :
    (ticket, .done (b.run.perform c request).1) ∈
      Happening.answers (b.takeAll c (.command (.request ticket request) :: rest)).seen := by
  obtain ⟨more, hmore⟩ := answers_takeAll c (b.take c (.command (.request ticket request))) rest
  have hseen : Happening.answers (b.takeAll c (.command (.request ticket request) :: rest)).seen =
      Happening.answers (b.take c (.command (.request ticket request))).seen ++ more := hmore
  rw [hseen]
  refine List.mem_append_left _ ?_
  simp [take, Happening.answers]

/-- Each command with a ticket is answered exactly once, in the order of the commands. -/
theorem tickets_takeAll (c : Collaborators σ) (b : Bare σ κ) (messages : List (Message σ κ)) :
    (Happening.answers (b.takeAll c messages).seen).map (·.1) =
      (Happening.answers b.seen).map (·.1) ++
        (Message.commands messages).filterMap Command.ticket? := by
  induction messages generalizing b with
  | nil => exact (List.append_nil _).symm
  | cons x rest ih =>
    have hfirst : (Happening.answers (take c ⟨b.machine, b.world, []⟩ x).seen).map (·.1) =
        (Message.commands [x]).filterMap Command.ticket? := by
      cases x with
      | command command =>
        cases command with
        | request ticket request =>
          simp only [take, after, Happening.answers_append, Happening.answers_effects]
          rfl
        | _ => rfl
      | notification n =>
        simp only [take, after, Happening.answers_append, Happening.answers_effects]
        rfl
      | drift change => rfl
    have hrest := ih (b.take c x)
    rw [answers_take, List.map_append, hfirst, List.append_assoc, ← List.filterMap_append,
      ← Message.commands_append] at hrest
    exact hrest

/-- The callbacks handed to the machine are those of the commands. -/
theorem entrusted_history (c : Collaborators σ) (b : Bare σ κ) (messages : List (Message σ κ)) :
    (b.history c messages).entrusted = (Message.commands messages).flatMap Command.callbacks := by
  induction messages generalizing b with
  | nil => rfl
  | cons x rest ih =>
    have hfirst : History.entrusted
        ((x.step? b.machine).toList.map fun s => (s.moment c b.machine b.world).1) =
          (Message.commands [x]).flatMap Command.callbacks := by
      cases x with
      | command command =>
        cases command with
        | request ticket request => cases request <;> rfl
        | _ => rfl
      | _ => rfl
    have hcommands : Message.commands (x :: rest) =
        Message.commands [x] ++ Message.commands rest := Message.commands_append [x] rest
    rw [hcommands, List.flatMap_append, ← hfirst, ← ih (b.take c x), history_cons]
    exact List.flatMap_append

/-- The number of requests in the history is at most the number of commands with a ticket. -/
theorem calls_history_le (c : Collaborators σ) (b : Bare σ κ) (messages : List (Message σ κ)) :
    (b.history c messages).calls ≤
      ((Message.commands messages).filterMap Command.ticket?).length := by
  induction messages generalizing b with
  | nil => exact Nat.le_refl 0
  | cons x rest ih =>
    have hfirst : History.calls
        ((x.step? b.machine).toList.map fun s => (s.moment c b.machine b.world).1) ≤
          ((Message.commands [x]).filterMap Command.ticket?).length := by
      cases x with
      | command command => cases command <;> simp [Message.step?, History.calls, Moment.isCall,
          Message.commands, Command.ticket?, Step.moment]
      | _ => simp [Message.step?, History.calls, Moment.isCall, Step.moment]
    have hcommands : Message.commands (x :: rest) =
        Message.commands [x] ++ Message.commands rest := Message.commands_append [x] rest
    have hrest := ih (b.take c x)
    rw [history_cons, History.calls, List.countP_append, hcommands, List.filterMap_append,
      List.length_append]
    exact Nat.add_le_add hfirst hrest

/-- If no request was answered with an error, the accepted events are those of the `send` commands, in
order. -/
theorem accepted_history (messages : List (Message σ κ))
    (h : ∀ ticket e, (ticket, .done (.error e)) ∉ Happening.answers (b.takeAll c messages).seen) :
    (b.history c messages).accepted = (Message.commands messages).filterMap Command.event? := by
  induction messages generalizing b with
  | nil => rfl
  | cons x rest ih =>
    have hfirst : History.accepted
        ((x.step? b.machine).toList.map fun s => (s.moment c b.machine b.world).1) =
          (Message.commands [x]).filterMap Command.event? := by
      cases x with
      | command command =>
        cases command with
        | request ticket request =>
          have hmem := b.mem_answers_request c ticket request rest
          have haccepted : History.accepted
              ([(Step.call request).moment c b.machine b.world].map (·.1)) =
                request.accepted b.machine (b.run.perform c request).1 := List.append_nil _
          refine haccepted.trans ?_
          cases hresult : (b.run.perform c request).1 with
          | error e =>
            rw [hresult] at hmem
            exact absurd hmem (h ticket e)
          | ok => cases request <;> rfl
        | _ => rfl
      | _ => rfl
    have hcommands : Message.commands (x :: rest) =
        Message.commands [x] ++ Message.commands rest := Message.commands_append [x] rest
    rw [hcommands, List.filterMap_append, ← hfirst, ← ih h, history_cons]
    exact List.flatMap_append

end Bare

end HubLink.Transport
