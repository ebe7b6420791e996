import HubLink.Proofs.Machine.Life
import HubLink.Proofs.Task.Refinement

namespace HubLink.Transport

variable {σ κ : Type}

/-- The step of a machine that a message amounts to; `none` for a snapshot. -/
def Message.step? (m : Machine κ) : Message σ κ → Option (Step σ κ)
  | .command (.request _ request) => some (.call request)
  | .command (.snapshot _) => none
  | .command (.observe occasion hook) => some (.observe (m.observers.set occasion hook))
  | .notification n => some (.notify n)
  | .drift change => some (.drift change)

namespace Happening

@[simp] theorem effects_append (seen more : List (Happening κ)) :
    effects (seen ++ more) = effects seen ++ effects more :=
  List.filterMap_append

@[simp] theorem effects_map_effect (t : Trace κ) : effects (t.map .effect) = t := by
  simp [effects, List.filterMap_map]

end Happening

namespace Bare

variable {c : Collaborators σ} {b : Bare σ κ} {x : Message σ κ}

/-- A message with a step leads to the machine and collaborators after the moment of the step, and has
its effects. -/
theorem take_of_step {s : Step σ κ} (h : x.step? b.machine = some s) :
    (b.take c x).machine = (s.moment c b.machine b.world).1.after ∧
      (b.take c x).world = (s.moment c b.machine b.world).2 ∧
      Happening.effects (b.take c x).seen =
        Happening.effects b.seen ++ (s.moment c b.machine b.world).1.effects := by
  cases x with
  | command command =>
    cases command with
    | request ticket request =>
      obtain rfl := Option.some.inj h
      refine ⟨rfl, rfl, ?_⟩
      simp only [take, after, Happening.effects_append, Happening.effects_map_effect]
      exact List.append_nil _
    | snapshot ticket => cases h
    | observe occasion hook =>
      obtain rfl := Option.some.inj h
      exact ⟨rfl, rfl, (List.append_nil _).symm⟩
  | notification n =>
    obtain rfl := Option.some.inj h
    refine ⟨rfl, rfl, ?_⟩
    simp only [take, after, Happening.effects_append, Happening.effects_map_effect]
    rfl
  | drift change =>
    obtain rfl := Option.some.inj h
    exact ⟨rfl, rfl, (List.append_nil _).symm⟩

/-- A message without a step changes neither machine nor collaborators and has no effects. -/
theorem take_of_no_step (h : x.step? b.machine = none) :
    (b.take c x).machine = b.machine ∧ (b.take c x).world = b.world ∧
      Happening.effects (b.take c x).seen = Happening.effects b.seen := by
  cases x with
  | command command =>
    cases command with
    | snapshot ticket =>
      refine ⟨rfl, rfl, ?_⟩
      simp only [take, Happening.effects_append]
      exact List.append_nil _
    | _ => cases h
  | _ => cases h

end Bare

namespace Task.Takes

variable {c : Collaborators σ} {t t' : Task σ κ} {x : Message σ κ} {seen : List (Happening κ)}

/-- A task that passes such a message on has the machine and collaborators after the moment of the
step, and raises the notifications of that moment. -/
theorem of_step (h : Takes c x t t' seen) {s : Step σ κ} (hs : x.step? t.machine = some s) :
    t'.machine = (s.moment c t.machine t.world).1.after ∧
      t'.world = (s.moment c t.machine t.world).2 ∧
      raisedIn seen = Trace.raised (s.moment c t.machine t.world).1.effects := by
  obtain ⟨hmachine, hworld, heffects⟩ :=
    Bare.take_of_step (c := c) (b := ⟨t.machine, t.world, []⟩) hs
  refine ⟨h.machine.trans hmachine, h.world.trans hworld, ?_⟩
  rw [h.raised]
  exact congrArg Trace.raised heffects

theorem of_no_step (h : Takes c x t t' seen) (hs : x.step? t.machine = none) :
    t'.machine = t.machine ∧ t'.world = t.world ∧ raisedIn seen = [] := by
  obtain ⟨hmachine, hworld, heffects⟩ :=
    Bare.take_of_no_step (c := c) (b := ⟨t.machine, t.world, []⟩) hs
  refine ⟨h.machine.trans hmachine, h.world.trans hworld, ?_⟩
  rw [h.raised]
  exact congrArg Trace.raised heffects

end Task.Takes

namespace Bare

/-- The steps of a sequence of messages. -/
def steps (c : Collaborators σ) (b : Bare σ κ) : List (Message σ κ) → List (Step σ κ)
  | [] => []
  | x :: rest => (x.step? b.machine).toList ++ steps c (b.take c x) rest

/-- Executing messages leads to the same machine, with the same effects, as the run of their steps. -/
theorem takeAll_live (c : Collaborators σ) (b : Bare σ κ) (messages : List (Message σ κ)) :
    let l := live c (b.steps c messages) b.machine b.world
    (b.takeAll c messages).machine = l.machine ∧
      Happening.effects (b.takeAll c messages).seen =
        Happening.effects b.seen ++ l.moments.flatMap (·.effects) := by
  induction messages generalizing b with
  | nil => exact ⟨rfl, (List.append_nil _).symm⟩
  | cons x rest ih =>
    obtain ⟨hmachine, hseen⟩ := ih (b.take c x)
    cases hstep : x.step? b.machine with
    | none =>
      obtain ⟨hsame, hworld, heffects⟩ := take_of_no_step (c := c) hstep
      simp only [steps, hstep, Option.toList_none, List.nil_append]
      rw [hsame, hworld] at hmachine hseen
      rw [heffects] at hseen
      exact ⟨hmachine, hseen⟩
    | some s =>
      obtain ⟨hafter, hworld, heffects⟩ := take_of_step (c := c) hstep
      rw [hafter, hworld] at hmachine hseen
      rw [heffects, List.append_assoc] at hseen
      simp only [steps, hstep, Option.toList_some, List.singleton_append, live, List.flatMap_cons]
      exact ⟨hmachine, hseen⟩

end Bare

end HubLink.Transport
