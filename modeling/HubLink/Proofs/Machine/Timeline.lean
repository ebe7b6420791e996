import HubLink.Transport.Machine

namespace HubLink.Transport

variable {σ κ ε α : Type}

/-- A notification that changes the state, or an effect of the machine. -/
inductive Milestone (κ : Type) where
  /-- The connection was established. -/
  | up
  /-- The connection was lost. -/
  | down
  | effect (effect : Effect κ)

/-- The state after an effect; `none` if the effect is not allowed in the state. -/
def Effect.next? (s : ConnectionState) : Effect κ → Option ConnectionState
  | .token _ => if s.canStartConnect then some s else none
  | .connect _ result =>
    if s.canStartConnect then some (if result.isOk then .connecting else s) else none
  | .publish _ _ _ => if s.canPublish then some s else none
  | .disconnect result =>
    if s.canStartDisconnect then some (if result.isOk then .disconnecting else s) else none
  | _ => some s

namespace Milestone

/-- The state after a milestone; `none` if the milestone is not allowed in the state. -/
def next? (s : ConnectionState) : Milestone κ → Option ConnectionState
  | up => if s = .connecting then some .connected else none
  | down => if s = .disconnected then none else some .disconnected
  | effect e => e.next? s

/-- An accepted connect request with this token. -/
def dialled (token : String) : Milestone κ :=
  effect (.connect token (.ok ()))

/-- An accepted disconnect request. -/
def hungUp : Milestone κ :=
  effect (.disconnect (.ok ()))

theorem next?_up {s s' : ConnectionState} :
    (up : Milestone κ).next? s = some s' ↔ s = .connecting ∧ s' = .connected := by
  simp [next?, eq_comm]

theorem next?_down {s s' : ConnectionState} :
    (down : Milestone κ).next? s = some s' ↔ s ≠ .disconnected ∧ s' = .disconnected := by
  simp [next?, eq_comm]

theorem next?_dialled {token : String} {s s' : ConnectionState} :
    (dialled token : Milestone κ).next? s = some s' ↔ s = .disconnected ∧ s' = .connecting := by
  cases s <;> cases s' <;>
    simp [next?, dialled, Effect.next?, ConnectionState.canStartConnect, Except.isOk, Except.toBool]

theorem next?_hungUp {s s' : ConnectionState} :
    (hungUp : Milestone κ).next? s = some s' ↔
      (s = .connecting ∨ s = .connected) ∧ s' = .disconnecting := by
  cases s <;> cases s' <;>
    simp [next?, hungUp, Effect.next?, ConnectionState.canStartDisconnect, Except.isOk, Except.toBool]

/-- Only `up`, `down`, an accepted connect request and an accepted disconnect request change the
state. -/
theorem next?_cases {s s' : ConnectionState} {e : Milestone κ} (h : e.next? s = some s') :
    e = up ∨ e = down ∨ (∃ token, e = dialled token) ∨ e = hungUp ∨ s' = s := by
  cases e with
  | up => exact .inl rfl
  | down => exact .inr (.inl rfl)
  | effect effect =>
    cases effect with
    | connect token result =>
      cases result with
      | ok => exact .inr (.inr (.inl ⟨token, rfl⟩))
      | error e => simp_all [next?, Effect.next?, Except.isOk, Except.toBool]
    | disconnect result =>
      cases result with
      | ok => exact .inr (.inr (.inr (.inl rfl)))
      | error e => simp_all [next?, Effect.next?, Except.isOk, Except.toBool]
    | _ => simp_all [next?, Effect.next?]

end Milestone

/-- The milestones are allowed one after another and lead from `s` to `s'`. -/
def Leads (s : ConnectionState) (t : List (Milestone κ)) (s' : ConnectionState) : Prop :=
  t.foldlM Milestone.next? s = some s'

namespace Leads

open Milestone

variable {s s' s'' : ConnectionState} {t t' front mid back : List (Milestone κ)} {e : Milestone κ}

theorem nil_iff : Leads s ([] : List (Milestone κ)) s' ↔ s = s' := by
  simp [Leads]

theorem cons_iff : Leads s (e :: t) s' ↔ ∃ middle, e.next? s = some middle ∧ Leads middle t s' := by
  simp [Leads, Option.bind_eq_some_iff]

theorem append_iff : Leads s (t ++ t') s' ↔ ∃ middle, Leads s t middle ∧ Leads middle t' s' := by
  simp [Leads, List.foldlM_append, Option.bind_eq_some_iff]

theorem trans (h : Leads s t s') (h' : Leads s' t' s'') : Leads s (t ++ t') s'' :=
  append_iff.2 ⟨s', h, h'⟩

/-- A timeline splits at each of its milestones, which is allowed in the state that the front leads
to. -/
theorem split (h : Leads s (front ++ e :: back) s') :
    ∃ before after, Leads s front before ∧ e.next? before = some after ∧ Leads after back s' := by
  obtain ⟨before, hfront, hrest⟩ := append_iff.1 h
  obtain ⟨after, he, hback⟩ := cons_iff.1 hrest
  exact ⟨before, after, hfront, he, hback⟩

/-- A property of states that only `down` ends holds at the end of a timeline without `down`, if it
holds at its start. -/
theorem keeps {P : ConnectionState → Prop}
    (hstep : ∀ s s' (e : Milestone κ), P s → e.next? s = some s' → P s' ∨ e = down)
    (h : Leads s t s') (hs : P s) : P s' ∨ down ∈ t := by
  induction t generalizing s with
  | nil => exact .inl (nil_iff.1 h ▸ hs)
  | cons e rest ih =>
    obtain ⟨middle, he, hrest⟩ := cons_iff.1 h
    obtain hmiddle | rfl := hstep s middle e hs he
    · exact (ih hrest hmiddle).imp_right (List.mem_cons_of_mem e)
    · exact .inr (List.mem_cons_self ..)

/-- If the last state has the property `P`, then either the first state has it and no milestone ends
it, or a milestone begins it and none after that one ends it. -/
theorem since (P : ConnectionState → Prop) (begins ends : Milestone κ → Prop)
    (hstep : ∀ s s' (e : Milestone κ), P s' → e.next? s = some s' → begins e ∨ P s ∧ ¬ ends e)
    (h : Leads s t s') (hs' : P s') :
    (P s ∧ ∀ e ∈ t, ¬ ends e) ∨
      ∃ before e after, t = before ++ e :: after ∧ begins e ∧ ∀ e ∈ after, ¬ ends e := by
  induction t generalizing s with
  | nil => exact .inl ⟨nil_iff.1 h ▸ hs', by simp⟩
  | cons e rest ih =>
    obtain ⟨middle, he, hrest⟩ := cons_iff.1 h
    -- Either the rest has begun it, or it was so before the rest: then `e` has begun it, or kept it.
    obtain ⟨hmiddle, hquiet⟩ | ⟨before, e', after, rfl, hbegins, hquiet⟩ := ih hrest
    · obtain hbegins | ⟨hs, hends⟩ := hstep s middle e hmiddle he
      · exact .inr ⟨[], e, rest, rfl, hbegins, hquiet⟩
      · exact .inl ⟨hs, List.forall_mem_cons.2 ⟨hends, hquiet⟩⟩
    · exact .inr ⟨e :: before, e', after, rfl, hbegins, hquiet⟩

/-- Without `down`, a state other than disconnected leads to a state other than disconnected. -/
theorem keeps_open (h : Leads s t s') (hs : s ≠ .disconnected) : s' ≠ .disconnected ∨ down ∈ t := by
  refine h.keeps (P := (· ≠ .disconnected)) (fun s s' e hs he => ?_) hs
  obtain rfl | rfl | ⟨token, rfl⟩ | rfl | rfl := next?_cases he
  · simp [(next?_up.1 he).2]
  · exact .inr rfl
  · simp [(next?_dialled.1 he).2]
  · simp [(next?_hungUp.1 he).2]
  · exact .inl hs

/-- Without `down`, the disconnecting state is not left. -/
theorem keeps_ending (h : Leads s t s') (hs : s = .disconnecting) :
    s' = .disconnecting ∨ down ∈ t := by
  refine h.keeps (P := (· = .disconnecting)) (fun s s' e hs he => ?_) hs
  obtain rfl | rfl | ⟨token, rfl⟩ | rfl | rfl := next?_cases he
  · simp [(next?_up.1 he).1] at hs
  · exact .inr rfl
  · simp [(next?_dialled.1 he).1] at hs
  · exact .inl (next?_hungUp.1 he).2
  · exact .inl hs

/-- There is a `down` between two accepted connect requests. -/
theorem down_between_dialled {token token' : String}
    (h : Leads s (front ++ dialled token :: (mid ++ dialled token' :: back)) s') : down ∈ mid := by
  obtain ⟨before, making, hfront, hfirst, hrest⟩ := h.split
  obtain ⟨without, after, hmid, hsecond, hback⟩ := hrest.split
  have hmaking : making ≠ .disconnected := by simp [(next?_dialled.1 hfirst).2]
  exact (hmid.keeps_open hmaking).resolve_left fun hwithout => hwithout (next?_dialled.1 hsecond).1

/-- There is a `down` between two accepted disconnect requests. -/
theorem down_between_hungUp (h : Leads s (front ++ hungUp :: (mid ++ hungUp :: back)) s') :
    down ∈ mid := by
  obtain ⟨before, ending, hfront, hfirst, hrest⟩ := h.split
  obtain ⟨held, after, hmid, hsecond, hback⟩ := hrest.split
  refine (hmid.keeps_ending (next?_hungUp.1 hfirst).2).resolve_left fun hheld => ?_
  simpa [hheld] using (next?_hungUp.1 hsecond).1

/-- Before each publish request there is an `up`, followed by neither `down` nor an accepted
disconnect request. -/
theorem up_before_publish {topic : String} {payload : Bytes} {result : Except ProviderError MessageId}
    (h : Leads .disconnected (front ++ effect (.publish topic payload result) :: back) s') :
    ∃ before since, front = before ++ up :: since ∧ down ∉ since ∧ hungUp ∉ since := by
  obtain ⟨there, after, hfront, hpublish, hback⟩ := h.split
  obtain ⟨hthere, -⟩ : there = .connected ∧ there = after := by
    simpa [next?, Effect.next?, ConnectionState.canPublish] using hpublish
  have hsince := hfront.since (· = .connected) (· = up) (fun e => e = down ∨ e = hungUp)
    (fun s s' e hs he => ?_) hthere
  · obtain ⟨hstart, -⟩ | ⟨before, e, since, rfl, rfl, hquiet⟩ := hsince
    · cases hstart
    · exact ⟨before, since, rfl, fun hdown => hquiet _ hdown (.inl rfl),
        fun hungUp => hquiet _ hungUp (.inr rfl)⟩
  · obtain rfl | rfl | ⟨token, rfl⟩ | rfl | rfl := next?_cases he
    · exact .inl rfl
    · simp [(next?_down.1 he).2] at hs
    · simp [(next?_dialled.1 he).2] at hs
    · simp [(next?_hungUp.1 he).2] at hs
    · refine .inr ⟨hs, ?_⟩
      rintro (rfl | rfl)
      · simp [(next?_down.1 he).2] at hs
      · simp [(next?_hungUp.1 he).2] at hs

/-- Before each disconnect request there is an accepted connect request that is not followed by
`down`. -/
theorem dialled_before_disconnect {result : Except ProviderError Unit}
    (h : Leads .disconnected (front ++ effect (.disconnect result) :: back) s') :
    ∃ before token since, front = before ++ dialled token :: since ∧ down ∉ since := by
  obtain ⟨held, after, hfront, hdisconnect, hback⟩ := h.split
  have hheld : held ≠ .disconnected := by
    rintro rfl
    simp [next?, Effect.next?, ConnectionState.canStartDisconnect] at hdisconnect
  have hsince := hfront.since (· ≠ .disconnected) (fun e => ∃ token, e = dialled token) (· = down)
    (fun s s' e hs he => ?_) hheld
  · obtain ⟨hstart, -⟩ | ⟨before, e, since, rfl, ⟨token, rfl⟩, hquiet⟩ := hsince
    · exact absurd rfl hstart
    · exact ⟨before, token, since, rfl, fun hdown => hquiet _ hdown rfl⟩
  · have hne : e ≠ down := by
      rintro rfl
      exact hs (next?_down.1 he).2
    obtain rfl | rfl | ⟨token, rfl⟩ | rfl | rfl := next?_cases he
    · simp [(next?_up.1 he).1]
    · exact absurd rfl hne
    · exact .inl ⟨token, rfl⟩
    · refine .inr ⟨?_, hne⟩
      obtain hs | hs := (next?_hungUp.1 he).1 <;> simp [hs]
    · exact .inr ⟨hs, hne⟩

end Leads

end HubLink.Transport
