import HubLink.Proofs.Machine.Dialogue
import HubLink.Proofs.Machine.Turns

namespace HubLink.Transport

variable {σ κ ε α : Type}

/-- The notification that reports the success of a request. -/
def Effect.echo? : Effect κ → Option Notification
  | .connect _ result => result.toOption.map fun _ => .connected
  | .publish _ _ result => result.toOption.map .published
  | .disconnect result => result.toOption.map fun _ => .disconnected
  | _ => none

/-- For every successful request in the trace, its notification was raised in the trace. -/
def Trace.Echoed (t : Trace κ) : Prop :=
  ∀ e ∈ t, ∀ n, e.echo? = some n → n ∈ t.raised

/-- No publish request in the trace was refused. -/
def Trace.Unrefused (t : Trace κ) : Prop :=
  ∀ offer ∈ t.offers, offer.2.2.isOk = true

/-- A successful reply raises its notification beside the answer. -/
def Reply.Echoes (reply : Reply σ ε α) (echo : α → Notification) : Prop :=
  ∀ a, reply.result = .ok a → echo a ∈ notifications reply.asides

theorem Reply.Echoes.mem {reply : Reply σ ε α} {echo : α → Notification} (h : reply.Echoes echo)
    {n : Notification} (hn : reply.result.toOption.map echo = some n) :
    n ∈ notifications reply.asides := by
  cases hresult : reply.result with
  | ok a =>
    rw [hresult] at hn
    obtain rfl := Option.some.inj hn
    exact h a hresult
  | error e =>
    rw [hresult] at hn
    cases hn

/-- In states with property `P`, which every request preserves, each successful request raises its
notification beside the answer; and no publish is refused, if `obliging`. -/
structure Collaborators.Prompt (c : Collaborators σ) (P : σ → Prop) (obliging : Prop) : Prop where
  token : ∀ w, P w → P (c.token w).world
  connect : ∀ token w, P w →
    P (c.connect token w).world ∧ (c.connect token w).Echoes fun _ => .connected
  publish : ∀ topic payload w, P w →
    P (c.publish topic payload w).world ∧ (c.publish topic payload w).Echoes .published ∧
      (obliging → (c.publish topic payload w).result.isOk = true)
  disconnect : ∀ w, P w → P (c.disconnect w).world ∧ (c.disconnect w).Echoes fun _ => .disconnected

namespace Trace

/-- A request whose success was raised beside the answer keeps a trace echoed. -/
theorem Echoed.answer {asides : List Aside} {e : Effect κ} {rest : Trace κ}
    (he : ∀ n, e.echo? = some n → n ∈ notifications asides) (hrest : Echoed rest) :
    Echoed (asides.map .aside ++ e :: rest) := by
  have hraised : Trace.raised (asides.map .aside ++ e :: rest) =
      notifications asides ++ (Trace.raised [e] ++ rest.raised) := by
    rw [raised_append, raised_map_aside, ← raised_append]
    rfl
  intro e' hmem n hn
  rw [hraised]
  obtain hmem | hmem := List.mem_append.1 hmem
  · obtain ⟨aside, -, rfl⟩ := List.mem_map.1 hmem
    cases hn
  · obtain rfl | hmem := List.mem_cons.1 hmem
    · exact List.mem_append_left _ (he n hn)
    · exact List.mem_append_right _ (List.mem_append_right _ (hrest e' hmem n hn))

theorem Echoed.published {t : Trace κ} (h : t.Echoed) {topic : String} {payload : Bytes}
    {id : MessageId} (hoffer : (topic, payload, .ok id) ∈ t.offers) : .published id ∈ t.raised := by
  obtain ⟨e, he, hview⟩ := List.mem_filterMap.1 hoffer
  refine h e he _ ?_
  cases e with
  | publish topic' payload' answer =>
    obtain rfl : answer = .ok id := congrArg (·.2.2) (Option.some.inj hview)
    rfl
  | _ => cases hview

theorem offers_cons (e : Effect κ) (t : Trace κ) :
    Trace.offers (e :: t) = e.offer?.toList ++ t.offers := by
  unfold offers
  rw [List.filterMap_cons]
  cases e.offer? <;> rfl

theorem offers_asides (asides : List Aside) (t : Trace κ) :
    Trace.offers (asides.map .aside ++ t) = t.offers := by
  have hnone : (asides.map .aside : Trace κ).filterMap Effect.offer? = [] := by simp [Effect.offer?]
  rw [offers, List.filterMap_append, hnone]
  rfl

end Trace

/-- The trace of a dialogue with prompt collaborators is echoed, and has no refused publish if they
are obliging. -/
theorem Dialogue.echoed {c : Collaborators σ} {P : σ → Prop} {obliging : Prop} {w w' : σ} {t : Trace κ}
    (h : Dialogue c w t w') (hc : c.Prompt P obliging) (hw : P w) :
    P w' ∧ t.Echoed ∧ (obliging → t.Unrefused) := by
  induction h with
  | done w => exact ⟨hw, by simp [Trace.Echoed], by simp [Trace.Unrefused, Trace.offers]⟩
  | @alone w w' e rest he hrest ih =>
    obtain ⟨hw', hechoed, hunrefused⟩ := ih hw
    have hsilent : e.echo? = none ∧ e.offer? = none := by
      cases e <;> first | exact ⟨rfl, rfl⟩ | cases he
    have hecho : Trace.Echoed (([] : List Aside).map .aside ++ e :: rest) :=
      hechoed.answer (by simp [hsilent.1])
    refine ⟨hw', hecho, fun hobliging => ?_⟩
    rw [Trace.Unrefused, Trace.offers_cons, hsilent.2]
    exact hunrefused hobliging
  | @token w w' rest hrest ih =>
    obtain ⟨hw', hechoed, hunrefused⟩ := ih (hc.token w hw)
    refine ⟨hw', hechoed.answer (by simp [Effect.echo?]), fun hobliging => ?_⟩
    rw [Trace.Unrefused, Trace.offers_asides, Trace.offers_cons]
    exact hunrefused hobliging
  | @connect w w' token rest hrest ih =>
    obtain ⟨hnext, hecho⟩ := hc.connect token w hw
    obtain ⟨hw', hechoed, hunrefused⟩ := ih hnext
    refine ⟨hw', hechoed.answer fun _ => hecho.mem, fun hobliging => ?_⟩
    rw [Trace.Unrefused, Trace.offers_asides, Trace.offers_cons]
    exact hunrefused hobliging
  | @publish w w' topic payload rest hrest ih =>
    obtain ⟨hnext, hecho, hok⟩ := hc.publish topic payload w hw
    obtain ⟨hw', hechoed, hunrefused⟩ := ih hnext
    refine ⟨hw', hechoed.answer fun _ => hecho.mem, fun hobliging => ?_⟩
    rw [Trace.Unrefused, Trace.offers_asides, Trace.offers_cons]
    exact List.forall_mem_cons.2 ⟨hok hobliging, hunrefused hobliging⟩
  | @disconnect w w' rest hrest ih =>
    obtain ⟨hnext, hecho⟩ := hc.disconnect w hw
    obtain ⟨hw', hechoed, hunrefused⟩ := ih hnext
    refine ⟨hw', hechoed.answer fun _ => hecho.mem, fun hobliging => ?_⟩
    rw [Trace.Unrefused, Trace.offers_asides, Trace.offers_cons]
    exact hunrefused hobliging

/-- The notification that a moment handles. -/
def Moment.heard (x : Moment σ κ) : List Notification :=
  match x.step with
  | .notify n => [n]
  | _ => []

/-- If the machine is connecting, `connected` or `disconnected` is in the mailbox; if it is
disconnecting, `disconnected` is; and for each message in flight its acknowledgement is. -/
structure Awaits (m : Machine κ) (mailbox : List Notification) : Prop where
  connecting : m.state = .connecting → .connected ∈ mailbox ∨ .disconnected ∈ mailbox
  disconnecting : m.state = .disconnecting → .disconnected ∈ mailbox
  inFlight : ∀ id ∈ m.inFlight.ids, .published id ∈ mailbox

namespace Awaits

variable {m : Machine κ} {mailbox more : List Notification}

theorem mono (h : Awaits m mailbox) (hmore : ∀ n ∈ mailbox, n ∈ more) : Awaits m more :=
  ⟨fun hstate => (h.connecting hstate).imp (hmore _) (hmore _),
    fun hstate => hmore _ (h.disconnecting hstate), fun id hid => hmore _ (h.inFlight id hid)⟩

/-- With an empty mailbox, the machine is disconnected or connected and has nothing in flight. -/
theorem rests (h : Awaits m []) :
    (m.state = .disconnected ∨ m.state = .connected) ∧ m.inFlight = [] := by
  refine ⟨?_, ?_⟩
  · cases hstate : m.state with
    | disconnected => exact .inl rfl
    | connected => exact .inr rfl
    | connecting =>
      have hnone := h.connecting hstate
      simp at hnone
    | disconnecting => cases h.disconnecting hstate
  · cases hinFlight : m.inFlight with
    | nil => rfl
    | cons p rest =>
      have hmem := h.inFlight p.1 (by simp [hinFlight, InFlight.ids])
      cases hmem

/-- After the queue is published with echoed success, the acknowledgements of all messages in flight
are in the mailbox. -/
theorem of_drained {x : Moment σ κ} {result : Except ProviderError Unit}
    (hdrained : Drained m result x.after x.effects.offers) (hstate : m.state = .connected)
    (hechoed : x.effects.Echoed) (hinFlight : ∀ id ∈ m.inFlight.ids, .published id ∈ mailbox) :
    Awaits x.after (mailbox ++ x.effects.raised) := by
  have hafter : x.after.state = .connected := hdrained.state.trans hstate
  refine ⟨by simp [hafter], by simp [hafter], fun id hid => ?_⟩
  obtain hold | ⟨event, hoffer⟩ := hdrained.mem_ids hid
  · exact List.mem_append_left _ (hinFlight id hold)
  · exact List.mem_append_right _ (hechoed.published hoffer)

/-- Each turn with an echoed trace preserves `Awaits`, with the handled notification removed from the
mailbox and the raised ones appended. -/
theorem step {x : Moment σ κ} (h : Awaits x.before (x.heard ++ mailbox)) (hturn : x.Turn)
    (hechoed : x.effects.Echoed) : Awaits x.after (mailbox ++ x.effects.raised) := by
  have hmore : ∀ n ∈ mailbox, n ∈ mailbox ++ x.effects.raised := fun n => List.mem_append_left _
  -- A request takes nothing out of the mailbox.
  have hasked {request : Request κ} (hstep : x.step = .call request) : Awaits x.before mailbox := by
    rwa [Moment.heard, hstep, List.nil_append] at h
  cases hturn with
  | rests hstep haccepted hoffers hafter =>
    have hheard : x.heard = [] := by
      unfold Moment.heard
      split
      case h_1 n hn => exact absurd hn (hstep n)
      case h_2 => rfl
    rw [hheard, List.nil_append] at h
    rw [hafter]
    exact h.mono hmore
  | observes observers hstep hoffers hafter =>
    rw [Moment.heard, hstep, List.nil_append] at h
    rw [hafter]
    exact ⟨(h.mono hmore).connecting, (h.mono hmore).disconnecting, (h.mono hmore).inFlight⟩
  | queues request hstep hstate hresult hoffers hafter =>
    have hbefore := (hasked hstep).mono hmore
    rw [hafter]
    exact ⟨hbefore.connecting, hbefore.disconnecting, hbefore.inFlight⟩
  | dials request token hstep hstate hresult hconnect hoffers hafter =>
    have hbefore := (hasked hstep).mono hmore
    have hraised : .connected ∈ x.effects.raised := hechoed _ hconnect _ rfl
    rw [hafter]
    exact ⟨fun _ => .inl (List.mem_append_right _ hraised), nofun, hbefore.inFlight⟩
  | hangsUp hstep hstate hresult hdisconnect hoffers hafter =>
    have hbefore := (hasked hstep).mono hmore
    have hraised : .disconnected ∈ x.effects.raised := hechoed _ hdisconnect _ rfl
    rw [hafter]
    exact ⟨nofun, fun _ => List.mem_append_right _ hraised, hbefore.inFlight⟩
  | publishes payload callback id hstep hstate hpending hresult hoffers hafter =>
    have hbefore := (hasked hstep).mono hmore
    have hraised : .published id ∈ x.effects.raised := by
      apply hechoed.published
      rw [hoffers]
      exact List.mem_singleton.2 rfl
    rw [hafter]
    refine ⟨hbefore.connecting, hbefore.disconnecting, fun id' hid' => ?_⟩
    obtain rfl | hold := (InFlight.mem_ids_insert _ _ _ _).1 hid'
    · exact List.mem_append_right _ hraised
    · exact hbefore.inFlight id' hold
  | refused payload callback e hstep hstate hpending hresult haccepted hoffers hafter =>
    rw [hafter]
    exact (hasked hstep).mono hmore
  | follows payload callback result hstep hstate hpending hresult hdrained =>
    exact of_drained hdrained hstate hechoed (hasked hstep).inFlight
  | opens result hstep hstate hdrained =>
    rw [Moment.heard, hstep] at h
    refine of_drained hdrained rfl hechoed fun id hid => ?_
    simpa using h.inFlight id hid
  | ignores n hstep hstate hoffers hafter =>
    rw [Moment.heard, hstep] at h
    have hbefore : Awaits x.before mailbox := by
      obtain ⟨rfl, hstate⟩ | ⟨rfl, hstate⟩ := hstate
      · refine ⟨fun hconnecting => absurd hconnecting hstate, fun hdisconnecting => ?_, fun id hid => ?_⟩
        · simpa using h.disconnecting hdisconnecting
        · simpa using h.inFlight id hid
      · refine ⟨by simp [hstate], by simp [hstate], fun id hid => ?_⟩
        simpa using h.inFlight id hid
    rw [hafter]
    exact hbefore.mono hmore
  | acknowledges id hstep hoffers hafter =>
    rw [Moment.heard, hstep] at h
    rw [hafter]
    refine ⟨fun hstate => ?_, fun hstate => ?_, fun id' hid' => ?_⟩
    · exact (h.connecting hstate).imp (fun hn => hmore _ (by simpa using hn))
        fun hn => hmore _ (by simpa using hn)
    · exact hmore _ (by simpa using h.disconnecting hstate)
    · rw [InFlight.ids_erase, List.mem_filter, decide_eq_true_eq] at hid'
      obtain ⟨hid', hne⟩ := hid'
      have hn := h.inFlight id' hid'
      exact hmore _ (by simpa [hne] using hn)
  | loses hstep hstate hoffers hafter =>
    rw [hafter]
    exact ⟨nofun, nofun, by simp [InFlight.ids]⟩

end Awaits

/-- The queue is empty in the connected state, and under policy `onSend` in the disconnected state. -/
structure Machine.Clear (m : Machine κ) : Prop where
  disconnected : m.policy = .onSend → m.state = .disconnected → m.pending = []
  connected : m.state = .connected → m.pending = []

namespace Machine.Clear

/-- Publishing the queue without a refusal leaves it empty. -/
theorem of_drained {m : Machine κ} {x : Moment σ κ} {result : Except ProviderError Unit}
    (hdrained : Drained m result x.after x.effects.offers) (hstate : m.state = .connected)
    (hunrefused : x.effects.Unrefused) : x.after.Clear := by
  have hafter : x.after.state = .connected := hdrained.state.trans hstate
  cases result with
  | ok => exact ⟨by simp [hafter], fun _ => hdrained.of_ok⟩
  | error e =>
    obtain ⟨sent, event, rest, hqueue, hmachine, hoffers⟩ := hdrained.of_error
    have hrefused := hunrefused (m.offer event (.error e)) (by simp [hoffers])
    cases hrefused

/-- Each turn without a refused publish preserves `Clear`. -/
theorem step {x : Moment σ κ} (h : x.before.Clear) (hturn : x.Turn)
    (hunrefused : x.effects.Unrefused) : x.after.Clear := by
  cases hturn with
  | rests _ _ _ hafter | ignores _ _ _ _ hafter | refused _ _ _ _ _ _ _ _ _ hafter =>
    rw [hafter]
    exact h
  | observes _ _ _ hafter | acknowledges _ _ _ hafter =>
    rw [hafter]
    exact ⟨h.disconnected, h.connected⟩
  | publishes payload callback id hstep hstate hpending hresult hoffers hafter =>
    rw [hafter]
    exact ⟨fun _ _ => hpending, fun _ => hpending⟩
  | queues request hstep hstate hresult hoffers hafter =>
    rw [hafter]
    obtain hconnecting | ⟨hdisconnected, hnever⟩ := hstate
    · exact ⟨by simp [hconnecting], by simp [hconnecting]⟩
    · exact ⟨by simp [hnever], by simp [hdisconnected]⟩
  | follows _ _ _ _ hstate _ _ hdrained => exact of_drained hdrained hstate hunrefused
  | opens _ _ _ hdrained => exact of_drained hdrained rfl hunrefused
  | dials _ _ _ _ _ _ _ hafter | hangsUp _ _ _ _ _ hafter =>
    rw [hafter]
    exact ⟨nofun, nofun⟩
  | loses _ _ _ hafter =>
    rw [hafter]
    exact ⟨fun _ _ => rfl, fun _ => rfl⟩

end Machine.Clear

/-- A machine of the given policy for which `Awaits` holds with this mailbox, and `Clear` holds if
`obliging`. -/
structure Machine.Quiet (policy : ConnectPolicy) (obliging : Prop) (mailbox : List Notification)
    (m : Machine κ) : Prop where
  policy_eq : m.policy = policy
  awaits : Awaits m mailbox
  clear : obliging → m.Clear

namespace Machine.Quiet

variable {policy : ConnectPolicy} {obliging : Prop} {mailbox : List Notification} {m : Machine κ}

theorem step {c : Collaborators σ} {P : σ → Prop} (hc : c.Prompt P obliging) {s : Step σ κ} {w : σ}
    (hw : P w) (hs : ∀ change, s ≠ .drift change)
    (h : m.Quiet policy obliging ((s.moment c m w).1.heard ++ mailbox)) :
    P (s.moment c m w).2 ∧ (s.moment c m w).1.after.Quiet policy obliging
      (mailbox ++ (s.moment c m w).1.effects.raised) := by
  have hturn := Moment.turn c s m w
  obtain ⟨hw', hechoed, hunrefused⟩ := (Step.dialogue c s m w hs).echoed hc hw
  refine ⟨hw', hturn.policy.trans h.policy_eq, h.awaits.step hturn hechoed, fun hobliging => ?_⟩
  exact (h.clear hobliging).step hturn (hunrefused hobliging)

theorem mono (h : m.Quiet policy obliging mailbox) (more : List Notification) :
    m.Quiet policy obliging (mailbox ++ more) :=
  ⟨h.policy_eq, h.awaits.mono fun _ => List.mem_append_left _, h.clear⟩

end Machine.Quiet

end HubLink.Transport
