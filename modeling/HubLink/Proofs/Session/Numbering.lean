import HubLink.Proofs.Machine.Identities
import HubLink.Proofs.Machine.Prompt
import HubLink.Proofs.Session.Exchange
import HubLink.Proofs.Session.Row
import HubLink.Session.Provider

namespace HubLink.Transport

open Session

variable {σ κ : Type}

/-- Each publish request takes the next identity, or fails without taking one; no other request takes
an identity. -/
structure Collaborators.Numbers (c : Collaborators σ) (nextId : σ → MessageId) : Prop where
  token : ∀ w, nextId (c.token w).world = nextId w
  connect : ∀ token w, nextId (c.connect token w).world = nextId w
  disconnect : ∀ w, nextId (c.disconnect w).world = nextId w
  publish : ∀ topic payload w,
    nextId (c.publish topic payload w).world = (nextId w).next ∧
        (∀ id, (c.publish topic payload w).result = .ok id → id = nextId w) ∨
      nextId (c.publish topic payload w).world = nextId w ∧
        ∃ e, (c.publish topic payload w).result = .error e

/-- The identities are those of increasing numbers from `first` up to but not including `last`. -/
def Counted (first last : Nat) (ids : List MessageId) : Prop :=
  first ≤ last ∧ ∃ numbers : List Nat, ids = numbers.map Row.id ∧ numbers.Pairwise (· < ·) ∧
    ∀ n ∈ numbers, first ≤ n ∧ n < last

namespace Counted

variable {first middle last : Nat} {ids ids' : List MessageId}

theorem nil (n : Nat) : Counted n n [] :=
  ⟨Nat.le_refl n, [], rfl, .nil, by simp⟩

theorem skip (n : Nat) : Counted n (n + 1) [] :=
  ⟨Nat.le_succ n, [], rfl, .nil, by simp⟩

theorem one (n : Nat) : Counted n (n + 1) [Row.id n] := by
  refine ⟨Nat.le_succ n, [n], rfl, by simp, ?_⟩
  simp

theorem append (h : Counted first middle ids) (h' : Counted middle last ids') :
    Counted first last (ids ++ ids') := by
  obtain ⟨hle, numbers, rfl, hordered, hbetween⟩ := h
  obtain ⟨hle', numbers', rfl, hordered', hbetween'⟩ := h'
  refine ⟨Nat.le_trans hle hle', numbers ++ numbers', (List.map_append ..).symm, ?_, ?_⟩
  · refine List.pairwise_append.2 ⟨hordered, hordered', fun n hn n' hn' => ?_⟩
    have hbefore := (hbetween n hn).2
    have hbehind := (hbetween' n' hn').1
    omega
  · intro n hn
    obtain hn | hn := List.mem_append.1 hn
    · have hn := hbetween n hn
      omega
    · have hn := hbetween' n hn
      omega

/-- Identities counted from 0 are distinct, if `last` is at most `2 ^ 64`. -/
theorem nodup (h : Counted 0 last ids) (hlast : last ≤ UInt64.size) : ids.Nodup := by
  obtain ⟨-, numbers, rfl, hordered, hbetween⟩ := h
  have hnumbers : numbers.Nodup := hordered.imp Nat.ne_of_lt
  refine (List.nodup_map_iff_inj_on hnumbers).2 fun n hn n' hn' hsame => ?_
  have hn := (hbetween n hn).2
  have hn' := (hbetween n' hn').2
  exact (Row.id_inj (by omega) (by omega)).1 hsame

end Counted

/-- The identities given out in a trace. -/
def Trace.identities (t : Trace κ) : List MessageId :=
  t.offers.filterMap (·.2.2.toOption)

theorem Moment.given_eq_identities (x : Moment σ κ) : x.given = x.effects.identities := by
  rw [given, Trace.sent_eq_filterMap_offers, List.map_filterMap, Trace.identities]
  congr 1
  funext p
  cases p.2.2 <;> rfl

variable {c : Collaborators σ} {nextId : σ → MessageId}

/-- Over a dialogue, the count increases by at most the number of publish requests, and the identities
given out are counted. -/
theorem Dialogue.counted (hc : c.Numbers nextId) {w w' : σ} {t : Trace κ} (h : Dialogue c w t w')
    {first : Nat} (hfirst : nextId w = Row.id first) :
    ∃ last, nextId w' = Row.id last ∧ last ≤ first + t.offers.length ∧
      Counted first last t.identities := by
  induction h generalizing first with
  | done w => exact ⟨first, hfirst, Nat.le_refl _, .nil first⟩
  | @alone w w' e rest he hrest ih =>
    have hsilent : e.offer? = none := by
      cases e with
      | publish => cases he
      | _ => rfl
    rw [Trace.identities, Trace.offers_cons, hsilent]
    exact ih hfirst
  | @token w w' rest hrest ih =>
    rw [Trace.identities, Trace.offers_asides, Trace.offers_cons]
    exact ih ((hc.token w).trans hfirst)
  | @connect w w' token rest hrest ih =>
    rw [Trace.identities, Trace.offers_asides, Trace.offers_cons]
    exact ih ((hc.connect token w).trans hfirst)
  | @publish w w' topic payload rest hrest ih =>
    rw [Trace.identities, Trace.offers_asides, Trace.offers_cons]
    -- A request that fails may still have used up a number.
    obtain ⟨hnext, hid⟩ | ⟨hsame, e, hresult⟩ := hc.publish topic payload w
    · rw [hfirst, Row.next_id] at hnext
      obtain ⟨last, hlast, hle, hcounted⟩ := ih hnext
      refine ⟨last, hlast, ?_, ?_⟩
      · simp only [Effect.offer?, Option.toList_some, List.length_append, List.length_singleton]
        omega
      · cases hresult : (c.publish topic payload w).result with
        | error e => exact (Counted.skip first).append hcounted
        | ok id =>
          obtain rfl := (hid id hresult).trans hfirst
          exact (Counted.one first).append hcounted
    · obtain ⟨last, hlast, hle, hcounted⟩ := ih (hsame.trans hfirst)
      refine ⟨last, hlast, ?_, ?_⟩
      · simp only [Effect.offer?, Option.toList_some, List.length_append, List.length_singleton]
        omega
      · rw [hresult]
        exact hcounted
  | @disconnect w w' rest hrest ih =>
    rw [Trace.identities, Trace.offers_asides, Trace.offers_cons]
    exact ih ((hc.disconnect w).trans hfirst)

/-- The step does not change the count by a change of the collaborators. -/
def Step.LeavesCount (nextId : σ → MessageId) (s : Step σ κ) : Prop :=
  ∀ change, s = .drift change → ∀ w, nextId (change w) = nextId w

/-- Over a run, the count increases by at most the number of publish requests, and the identities
given out are counted. -/
theorem live_counted (hc : c.Numbers nextId) (steps : List (Step σ κ))
    (hsteps : ∀ s ∈ steps, s.LeavesCount nextId) (m : Machine κ) {w : σ} {first : Nat}
    (hfirst : nextId w = Row.id first) :
    ∃ last, last ≤ first + (live c steps m w).moments.offers.length ∧
      Counted first last ((live c steps m w).moments.flatMap (·.given)) := by
  induction steps generalizing m w first with
  | nil => exact ⟨first, Nat.le_refl _, .nil first⟩
  | cons s rest ih =>
    obtain ⟨hs, hrest⟩ := List.forall_mem_cons.1 hsteps
    have hstep : ∃ middle, nextId (s.moment c m w).2 = Row.id middle ∧
        middle ≤ first + (s.moment c m w).1.effects.offers.length ∧
        Counted first middle (s.moment c m w).1.given := by
      by_cases hdrift : ∃ change, s = .drift change
      · obtain ⟨change, rfl⟩ := hdrift
        exact ⟨first, (hs change rfl w).trans hfirst, Nat.le_refl _, .nil first⟩
      · rw [Moment.given_eq_identities]
        exact (s.dialogue c m w fun change h => hdrift ⟨change, h⟩).counted hc hfirst
    obtain ⟨middle, hmiddle, hle, hcounted⟩ := hstep
    obtain ⟨last, hle', hcounted'⟩ := ih hrest (s.moment c m w).1.after hmiddle
    refine ⟨last, ?_, hcounted.append hcounted'⟩
    simp only [live, History.offers, List.flatMap_cons, List.length_append] at hle' ⊢
    omega

/-- With numbered messages and at most `2 ^ 63` requests of the application, no entry of the ledger is
displaced. -/
theorem live_count_displaced (hc : c.Numbers nextId) (steps : List (Step σ κ))
    (hsteps : ∀ s ∈ steps, s.LeavesCount nextId) (deviceId : String) (policy : ConnectPolicy)
    (observers : Observers κ) {w : σ} (hw : nextId w = Row.id 0)
    (hcalls : 2 * (live c steps (.fresh deviceId policy observers) w).moments.calls ≤ UInt64.size) :
    (live c steps (.fresh deviceId policy observers) w).moments.ledger.count Fate.isDisplaced = 0 := by
  have hburden : (Machine.fresh deviceId policy observers).burden = 0 := rfl
  have hempty : Agrees ([] : Ledger κ) [] [] := ⟨⟨[], rfl, rfl⟩, rfl, List.nodup_nil⟩
  generalize hm : Machine.fresh deviceId policy observers = m at hburden hcalls ⊢
  obtain ⟨last, hle, hcounted⟩ := live_counted hc steps hsteps m hw
  have hoffers := live_length_offers_le c steps m w
  simp only [hburden] at hoffers
  have hnodup := hcounted.nodup (by omega)
  subst hm
  exact (live_course c steps _ w).count_displaced hempty hnodup

end HubLink.Transport

namespace HubLink.Session

open Transport

theorem Device.numbers : Device.collaborators.Numbers (·.provider.nextId) where
  token d := by
    simp only [collaborators, signedReply]
    split <;> rfl
  connect token d := by
    simp only [collaborators, connect, Provider.connect?]
    cases d.provider.options.login? token <;> rfl
  disconnect d := by
    simp only [collaborators, reply, Provider.disconnect]
    split
    · rfl
    · split <;> rfl
  publish topic payload d := by
    simp only [collaborators, reply, Provider.publish]
    split
    · exact .inr ⟨rfl, _, rfl⟩
    · split
      · exact .inl ⟨rfl, fun id hid => (Except.ok.inj hid).symm⟩
      · exact .inl ⟨rfl, nofun⟩

variable {L : Type}

theorem Exchange.numbers (network : Network L) :
    (Exchange.collaborators network).Numbers (·.nextId) where
  token x := (hears_hearAll _ _).nextId
  connect token x := by
    simp only [collaborators, ask, connect]
    split
    · exact ((hears_hearAll _ _).nextId).trans (hears_hearAll _ _).nextId
    · exact (hears_hearAll _ _).nextId
  disconnect x := by
    simp only [collaborators, ask, disconnect]
    split
    · rfl
    · split <;> exact ((hears_hearAll _ _).nextId).trans (hears_hearAll _ _).nextId
  publish topic payload x := by
    simp only [collaborators, ask, publish]
    split
    · exact .inr ⟨rfl, _, rfl⟩
    · refine .inl ⟨((hears_hearAll _ _).nextId).trans (hears_hearAll _ _).nextId, fun id hid => ?_⟩
      split at hid
      · exact (Except.ok.inj hid).symm
      · cases hid

end HubLink.Session
