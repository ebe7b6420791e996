import HubLink.Proofs.Machine.Life

namespace HubLink.Transport

variable {σ κ : Type}

/-- The fate of an accepted event. -/
inductive Fate where
  | queued
  | inFlight (id : MessageId)
  | acknowledged (id : MessageId)
  /-- The connection was lost before the event was acknowledged. -/
  | abandoned
  /-- While the event was in flight, a later one was published under the same identity. -/
  | displaced (id : MessageId)
  deriving DecidableEq

namespace Fate

/-- The fate after another event is published under `id`: an event in flight under it becomes
displaced. -/
def displace (id : MessageId) : Fate → Fate
  | inFlight id' => if id' = id then displaced id else inFlight id'
  | fate => fate

/-- The fate after `id` is acknowledged. -/
def acknowledge (id : MessageId) : Fate → Fate
  | inFlight id' => if id' = id then acknowledged id else inFlight id'
  | fate => fate

/-- The fate after the connection is lost: a queued event and one in flight become abandoned. -/
def abandon : Fate → Fate
  | queued | inFlight _ => abandoned
  | fate => fate

/-- The identity of an event that is in flight, acknowledged or displaced. -/
def id? : Fate → Option MessageId
  | inFlight id | acknowledged id | displaced id => some id
  | queued | abandoned => none

def isAcknowledged : Fate → Bool
  | acknowledged _ => true
  | _ => false

def isDisplaced : Fate → Bool
  | displaced _ => true
  | _ => false

/-- Whether the fate cannot change any more. -/
def isFinal : Fate → Bool
  | queued | inFlight _ => false
  | _ => true

/-- The change gives every event in flight under `id` a final fate and leaves every other fate
unchanged. -/
structure Settles (change : Fate → Fate) (id : MessageId) : Prop where
  same : ∀ fate, fate ≠ inFlight id → change fate = fate
  final : (change (inFlight id)).isFinal = true

theorem settles_displace (id : MessageId) : Settles (displace id) id := by
  refine ⟨fun fate hfate => ?_, by simp [displace, isFinal]⟩
  cases fate with
  | inFlight id' => exact if_neg fun hid => hfate (by rw [hid])
  | _ => rfl

theorem settles_acknowledge (id : MessageId) : Settles (acknowledge id) id := by
  refine ⟨fun fate hfate => ?_, by simp [acknowledge, isFinal]⟩
  cases fate with
  | inFlight id' => exact if_neg fun hid => hfate (by rw [hid])
  | _ => rfl

/-- Settling an identity neither adds nor removes a queued event. -/
theorem Settles.queued_iff {change : Fate → Fate} {id : MessageId} (h : Settles change id)
    (fate : Fate) : change fate = queued ↔ fate = queued := by
  by_cases hfate : fate = inFlight id
  · subst hfate
    have hfinal := h.final
    cases hchanged : change (inFlight id) <;> simp_all [isFinal]
  · rw [h.same fate hfate]

/-- Displacement keeps the identity of an event. -/
theorem id?_displace (id : MessageId) (fate : Fate) : (fate.displace id).id? = fate.id? := by
  cases fate with
  | inFlight id' => by_cases h : id' = id <;> simp [displace, id?, h]
  | _ => rfl

theorem id?_acknowledge (id : MessageId) (fate : Fate) : (fate.acknowledge id).id? = fate.id? := by
  cases fate with
  | inFlight id' => by_cases h : id' = id <;> simp [acknowledge, id?, h]
  | _ => rfl

/-- Displacement makes no event acknowledged, and none unacknowledged. -/
theorem isAcknowledged_displace (id : MessageId) (fate : Fate) :
    (fate.displace id).isAcknowledged = fate.isAcknowledged := by
  cases fate with
  | inFlight id' => by_cases h : id' = id <;> simp [displace, isAcknowledged, h]
  | _ => rfl

theorem isAcknowledged_abandon (fate : Fate) : fate.abandon.isAcknowledged = fate.isAcknowledged := by
  cases fate <;> rfl

/-- Displacement makes no event abandoned. -/
theorem abandoned_displace (id : MessageId) (fate : Fate) :
    fate.displace id = .abandoned ↔ fate = .abandoned := by
  cases fate with
  | inFlight id' => by_cases h : id' = id <;> simp [displace, h]
  | _ => rfl

theorem abandoned_acknowledge (id : MessageId) (fate : Fate) :
    fate.acknowledge id = .abandoned ↔ fate = .abandoned := by
  cases fate with
  | inFlight id' => by_cases h : id' = id <;> simp [acknowledge, h]
  | _ => rfl

end Fate

/-- An accepted event with its fate. -/
structure Entry (κ : Type) where
  event : QueuedEvent κ
  fate : Fate

/-- The entry of a newly accepted event. -/
def Entry.queued (event : QueuedEvent κ) : Entry κ := ⟨event, .queued⟩

/-- Changes the fate of an entry. -/
def Entry.change (f : Fate → Fate) (e : Entry κ) : Entry κ := { e with fate := f e.fate }

@[simp] theorem Entry.queued_event (event : QueuedEvent κ) :
    (Entry.queued event).event = event := rfl

@[simp] theorem Entry.queued_fate (event : QueuedEvent κ) :
    (Entry.queued event).fate = .queued := rfl

@[simp] theorem Entry.change_event (f : Fate → Fate) (e : Entry κ) :
    (e.change f).event = e.event := rfl

@[simp] theorem Entry.change_fate (f : Fate → Fate) (e : Entry κ) :
    (e.change f).fate = f e.fate := rfl

/-- The entries of all accepted events, the oldest first. -/
abbrev Ledger (κ : Type) := List (Entry κ)

namespace Ledger

/-- Appends an entry for each event. -/
def accept (l : Ledger κ) (events : List (QueuedEvent κ)) : Ledger κ :=
  l ++ events.map .queued

def acknowledge (l : Ledger κ) (id : MessageId) : Ledger κ :=
  l.map (.change (.acknowledge id))

def abandon (l : Ledger κ) : Ledger κ :=
  l.map (.change .abandon)

/-- Puts the oldest queued entry in flight under `id`. -/
def release (id : MessageId) : Ledger κ → Ledger κ
  | [] => []
  | e :: rest =>
    if e.fate = .queued then { e with fate := .inFlight id } :: rest else e :: release id rest

/-- Displaces the entries in flight under `id`, then puts the oldest queued entry in flight under
it. -/
def publish (l : Ledger κ) (id : MessageId) : Ledger κ :=
  release id (l.map (.change (.displace id)))

/-- The ledger after a moment: accepts its events, publishes under the identities given out in it,
acknowledges, and abandons at a loss. It reads the step, the answer and the effects of the moment, and
not its machines. -/
def after (l : Ledger κ) (x : Moment σ κ) : Ledger κ :=
  let l := x.acknowledged.foldl acknowledge (l.accept x.accepted)
  let l := x.effects.sent.foldl (fun l p => l.publish p.2.2) l
  if x.isLoss then l.abandon else l

/-- The queued events. -/
def queued (l : Ledger κ) : List (QueuedEvent κ) :=
  l.filterMap fun e => if e.fate = .queued then some e.event else none

/-- The identities and callbacks of the entries in flight, in the form of a machine's map. -/
def inFlight (l : Ledger κ) : InFlight κ :=
  l.filterMap fun e =>
    match e.fate with
    | .inFlight id => some (id, e.event.callback)
    | _ => none

/-- The callbacks of the entries whose fate satisfies `p`. -/
def callbacks (l : Ledger κ) (p : Fate → Bool) : List κ :=
  l.filterMap fun e => if p e.fate then e.event.callback else none

/-- The number of entries whose fate satisfies `p`. -/
def count (l : Ledger κ) (p : Fate → Bool) : Nat :=
  l.countP (p ·.fate)

/-- The payloads and identities of all entries that have an identity. -/
def sent (l : Ledger κ) : List (Bytes × MessageId) :=
  l.filterMap fun e => e.fate.id?.map (e.event.payload, ·)

@[simp] theorem queued_append (l l' : Ledger κ) : Ledger.queued (l ++ l') = l.queued ++ l'.queued :=
  List.filterMap_append

@[simp] theorem inFlight_append (l l' : Ledger κ) :
    Ledger.inFlight (l ++ l') = l.inFlight ++ l'.inFlight :=
  List.filterMap_append

@[simp] theorem callbacks_append (l l' : Ledger κ) (p : Fate → Bool) :
    Ledger.callbacks (l ++ l') p = l.callbacks p ++ l'.callbacks p :=
  List.filterMap_append

@[simp] theorem count_append (l l' : Ledger κ) (p : Fate → Bool) :
    Ledger.count (l ++ l') p = l.count p + l'.count p :=
  List.countP_append

theorem callbacks_cons (e : Entry κ) (l : Ledger κ) (p : Fate → Bool) :
    Ledger.callbacks (e :: l) p =
      (if p e.fate then e.event.callback else none).toList ++ l.callbacks p := by
  unfold callbacks
  rw [List.filterMap_cons]
  cases (if p e.fate then e.event.callback else none) <;> rfl

theorem count_cons (e : Entry κ) (l : Ledger κ) (p : Fate → Bool) :
    Ledger.count (e :: l) p = l.count p + if p e.fate then 1 else 0 :=
  List.countP_cons ..

@[simp] theorem sent_append (l l' : Ledger κ) : Ledger.sent (l ++ l') = l.sent ++ l'.sent :=
  List.filterMap_append

/-- If every entry is queued, the queue has all events, and nothing is in flight or sent. -/
theorem views_of_all_queued (events : List (QueuedEvent κ)) :
    Ledger.queued (events.map .queued) = events ∧ Ledger.inFlight (events.map .queued) = [] ∧
      Ledger.sent (events.map .queued) = [] := by
  simp [queued, inFlight, sent, Function.comp_def, Fate.id?]

/-- If every entry is queued, no entry satisfies a condition that excludes queued. -/
theorem fates_of_all_queued (events : List (QueuedEvent κ)) {p : Fate → Bool}
    (h : p .queued = false) :
    Ledger.callbacks (events.map .queued) p = [] ∧ Ledger.count (events.map .queued) p = 0 := by
  simp [callbacks, count, Function.comp_def, h]

/-- A release skips a front without queued entries. -/
theorem release_append {front : Ledger κ} (h : front.queued = []) (id : MessageId) (l : Ledger κ) :
    release id (front ++ l) = front ++ release id l := by
  induction front with
  | nil => rfl
  | cons e rest ih =>
    by_cases he : e.fate = .queued
    · simp [queued, he] at h
    · have hrest : queued rest = [] := by simpa [queued, he] using h
      simp [release, he, ih hrest]

/-- Every entry is queued, in flight, acknowledged, abandoned or displaced, and only one of these. -/
theorem length_eq (l : Ledger κ) :
    l.length = l.queued.length + l.inFlight.length + l.count Fate.isAcknowledged +
      l.count (· = .abandoned) + l.count Fate.isDisplaced := by
  induction l with
  | nil => rfl
  | cons e rest ih =>
    obtain ⟨event, fate⟩ := e
    cases fate <;>
      simp [queued, inFlight, count, Fate.isAcknowledged, Fate.isDisplaced] at ih ⊢ <;> omega

@[simp] theorem map_event_change (l : Ledger κ) (f : Fate → Fate) :
    (l.map (.change f)).map Entry.event = l.map Entry.event := by
  simp [Function.comp_def]

@[simp] theorem map_event_release (id : MessageId) (l : Ledger κ) :
    (l.release id).map Entry.event = l.map Entry.event := by
  induction l with
  | nil => rfl
  | cons e rest ih =>
    unfold release
    split <;> simp [ih]

theorem sent_change (l : Ledger κ) {f : Fate → Fate} (h : ∀ fate, (f fate).id? = fate.id?) :
    Ledger.sent (l.map (.change f)) = l.sent := by
  simp [sent, List.filterMap_map, Function.comp_def, h]

theorem queued_change (l : Ledger κ) {f : Fate → Fate} {id : MessageId} (h : Fate.Settles f id) :
    Ledger.queued (l.map (.change f)) = l.queued := by
  simp [queued, List.filterMap_map, h.queued_iff]

theorem inFlight_change (l : Ledger κ) {f : Fate → Fate} {id : MessageId}
    (h : Fate.Settles f id) : Ledger.inFlight (l.map (.change f)) = l.inFlight.erase id := by
  induction l with
  | nil => rfl
  | cons e rest ih =>
    obtain ⟨event, fate⟩ := e
    by_cases hfate : fate = .inFlight id
    · subst hfate
      have hfinal := h.final
      cases hchanged : f (.inFlight id) <;>
        simp_all [inFlight, InFlight.erase, Fate.isFinal]
    · cases fate with
      | inFlight id' =>
        have hid : id' ≠ id := fun h => hfate (by rw [h])
        simpa [inFlight, InFlight.erase, h.same _ hfate, hid] using ih
      | _ => simpa [inFlight, h.same _ hfate] using ih

/-- A change of fates that preserves `p` preserves the number of entries that satisfy `p`. -/
theorem count_change (l : Ledger κ) {f : Fate → Fate} {p : Fate → Bool}
    (h : ∀ fate, p (f fate) = p fate) : Ledger.count (l.map (.change f)) p = l.count p := by
  simp [count, List.countP_map, Function.comp_def, h]

theorem count_release (id : MessageId) (l : Ledger κ) {p : Fate → Bool}
    (h : p (.inFlight id) = p .queued) : Ledger.count (l.release id) p = l.count p := by
  induction l with
  | nil => rfl
  | cons e rest ih =>
    rw [release, count_cons]
    split
    case isTrue he => rw [count_cons, h, he]
    case isFalse => rw [count_cons, ih]

theorem callbacks_change (l : Ledger κ) {f : Fate → Fate} {p : Fate → Bool}
    (h : ∀ fate, p (f fate) = p fate) : Ledger.callbacks (l.map (.change f)) p = l.callbacks p := by
  simp [callbacks, List.filterMap_map, h]

theorem callbacks_release (id : MessageId) (l : Ledger κ) {p : Fate → Bool}
    (h : p (.inFlight id) = p .queued) : Ledger.callbacks (l.release id) p = l.callbacks p := by
  induction l with
  | nil => rfl
  | cons e rest ih =>
    rw [release, callbacks_cons]
    split
    case isTrue he => rw [callbacks_cons, h, he]
    case isFalse => rw [callbacks_cons, ih]

theorem callbacks_publish (l : Ledger κ) (id : MessageId) :
    (l.publish id).callbacks Fate.isAcknowledged = l.callbacks Fate.isAcknowledged := by
  rw [publish, callbacks_release id _ rfl, callbacks_change l (Fate.isAcknowledged_displace id)]

theorem count_publish (l : Ledger κ) (id : MessageId) :
    (l.publish id).count (· = .abandoned) = l.count (· = .abandoned) := by
  rw [publish, count_release id _ (by simp),
    count_change l fun fate => by simp only [Fate.abandoned_displace]]

theorem count_acknowledge (l : Ledger κ) (id : MessageId) :
    (l.acknowledge id).count (· = .abandoned) = l.count (· = .abandoned) :=
  count_change l fun fate => by simp only [Fate.abandoned_acknowledge]

theorem sent_acknowledge (l : Ledger κ) (id : MessageId) : (l.acknowledge id).sent = l.sent :=
  sent_change l (Fate.id?_acknowledge id)

theorem callbacks_accept (l : Ledger κ) (events : List (QueuedEvent κ)) :
    (l.accept events).callbacks Fate.isAcknowledged = l.callbacks Fate.isAcknowledged := by
  rw [accept, callbacks_append, (fates_of_all_queued events (p := Fate.isAcknowledged) rfl).1,
    List.append_nil]

theorem count_accept (l : Ledger κ) (events : List (QueuedEvent κ)) :
    (l.accept events).count (· = .abandoned) = l.count (· = .abandoned) := by
  rw [accept, count_append, (fates_of_all_queued events (by simp)).2, Nat.add_zero]

theorem sent_accept (l : Ledger κ) (events : List (QueuedEvent κ)) :
    (l.accept events).sent = l.sent := by
  rw [accept, sent_append, (views_of_all_queued events).2.2, List.append_nil]

/-- A loss abandons exactly the entries that are queued or in flight. -/
theorem count_abandon (l : Ledger κ) :
    l.abandon.count (· = .abandoned) =
      l.count (· = .abandoned) + (l.queued.length + l.inFlight.length) := by
  induction l with
  | nil => rfl
  | cons e rest ih =>
    obtain ⟨event, fate⟩ := e
    cases fate <;> simp [abandon, queued, inFlight, count, Fate.abandon] at ih ⊢ <;> omega

/-- A function of the ledger that one operation preserves is preserved by a fold of such
operations. -/
theorem view_foldl {β γ : Type} {g : Ledger κ → β → Ledger κ} (view : Ledger κ → γ)
    (h : ∀ l b, view (g l b) = view l) (bs : List β) (l : Ledger κ) :
    view (bs.foldl g l) = view l := by
  induction bs generalizing l with
  | nil => rfl
  | cons b rest ih => rw [List.foldl_cons, ih, h]

/-- A moment appends exactly its accepted events. -/
theorem map_event_after (l : Ledger κ) (x : Moment σ κ) :
    (l.after x).map Entry.event = l.map Entry.event ++ x.accepted := by
  let taken := l.accept x.accepted
  let acknowledged := x.acknowledged.foldl acknowledge taken
  let published := x.effects.sent.foldl (fun l p => Ledger.publish l p.2.2) acknowledged
  have htaken : taken.map Entry.event = l.map Entry.event ++ x.accepted := by
    simp [taken, accept, Function.comp_def]
  have hacknowledged : acknowledged.map Entry.event = taken.map Entry.event :=
    view_foldl (·.map Entry.event) (fun l id => map_event_change l _) _ _
  have hpublished : published.map Entry.event = acknowledged.map Entry.event :=
    view_foldl (·.map Entry.event)
      (fun l p => by rw [publish, map_event_release, map_event_change]) _ _
  have hafter : l.after x = if x.isLoss then published.abandon else published := rfl
  rw [hafter, ← htaken, ← hacknowledged, ← hpublished]
  split
  · exact map_event_change published _
  · rfl

section Final

variable {old : Ledger κ} (h : ∀ e ∈ old, e.fate.isFinal = true)
include h

theorem map_change_of_final {f : Fate → Fate} (hf : ∀ fate, fate.isFinal = true → f fate = fate) :
    old.map (.change f) = old := by
  have hsame : ∀ e ∈ old, e.change f = e := fun e he => by rw [Entry.change, hf e.fate (h e he)]
  rw [List.map_congr_left hsame, List.map_id']

theorem queued_of_final : old.queued = [] := by
  refine List.filterMap_eq_nil_iff.2 fun e he => if_neg fun hqueued => ?_
  have hfinal := h e he
  rw [hqueued] at hfinal
  cases hfinal

theorem acknowledge_append (l : Ledger κ) (id : MessageId) :
    Ledger.acknowledge (old ++ l) id = old ++ l.acknowledge id := by
  have hold := map_change_of_final h fun fate hfate =>
    (Fate.settles_acknowledge id).same fate fun hopen => by rw [hopen] at hfate; cases hfate
  rw [acknowledge, List.map_append, hold]
  rfl

theorem publish_append (l : Ledger κ) (id : MessageId) :
    Ledger.publish (old ++ l) id = old ++ l.publish id := by
  have hold := map_change_of_final h fun fate hfate =>
    (Fate.settles_displace id).same fate fun hopen => by rw [hopen] at hfate; cases hfate
  rw [publish, List.map_append, hold, release_append (queued_of_final h)]
  rfl

theorem abandon_append (l : Ledger κ) : Ledger.abandon (old ++ l) = old ++ l.abandon := by
  have hold : old.map (.change .abandon) = old :=
    map_change_of_final h fun fate hfate => by cases fate <;> first | rfl | cases hfate
  rw [abandon, List.map_append, hold]
  rfl

/-- Entries with final fates stay unchanged in front of the ledger. -/
theorem after_append (l : Ledger κ) (x : Moment σ κ) :
    Ledger.after (old ++ l) x = old ++ l.after x := by
  have haccept : Ledger.accept (old ++ l) x.accepted = old ++ l.accept x.accepted :=
    List.append_assoc ..
  let taken := l.accept x.accepted
  have hacknowledge : x.acknowledged.foldl acknowledge (old ++ taken) =
      old ++ x.acknowledged.foldl acknowledge taken :=
    List.foldl_hom (old ++ ·) (acknowledge_append h)
  have hpublish (l : Ledger κ) :
      x.effects.sent.foldl (fun l p => Ledger.publish l p.2.2) (old ++ l) =
        old ++ x.effects.sent.foldl (fun l p => Ledger.publish l p.2.2) l :=
    List.foldl_hom (old ++ ·) fun l p => publish_append h l p.2.2
  unfold after
  simp only [haccept, taken, hacknowledge, hpublish]
  split
  · exact abandon_append h _
  · rfl

end Final

end Ledger

/-- The ledger of a history, starting empty. -/
def History.ledger (h : History σ κ) : Ledger κ :=
  h.foldl Ledger.after []

/-- The payloads and identities of the accepted publish requests. -/
def History.sent (h : History σ κ) : List (Bytes × MessageId) :=
  h.flatMap fun x => x.effects.sent.map (·.2)

/-- The callbacks called in a history. -/
def History.completed (h : History σ κ) : List κ :=
  h.flatMap (·.effects.completed)

/-- The numbers reported to the observer of lost events. -/
def History.losses (h : History σ κ) : List Nat :=
  h.flatMap (·.effects.losses)

end HubLink.Transport
