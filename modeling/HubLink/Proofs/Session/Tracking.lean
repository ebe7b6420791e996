import HubLink.Proofs.Session.Alignment
import Mathlib.Algebra.Ring.Nat

namespace HubLink.Session

open Mqtt Transport

variable {L : Type}

/-- In the last session, the messages of the table and those with an unhandled acknowledgement are
distinct, and each is `known` to the machine or one of `making`. -/
def Tracked (handled : Nat) (known making : List MessageId) (x : Exchange L) : Prop :=
  ∀ (k : Nat) (l : Line), k + 1 = x.lines.length → x.lines[k]? = some l →
    l.Holds making ∧ (l.messages ++ confirmed (x.unhandled handled)).Nodup ∧
      ∀ id ∈ l.messages ++ confirmed (x.unhandled handled), id ∈ known ∨ id ∈ making

namespace Tracked

variable {handled : Nat} {s : ConnectionState} {x : Exchange L} {known making : List MessageId}

theorem mono (h : Tracked handled known making x) {more : List MessageId}
    (hmore : ∀ id ∈ known, id ∈ more) : Tracked handled more making x := by
  intro k l hk hl
  obtain ⟨hholds, hnodup, hknown⟩ := h k l hk hl
  exact ⟨hholds, hnodup, fun id hid => (hknown id hid).imp_left (hmore id)⟩

/-- Reading in a session preserves `Tracked`. -/
theorem read (h : Tracked handled known making x) (ha : Aligned handled s x) {k : Nat} {l l' : Line}
    {raised : List Notification} (hl : x.lines[k]? = some l) (hreads : l.Reads l' raised) :
    Tracked handled known making
      { x with lines := x.lines.set k l', raised := x.raised ++ raised.map (k, ·) } := by
  intro i m hi hm
  rw [List.length_set] at hi
  have hunhandled : Exchange.unhandled
      { x with lines := x.lines.set k l', raised := x.raised ++ raised.map (k, ·) } handled =
        x.unhandled handled ++ raised := by
    simp [Exchange.unhandled, List.drop_append_of_le_length ha.handled_le, Function.comp_def]
  rw [hunhandled, confirmed_append]
  by_cases hik : i = k
  · subst hik
    obtain rfl : m = l' := by grind
    obtain ⟨hholds, hnodup, hknown⟩ := h i l hi hl
    have hsub : (m.messages ++ (confirmed (x.unhandled handled) ++ confirmed raised)).Subperm
        (l.messages ++ confirmed (x.unhandled handled)) := by
      have hall := hreads.messages.append (List.Subperm.refl (confirmed (x.unhandled handled)))
      refine List.Subperm.trans (List.Perm.subperm ?_) hall
      rw [List.append_assoc]
      exact List.Perm.append_left _ List.perm_append_comm
    refine ⟨hreads.holds making hholds, ?_, fun id hid => hknown id (hsub.subset hid)⟩
    obtain ⟨part, hperm, hpart⟩ := hsub
    exact hperm.nodup_iff.1 (hnodup.sublist hpart)
  · -- The session that reads on is not the last one, so it has ended and raises nothing.
    have hold : x.lines[i]? = some m := by grind
    have hdone : l.reader.isDone = true := by
      obtain ⟨hlt, -⟩ := List.getElem?_eq_some_iff.1 hl
      exact ha.earlier k l hl (by omega)
    obtain ⟨-, rfl⟩ := hreads.done hdone
    simpa using h i m hi hold

theorem hear (h : Tracked handled known making x) (ha : Aligned handled s x) (news : News) :
    Tracked handled known making (x.hear news).1 := by
  cases news with
  | remark remark => exact h
  | event k e =>
    unfold Exchange.hear
    cases hl : x.lines[k]? with
    | none => simpa [hl] using h
    | some l => simpa [hl] using h.read ha hl (l.reads_read e)

theorem hearAll (h : Tracked handled known making x) (ha : Aligned handled s x) (news : List News) :
    Tracked handled known making (x.hearAll news).1 := by
  induction news generalizing x with
  | nil => exact h
  | cons first rest ih => exact ih (h.hear ha first) (ha.hear first)

/-- A change of the last session preserves `Tracked`, if it does so for its own messages. -/
theorem change (h : Tracked handled known making x) {k : Nat} (hk : k + 1 = x.lines.length)
    {f : Line → Line} {known' making' : List MessageId}
    (hf : ∀ l, l.Holds making → (l.messages ++ confirmed (x.unhandled handled)).Nodup →
      (∀ id ∈ l.messages ++ confirmed (x.unhandled handled), id ∈ known ∨ id ∈ making) →
      (f l).Holds making' ∧ ((f l).messages ++ confirmed (x.unhandled handled)).Nodup ∧
        ∀ id ∈ (f l).messages ++ confirmed (x.unhandled handled), id ∈ known' ∨ id ∈ making') :
    Tracked handled known' making' (x.change k f) := by
  unfold Exchange.change
  cases hl : x.lines[k]? with
  | none =>
    rw [List.getElem?_eq_none_iff] at hl
    omega
  | some l =>
    intro i m hi hm
    rw [List.length_set] at hi
    obtain rfl : i = k := by omega
    obtain rfl : m = f l := by grind
    obtain ⟨hholds, hnodup, hknown⟩ := h i l hk hl
    exact hf l hholds hnodup hknown

/-- Noting the next message adds it to `making`. -/
theorem note (h : Tracked handled known [] x) {k : Nat} (hk : k + 1 = x.lines.length)
    (hfresh : x.nextId ∉ known) : Tracked handled known [x.nextId] (x.note k) := by
  suffices Tracked handled known [x.nextId] (x.change k (·.request x.nextId)) from this
  refine h.change hk fun l hholds hnodup hknown => ?_
  obtain ⟨taken, hawaiting, htaken⟩ := hholds
  have hmessages : ((l.request x.nextId).messages ++ confirmed (x.unhandled handled)).Perm
      (x.nextId :: (l.messages ++ confirmed (x.unhandled handled))) := by
    simp only [Line.messages, Line.request, PacketIds.messages, PacketIds.request,
      List.append_assoc, List.singleton_append]
    exact List.perm_middle
  have hknown (id' : MessageId) (hid : id' ∈ l.messages ++ confirmed (x.unhandled handled)) :
      id' ∈ known := by simpa using hknown id' hid
  refine ⟨⟨taken, ?_, htaken⟩, ?_, fun id' hid => ?_⟩
  · simpa [Line.request, PacketIds.request] using hawaiting
  · exact hmessages.nodup_iff.2 (List.nodup_cons.2 ⟨fun hid => hfresh (hknown _ hid), hnodup⟩)
  · obtain hnew | hid := List.mem_cons.1 (hmessages.subset hid)
    · exact .inr (List.mem_singleton.2 hnew)
    · exact .inl (hknown id' hid)

/-- If the request is taken, the message moves from `making` to `known`. -/
theorem take {id : MessageId} (h : Tracked handled known [id] x) {k : Nat}
    (hk : k + 1 = x.lines.length) : Tracked handled (id :: known) [] (x.settle k id true) := by
  refine h.change hk fun l hholds hnodup hknown => ?_
  obtain ⟨taken, hawaiting, htaken⟩ := hholds
  refine ⟨⟨taken ++ [id], by simpa [Line.take] using hawaiting, ?_⟩, hnodup, fun id' hid => ?_⟩
  · simpa [Line.take] using htaken
  · have hmem := hknown id' hid
    simp only [List.mem_singleton] at hmem
    simpa using hmem.symm

/-- If the request fails, the message is removed. -/
theorem forget {id : MessageId} (h : Tracked handled known [id] x) {k : Nat}
    (hk : k + 1 = x.lines.length) : Tracked handled known [] (x.settle k id false) := by
  refine h.change hk fun l hholds hnodup hknown => ?_
  obtain ⟨taken, hawaiting, htaken⟩ := hholds
  have hmessages : (l.messages ++ confirmed (x.unhandled handled)).Perm
      (id :: (taken ++ l.reader.ids.bound.map (·.2) ++ confirmed (x.unhandled handled))) := by
    simp only [Line.messages, PacketIds.messages, hawaiting, List.append_assoc,
      List.singleton_append]
    exact List.perm_middle
  obtain ⟨hfresh, hrest⟩ := List.nodup_cons.1 (hmessages.nodup_iff.1 hnodup)
  have hkept : (taken ++ [id]).filter (· ≠ id) = taken := by
    have htaken : ∀ id' ∈ taken, id' ≠ id := by
      rintro id' hid rfl
      exact hfresh (by simp [hid])
    simpa [List.filter_append] using htaken
  have hleft : (l.forget id).messages = taken ++ l.reader.ids.bound.map (·.2) := by
    simp only [Line.messages, Line.forget, PacketIds.messages, PacketIds.forget, hawaiting, hkept]
  simp only [Bool.false_eq_true, if_false, hleft]
  refine ⟨⟨taken, ?_, htaken⟩, hrest, fun id' hid => .inl ?_⟩
  · simpa [Line.forget, PacketIds.forget, hawaiting] using hkept
  · have hmem := hknown id' (hmessages.symm.subset (List.mem_cons_of_mem id hid))
    have hne : id' ≠ id := by
      rintro rfl
      exact hfresh hid
    simpa [hne] using hmem

/-- A new session has no messages. -/
theorem start (ha : Aligned handled .disconnected x) (known : List MessageId) :
    Tracked handled known [] x.start := by
  intro k l hk hl
  have hunhandled : x.start.unhandled handled = [] := by
    simp [Exchange.unhandled, Exchange.start, (ha.rest rfl).2]
  obtain rfl : l = {} := by
    simp only [Exchange.start, List.length_append, List.length_singleton] at hk hl
    obtain rfl : k = x.lines.length := by omega
    simpa using hl.symm
  rw [hunhandled]
  exact ⟨⟨[], rfl, Nat.le_refl 0⟩, List.nodup_nil, by simp [Line.messages, PacketIds.messages]⟩

/-- An unhandled `published` is for a known message; handling it removes the message from `known`. -/
theorem handle_published (h : Tracked handled known [] x) (ha : Aligned handled s x)
    {id : MessageId} {rest : List Notification}
    (hnext : x.unhandled handled = .published id :: rest) :
    id ∈ known ∧ Tracked (handled + 1) (known.filter (· ≠ id)) [] x := by
  have hmessages (l : Line) : (l.messages ++ confirmed (x.unhandled handled)).Perm
      (id :: (l.messages ++ confirmed rest)) := by
    rw [hnext, confirmed_published]
    exact List.perm_middle
  obtain ⟨-, hrest, -⟩ := ha.next hnext
  constructor
  · obtain ⟨-, hopen⟩ := ha.handled_lt hnext
    obtain ⟨k, l, -, hk, hl, -, -⟩ := ha.ends hopen
    obtain ⟨-, -, hknown⟩ := h k l hk hl
    simpa using hknown id ((hmessages l).symm.subset (List.mem_cons_self ..))
  · intro k l hk hl
    obtain ⟨hholds, hnodup, hknown⟩ := h k l hk hl
    obtain ⟨hfresh, hnodup⟩ := List.nodup_cons.1 ((hmessages l).nodup_iff.1 hnodup)
    rw [hrest]
    refine ⟨hholds, hnodup, fun id' hid => .inl ?_⟩
    have hmem := hknown id' ((hmessages l).symm.subset (List.mem_cons_of_mem id hid))
    have hne : id' ≠ id := by
      rintro rfl
      exact hfresh hid
    simpa [hne] using hmem

/-- Handling any other notification preserves `Tracked`. -/
theorem handle_other (h : Tracked handled known [] x) (ha : Aligned handled s x)
    {n : Notification} {rest : List Notification} (hnext : x.unhandled handled = n :: rest)
    (hn : confirmed [n] = []) : Tracked (handled + 1) known [] x := by
  obtain ⟨-, hrest, -⟩ := ha.next hnext
  have hconfirmed : confirmed (x.unhandled handled) = confirmed rest := by
    rw [hnext, ← List.singleton_append, confirmed_append, hn, List.nil_append]
  intro k l hk hl
  rw [hrest, ← hconfirmed]
  exact h k l hk hl

end Tracked

/-- Each known message has the identity of a request before the next one, in the session started
last. -/
def Numbered (known : List MessageId) (x : Exchange L) : Prop :=
  ∀ id ∈ known, ∃ n < x.requested, id.number + UInt64.ofNat (n + 1) = x.nextId.number

namespace Numbered

variable {x : Exchange L} {known : List MessageId}

/-- The next identity is not known, if fewer than `2 ^ 64` messages were requested in the session. -/
theorem fresh (h : Numbered known x) (hcount : x.requested < 2 ^ 64) : x.nextId ∉ known := by
  intro hmem
  obtain ⟨n, hn, hid⟩ := h _ hmem
  have hnumber := congrArg UInt64.toNat hid
  simp only [UInt64.toNat_add, UInt64.toNat_ofNat'] at hnumber
  have hbound := x.nextId.number.toNat_lt
  omega

theorem mono (h : Numbered known x) {fewer : List MessageId} (hfewer : ∀ id ∈ fewer, id ∈ known) :
    Numbered fewer x :=
  fun id hid => h id (hfewer id hid)

theorem of_eq (h : Numbered known x) {y : Exchange L} (hnext : y.nextId = x.nextId)
    (hrequested : y.requested = x.requested) : Numbered known y := by
  intro id hid
  rw [hnext, hrequested]
  exact h id hid

/-- A request appends its identity and advances the count by 1. -/
theorem request (h : Numbered known x) {y : Exchange L} (hnext : y.nextId = x.nextId.next)
    (hrequested : y.requested = x.requested + 1) : Numbered (x.nextId :: known) y := by
  intro id hid
  rw [hnext, hrequested, MessageId.next]
  obtain rfl | hid := List.mem_cons.1 hid
  · exact ⟨0, Nat.succ_pos _, rfl⟩
  · obtain ⟨n, hn, hid⟩ := h id hid
    refine ⟨n + 1, Nat.succ_lt_succ hn, ?_⟩
    rw [UInt64.ofNat_add (n + 1), ← UInt64.add_assoc, hid]
    rfl

end Numbered

/-- The exchange agrees with a machine in state `s` with the messages `known` in flight, which has
handled the first `handled` notifications. -/
structure Fits (handled : Nat) (s : ConnectionState) (known : List MessageId) (x : Exchange L) :
    Prop where
  aligned : Aligned handled s x
  idle : s = .disconnected → known = []
  numbered : Numbered known x
  tracked : s ≠ .disconnected → x.requested ≤ 2 ^ 64 → Tracked handled known [] x

namespace Fits

variable {handled : Nat} {s : ConnectionState} {x : Exchange L} {known : List MessageId}

theorem fresh (network : L) : Fits 0 .disconnected [] { network : Exchange L } :=
  ⟨.fresh network, fun _ => rfl, by simp [Numbered], fun hs => absurd rfl hs⟩

theorem congr (h : Fits handled s known x) {known' : List MessageId}
    (hknown : ∀ id, id ∈ known ↔ id ∈ known') : Fits handled s known' x := by
  refine ⟨h.aligned, fun hs => ?_, h.numbered.mono fun id => (hknown id).2,
    fun hs hcount => (h.tracked hs hcount).mono fun id => (hknown id).1⟩
  have hnone := h.idle hs
  exact List.eq_nil_iff_forall_not_mem.2 fun id hid => by simpa [hnone] using (hknown id).2 hid

theorem hearAll (h : Fits handled s known x) (news : List News) :
    Fits handled s known (x.hearAll news).1 := by
  have hears := x.hears_hearAll news
  refine ⟨h.aligned.hearAll news, h.idle, h.numbered.of_eq hears.nextId hears.requested,
    fun hs hcount => ?_⟩
  rw [hears.requested] at hcount
  exact (h.tracked hs hcount).hearAll h.aligned news

theorem token (h : Fits handled s known x) (i : Interval) :
    Fits handled s known (x.token i).world :=
  h.hearAll i.before

/-- After a connect request the exchange fits a connecting machine if it was accepted, and a
disconnected one otherwise. The answer is not `notConnected`. -/
theorem connect (h : Fits handled .disconnected known x) (i : Interval) :
    Fits handled (if (x.connect i).result.isOk then .connecting else .disconnected) known
      (x.connect i).world ∧ (x.connect i).result ≠ .error .notConnected := by
  have hheard := h.hearAll i.before
  unfold Exchange.connect
  cases i.isTaken with
  | false => exact ⟨hheard, by simp⟩
  | true =>
    have hstart := hheard.aligned.giveUp
    have hstarted : Fits handled .connecting known (x.hearAll i.before).1.giveUp.start :=
      ⟨hstart.start, by simp, by simp [h.idle rfl, Numbered], fun _ _ => .start hstart known⟩
    exact ⟨hstarted.hearAll i.after, by simp⟩

/-- After an accepted publish request the exchange fits the machine with one more message in flight;
after a refused one it fits the same machine. The answer is not `notConnected`. -/
theorem publish (h : Fits handled .connected known x) (i : Interval) :
    (∃ id, (x.publish i).result = .ok id ∧
        Fits handled .connected (id :: known) (x.publish i).world) ∨
      ∃ e, (x.publish i).result = .error e ∧ e ≠ .notConnected ∧
        Fits handled .connected known (x.publish i).world := by
  obtain ⟨k, hcurrent⟩ := Option.isSome_iff_exists.1 (h.aligned.held (.inr rfl))
  have hlast := h.aligned.current k hcurrent
  let heard := ((x.note k).hearAll i.before).1
  have hbefore : Exchange.Hears (x.note k) heard _ := (x.note k).hears_hearAll i.before
  have hafter (isTaken : Bool) := (heard.settle k x.nextId isTaken).hears_hearAll i.after
  have hnoted := h.aligned.note k
  have hsettled := (hnoted.hearAll i.before).settle k x.nextId
  have hrequested (isTaken : Bool) :
      ((heard.settle k x.nextId isTaken).hearAll i.after).1.requested = x.requested + 1 :=
    (hafter isTaken).requested.trans hbefore.requested
  have hnumbered (isTaken : Bool) : Numbered (x.nextId :: known)
      ((heard.settle k x.nextId isTaken).hearAll i.after).1 :=
    h.numbered.request ((hafter isTaken).nextId.trans hbefore.nextId) (hrequested isTaken)
  have hmaking (hcount : x.requested + 1 ≤ 2 ^ 64) : Tracked handled known [x.nextId] heard :=
    ((h.tracked (by simp) (by omega)).note hlast (h.numbered.fresh hcount)).hearAll hnoted i.before
  have hlastHeard : k + 1 = heard.lines.length := by
    rw [hbefore.length, hlast]
    exact (x.change_length k _).symm
  simp only [Exchange.publish, hcurrent]
  cases i.isTaken with
  | true =>
    refine .inl ⟨x.nextId, rfl, (hsettled true).hearAll i.after, by simp, hnumbered true,
      fun _ hcount => ?_⟩
    have htracked := (hmaking (hrequested true ▸ hcount)).take hlastHeard
    exact htracked.hearAll (hsettled true) i.after
  | false =>
    refine .inr ⟨_, rfl, by simp, (hsettled false).hearAll i.after, by simp,
      (hnumbered false).mono fun id => List.mem_cons_of_mem _, fun _ hcount => ?_⟩
    have htracked := (hmaking (hrequested false ▸ hcount)).forget hlastHeard
    exact htracked.hearAll (hsettled false) i.after

/-- After an accepted disconnect request the exchange fits a disconnecting machine; after a refused
one it fits the same machine. The answer is not `notConnected`. -/
theorem disconnect (h : Fits handled s known x) (hs : s = .connecting ∨ s = .connected)
    (i : Interval) :
    Fits handled (if (x.disconnect i).result.isOk then .disconnecting else s) known
      (x.disconnect i).world ∧ (x.disconnect i).result ≠ .error .notConnected := by
  obtain ⟨k, hcurrent⟩ := Option.isSome_iff_exists.1 (h.aligned.held hs)
  have hheard := (h.hearAll i.before).hearAll i.after
  have hopen : s ≠ .disconnected := by obtain rfl | rfl := hs <;> simp
  simp only [Exchange.disconnect, hcurrent]
  cases i.isTaken with
  | true =>
    exact ⟨⟨hheard.aligned.release hs, by simp [Except.isOk, Except.toBool],
      hheard.numbered.of_eq rfl rfl, fun _ => hheard.tracked hopen⟩, by simp⟩
  | false => exact ⟨hheard, by simp⟩

/-- A change of the network's state preserves `Fits`. -/
theorem drift (h : Fits handled s known x) (network : L) :
    Fits handled s known { x with network } :=
  ⟨h.aligned.recount _ _ _, h.idle, h.numbered.of_eq rfl rfl, h.tracked⟩

/-- Handling `connected` preserves `Fits`. -/
theorem handle_connected (h : Fits handled s known x) {rest : List Notification}
    (hnext : x.unhandled handled = .connected :: rest) {s' : ConnectionState}
    (hs' : s' = s ∨ s = .connecting ∧ s' = .connected) : Fits (handled + 1) s' known x := by
  obtain ⟨-, hopen⟩ := h.aligned.handled_lt hnext
  have hopen' : s' ≠ .disconnected := by
    obtain rfl | ⟨-, rfl⟩ := hs'
    · exact hopen
    · simp
  exact ⟨h.aligned.handle hnext (by simp) hs', fun hs => absurd hs hopen', h.numbered,
    fun _ hcount => (h.tracked hopen hcount).handle_other h.aligned hnext rfl⟩

/-- Handling `published` is for a known message, up to `2 ^ 64` requests, and removes it. -/
theorem handle_published (h : Fits handled s known x) {id : MessageId} {rest : List Notification}
    (hnext : x.unhandled handled = .published id :: rest) :
    (x.requested ≤ 2 ^ 64 → id ∈ known) ∧
      Fits (handled + 1) s (known.filter (· ≠ id)) x := by
  obtain ⟨-, hopen⟩ := h.aligned.handled_lt hnext
  refine ⟨fun hcount => ?_, h.aligned.handle hnext (by simp) (.inl rfl),
    fun hs => absurd hs hopen, h.numbered.mono fun id' hid => List.mem_of_mem_filter hid,
    fun _ hcount => ?_⟩
  · exact ((h.tracked hopen hcount).handle_published h.aligned hnext).1
  · exact ((h.tracked hopen hcount).handle_published h.aligned hnext).2

/-- Handling `disconnected` leads to a disconnected machine without messages in flight. -/
theorem handle_end (h : Fits handled s known x) {rest : List Notification}
    (hnext : x.unhandled handled = .disconnected :: rest) :
    s ≠ .disconnected ∧ Fits (handled + 1) .disconnected [] x := by
  obtain ⟨hopen, haligned⟩ := h.aligned.handle_end hnext
  exact ⟨hopen, haligned, fun _ => rfl, by simp [Numbered], fun hs => absurd rfl hs⟩

end Fits
end HubLink.Session
