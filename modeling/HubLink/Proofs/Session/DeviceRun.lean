import HubLink.Proofs.Session.Device

namespace HubLink.Session

open Mqtt Transport

variable {L κ : Type}

/-- What the network does to a connection. -/
inductive LinkNews where
  | accept
  | refuse (code : Nat)
  | fail
  | receive (bytes : Bytes)

/-- The connection after the news, and the side effects. -/
def LinkNews.reach (n : LinkNews) (c : Connection) : Connection × List Aside :=
  match n with
  | .accept => c.accept
  | .refuse code => c.refuse code
  | .fail => c.fail
  | .receive bytes => c.receive bytes

theorem Connection.plays_reach (n : LinkNews) (c : Connection) :
    c.Plays c.orders (n.reach c) (n.reach c).1.orders := by
  cases n with
  | accept => exact c.plays_accept
  | refuse code => exact c.plays_refuse code
  | fail => exact c.plays_fail
  | receive bytes => exact c.plays_receive bytes

namespace Exchange

/-- News for the first connection that has not ended are news for its session, and no other session
changes. -/
theorem hearAll_changeFirst {x : Exchange L} {numbers : List Nat} {cs : List Connection}
    (n : LinkNews) (hnodup : numbers.Nodup) (h : List.Forall₂ x.Has numbers cs) :
    ∃ news, (x.hearAll news).2 = (Provider.changeFirst Connection.isAlive n.reach cs).2 ∧
      (∀ i ∉ numbers, (x.hearAll news).1.lines[i]? = x.lines[i]?) ∧
      List.Forall₂ (x.hearAll news).1.Has numbers
        (Provider.changeFirst Connection.isAlive n.reach cs).1 := by
  induction h with
  | nil => exact ⟨[], rfl, fun _ _ => rfl, .nil⟩
  | @cons k c numbers cs hfirst hrest ih =>
    obtain ⟨hne, hnodup⟩ := List.nodup_cons.1 hnodup
    obtain ⟨l, hl, hfollows⟩ := hfirst
    cases halive : c.isAlive with
    | true =>
      obtain ⟨script, hscript⟩ := c.plays_reach n
      obtain ⟨hplayed, hasides⟩ := hscript l hfollows
      obtain ⟨hk, -⟩ := List.getElem?_eq_some_iff.1 hl
      refine ⟨script.map (·.news k), ?_⟩
      simp only [Provider.changeFirst, halive, if_true, hearAll_play x hl script]
      refine ⟨hasides, fun i hi => ?_, .cons ⟨_, List.getElem?_set_self hk, hplayed⟩
        (has_of_kept (x := x) (fun i hi m hm => ?_) hrest)⟩
      · exact List.getElem?_set_ne (by rintro rfl; exact hi (List.mem_cons_self ..))
      · rwa [List.getElem?_set_ne (by rintro rfl; exact hne hi)]
    | false =>
      obtain ⟨news, hasides, hother, hall⟩ := ih hnodup
      simp only [Provider.changeFirst, halive, Bool.false_eq_true, if_false]
      refine ⟨news, hasides, fun i hi => hother i fun hmem => ?_,
        .cons ⟨l, (hother k hne).trans hl, hfollows⟩ hall⟩
      exact hi (List.mem_cons_of_mem _ hmem)

/-- Reading a due packet changes nothing that a session records. -/
theorem Has.readDue {x : Exchange L} {k : Nat} {c : Connection} (h : x.Has k c) :
    x.Has k c.readDue.2 := by
  obtain ⟨l, hl, hfollows⟩ := h
  refine ⟨l, hl, ?_⟩
  unfold Connection.readDue
  split <;> exact ⟨hfollows.isStopped, hfollows.reader, hfollows.unsent⟩

/-- Dropping some connections keeps a sublist of the session numbers. -/
theorem has_filter {x : Exchange L} {numbers : List Nat} {cs : List Connection}
    (h : List.Forall₂ x.Has numbers cs) (p : Connection → Bool) :
    ∃ fewer, fewer.Sublist numbers ∧ List.Forall₂ x.Has fewer (cs.filter p) := by
  induction h with
  | nil => exact ⟨[], .slnil, .nil⟩
  | @cons k c numbers cs hfirst hrest ih =>
    obtain ⟨fewer, hfewer, hall⟩ := ih
    by_cases hp : p c = true
    · rw [List.filter_cons_of_pos hp]
      exact ⟨k :: fewer, hfewer.cons_cons k, .cons hfirst hall⟩
    · rw [List.filter_cons_of_neg hp]
      exact ⟨fewer, hfewer.cons k, hall⟩

namespace Shows

variable {x : Exchange (Device × Nat)} {d : Device}

/-- News on the link of the device are news for one session of the exchange, with the same side
effects. -/
theorem onLink (h : x.Shows d) (n : LinkNews) :
    ∃ news network, (({ x with network } : Exchange _).hearAll news).2 = (d.onLink n.reach).2 ∧
      (({ x with network } : Exchange _).hearAll news).1.Shows (d.onLink n.reach).1 := by
  obtain ⟨numbers, hother, hnodup, hall⟩ := h.leaving
  let before : Exchange (Device × Nat) :=
    { x with network := ((d.onLink n.reach).1, x.lines.length) }
  cases hlive : d.provider.session.filter Connection.isAlive with
  | some c =>
    obtain ⟨hsession, -⟩ := Option.filter_eq_some_iff.1 hlive
    obtain ⟨-, hnone⟩ | ⟨k, c', hcurrent, hsession', hlast, l, hl, hfollows⟩ := h.session
    · rw [hnone] at hsession
      cases hsession
    · obtain rfl : c' = c := Option.some.inj (hsession'.symm.trans hsession)
      obtain ⟨script, hscript⟩ := c'.plays_reach n
      obtain ⟨hplayed, hasides⟩ := hscript l hfollows
      have hdevice : d.onLink n.reach =
          ({ d with provider := { d.provider with session := some (n.reach c').1 } },
            (n.reach c').2) := by
        simp only [Device.onLink, Provider.onLink, hlive]
      refine ⟨script.map (·.news k), before.network, ?_⟩
      rw [hearAll_play before hl script, hdevice]
      refine ⟨hasides, h.set hcurrent hlast hplayed rfl rfl ?_ h.nextId rfl rfl⟩
      simp only [before, hdevice]
  | none =>
    -- No session goes on, so the news reach the first connection that still has to end, if any.
    have hdevice : d.onLink n.reach =
        ({ d with provider := { d.provider with
            leaving := (Provider.changeFirst Connection.isAlive n.reach d.provider.leaving).1 } },
          (Provider.changeFirst Connection.isAlive n.reach d.provider.leaving).2) := by
      simp only [Device.onLink, Provider.onLink, hlive]
    obtain ⟨news, hasides, hkept, hchanged⟩ := hearAll_changeFirst (x := before) n hnodup hall
    have hears := before.hears_hearAll news
    refine ⟨news, before.network, hasides.trans ?_, ?_, ?_, ?_, numbers, ?_, hnodup, ?_⟩
    · rw [hdevice]
    · exact hears.network.trans (congrArg _ hears.length.symm)
    · rw [hdevice]
      exact hears.nextId.trans h.nextId
    · rw [hdevice]
      obtain ⟨hcurrent, hsession⟩ | ⟨k, c, hcurrent, hsession, hlast, l, hl, hfollows⟩ := h.session
      · exact .inl ⟨hears.current.trans hcurrent, hsession⟩
      · exact .inr ⟨k, c, hears.current.trans hcurrent, hsession, hlast.trans hears.length.symm, l,
          (hkept k (hother k hcurrent)).trans hl, hfollows⟩
    · rw [hears.current]
      exact hother
    · rw [hdevice]
      exact hchanged

/-- Dropping connections that were asked to end preserves `Shows`. -/
theorem giveUpSome (h : x.Shows d) {leaving : List Connection}
    (hleaving : ∀ numbers, List.Forall₂ x.Has numbers d.provider.leaving →
      ∃ fewer, fewer.Sublist numbers ∧ List.Forall₂ x.Has fewer leaving) :
    Shows
      { x with network := ({ d with provider := { d.provider with leaving } }, x.lines.length) }
      { d with provider := { d.provider with leaving } } := by
  obtain ⟨numbers, hother, hnodup, hall⟩ := h.leaving
  obtain ⟨fewer, hfewer, hkept⟩ := hleaving numbers hall
  exact ⟨rfl, h.nextId, h.session, fewer, fun k hk hmem => hother k hk (hfewer.subset hmem),
    hnodup.sublist hfewer, hkept⟩

/-- Reading a due packet preserves `Shows`. -/
theorem readDue (h : x.Shows d) :
    ({ x with network := (d.readDue.2, x.lines.length) } : Exchange _).Shows d.readDue.2 := by
  cases hsession : d.provider.session with
  | some c =>
    have hdevice : d.readDue.2 =
        { d with provider := { d.provider with session := some c.readDue.2 } } := by
      simp only [Device.readDue, Provider.readDue, hsession]
    obtain ⟨-, hnone⟩ | ⟨k, c', hcurrent, hsession', hlast, hhas⟩ := h.session
    · rw [hnone] at hsession
      cases hsession
    · obtain rfl : c' = c := Option.some.inj (hsession'.symm.trans hsession)
      rw [hdevice]
      exact ⟨rfl, h.nextId, .inr ⟨k, _, hcurrent, rfl, hlast, hhas.readDue⟩, h.leaving⟩
  | none =>
    cases hdue : d.provider.leaving.filter fun c => !c.due.isEmpty with
    | nil =>
      have hdevice : d.readDue.2 = { d with provider := { d.provider with
          leaving := d.provider.leaving.filter Connection.isAlive } } := by
        simp only [Device.readDue, Provider.readDue, hsession, hdue]
      rw [hdevice]
      exact h.giveUpSome fun numbers hall => has_filter hall _
    | cons c rest =>
      have hdevice : d.readDue.2 =
          { d with provider := { d.provider with leaving := c.readDue.2 :: rest } } := by
        simp only [Device.readDue, Provider.readDue, hsession, hdue]
      rw [hdevice]
      refine h.giveUpSome fun numbers hall => ?_
      obtain ⟨fewer, hfewer, hkept⟩ := has_filter hall fun c => !c.due.isEmpty
      rw [hdue] at hkept
      cases hkept with
      | cons hfirst hrest => exact ⟨_, hfewer, .cons hfirst.readDue hrest⟩

/-- A change of the clock preserves `Shows`. -/
theorem clock (h : x.Shows d) (now : Int64) :
    ({ x with network := ({ d with now }, x.lines.length) } : Exchange _).Shows { d with now } :=
  ⟨rfl, h.nextId, h.session, h.leaving⟩

/-- If all sessions of the exchange have ended, the device has no link. -/
theorem isLinked (h : x.Shows d) (hdone : ∀ l ∈ x.lines, l.reader.isDone = true) :
    d.provider.isLinked = false := by
  have hover {k : Nat} {c : Connection} (hhas : x.Has k c) : c.isAlive = false := by
    obtain ⟨l, hl, hfollows⟩ := hhas
    simp [Connection.isAlive, ← hfollows.reader, hdone l (List.mem_of_getElem? hl)]
  have hleaving : ∀ c ∈ d.provider.leaving, c.isAlive = false := by
    obtain ⟨numbers, -, -, hall⟩ := h.leaving
    generalize d.provider.leaving = leaving at hall
    induction hall with
    | nil => simp
    | cons hfirst _ ih => simpa [hover hfirst] using ih
  obtain ⟨-, hsession⟩ | ⟨k, c, -, hsession, -, hhas⟩ := h.session
  · simpa [Provider.isLinked, hsession] using hleaving
  · simpa [Provider.isLinked, hsession, hover hhas] using hleaving

end Shows
end Exchange

/-- One move of the transport of a device. -/
inductive DeviceMove (κ : Type) where
  | submit (command : Command κ)
  /-- The application drops its handle. -/
  | close
  | link (news : LinkNews)
  /-- The broker reads a packet. -/
  | readDue
  /-- The clock changes. -/
  | clock (now : Int64)
  /-- The task takes a step, if there is one. -/
  | work

namespace Device

/-- The task after a move, with the happenings of the move. -/
def move (fails : Effect κ → Option String) (t : Task Device κ) :
    DeviceMove κ → Task Device κ × List (Happening κ)
  | .submit command => t.submit command
  | .close => (t.close, [])
  | .link news =>
    let (world, asides) := t.world.onLink news.reach
    { t with world }.hear asides
  | .readDue => ({ t with world := t.world.readDue.2 }, [])
  | .clock now => ({ t with world := { t.world with now } }, [])
  | .work => (t.step? fails collaborators).getD (t, [])

/-- The task after a sequence of moves. -/
def moveAll (fails : Effect κ → Option String) (t : Task Device κ) (moves : List (DeviceMove κ)) :
    Task Device κ :=
  moves.foldl (fun t m => (move fails t m).1) t

end Device

/-- Scene and task are equal except for their collaborators, and the exchange shows the device. -/
structure Scene.Shows (s : Scene (Device × Nat) κ) (t : Task Device κ) : Prop where
  task : t = s.task.beside t.world
  world : s.task.world.Shows t.world

/-- Each move of the transport is a move of the scene with the same happenings. -/
theorem Scene.Shows.move {s : Scene (Device × Nat) κ} {t : Task Device κ} (h : s.Shows t)
    (fails : Effect κ → Option String) (m : DeviceMove κ) :
    ∃ m', (s.move fails Device.network m').2 = (Device.move fails t m).2 ∧
      (s.move fails Device.network m').1.Shows (Device.move fails t m).1 := by
  obtain ⟨htask, hworld⟩ := h
  generalize t.world = v at htask hworld
  subst htask
  cases m with
  | submit command =>
    refine ⟨.submit command, ?_⟩
    simp only [Scene.move, Device.move, Task.submit_beside]
    unfold Task.submit
    split <;> exact ⟨trivial, rfl, hworld⟩
  | close => exact ⟨.close, rfl, rfl, hworld⟩
  | link news =>
    obtain ⟨happened, network, hasides, hshows⟩ := hworld.onLink news
    refine ⟨.news happened network, ?_⟩
    let heard := ({ s.task.world with network } : Exchange _).hearAll happened
    have hover := Task.hear_beside { s.task with world := heard.1 } (v.onLink news.reach).1 heard.2
    obtain ⟨mailbox, hmailbox, -⟩ := Task.hear_task { s.task with world := heard.1 } heard.2
    have hdevice : Device.move fails (s.task.beside v) (.link news) =
        ({ s.task with world := heard.1 }.beside (v.onLink news.reach).1).hear heard.2 := by
      simp only [Device.move, heard, hasides]
      rfl
    rw [hdevice, hover]
    refine ⟨rfl, rfl, ?_⟩
    change Exchange.Shows (Task.hear { s.task with world := heard.1 } heard.2).1.world _
    rw [hmailbox]
    exact hshows
  | readDue =>
    refine ⟨.news [] (v.readDue.2, s.task.world.lines.length), rfl, rfl, ?_⟩
    exact hworld.readDue
  | clock now =>
    refine ⟨.news [] ({ v with now }, s.task.world.lines.length), rfl, rfl, ?_⟩
    exact hworld.clock now
  | work =>
    refine ⟨.work, ?_⟩
    have hstep := Task.step?_beside Device.collaborators_like hworld fails
    simp only [Scene.move, Device.move]
    cases hnext : s.task.step? fails (Exchange.collaborators Device.network) with
    | none =>
      rw [hnext] at hstep
      rw [hstep]
      exact ⟨rfl, rfl, hworld⟩
    | some stepped =>
      obtain ⟨u, seen⟩ := stepped
      rw [hnext] at hstep
      obtain ⟨w, hw, hstep⟩ := hstep
      rw [hstep]
      exact ⟨rfl, rfl, hw⟩

/-- Every reachable task of a device is shown by a consistent scene. -/
theorem exists_scene_shows (fails : Effect κ → Option String) (moves : List (DeviceMove κ))
    {s : Scene (Device × Nat) κ} {t : Task Device κ} (h : s.Shows t) (hs : s.Consistent) :
    ∃ s' : Scene (Device × Nat) κ, s'.Shows (Device.moveAll fails t moves) ∧ s'.Consistent := by
  induction moves generalizing s t with
  | nil => exact ⟨s, h, hs⟩
  | cons first rest ih =>
    obtain ⟨m, -, hshows⟩ := h.move fails first
    exact ih hshows (hs.move fails Device.network m)

/-- A device asks for a connection only when it has no link that has not ended, it has a session in
the connecting and connected states, and `NotConnected` is never answered. -/
theorem device_in_step (fails : Effect κ → Option String) (deviceId : String)
    (policy : ConnectPolicy) (observers : Observers κ) (options : Options)
    (signer : Credential.Signer) (now : Int64) (number : Nat) (moves : List (DeviceMove κ))
    (m : DeviceMove κ) :
    let t := Device.moveAll fails (Task.ofMachine (.fresh deviceId policy observers)
      { provider := { options }, signer, now } number) moves
    (∀ token result, .effect (.connect token result) ∈ (Device.move fails t m).2 →
        t.world.provider.isLinked = false) ∧
      (t.machine.state = .connecting ∨ t.machine.state = .connected →
        t.world.provider.session.isSome = true) ∧
      (t.next? = some .disconnected → t.machine.state ≠ .disconnected) ∧
      ∀ ticket, .answer ticket (.done (.error (.provider .notConnected))) ∉
        (Device.move fails t m).2 := by
  intro t
  let device : Device := { provider := { options }, signer, now }
  let origin : Scene (Device × Nat) κ := .start (.fresh deviceId policy observers) (device, 0) number
  have horigin : origin.Shows (Task.ofMachine (.fresh deviceId policy observers) device number) :=
    ⟨rfl, rfl, rfl, .inl ⟨rfl, rfl⟩, [], by simp, List.nodup_nil, .nil⟩
  have hstart : origin.Consistent := ⟨.fresh _, fun _ => ⟨.fresh _, rfl⟩⟩
  obtain ⟨s, hshows, hs⟩ := exists_scene_shows fails moves horigin hstart
  have hshows : s.Shows t := hshows
  obtain ⟨m', hseen, -⟩ := hshows.move fails m
  have hshow := hs.mayShow_move fails Device.network m'
  rw [hseen] at hshow
  have hmachine : t.machine = s.task.machine := congrArg Task.machine hshows.task
  have hnext : t.next? = s.task.next? := by
    rw [hshows.task]
    rfl
  refine ⟨fun token result he => ?_, fun hstate => ?_, fun hn => ?_, fun ticket he => hshow _ he⟩
  · have hstate : s.task.machine.state = .disconnected := hshow _ he
    exact hshows.world.isLinked (hs.aligned.rest hstate).1
  · rw [hmachine] at hstate
    obtain ⟨hcurrent, -⟩ | ⟨k, c, -, hsession, -⟩ := hshows.world.session
    · have hheld := hs.aligned.held hstate
      rw [hcurrent] at hheld
      cases hheld
    · rw [hsession]
      rfl
  · rw [hnext] at hn
    rw [hmachine]
    exact hs.inStep.expected hn

end HubLink.Session
