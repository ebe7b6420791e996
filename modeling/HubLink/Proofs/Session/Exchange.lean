import HubLink.Proofs.Session.Line

namespace HubLink.Session

open Mqtt Transport

/-- Something that happens by itself: an event of a session, or a remark. -/
inductive News where
  /-- An event in the session with the given number. -/
  | event (line : Nat) (e : Event)
  | remark (remark : Remark)

/-- One request to the provider or the signer. -/
inductive Inquiry where
  | token
  | connect (token : String)
  | publish (topic : String) (payload : Bytes)
  | disconnect

/-- Everything about a request that the provider does not decide: what happens around it, and its
outcome. -/
structure Interval where
  /-- The answer of the signer. -/
  token : Except Credential.Error String := .ok ""
  /-- The news before the request is taken or refused. -/
  before : List News := []
  /-- Whether the request is taken. -/
  isTaken : Bool := false
  /-- The cause of a refusal. -/
  cause : String := ""
  /-- The news after that, before the answer is returned. -/
  after : List News := []

/-- A provider with all sessions that it has started, over a network with state `L`. -/
structure Exchange (L : Type) where
  /-- The sessions, the oldest first. -/
  lines : List Line := []
  /-- The number of the session that takes requests. -/
  current : Option Nat := none
  nextId : MessageId := ⟨0⟩
  /-- The number of messages requested in the session started last. -/
  requested : Nat := 0
  /-- All notifications with the numbers of the sessions that raised them, the oldest first. -/
  raised : List (Nat × Notification) := []
  network : L

/-- A network: the interval of each request, and the state after it. -/
abbrev Network (L : Type) := Inquiry → L → Interval × L

namespace Exchange

variable {L : Type}

/-- The exchange after one piece of news, and the side effects. -/
def hear (x : Exchange L) : News → Exchange L × List Aside
  | .remark remark => (x, [.remark remark])
  | .event n e =>
    match x.lines[n]? with
    | none => (x, [])
    | some l =>
      let (l, asides) := l.read e
      ({ x with
         lines := x.lines.set n l
         raised := x.raised ++ (notifications asides).map (n, ·) }, asides)

/-- The exchange after several pieces of news, in order. -/
def hearAll : List News → Exchange L → Exchange L × List Aside
  | [], x => (x, [])
  | news :: rest, x =>
    let (x, asides) := x.hear news
    let (x, more) := x.hearAll rest
    (x, asides ++ more)

/-- Changes the session with number `n`. -/
def change (x : Exchange L) (n : Nat) (f : Line → Line) : Exchange L :=
  { x with
    lines := match x.lines[n]? with
      | none => x.lines
      | some l => x.lines.set n (f l) }

/-- Gives up the current session: its reader is stopped. -/
def giveUp (x : Exchange L) : Exchange L :=
  { x with
    lines := match x.current with
      | none => x.lines
      | some n => (x.change n .stop).lines
    current := none }

/-- Starts a session and makes it the current one. -/
def start (x : Exchange L) : Exchange L :=
  { x with lines := x.lines ++ [{}], current := some x.lines.length, requested := 0 }

/-- The signer's answer, with the news around it. -/
def token (i : Interval) (x : Exchange L) : Reply (Exchange L) Credential.Error String :=
  let (x, asides) := x.hearAll i.before
  { result := i.token, world := x, asides }

/-- Gives up the current session and starts a new one, or refuses. -/
def connect (i : Interval) (x : Exchange L) : Reply (Exchange L) ProviderError Unit :=
  let (x, asides) := x.hearAll i.before
  if i.isTaken then
    let (x, more) := x.giveUp.start.hearAll i.after
    { result := .ok (), world := x, asides := asides ++ more }
  else { result := .error (.connectionFailed i.cause), world := x, asides }

/-- Notes the next message in session `n`, before its request is made. -/
def note (n : Nat) (x : Exchange L) : Exchange L :=
  { x.change n (·.request x.nextId) with
    nextId := x.nextId.next
    requested := x.requested + 1 }

/-- Settles the request of `id`: it was taken, or it has failed and the message is forgotten. -/
def settle (n : Nat) (id : MessageId) (isTaken : Bool) (x : Exchange L) : Exchange L :=
  x.change n (if isTaken then .take else (·.forget id))

/-- Requests a message in the current session. Without a session the answer is `notConnected`. -/
def publish (i : Interval) (x : Exchange L) : Reply (Exchange L) ProviderError MessageId :=
  match x.current with
  | none => { result := .error .notConnected, world := x }
  | some n =>
    let id := x.nextId
    let (x, asides) := (x.note n).hearAll i.before
    let (x, more) := (x.settle n id i.isTaken).hearAll i.after
    { result := if i.isTaken then .ok id else .error (.publishFailed i.cause)
      world := x
      asides := asides ++ more }

/-- Asks the current session to end. If the request is taken, there is no current session any more. -/
def disconnect (i : Interval) (x : Exchange L) : Reply (Exchange L) ProviderError Unit :=
  match x.current with
  | none => { result := .error .notConnected, world := x }
  | some _ =>
    let (x, asides) := x.hearAll i.before
    let (x, more) := x.hearAll i.after
    if i.isTaken then
      { result := .ok (), world := { x with current := none }, asides := asides ++ more }
    else { result := .error (.disconnectFailed i.cause), world := x, asides := asides ++ more }

/-- Answers a request with the interval that the network gives. -/
def ask {ε α : Type} (network : Network L) (inquiry : Inquiry)
    (answer : Interval → Exchange L → Reply (Exchange L) ε α) (x : Exchange L) :
    Reply (Exchange L) ε α :=
  let (i, network) := network inquiry x.network
  answer i { x with network }

/-- An exchange as the two collaborators of a machine. -/
def collaborators (network : Network L) : Collaborators (Exchange L) where
  token := ask network .token token
  connect text := ask network (.connect text) connect
  publish topic payload := ask network (.publish topic payload) publish
  disconnect := ask network .disconnect disconnect

/-- From `x` to `y` only readers have read: the notifications of `asides` were raised, and nothing
else changed but the lines. -/
structure Hears (x y : Exchange L) (asides : List Aside) : Prop where
  current : y.current = x.current
  nextId : y.nextId = x.nextId
  requested : y.requested = x.requested
  network : y.network = x.network
  length : y.lines.length = x.lines.length
  raised : y.raised.map (·.2) = x.raised.map (·.2) ++ notifications asides

theorem hears_hear (x : Exchange L) (news : News) : x.Hears (x.hear news).1 (x.hear news).2 := by
  cases news with
  | remark remark => exact ⟨rfl, rfl, rfl, rfl, rfl, by simp [hear]⟩
  | event k e =>
    cases hl : x.lines[k]? with
    | none =>
      simp only [hear, hl]
      exact ⟨rfl, rfl, rfl, rfl, rfl, by simp⟩
    | some l =>
      simp only [hear, hl]
      exact ⟨rfl, rfl, rfl, rfl, by simp, by simp [Function.comp_def]⟩

theorem hears_hearAll (x : Exchange L) (news : List News) :
    x.Hears (x.hearAll news).1 (x.hearAll news).2 := by
  induction news generalizing x with
  | nil => exact ⟨rfl, rfl, rfl, rfl, rfl, by simp [hearAll]⟩
  | cons first rest ih =>
    have hfirst := x.hears_hear first
    have hrest := ih (x.hear first).1
    refine ⟨hrest.current.trans hfirst.current, hrest.nextId.trans hfirst.nextId,
      hrest.requested.trans hfirst.requested, hrest.network.trans hfirst.network,
      hrest.length.trans hfirst.length, ?_⟩
    simp [hearAll, hrest.raised, hfirst.raised]

@[simp] theorem change_length (x : Exchange L) (n : Nat) (f : Line → Line) :
    (x.change n f).lines.length = x.lines.length := by
  unfold change
  cases x.lines[n]? <;> simp

/-- The notifications raised during a request are those among the side effects of its reply. -/
def Tells {ε α : Type} (x : Exchange L) (reply : Reply (Exchange L) ε α) : Prop :=
  reply.world.raised.map (·.2) = x.raised.map (·.2) ++ notifications reply.asides

theorem tells_token (x : Exchange L) (i : Interval) : x.Tells (x.token i) :=
  (x.hears_hearAll i.before).raised

theorem tells_connect (x : Exchange L) (i : Interval) : x.Tells (x.connect i) := by
  have hbefore := x.hears_hearAll i.before
  have hafter := (x.hearAll i.before).1.giveUp.start.hears_hearAll i.after
  unfold Tells connect
  cases i.isTaken with
  | true => simpa [giveUp, start, hbefore.raised] using hafter.raised
  | false => exact hbefore.raised

theorem tells_publish (x : Exchange L) (i : Interval) : x.Tells (x.publish i) := by
  unfold Tells publish
  cases x.current with
  | none => simp
  | some n =>
    have hbefore := (x.note n).hears_hearAll i.before
    let settled := ((x.note n).hearAll i.before).1.settle n x.nextId i.isTaken
    have hafter := settled.hears_hearAll i.after
    have hraised : settled.raised.map (·.2) =
        x.raised.map (·.2) ++ notifications ((x.note n).hearAll i.before).2 := hbefore.raised
    simpa [hraised] using hafter.raised

theorem tells_disconnect (x : Exchange L) (i : Interval) : x.Tells (x.disconnect i) := by
  unfold Tells disconnect
  cases x.current with
  | none => simp
  | some n =>
    have hbefore := x.hears_hearAll i.before
    have hafter := (x.hearAll i.before).1.hears_hearAll i.after
    have hraised := hafter.raised
    rw [hbefore.raised, List.append_assoc, ← notifications_append] at hraised
    cases i.isTaken <;> exact hraised

end Exchange
end HubLink.Session
