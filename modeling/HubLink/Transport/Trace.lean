import HubLink.Transport.Machine

namespace HubLink.Transport

/-- The effects of a machine, the oldest first. -/
abbrev Trace (κ : Type) := List (Effect κ)

/-- The notifications among the side effects of an answer. -/
def notifications (asides : List Aside) : List Notification :=
  asides.filterMap fun
    | .raise n => some n
    | .remark _ => none

@[simp] theorem notifications_nil : notifications [] = [] := rfl

@[simp] theorem notifications_raise (n : Notification) (rest : List Aside) :
    notifications (.raise n :: rest) = n :: notifications rest := rfl

@[simp] theorem notifications_remark (remark : Remark) (rest : List Aside) :
    notifications (.remark remark :: rest) = notifications rest := rfl

@[simp] theorem notifications_append (asides more : List Aside) :
    notifications (asides ++ more) = notifications asides ++ notifications more :=
  List.filterMap_append

/-- The messages that are acknowledged by notifications, in order. -/
def confirmed (notifications : List Notification) : List MessageId :=
  notifications.filterMap fun
    | .published id => some id
    | _ => none

@[simp] theorem confirmed_nil : confirmed [] = [] := rfl

@[simp] theorem confirmed_connected (rest : List Notification) :
    confirmed (.connected :: rest) = confirmed rest := rfl

@[simp] theorem confirmed_disconnected (rest : List Notification) :
    confirmed (.disconnected :: rest) = confirmed rest := rfl

@[simp] theorem confirmed_published (id : MessageId) (rest : List Notification) :
    confirmed (.published id :: rest) = id :: confirmed rest := rfl

@[simp] theorem confirmed_append (ns more : List Notification) :
    confirmed (ns ++ more) = confirmed ns ++ confirmed more :=
  List.filterMap_append

namespace Trace

variable {κ : Type}

/-- The tokens of the accepted connect requests. -/
def connects (t : Trace κ) : List String :=
  t.filterMap fun
    | .connect token (.ok ()) => some token
    | _ => none

/-- Topics and payloads of the accepted publishes. -/
def published (t : Trace κ) : List (String × Bytes) :=
  t.filterMap fun
    | .publish topic payload (.ok _) => some (topic, payload)
    | _ => none

/-- Topics, payloads and identities of the accepted publishes. -/
def sent (t : Trace κ) : List (String × Bytes × MessageId) :=
  t.filterMap fun
    | .publish topic payload (.ok id) => some (topic, payload, id)
    | _ => none

/-- The number of accepted disconnect requests. -/
def disconnects (t : Trace κ) : Nat :=
  t.countP fun
    | .disconnect (.ok ()) => true
    | _ => false

/-- The number of token requests, accepted or not. -/
def tokenRequests (t : Trace κ) : Nat :=
  t.countP fun
    | .token _ => true
    | _ => false

/-- The callbacks that were called. -/
def completed (t : Trace κ) : List κ :=
  t.filterMap fun
    | .complete callback => some callback
    | _ => none

/-- The callbacks that were dropped. -/
def discarded (t : Trace κ) : List κ :=
  t.filterMap fun
    | .discard callback => some callback
    | _ => none

/-- The notifications that the collaborators raised. -/
def raised (t : Trace κ) : List Notification :=
  t.filterMap fun
    | .aside (.raise n) => some n
    | _ => none

/-- The numbers of dropped events that were reported to the observer. -/
def losses (t : Trace κ) : List Nat :=
  t.filterMap fun
    | .report _ (.abandoned count) => some count
    | _ => none

/-- The remarks. -/
def remarks (t : Trace κ) : List Remark :=
  t.filterMap fun
    | .aside (.remark r) => some r
    | _ => none

@[simp] theorem raised_append (t u : Trace κ) : Trace.raised (t ++ u) = t.raised ++ u.raised :=
  List.filterMap_append

/-- The raised notifications of a trace of asides are those of the asides. -/
theorem raised_map_aside (asides : List Aside) :
    Trace.raised (asides.map .aside : Trace κ) = notifications asides := by
  unfold raised notifications
  rw [List.filterMap_map]
  congr 1
  funext aside
  cases aside <;> rfl

@[simp] theorem sent_append (t u : Trace κ) : Trace.sent (t ++ u) = t.sent ++ u.sent :=
  List.filterMap_append

@[simp] theorem completed_append (t u : Trace κ) :
    Trace.completed (t ++ u) = t.completed ++ u.completed :=
  List.filterMap_append

@[simp] theorem losses_append (t u : Trace κ) : Trace.losses (t ++ u) = t.losses ++ u.losses :=
  List.filterMap_append

/-- The accepted publishes without their identities. -/
theorem published_eq_map_sent (t : Trace κ) : t.published = t.sent.map fun p => (p.1, p.2.1) := by
  unfold published sent
  rw [List.map_filterMap]
  congr 1
  funext e
  cases e with
  | publish topic payload result => cases result <;> rfl
  | _ => rfl

end Trace
end HubLink.Transport
