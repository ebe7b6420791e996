import HubLink.Session.Options

namespace HubLink.Session

/-- A duration, in nanoseconds. -/
structure Duration where
  nanoseconds : Nat
  deriving DecidableEq

/-- A duration of whole seconds. -/
def Duration.ofSeconds (seconds : UInt64) : Duration :=
  ⟨seconds.toNat * 1000000000⟩

/-- A duration greater than zero and less than one second. -/
def Duration.IsFraction (d : Duration) : Prop :=
  0 < d.nanoseconds ∧ d.nanoseconds < 1000000000

theorem Duration.not_isFraction_ofSeconds (seconds : UInt64) : ¬ (ofSeconds seconds).IsFraction := by
  rintro ⟨hpositive, hshort⟩
  simp only [ofSeconds] at hpositive hshort
  omega

/-- The options of an MQTT client while they are set. -/
structure Draft where
  clientId : String
  host : String
  port : UInt16
  /-- The user name and the password. -/
  credentials : Option (String × String) := none
  keepAlive : Duration := .ofSeconds 60
  cleanSession : Bool := true
  /-- The maximum size of an incoming packet, in bytes. -/
  maxIncoming : Nat := 10 * 1024
  /-- The maximum size of an outgoing packet, in bytes. -/
  maxOutgoing : Nat := 10 * 1024
  useTls : Bool := false
  deriving DecidableEq

/-- One setter call with its argument. -/
inductive Setting where
  | credentials (userName password : String)
  | keepAlive (silence : Duration)
  | cleanSession (clean : Bool)
  | maxPacketSize (incoming outgoing : Nat)
  | tls
  deriving DecidableEq

/-- The assertion of a setter that fails. -/
inductive Refusal where
  | keepAlive
  | cleanSession
  deriving DecidableEq

/-- Applies a setter; `refuses` says which keep-alives its assertion rejects. -/
def Draft.set (refuses : Duration → Bool) (d : Draft) : Setting → Except Refusal Draft
  | .credentials userName password => .ok { d with credentials := some (userName, password) }
  | .keepAlive silence =>
    if refuses silence then .error .keepAlive else .ok { d with keepAlive := silence }
  | .cleanSession clean =>
    if d.clientId = "" ∧ clean = false then .error .cleanSession
    else .ok { d with cleanSession := clean }
  | .maxPacketSize incoming outgoing =>
    .ok { d with maxIncoming := incoming, maxOutgoing := outgoing }
  | .tls => .ok { d with useTls := true }

/-- The setter calls for one connection attempt with a token, in order. -/
def Options.settings (o : Options) (token : String) : List Setting :=
  [.credentials o.userName token, .keepAlive (.ofSeconds o.keepAlive), .cleanSession false,
    .maxPacketSize maxPacketSize maxPacketSize] ++ if o.useTls then [.tls] else []

/-- Applies all settings for a connection attempt with a token. -/
def Options.draft (refuses : Duration → Bool) (o : Options) (token : String) :
    Except Refusal Draft :=
  (o.settings token).foldlM (Draft.set refuses)
    { clientId := o.deviceId, host := o.hostName, port := o.port }

/-- The options of a client with the given login. -/
def Login.draft (l : Login) : Draft where
  clientId := l.clientId
  host := l.host
  port := l.port
  credentials := some (l.userName, l.password)
  keepAlive := .ofSeconds l.keepAlive
  cleanSession := l.cleanSession
  maxIncoming := maxPacketSize
  maxOutgoing := maxPacketSize
  useTls := l.useTls

/-- If the keep-alive is not refused, the settings of a device with a name give the options of its
login; without a name, the setter of the clean session refuses. -/
theorem Options.draft_eq (refuses : Duration → Bool) (o : Options) (token : String)
    (hkeepAlive : refuses (.ofSeconds o.keepAlive) = false) :
    o.draft refuses token =
      match o.login? token with
      | some login => .ok login.draft
      | none => .error .cleanSession := by
  by_cases hname : o.deviceId = ""
  · simp [draft, settings, login?, hname, Draft.set, hkeepAlive, bind, Except.bind]
  · cases htls : o.useTls <;>
      simp [draft, settings, login?, hname, htls, Draft.set, hkeepAlive, bind, Except.bind, Login.draft,
        pure, Except.pure]

end HubLink.Session
