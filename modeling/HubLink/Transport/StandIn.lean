import HubLink.Transport.Signing

namespace HubLink.Transport

/-- The source of a stand-in's tokens. -/
inductive TokenSource where
  /-- Each request yields this token. -/
  | fixed (token : String)
  /-- Each request fails, as with a key that is not Base64. -/
  | badKey
  /-- Each request signs a new token, always at the same time. -/
  | signer (signer : Credential.Signer) (now : Int64)
  deriving DecidableEq

/-- The kinds of request that a stand-in can be made to refuse. -/
inductive Refusable where
  | connect
  | publish
  | disconnect
  deriving DecidableEq

/-- A stand-in for both collaborators of a machine. It refuses the kinds of request it is told to and
accepts all others; messages are numbered from zero. -/
structure StandIn where
  tokens : TokenSource
  /-- Whether each accepted request raises its notification from within the request. -/
  isResponsive : Bool := false
  refusesConnect : Bool := false
  refusesPublish : Bool := false
  refusesDisconnect : Bool := false
  /-- The identity of the next accepted publish. -/
  nextId : MessageId := ⟨0⟩
  deriving DecidableEq

namespace StandIn

/-- The constant token for a device. -/
def fixedToken (deviceId : String) : String :=
  "SharedAccessSignature sr=beauxbatons.academy-net%2Fdevices%2F" ++ deviceId ++ "&sig=mock&se=0"

/-- Makes the stand-in refuse or accept a kind of request from now on. -/
def refuse (s : StandIn) (kind : Refusable) (refuses : Bool) : StandIn :=
  match kind with
  | .connect => { s with refusesConnect := refuses }
  | .publish => { s with refusesPublish := refuses }
  | .disconnect => { s with refusesDisconnect := refuses }

/-- Numbers messages from zero again. -/
def reset (s : StandIn) : StandIn :=
  { s with nextId := ⟨0⟩ }

/-- Accepts a request with a value, and raises `n` if the stand-in is responsive. -/
def accept {α : Type} (s : StandIn) (value : α) (n : Notification) : Reply StandIn ProviderError α where
  result := .ok value
  world := s
  asides := if s.isResponsive then [.raise n] else []

/-- Answers a token request from the stand-in's source. -/
def token (s : StandIn) : Reply StandIn Credential.Error String :=
  match s.tokens with
  | .fixed token => { result := .ok token, world := s }
  | .badKey => { result := .error .badKey, world := s }
  | .signer signer now => signedReply signer now s

/-- Answers a connect request. -/
def connect (_token : String) (s : StandIn) : Reply StandIn ProviderError Unit :=
  if s.refusesConnect then
    { result := .error (.connectionFailed "Mock connection failure"), world := s }
  else s.accept () .connected

/-- Answers a publish request, and gives an accepted message the next identity. -/
def publish (_topic : String) (_payload : Bytes) (s : StandIn) :
    Reply StandIn ProviderError MessageId :=
  if s.refusesPublish then
    { result := .error (.publishFailed "Mock publish failure"), world := s }
  else { s with nextId := s.nextId.next }.accept s.nextId (.published s.nextId)

/-- Answers a disconnect request. -/
def disconnect (s : StandIn) : Reply StandIn ProviderError Unit :=
  if s.refusesDisconnect then
    { result := .error (.disconnectFailed "Mock disconnect failure"), world := s }
  else s.accept () .disconnected

/-- The stand-in as token provider and network provider. -/
def collaborators : Collaborators StandIn where
  token := token
  connect := connect
  publish := publish
  disconnect := disconnect

end StandIn
end HubLink.Transport
