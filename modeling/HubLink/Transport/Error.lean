import HubLink.Credential.Error
import HubLink.Transport.State

namespace HubLink.Transport

/-- A refusal of a provider. The constructors for failed requests carry the text of the underlying
network error. -/
inductive ProviderError where
  | connectionFailed (cause : String)
  | publishFailed (cause : String)
  | disconnectFailed (cause : String)
  | notConnected
  deriving DecidableEq

namespace ProviderError

/-- The wording of a refusal, without its cause. -/
def message : ProviderError → String
  | .connectionFailed _ => "Connection failed"
  | .publishFailed _ => "Publishing failed"
  | .disconnectFailed _ => "Disconnect failed"
  | .notConnected => "Provider has no active connection"

/-- The texts of the errors below a refusal. -/
def sources : ProviderError → List String
  | .connectionFailed cause | .publishFailed cause | .disconnectFailed cause => [cause]
  | .notConnected => []

end ProviderError

/-- A failed transport operation. -/
inductive TransportError where
  /-- The token request failed. -/
  | auth (error : Credential.Error)
  /-- The provider refused the request. -/
  | provider (error : ProviderError)
  /-- An event was sent in the disconnecting state. -/
  | disconnecting
  /-- The transport task has ended, so the call got no answer. -/
  | closed
  /-- The time limit passed before the state was published. -/
  | timeout (target : ConnectionState)
  deriving DecidableEq

namespace TransportError

/-- The wording of an error, without its causes. -/
def message : TransportError → String
  | .auth error => "Authentication failed: " ++ error.message
  | .provider error => "Provider rejected the request: " ++ error.message
  | .disconnecting => "Transport is disconnecting, event rejected"
  | .closed => "Transport task has stopped"
  | .timeout target => "Timed out waiting for " ++ target.name ++ " state"

/-- The wordings of the errors below an error, the nearest first. -/
def sources : TransportError → List String
  | .auth error => [error.message]
  | .provider error => error.message :: error.sources
  | .disconnecting | .closed | .timeout _ => []

end TransportError
end HubLink.Transport
