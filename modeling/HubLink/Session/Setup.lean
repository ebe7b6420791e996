import HubLink.Session.Provider
import HubLink.Transport.Handle

namespace HubLink.Transport

open Session

/-- The transport of a configuration, given the clock and the number of its task; an error if there is
no signer. -/
def Handle.ofConfig {κ : Type} (config : Config) (env : Config.Environment) (now : Int64)
    (number : Nat) : Except Config.Error (Handle Device κ) := do
  let signer ← config.signer env
  let provider : Provider := { options := .ofConfig config signer }
  return .ofMachine (machineOf config signer) { provider, signer, now } number

/-- The device id of a transport. -/
def Handle.deviceId {σ κ : Type} (h : Handle σ κ) : String :=
  h.task.machine.deviceId

end HubLink.Transport
