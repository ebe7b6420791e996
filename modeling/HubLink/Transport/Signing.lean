import HubLink.Credential.Signer
import HubLink.Transport.Machine

namespace HubLink.Transport

/-- Signs a new token at the given time, with the expiry that the signer computes from it, and remarks
on the renewal. -/
def signedReply {σ : Type} (signer : Credential.Signer) (now : Int64) (world : σ) :
    Reply σ Credential.Error String :=
  match signer.signNow now with
  | .ok token =>
    { result := .ok token.text
      world
      asides := [.remark (.tokenSigned signer.deviceId token.expiry)] }
  | .error e => { result := .error e, world }

end HubLink.Transport
