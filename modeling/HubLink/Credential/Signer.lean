import HubLink.Credential.ConnectionString
import HubLink.Credential.Token

namespace HubLink.Credential

open Text

/-- The sum of two 64-bit integers, saturating at both ends. -/
def addSaturating (a b : Int64) : Int64 :=
  Int64.ofInt (max Int64.minValue.toInt (min (a.toInt + b.toInt) Int64.maxValue.toInt))

/-- A lifetime as a signed 64-bit integer, at most the largest one. -/
def clampLifetime (seconds : UInt64) : Int64 :=
  if seconds.toNat ≤ Int64.maxValue.toInt.toNat then Int64.ofNat seconds.toNat else Int64.maxValue

/-- The signer of tokens for one device. -/
structure Signer where
  connectionString : ConnectionString
  /-- The lifetime of a token in seconds. -/
  lifetime : UInt64 := 3600
  deriving DecidableEq

namespace Signer

/-- The signer for a connection string, with the default lifetime. -/
def ofConnectionString (text : String) : Except Error Signer := do
  return { connectionString := ← ConnectionString.parse text }

/-- The device for which tokens are signed. -/
def deviceId (s : Signer) : String :=
  s.connectionString.deviceId

/-- The hub for which tokens are signed, also with a gateway. -/
def hostName (s : Signer) : String :=
  s.connectionString.hostName

/-- Signs a token with the given expiry. -/
def sign (s : Signer) (expiry : Int64) : Except Error Token :=
  Token.sign (Token.deviceResource s.hostName s.deviceId) s.connectionString.sharedAccessKey
    s.connectionString.sharedAccessKeyName expiry

/-- The expiry of a token signed at `now`. -/
def expiryAt (s : Signer) (now : Int64) : Int64 :=
  addSaturating now (clampLifetime s.lifetime)

/-- Signs a token at `now`. -/
def signNow (s : Signer) (now : Int64) : Except Error Token :=
  s.sign (s.expiryAt now)

/-- The debug text of a signer. -/
def shown (s : Signer) : String :=
  showRecord "SymmetricKeyAuthenticationProvider"
    [("connection_string", s.connectionString.shown),
     ("token_ttl", showSeconds s.lifetime.toNat)]

end Signer
end HubLink.Credential
