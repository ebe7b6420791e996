import HubLink.Credential.Error
import HubLink.Digest.Base64
import HubLink.Digest.Hmac
import HubLink.Text.Blank
import HubLink.Text.Decimal
import HubLink.Text.Form

namespace HubLink.Credential

open Text Digest

/-- A signed token. The expiry is in seconds since 1970. -/
structure Token where
  resource : String
  signature : String
  expiry : Int64
  keyName : Option String
  deriving DecidableEq

namespace Token

/-- The decimal text of an expiry. -/
def expiryText (expiry : Int64) : String :=
  String.ofList (decimalInt expiry.toInt)

/-- The resource URI of a device. -/
def deviceResource (hostName deviceId : String) : String :=
  hostName ++ "/devices/" ++ deviceId

/-- The text that is signed: the encoded resource URI and the expiry, on two lines. -/
def signedText (resource : String) (expiry : Int64) : String :=
  Form.encode resource ++ "\n" ++ expiryText expiry

/-- The bytes of a base64 key; white space around it is ignored. -/
def keyBytes? (key : String) : Option Bytes :=
  Base64.decode? (trim key.toList)

/-- Signs a token with a base64 key; an error if the key cannot be decoded. -/
def sign (resource key : String) (keyName : Option String) (expiry : Int64) :
    Except Error Token :=
  match keyBytes? key with
  | none => .error .badKey
  | some bytes =>
    let mac := Hmac.sign bytes (utf8 (signedText resource expiry))
    .ok { resource, signature := String.ofList (Base64.encode mac), expiry, keyName }

/-- The scheme in front of the fields. -/
def scheme : String := "SharedAccessSignature "

/-- The text of a token. -/
def text (t : Token) : String :=
  scheme ++ "sr=" ++ Form.encode t.resource ++ "&sig=" ++ Form.encode t.signature ++
    "&se=" ++ expiryText t.expiry ++
    match t.keyName with
    | some name => "&skn=" ++ Form.encode name
    | none => ""

end Token
end HubLink.Credential
