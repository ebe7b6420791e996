import HubLink.Digest.Sha256

namespace HubLink.Digest.Hmac

/-- A key as one block of 64 bytes; a longer key is hashed first. -/
def keyBlock (key : Bytes) : Bytes :=
  let short := if 64 < key.length then Sha256.hash key else key
  short ++ List.replicate (64 - short.length) 0

/-- The HMAC-SHA-256 of a message. -/
def sign (key message : Bytes) : Bytes :=
  let block := keyBlock key
  let inner := Sha256.hash (block.map (· ^^^ 0x36) ++ message)
  Sha256.hash (block.map (· ^^^ 0x5C) ++ inner)

theorem length_sign (key message : Bytes) : (sign key message).length = 32 :=
  Sha256.length_hash _

end HubLink.Digest.Hmac
