import HubLink.Text.Hex

namespace HubLink.Text.Form

/-- Whether a byte is not escaped in `application/x-www-form-urlencoded`: letters, digits and
`*-._`. -/
def isPlain (b : UInt8) : Bool :=
  let n := b.toNat
  (0x30 ≤ n && n ≤ 0x39) || (0x41 ≤ n && n ≤ 0x5A) || (0x61 ≤ n && n ≤ 0x7A) ||
    n == 0x2A || n == 0x2D || n == 0x2E || n == 0x5F

/-- The encoding of a byte; a space becomes a plus sign. -/
def encodeByte (b : UInt8) : List Char :=
  if isPlain b then [Char.ofNat b.toNat]
  else if b = 0x20 then ['+']
  else ['%', hexDigit (b.toNat / 16), hexDigit (b.toNat % 16)]

/-- The encoding of bytes. -/
def encodeBytes (bytes : Bytes) : List Char :=
  bytes.flatMap encodeByte

/-- The form encoding of a text. -/
def encode (s : String) : String :=
  String.ofList (encodeBytes (utf8 s))

/-- Decodes to bytes. A percent sign without two hexadecimal digits and characters beyond ASCII are
rejected. -/
def decodeBytes? : List Char → Option Bytes
  | [] => some []
  | '+' :: rest => (decodeBytes? rest).map (0x20 :: ·)
  | '%' :: high :: low :: rest => do
    let h ← hexValue? high
    let l ← hexValue? low
    let bytes ← decodeBytes? rest
    return UInt8.ofNat (16 * h + l) :: bytes
  | c :: rest =>
    if c = '%' ∨ 0x80 ≤ c.toNat then none
    else (decodeBytes? rest).map (UInt8.ofNat c.toNat :: ·)

/-- Decodes a form-encoded text. -/
def decode? (form : List Char) : Option String :=
  (decodeBytes? form).bind ofUtf8?

end HubLink.Text.Form
