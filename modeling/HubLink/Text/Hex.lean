import HubLink.Text.Bytes

namespace HubLink.Text

/-- The hexadecimal digit of a number below 16, with capital letters. -/
def hexDigit (n : Nat) : Char :=
  if n < 10 then Char.ofNat (0x30 + n) else Char.ofNat (0x41 + (n - 10))

/-- The hexadecimal digit of a number below 16, with small letters. -/
def hexDigitLower (n : Nat) : Char :=
  if n < 10 then Char.ofNat (0x30 + n) else Char.ofNat (0x61 + (n - 10))

/-- The value of a hexadecimal digit in either case. -/
def hexValue? (c : Char) : Option Nat :=
  let n := c.toNat
  if 0x30 ≤ n ∧ n ≤ 0x39 then some (n - 0x30)
  else if 0x41 ≤ n ∧ n ≤ 0x46 then some (n - 0x41 + 10)
  else if 0x61 ≤ n ∧ n ≤ 0x66 then some (n - 0x61 + 10)
  else none

theorem hexValue?_hexDigit {n : Nat} (h : n < 16) : hexValue? (hexDigit n) = some n := by
  have : ∀ m : Fin 16, hexValue? (hexDigit m) = some m.val := by decide
  exact this ⟨n, h⟩

/-- The two hexadecimal digits of a byte, with small letters. -/
def hexByte (b : UInt8) : List Char :=
  [hexDigitLower (b.toNat / 16), hexDigitLower (b.toNat % 16)]

/-- The hexadecimal digits of a number, with small letters and without leading zeros. -/
def hexNat (n : Nat) : List Char :=
  Nat.toDigits 16 n

/-- The bytes of a text of hexadecimal digits. -/
def bytesOfHex? : List Char → Option Bytes
  | [] => some []
  | [_] => none
  | high :: low :: rest => do
    let h ← hexValue? high
    let l ← hexValue? low
    let bytes ← bytesOfHex? rest
    return UInt8.ofNat (16 * h + l) :: bytes

end HubLink.Text
