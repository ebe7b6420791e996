namespace HubLink.Text

/-- The value of a decimal digit. -/
def digitValue? (c : Char) : Option Nat :=
  let n := c.toNat
  if 0x30 ≤ n ∧ n ≤ 0x39 then some (n - 0x30) else none

/-- Whether a character is a decimal digit. -/
def isDigit (c : Char) : Bool :=
  (digitValue? c).isSome

/-- The number of a list of digits in base `base`; `value?` gives the value of a digit. -/
def numeral? (base : Nat) (value? : Char → Option Nat) (digits : List Char) : Option Nat :=
  if digits.isEmpty then none
  else digits.foldlM (fun sum c => (value? c).map (base * sum + ·)) 0

/-- The number of a list of decimal digits, where leading zeros are allowed. -/
def decimal? (digits : List Char) : Option Nat :=
  numeral? 10 digitValue? digits

/-- The decimal digits of a number. -/
def decimal (n : Nat) : List Char :=
  Nat.toDigits 10 n

/-- The decimal text of an integer. -/
def decimalInt (n : Int) : List Char :=
  if n < 0 then '-' :: decimal n.natAbs else decimal n.natAbs

/-- The number below `bound` of a text of digits with an optional plus sign. -/
def boundedDecimal? (bound : Nat) (text : List Char) : Option Nat := do
  let digits := match text with
    | '+' :: rest => rest
    | other => other
  let n ← decimal? digits
  if n < bound then some n else none

end HubLink.Text
