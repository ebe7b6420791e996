import HubLink.Text.Hex
import HubLink.Toml.Value

namespace HubLink.Toml

open Text Number

/-- The sign of a number, `true` for minus, and the text behind it. -/
def splitSign : List Char → Option Bool × List Char
  | '+' :: rest => (some false, rest)
  | '-' :: rest => (some true, rest)
  | text => (none, text)

/-- The digits of a text with single underscores between digits. -/
def digitGroups? (isDigit : Char → Bool) : List Char → Option (List Char)
  | [] => none
  | [c] => if isDigit c then some [c] else none
  | c :: '_' :: rest => if isDigit c then (digitGroups? isDigit rest).map (c :: ·) else none
  | c :: rest => if isDigit c then (digitGroups? isDigit rest).map (c :: ·) else none

/-- Decimal digits without a leading zero, or a single zero. -/
def wholeDigits? (text : List Char) : Option (List Char) := do
  let digits ← digitGroups? isDigit text
  if digits.head? = some '0' ∧ text.length ≠ 1 then none else some digits

/-- An integer value if it is in range. -/
def integerOf? (n : Int) : Option Value :=
  if isInteger n then some (.integer n) else none

/-- The value of a digit in base 2, 8 or 16. -/
def baseDigit? (base : Nat) (c : Char) : Option Nat :=
  (hexValue? c).filter (· < base)

/-- An integer in base 2, 8 or 16, without its prefix. -/
def basedInteger? (base : Nat) (text : List Char) : Option Value := do
  let digits ← digitGroups? (fun c => (baseDigit? base c).isSome) text
  let n ← numeral? base (baseDigit? base) digits
  integerOf? n

/-- A decimal integer. -/
def decimalInteger? (text : List Char) : Option Value := do
  let (sign, body) := splitSign text
  let digits ← wholeDigits? body
  let n ← decimal? digits
  integerOf? (if sign = some true then -(n : Int) else n)

/-- An integer in any base. -/
def integer? : List Char → Option Value
  | '0' :: 'x' :: rest => basedInteger? 16 rest
  | '0' :: 'o' :: rest => basedInteger? 8 rest
  | '0' :: 'b' :: rest => basedInteger? 2 rest
  | text => decimalInteger? text

/-- The exponent of a float, where leading zeros are allowed. -/
def exponent? (text : List Char) : Option Int := do
  let (sign, body) := splitSign text
  let digits ← digitGroups? isDigit body
  let n ← decimal? digits
  return if sign = some true then -(n : Int) else n

/-- Whether a character starts an exponent. -/
def isExponentMark (c : Char) : Bool :=
  c == 'e' || c == 'E'

/-- A decimal float with a fraction, an exponent or both. A number beyond the largest finite one is
rejected; one below the smallest is rounded to zero. -/
def decimalFloat? (text : List Char) : Option Value := do
  let (sign, body) := splitSign text
  let inWhole (c : Char) := isDigit c || c == '_'
  let whole ← wholeDigits? (body.takeWhile inWhole)
  let behind := body.dropWhile inWhole
  let (part, behind) ← match behind with
    | '.' :: rest => do
      let digits ← digitGroups? isDigit (rest.takeWhile inWhole)
      some (digits, rest.dropWhile inWhole)
    | c :: _ => if isExponentMark c then some ([], behind) else none
    | [] => none
  let exponent ← match behind with
    | [] => some 0
    | c :: rest => if isExponentMark c then exponent? rest else none
  let digits ← decimal? (whole ++ part)
  let negative := sign = some true
  match Binary64.ofDecimal negative digits (exponent - part.length) with
  | .infinite false => none
  | x => some (.float x)

/-- The values `inf` and `nan` with an optional sign. -/
def specialFloat? (text : List Char) : Option Value :=
  let (sign, body) := splitSign text
  if body = "inf".toList then some (.float (.infinite (sign = some true)))
  else if body = "nan".toList then some (.float .nan)
  else none

/-- Reads a number of exactly `count` digits between `low` and `high`. -/
def fixedDigits? (count low high : Nat) (text : List Char) : Option (Nat × List Char) := do
  let n ← decimal? (text.take count)
  if (text.take count).length = count ∧ low ≤ n ∧ n ≤ high then some (n, text.drop count) else none

/-- The text behind a given first character. -/
def behind? (c : Char) : List Char → Option (List Char)
  | d :: rest => if d = c then some rest else none
  | [] => none

/-- The number of days in a month. -/
def daysIn (year month : Nat) : Nat :=
  if month = 2 then
    if year % 4 = 0 ∧ (year % 100 ≠ 0 ∨ year % 400 = 0) then 29 else 28
  else if month = 4 ∨ month = 6 ∨ month = 9 ∨ month = 11 then 30
  else 31

/-- The text behind a date. -/
def behindDate? (text : List Char) : Option (List Char) := do
  let (year, rest) ← fixedDigits? 4 0 9999 text
  let (month, rest) ← fixedDigits? 2 1 12 (← behind? '-' rest)
  let (_, rest) ← fixedDigits? 2 1 (daysIn year month) (← behind? '-' rest)
  return rest

/-- The text behind a time with an optional fraction of a second. -/
def behindTime? (text : List Char) : Option (List Char) := do
  let (_, rest) ← fixedDigits? 2 0 23 text
  let (_, rest) ← fixedDigits? 2 0 59 (← behind? ':' rest)
  let (_, rest) ← fixedDigits? 2 0 60 (← behind? ':' rest)
  match rest with
  | '.' :: fraction =>
    if (fraction.takeWhile isDigit).isEmpty then none else some (fraction.dropWhile isDigit)
  | _ => some rest

/-- The text behind the hours and minutes of an offset. -/
def behindOffset? (text : List Char) : Option (List Char) := do
  let (_, rest) ← fixedDigits? 2 0 23 text
  let (_, rest) ← fixedDigits? 2 0 59 (← behind? ':' rest)
  return rest

/-- Whether a text is a time zone offset. -/
def isOffset (text : List Char) : Bool :=
  match text with
  | ['Z'] | ['z'] => true
  | sign :: rest => (sign == '+' || sign == '-') && behindOffset? rest = some []
  | [] => false

/-- Whether a text is a date, a time, or a date and a time. -/
def isMoment (text : List Char) : Bool :=
  behindTime? text = some [] ||
    match behindDate? text with
    | none => false
    | some [] => true
    | some (c :: rest) =>
      (c == 'T' || c == 't' || c == ' ') &&
        match behindTime? rest with
        | some behind => behind.isEmpty || isOffset behind
        | none => false

/-- The value of a text without quotes and brackets. -/
def scalar? (text : List Char) : Option Value :=
  if text = "true".toList then some (.boolean true)
  else if text = "false".toList then some (.boolean false)
  else if isMoment text then some .moment
  else (integer? text).orElse fun _ => (decimalFloat? text).orElse fun _ => specialFloat? text

/-- Whether a character ends a value without quotes. -/
def endsScalar (c : Char) : Bool :=
  c == ' ' || c == '\t' || c == '\n' || c == '#' || c == ',' || c == ']' || c == '\x7d'

/-- Reads a value without quotes or brackets at the head of a text. A space between a date and a digit
belongs to the value. -/
def readScalar? (text : List Char) : Option (Value × List Char) :=
  let row (s : List Char) := s.takeWhile fun c => !endsScalar c
  let rest (s : List Char) := s.dropWhile fun c => !endsScalar c
  let first := row text
  match rest text with
  | ' ' :: c :: more =>
    if behindDate? first = some [] ∧ isDigit c then
      (scalar? (first ++ ' ' :: row (c :: more))).map (·, rest (c :: more))
    else (scalar? first).map (·, rest text)
  | behind => (scalar? first).map (·, behind)

end HubLink.Toml
