import HubLink.Text.Decimal

namespace HubLink.Number

open Text

/-- A number of the format binary64. A finite one is `m · 2 ^ q` with `m < 2 ^ 53` and `-1074 ≤ q ≤
971`. -/
inductive Binary64 where
  | finite (negative : Bool) (m : Nat) (q : Int)
  | infinite (negative : Bool)
  | nan
  deriving DecidableEq

namespace Binary64

/-- The integer nearest to `num / den`, ties to even. -/
def roundEven (num den : Nat) : Nat :=
  let floor := num / den
  let doubled := 2 * (num % den)
  if doubled < den then floor
  else if den < doubled then floor + 1
  else if floor % 2 = 0 then floor
  else floor + 1

/-- The power `2 ^ n` for `0 ≤ n`, and 1 otherwise. -/
def twoTo (n : Int) : Nat :=
  Nat.pow 2 n.toNat

/-- The power `10 ^ n` for `0 ≤ n`, and 1 otherwise. -/
def tenTo (n : Int) : Nat :=
  Nat.pow 10 n.toNat

/-- The smallest significand of a normal number, `2 ^ 52`. -/
def leadingBit : Nat := 0x10000000000000

/-- The number nearest to the positive quotient `num / den`, ties to even. -/
def ofRatio (negative : Bool) (num den : Nat) : Binary64 :=
  let estimate : Int := (Nat.log2 num : Int) - (Nat.log2 den : Int)
  let magnitude :=
    if den * twoTo estimate ≤ num * twoTo (-estimate) then estimate else estimate - 1
  let q := max (magnitude - 52) (-1074)
  let m := roundEven (num * twoTo (-q)) (den * twoTo q)
  let (m, q) := if m = 2 * leadingBit then (leadingBit, q + 1) else (m, q)
  if 971 < q then .infinite negative else .finite negative m q

/-- The number nearest to `digits · 10 ^ exponent`. The exponent is cut off at -400 and 400, where the
result no longer depends on the digits. -/
def ofDecimal (negative : Bool) (digits : Nat) (exponent : Int) : Binary64 :=
  if digits = 0 then .finite negative 0 (-1074)
  else
    let size := exponent + (decimal digits).length
    if 400 < size then .infinite negative
    else if size < -400 then .finite negative 0 (-1074)
    else ofRatio negative (digits * tenTo exponent) (tenTo (-exponent))

/-- The decimal exponent of the leading digit of `num / den`, if that is at least `10 ^ -fuel`. -/
def leadingExponent (num den : Nat) : Nat → Int
  | 0 => 0
  | fuel + 1 =>
    if den ≤ num then (decimal (num / den)).length - 1
    else leadingExponent (10 * num) den fuel - 1

/-- The integer `t` for which `t · 10 ^ k` is nearest to `num / den`, ties to the larger one, if it
lies between `num - low` and `num + high` over `den`; the bounds are included if `closed`. -/
def nearestOnGrid? (num den low high : Nat) (closed : Bool) (k : Int) : Option Nat :=
  let scale := tenTo (-k)
  let unit := den * tenTo k
  let rounds (t : Nat) : Bool :=
    let point := t * unit
    let first := (num - low) * scale
    let last := (num + high) * scale
    if closed then first ≤ point && point ≤ last else first < point && point < last
  let below := num * scale / unit
  match rounds below, rounds (below + 1) with
  | true, true =>
    if 2 * (num * scale % unit) < unit then some below else some (below + 1)
  | true, false => some below
  | false, true => some (below + 1)
  | false, false => none

/-- The shortest decimal that is rounded to `m · 2 ^ q`, as digits and exponent. -/
def shortest (m : Nat) (q : Int) : Nat × Int :=
  let den := 4 * twoTo (-q)
  let gap := twoTo q
  let num := 4 * m * gap
  let high := 2 * gap
  let low := if m = leadingBit ∧ -1074 < q then gap else high
  let lead := leadingExponent num den 400
  let grids := (List.range 17).map fun (i : Nat) => lead - (i : Int)
  match grids.findSome? fun k =>
      (nearestOnGrid? num den low high (m % 2 = 0) k).map fun t => (t, k) with
  | some found => found
  | none => (0, 0)

/-- The text of `digits · 10 ^ exponent` in positional notation, with a digit on each side of the
point. -/
def positional (digits : Nat) (exponent : Int) : List Char :=
  if 0 ≤ exponent then
    decimal digits ++ List.replicate exponent.toNat '0' ++ ['.', '0']
  else
    let places := (-exponent).toNat
    let all := decimal digits
    let padded := List.replicate (places + 1 - all.length) '0' ++ all
    let whole := padded.take (padded.length - places)
    let part := (padded.drop (padded.length - places)).reverse.dropWhile (· = '0')
    whole ++ '.' :: (if part.isEmpty then ['0'] else part.reverse)

/-- The shortest decimal text that reads back as the number. -/
def text : Binary64 → String
  | .nan => "NaN"
  | .infinite negative => if negative then "-inf" else "inf"
  | .finite negative m q =>
    let body :=
      if m = 0 then positional 0 0
      else
        let (digits, exponent) := shortest m q
        positional digits exponent
    String.ofList (if negative then '-' :: body else body)

end Binary64
end HubLink.Number
