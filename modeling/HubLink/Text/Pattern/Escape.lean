import HubLink.Text.Category
import HubLink.Text.Decimal
import HubLink.Text.Hex
import HubLink.Text.Pattern.Options

namespace HubLink.Text.Pattern

/-- The meaning of an escape sequence. -/
inductive Escape where
  | char (c : Char)
  | set (s : CharSet)
  | place (p : Place)

namespace Escape

/-- Reads `count` hexadecimal digits. -/
def hexDigits? (o : Options) : (count : Nat) → List Char → Option (List Char × List Char)
  | 0, s => some ([], s)
  | n + 1, s =>
    match o.skip s with
    | [] => none
    | c :: rest =>
      if (hexValue? c).isSome then (hexDigits? o n rest).map fun (digits, rest) => (c :: digits, rest)
      else none

/-- The character with a hexadecimal code point. Without Unicode, a two-digit code is a byte, and a
character only in ASCII. -/
def hexChar? (o : Options) (count : Nat) (s : List Char) : Option (Escape × List Char) := do
  let (digits, rest) ← hexDigits? o count s
  let n ← numeral? 16 hexValue? digits
  if !n.isValidChar || !o.isUnicode && count = 2 && 0x80 ≤ n then none
  else return (.char (Char.ofNat n), rest)

/-- A class, given with its ASCII part, or its complement. -/
def class? (o : Options) (isNegated : Bool) (unicode ascii : CharSet) (rest : List Char) :
    Option (Escape × List Char) :=
  (o.negated? isNegated (if o.isUnicode then unicode else ascii)).map (.set ·, rest)

/-- A general category or its complement. -/
def category? (o : Options) (isNegated : Bool) (s : List Char) : Option (Escape × List Char) :=
  match o.skip s with
  | [] => none
  | c :: rest => do
    let category ← Category.ofLetter? c
    if !o.isUnicode then none
    else return (.set (← o.negated? isNegated (o.inCase category.set)), rest)

/-- A word boundary, which is supported in ASCII only. -/
def wordPlace? (o : Options) (p : Place) (rest : List Char) : Option (Escape × List Char) :=
  if o.isUnicode then none else some (.place p, rest)

/-- Whether a character may be escaped without a special meaning. -/
def isPlain (c : Char) : Bool :=
  c.toNat < 0x80 && !c.isAlphanum

/-- The ASCII digits. -/
def asciiDigits : CharSet := .ofRuns [(0x30, 0x39)]

/-- The ASCII white space. -/
def asciiBlanks : CharSet := .ofRuns [(0x09, 0x0D), (0x20, 0x20)]

/-- The ASCII word characters. -/
def asciiWord : CharSet := .ofRuns [(0x30, 0x39), (0x41, 0x5A), (0x5F, 0x5F), (0x61, 0x7A)]

/-- Reads an escape sequence behind its backslash. -/
def read? (o : Options) : List Char → Option (Escape × List Char)
  | [] => none
  | c :: rest =>
    match c with
    | 'd' => class? o false .decimal asciiDigits rest
    | 'D' => class? o true .decimal asciiDigits rest
    | 's' => class? o false .blank asciiBlanks rest
    | 'S' => class? o true .blank asciiBlanks rest
    | 'w' => class? o false .word asciiWord rest
    | 'W' => class? o true .word asciiWord rest
    | 'p' => category? o false rest
    | 'P' => category? o true rest
    | 'a' => some (.char (Char.ofNat 0x07), rest)
    | 'f' => some (.char (Char.ofNat 0x0C), rest)
    | 'n' => some (.char '\n', rest)
    | 'r' => some (.char '\r', rest)
    | 't' => some (.char '\t', rest)
    | 'v' => some (.char (Char.ofNat 0x0B), rest)
    | 'x' => hexChar? o 2 rest
    | 'u' => hexChar? o 4 rest
    | 'U' => hexChar? o 8 rest
    | 'A' => some (.place .textStart, rest)
    | 'z' => some (.place .textEnd, rest)
    | 'b' => wordPlace? o .wordEdge rest
    | 'B' => wordPlace? o .noWordEdge rest
    | '<' => wordPlace? o .wordStart rest
    | '>' => wordPlace? o .wordEnd rest
    | c => if isPlain c then some (.char c, rest) else none

end Escape
end HubLink.Text.Pattern
