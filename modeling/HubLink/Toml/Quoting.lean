import HubLink.Text.Hex

namespace HubLink.Toml

open Text

/-- The four kinds of TOML strings. -/
inductive Style where
  | basic
  | literal
  | multilineBasic
  | multilineLiteral
  deriving DecidableEq

namespace Style

/-- The quote character of a style. -/
def quote : Style → Char
  | .basic | .multilineBasic => '"'
  | .literal | .multilineLiteral => '\''

/-- Whether a string may contain line breaks. -/
def isMultiline : Style → Bool
  | .basic | .literal => false
  | .multilineBasic | .multilineLiteral => true

/-- Whether a backslash starts an escape sequence. -/
def hasEscapes : Style → Bool
  | .basic | .multilineBasic => true
  | .literal | .multilineLiteral => false

/-- The number of quotes on each side. -/
def fence (s : Style) : Nat :=
  if s.isMultiline then 3 else 1

/-- The maximum number of quotes at the end of a string: the closing quotes and up to two that belong
to the content. -/
def longestEnd (s : Style) : Nat :=
  if s.isMultiline then 5 else 1

end Style

/-- The characters allowed unescaped in comments and strings: a tab, and all but control
characters. -/
def isTextual (c : Char) : Bool :=
  c == '\t' || (0x20 ≤ c.toNat && c.toNat != 0x7F)

/-- Whether a character is a space or a tab. -/
def isSpace (c : Char) : Bool :=
  c == ' ' || c == '\t'

/-- The character of a one-letter escape sequence. -/
def escaped? (c : Char) : Option Char :=
  if c = 'b' then some '\x08'
  else if c = 't' then some '\t'
  else if c = 'n' then some '\n'
  else if c = 'f' then some '\x0c'
  else if c = 'r' then some '\r'
  else if c = '"' then some '"'
  else if c = '\\' then some '\\'
  else none

/-- The character with a code point; `none` for a surrogate or a number out of range. -/
def charOf? (n : Nat) : Option Char :=
  if n.isValidChar then some (Char.ofNat n) else none

/-- The state of the reader of a string. -/
inductive Reading where
  /-- At the next character. -/
  | plain
  /-- After a backslash. -/
  | escape
  /-- In a code point with `left` digits to come. -/
  | code (left value : Nat)
  /-- In the white space after a backslash at the end of a line; `broken` says that the line break was
  read. -/
  | gap (broken : Bool)
  /-- After `n` quotes in a row. -/
  | quotes (n : Nat)
  deriving DecidableEq

/-- The effect of a character: it adds characters to the content and leads to the next state, or it
follows a string that has ended with the quotes before it. -/
inductive Reaction where
  | next (added : List Char) (reading : Reading)
  | stop (added : List Char)

namespace Reading

/-- Reads a character in the state `plain`. -/
def plainly (s : Style) (c : Char) : Option (List Char × Reading) :=
  if c = s.quote then some ([], .quotes 1)
  else if c = '\\' ∧ s.hasEscapes then some ([], .escape)
  else if c = '\n' then if s.isMultiline then some (['\n'], .plain) else none
  else if isTextual c then some ([c], .plain)
  else none

/-- Reads a character; `none` if it is not allowed. -/
def react (s : Style) (c : Char) : Reading → Option Reaction
  | .plain => (plainly s c).map fun (added, reading) => .next added reading
  | .escape =>
    if c = 'u' then some (.next [] (.code 4 0))
    else if c = 'U' then some (.next [] (.code 8 0))
    else if s.isMultiline ∧ isSpace c then some (.next [] (.gap false))
    else if s.isMultiline ∧ c = '\n' then some (.next [] (.gap true))
    else (escaped? c).map fun x => .next [x] .plain
  | .code left value =>
    match hexValue? c with
    | none => none
    | some digit =>
      let value := 16 * value + digit
      if left ≤ 1 then (charOf? value).map fun x => .next [x] .plain
      else some (.next [] (.code (left - 1) value))
  | .gap false =>
    if isSpace c then some (.next [] (.gap false))
    else if c = '\n' then some (.next [] (.gap true))
    else none
  | .gap true =>
    if isSpace c ∨ c = '\n' then some (.next [] (.gap true))
    else (plainly s c).map fun (added, reading) => .next added reading
  | .quotes n =>
    if s.longestEnd ≤ n then some (.stop (List.replicate (n - s.fence) s.quote))
    else if c = s.quote then some (.next [] (.quotes (n + 1)))
    else if s.fence ≤ n then some (.stop (List.replicate (n - s.fence) s.quote))
    else
      (plainly s c).map fun (added, reading) =>
        .next (List.replicate n s.quote ++ added) reading

/-- Reads the rest of a string, and returns its content and the text behind it. -/
def run (s : Style) : Reading → List Char → Option (List Char × List Char)
  | .quotes n, [] =>
    if s.fence ≤ n then some (List.replicate (n - s.fence) s.quote, []) else none
  | _, [] => none
  | reading, c :: rest =>
    match reading.react s c with
    | none => none
    | some (.stop added) => some (added, c :: rest)
    | some (.next added reading') =>
      (run s reading' rest).map fun (text, behind) => (added ++ text, behind)

end Reading

/-- The style of the string at the head of a text, and the text behind its opening quotes. A line
break right behind three quotes is skipped. -/
def Style.opening? : List Char → Option (Style × List Char)
  | '"' :: '"' :: '"' :: '\n' :: rest => some (.multilineBasic, rest)
  | '"' :: '"' :: '"' :: rest => some (.multilineBasic, rest)
  | '"' :: rest => some (.basic, rest)
  | '\'' :: '\'' :: '\'' :: '\n' :: rest => some (.multilineLiteral, rest)
  | '\'' :: '\'' :: '\'' :: rest => some (.multilineLiteral, rest)
  | '\'' :: rest => some (.literal, rest)
  | _ => none

/-- Reads a string of any style at the head of a text. -/
def readString? (text : List Char) : Option (String × List Char) := do
  let (style, inner) ← Style.opening? text
  let (content, rest) ← Reading.run style .plain inner
  return (String.ofList content, rest)

/-- Reads a single-line string at the head of a text. -/
def readLine? (text : List Char) : Option (String × List Char) := do
  let (style, inner) ← match text with
    | '"' :: rest => some (Style.basic, rest)
    | '\'' :: rest => some (Style.literal, rest)
    | _ => none
  let (content, rest) ← Reading.run style .plain inner
  return (String.ofList content, rest)

/-- Whether a character has to be escaped in every style. -/
def isControl (c : Char) : Bool :=
  (c.toNat < 0x20 && c != '\t' && c != '\n') || c.toNat == 0x7F

/-- The length of the longest run of a character, with `running` as the length of the current run. -/
def longestRun (c : Char) : Nat → List Char → Nat
  | running, [] => running
  | running, d :: rest =>
    if d = c then longestRun c (running + 1) rest else max running (longestRun c 0 rest)

/-- The style in which a string is written. -/
def Style.suited (text : List Char) : Style :=
  let controls := text.any isControl
  let backslash := text.contains '\\'
  let lines := text.contains '\n'
  let double := longestRun '"' 0 text
  let single := longestRun '\'' 0 text
  if !controls && !backslash && !lines && double == 0 then .basic
  else if !controls && !lines && single == 0 then .literal
  else if !controls && !backslash && double ≤ 2 then .multilineBasic
  else if !controls && single ≤ 2 then .multilineLiteral
  else if lines then .multilineBasic
  else .basic

/-- The text of one character in a style with escapes after `run` quotes, and the number of quotes at
its end. -/
def escapeChar (s : Style) (run : Nat) (c : Char) : List Char × Nat :=
  if c = '"' then
    if s.isMultiline ∧ run < 2 then (['"'], run + 1) else (['\\', '"'], 0)
  else if c = '\x08' then (['\\', 'b'], 0)
  else if c = '\t' then (['\\', 't'], 0)
  else if c = '\x0c' then (['\\', 'f'], 0)
  else if c = '\r' then (['\\', 'r'], 0)
  else if c = '\\' then (['\\', '\\'], 0)
  else if c = '\n' then if s.isMultiline then (['\n'], 0) else (['\\', 'n'], 0)
  else if isControl c then
    (['\\', 'u', '0', '0', hexDigit (c.toNat / 16), hexDigit (c.toNat % 16)], 0)
  else ([c], 0)

/-- The content of a string in a style with escapes. -/
def escapeText (s : Style) : Nat → List Char → List Char
  | _, [] => []
  | run, c :: rest =>
    let (written, run') := escapeChar s run c
    written ++ escapeText s run' rest

/-- Writes a string in a given style. -/
def Style.write (s : Style) (text : List Char) : List Char :=
  let fence := List.replicate s.fence s.quote
  let start := if s.isMultiline && text.contains '\n' then ['\n'] else []
  let body := if s.hasEscapes then escapeText s 0 text else text
  fence ++ start ++ body ++ fence

/-- Writes a string. -/
def writeString (text : String) : List Char :=
  (Style.suited text.toList).write text.toList

end HubLink.Toml
