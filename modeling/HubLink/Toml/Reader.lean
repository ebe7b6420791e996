import HubLink.Toml.Quoting
import HubLink.Toml.Scalar
import HubLink.Toml.Tree

namespace HubLink.Toml

open Text

/-- Replaces CRLF by line feeds; `none` for any other carriage return. -/
def unifyLines? : List Char → Option (List Char)
  | [] => some []
  | '\r' :: '\n' :: rest => (unifyLines? rest).map ('\n' :: ·)
  | c :: rest => if c = '\r' then none else (unifyLines? rest).map (c :: ·)

/-- The limits for nesting and for the parts of a key, both exclusive. -/
def depthLimit : Nat := 80

/-- Skips spaces and tabs. -/
def skipSpaces (text : List Char) : List Char :=
  text.dropWhile isSpace

/-- Skips white space, line breaks and comments; `comment` says that the text starts inside of a
comment. -/
def skipLines? : (comment : Bool) → List Char → Option (List Char)
  | _, [] => some []
  | true, c :: rest =>
    if c = '\n' then skipLines? false rest
    else if isTextual c then skipLines? true rest
    else none
  | false, c :: rest =>
    if isSpace c ∨ c = '\n' then skipLines? false rest
    else if c = '#' then skipLines? true rest
    else some (c :: rest)

/-- Skips an optional comment and the end of the line. -/
def endLine? (text : List Char) : Option (List Char) :=
  match skipSpaces text with
  | [] => some []
  | '\n' :: rest => some rest
  | '#' :: rest =>
    match rest.dropWhile isTextual with
    | [] => some []
    | '\n' :: behind => some behind
    | _ => none
  | _ => none

/-- Whether a character is allowed in an unquoted key. -/
def isBareKey (c : Char) : Bool :=
  ('a' ≤ c && c ≤ 'z') || ('A' ≤ c && c ≤ 'Z') || isDigit c || c == '_' || c == '-'

/-- Reads one part of a key. -/
def readKeyPart? (text : List Char) : Option (String × List Char) :=
  match text with
  | '"' :: _ | '\'' :: _ => readLine? text
  | _ =>
    let bare := text.takeWhile isBareKey
    if bare.isEmpty then none else some (String.ofList bare, text.dropWhile isBareKey)

/-- Reads the parts of a dotted key with the spaces around them, at most `fuel` parts. -/
def readKeyParts? : (fuel : Nat) → List Char → Option (List String × List Char)
  | 0, _ => none
  | fuel + 1, text => do
    let (part, rest) ← readKeyPart? (skipSpaces text)
    match skipSpaces rest with
    | '.' :: more =>
      let (parts, rest) ← readKeyParts? fuel more
      return (part :: parts, rest)
    | rest => return ([part], rest)

/-- Reads a dotted key. -/
def readPath? (text : List Char) : Option (Path × List Char) := do
  let (parts, rest) ← readKeyParts? (depthLimit - 1) text
  let last ← parts.getLast?
  return (⟨parts.dropLast, last⟩, rest)

mutual

/-- Reads a value at nesting depth `depth`. -/
def readValue? : (fuel depth : Nat) → List Char → Option (Value × List Char)
  | 0, _, _ => none
  | fuel + 1, depth, text =>
    match text with
    | '"' :: _ | '\'' :: _ => do
      let (content, rest) ← readString? text
      return (.string content, rest)
    | '[' :: rest =>
      if depth + 1 < depthLimit then do
        let (items, rest) ← readItems? fuel (depth + 1) rest
        return (.array items, rest)
      else none
    | '\x7b' :: rest =>
      if depth + 1 < depthLimit then
        match skipSpaces rest with
        | '\x7d' :: behind => some (.table [], behind)
        | _ => do
          let (pairs, rest) ← readPairs? fuel (depth + 1) rest
          let table ← inlineTable? pairs
          return (table, rest)
      else none
    | _ => readScalar? text

/-- Reads the items of an array and its closing bracket; a trailing comma is allowed. -/
def readItems? : (fuel depth : Nat) → List Char → Option (List Value × List Char)
  | 0, _, _ => none
  | fuel + 1, depth, text => do
    match ← skipLines? false text with
    | ']' :: rest => return ([], rest)
    | text =>
      let (item, rest) ← readValue? fuel depth text
      match ← skipLines? false rest with
      | ',' :: rest =>
        let (items, rest) ← readItems? fuel depth rest
        return (item :: items, rest)
      | ']' :: rest => return ([item], rest)
      | _ => none

/-- Reads the pairs of an inline table and its closing brace; a trailing comma is not allowed. -/
def readPairs? : (fuel depth : Nat) → List Char → Option (List Pair × List Char)
  | 0, _, _ => none
  | fuel + 1, depth, text => do
    let (path, rest) ← readPath? text
    let (value, rest) ← readValue? fuel depth (skipSpaces (← behind? '=' rest))
    match skipSpaces rest with
    | ',' :: rest =>
      let (pairs, rest) ← readPairs? fuel depth rest
      return ((path, value) :: pairs, rest)
    | '\x7d' :: rest => return ([(path, value)], rest)
    | _ => none

end

/-- Reads a value at depth 0. Two steps of fuel for each character are enough. -/
def readTopValue? (text : List Char) : Option (Value × List Char) :=
  readValue? (2 * text.length + 2) 0 text

/-- A line with content. -/
inductive Line where
  | header (header : Header)
  | pair (pair : Pair)

/-- Reads a line with content, and its end. -/
def readContent? (text : List Char) : Option (Line × List Char) :=
  match text with
  | '[' :: '[' :: rest => do
    let (path, rest) ← readPath? rest
    let rest ← endLine? (← behind? ']' (← behind? ']' rest))
    return (.header (.row path), rest)
  | '[' :: rest => do
    let (path, rest) ← readPath? rest
    let rest ← endLine? (← behind? ']' rest)
    return (.header (.table path), rest)
  | _ => do
    let (path, rest) ← readPath? text
    let (value, rest) ← readTopValue? (skipSpaces (← behind? '=' rest))
    let rest ← endLine? rest
    return (.pair (path, value), rest)

/-- Reads the lines of a document, at most `fuel` of them. -/
def readAllLines? : (fuel : Nat) → List Char → Option (List Line)
  | 0, _ => none
  | fuel + 1, text => do
    match ← skipLines? false text with
    | [] => return []
    | text =>
      let (line, rest) ← readContent? text
      let lines ← readAllLines? fuel rest
      return line :: lines

/-- The sections of a list of lines, the current one given with its pairs. -/
def sectionsOf (header : Header) (pairs : List Pair) : List Line → List Section
  | [] => [⟨header, pairs⟩]
  | .pair pair :: rest => sectionsOf header (pairs ++ [pair]) rest
  | .header next :: rest => ⟨header, pairs⟩ :: sectionsOf next [] rest

/-- The entries of a TOML document; `none` if the text is not valid TOML. A byte order mark is
skipped. -/
def read? (text : String) : Option (List (String × Value)) := do
  let chars := match text.toList with
    | c :: rest => if c.toNat = 0xFEFF then rest else c :: rest
    | [] => []
  let chars ← unifyLines? chars
  let lines ← readAllLines? (chars.length + 1) chars
  tableOf? (sectionsOf .root [] lines)

end HubLink.Toml
