import HubLink.Text.Pattern
import HubLink.Text.Pattern.Bracket

namespace HubLink.Text.Pattern

/-- A part of a pattern with its nesting depth. -/
structure Piece where
  pattern : Pattern
  depth : Nat := 0
  /-- Whether it can be repeated, which a change of flags cannot. -/
  isRepeatable : Bool := true

namespace Piece

/-- The largest depth of some pieces. -/
def deepest (ps : List Piece) : Nat :=
  (ps.map (·.depth)).foldl max 0

/-- Combines pieces; a single piece is unchanged. -/
def combine (join : List Pattern → Pattern) (ps : List Piece) : Piece :=
  match ps with
  | [p] => p
  | [] => { pattern := join [] }
  | ps => { pattern := join (ps.map (·.pattern)), depth := deepest ps + 1 }

/-- A sequence of pieces. -/
def inOrder (ps : List Piece) : Piece :=
  combine Pattern.inOrder ps

/-- Alternatives of pieces. -/
def choice (ps : List Piece) : Piece :=
  combine Pattern.choice ps

end Piece

/-- The state of an open group. -/
structure Frame where
  options : Options := {}
  /-- The number of a capturing group. -/
  number : Option Nat := none
  /-- The alternatives before the last bar, in reverse order. -/
  alternatives : List Piece := []
  /-- The pieces behind the last bar, in reverse order. -/
  pieces : List Piece := []

namespace Frame

/-- The content of the group. -/
def body (f : Frame) : Piece :=
  .choice (.inOrder f.pieces.reverse :: f.alternatives).reverse

/-- The piece of the group. -/
def piece (f : Frame) : Piece :=
  let body := f.body
  { pattern := match f.number with
      | some n => .group n body.pattern
      | none => body.pattern
    depth := body.depth + 1 }

/-- Adds a piece. -/
def add (f : Frame) (p : Piece) : Frame :=
  { f with pieces := p :: f.pieces }

/-- Ends an alternative. -/
def addBar (f : Frame) : Frame :=
  { f with alternatives := .inOrder f.pieces.reverse :: f.alternatives, pieces := [] }

/-- Repeats the last piece. -/
def repeat? (f : Frame) (often : Repetition) (isGreedy : Bool) : Option Frame :=
  match f.pieces with
  | p :: pieces =>
    if p.isRepeatable then
      some { f with pieces := ⟨p.pattern.repeating often isGreedy, p.depth + 1, true⟩ :: pieces }
    else none
  | [] => none

/-- Changes the flags. -/
def setOptions (f : Frame) (options : Options) : Frame :=
  { f with options, pieces := ⟨.empty, 0, false⟩ :: f.pieces }

end Frame

/-- The state of reading a pattern. -/
structure Reading where
  /-- The innermost open group, or the whole pattern. -/
  frame : Frame := {}
  /-- The groups around it, the innermost first. -/
  outer : List Frame := []
  /-- The number of capturing groups so far. -/
  count : Nat := 0
  /-- The names of groups so far. -/
  names : List String := []

namespace Reading

/-- Adds a piece. -/
def add (r : Reading) (p : Piece) : Reading :=
  { r with frame := r.frame.add p }

/-- Opens a group. -/
def openGroup (r : Reading) (options : Options) : Reading :=
  { r with frame := { options }, outer := r.frame :: r.outer }

/-- Opens a capturing group. -/
def openNumbered (r : Reading) : Reading :=
  { r with
    frame := { options := r.frame.options, number := some (r.count + 1) }
    outer := r.frame :: r.outer
    count := r.count + 1 }

/-- Closes the innermost group. -/
def close? (r : Reading) : Option Reading :=
  match r.outer with
  | f :: outer => some { r with frame := f.add r.frame.piece, outer }
  | [] => none

/-- Reads a repetition; a question mark behind it exchanges greedy and lazy. -/
def repeat? (r : Reading) (often : Repetition) (rest : List Char) : Option (Reading × List Char) :=
  let isReluctant := r.frame.options.isReluctant
  let (isGreedy, rest) := match rest with
    | '?' :: rest => (isReluctant, rest)
    | rest => (!isReluctant, rest)
  (r.frame.repeat? often isGreedy).map fun frame => ({ r with frame }, rest)

/-- Whether a text is a valid name of a group. -/
def isName : List Char → Bool
  | [] => false
  | c :: rest =>
    (c = '_' || CharSet.alphabetic.holds c) &&
      rest.all fun c => c = '_' || c = '.' || c = '[' || c = ']' || isAlphanumeric c

/-- Opens a named group; its name has to be new. -/
def named? (r : Reading) (s : List Char) : Option (Reading × List Char) := do
  let (name, rest) ← cut? '>' s
  let name' := String.ofList name
  if !isName name || r.names.contains name' then none
  else return ({ r.openNumbered with names := name' :: r.names }, rest)

/-- Opens a group behind its bracket, or changes the flags of the innermost one. -/
def opening? (r : Reading) (s : List Char) : Option (Reading × List Char) :=
  let o := r.frame.options
  match o.skip s with
  | '?' :: 'P' :: '<' :: s | '?' :: '<' :: s => r.named? s
  | '?' :: s =>
    let letters := s.takeWhile fun c => c ≠ ':' && c ≠ ')'
    match s.dropWhile fun c => c ≠ ':' && c ≠ ')' with
    | ':' :: rest => (o.read? letters).map fun o => (r.openGroup o, rest)
    | _ :: rest =>
      if letters.isEmpty then none
      else (o.read? letters).map fun o => ({ r with frame := r.frame.setOptions o }, rest)
    | [] => none
  | s => some (r.openNumbered, s)

/-- The piece of a character. -/
def ofChar (o : Options) (c : Char) : Piece :=
  { pattern := .ofSet (o.inCase (.single c)) }

/-- The piece of an escape sequence. -/
def ofEscape (o : Options) : Escape → Piece
  | .char c => ofChar o c
  | .set s => { pattern := .ofSet s }
  | .place p => { pattern := .place p }

/-- Reads the next piece. -/
def piece? (r : Reading) : List Char → Option (Reading × List Char)
  | [] => none
  | c :: rest =>
    let o := r.frame.options
    match c with
    | '(' => r.opening? rest
    | ')' => r.close?.map (·, rest)
    | '|' => some ({ r with frame := r.frame.addBar }, rest)
    | '[' => (Bracket.read? o rest).map fun (set, rest) =>
      (r.add { pattern := .ofSet set.set, depth := set.depth }, rest)
    | '?' => r.repeat? .atMostOnce rest
    | '*' => r.repeat? .anyNumber rest
    | '+' => r.repeat? .atLeastOnce rest
    | '\x7b' => none
    | '\\' => (Escape.read? o rest).map fun (escape, rest) => (r.add (ofEscape o escape), rest)
    | '.' => o.point?.map fun set => (r.add { pattern := .ofSet set }, rest)
    | '^' => some (r.add { pattern := .place o.start }, rest)
    | '$' => some (r.add { pattern := .place o.stop }, rest)
    | c => some (r.add (ofChar o c), rest)

/-- Reads all pieces, at most `fuel` of them. -/
def finish? : (fuel : Nat) → Reading → List Char → Option Reading
  | fuel, r, s =>
    match fuel, r.frame.options.skip s with
    | _, [] => some r
    | 0, _ => none
    | fuel + 1, s => (r.piece? s).bind fun (r, rest) => finish? fuel r rest

/-- The maximum nesting depth. -/
def maxDepth : Nat := 250

/-- The pattern if all groups are closed and the depth is not exceeded. -/
def pattern? (r : Reading) : Option Pattern :=
  let body := r.frame.body
  if r.outer.isEmpty && body.depth ≤ maxDepth then some body.pattern else none

end Reading

/-- Reads a regular expression; `none` if it is not valid, has a counted repetition, or exceeds the
nesting depth. -/
def read? (text : List Char) : Option Pattern :=
  (Reading.finish? text.length {} text).bind (·.pattern?)

end HubLink.Text.Pattern
