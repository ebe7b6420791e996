import HubLink.Text.Pattern.Escape

namespace HubLink.Text.Pattern

/-- An operator on character classes. -/
inductive SetOperator where
  | inter
  | without
  | inOne
  deriving DecidableEq

/-- The set operation of an operator. -/
def SetOperator.apply : SetOperator → CharSet → CharSet → CharSet
  | inter => CharSet.inter
  | without => CharSet.without
  | inOne => CharSet.inOne

/-- A set with its nesting depth. -/
structure DeepSet where
  set : CharSet
  depth : Nat := 0

/-- The state of reading a character class. -/
structure Bracket where
  isNegated : Bool
  /-- The set before the last operator, with the operator. -/
  before : Option (DeepSet × SetOperator) := none
  /-- The number of items behind the last operator. -/
  count : Nat := 0
  /-- The union of these items with the largest of their depths. -/
  items : DeepSet := { set := .nothing }

namespace Bracket

/-- Adds an item. -/
def add (b : Bracket) (item : DeepSet) : Bracket :=
  { b with
    count := b.count + 1
    items :=
      { set := b.items.set.union item.set, depth := max b.items.depth item.depth } }

/-- Adds a character. -/
def addChar (b : Bracket) (c : Char) : Bracket :=
  b.add { set := .single c }

/-- The set read so far. -/
def content (b : Bracket) (o : Options) : DeepSet :=
  let last : DeepSet :=
    if 1 < b.count then { b.items with depth := b.items.depth + 1 } else b.items
  match b.before with
  | some (first, op) =>
    { set := op.apply (o.inCase first.set) (o.inCase last.set)
      depth := max first.depth last.depth + 1 }
  | none => last

/-- Reads an operator. -/
def operate (b : Bracket) (o : Options) (op : SetOperator) : Bracket :=
  { isNegated := b.isNegated, before := some (b.content o, op) }

/-- The set at the closing bracket. -/
def close? (b : Bracket) (o : Options) : Option DeepSet := do
  let content := b.content o
  return { set := ← o.negated? b.isNegated (o.inCase content.set), depth := content.depth + 1 }

/-- The start of a class: leading dashes and a closing bracket at the start are ordinary
characters. -/
def start (o : Options) (s : List Char) : Bracket × List Char :=
  let (isNegated, s) := match o.skip s with
    | '^' :: rest => (true, o.skip rest)
    | s => (false, s)
  match s with
  | ']' :: rest => ({ isNegated : Bracket }.addChar ']', rest)
  | s => dashes s.length { isNegated } s
where
  /-- Reads leading dashes, at most `fuel` of them. -/
  dashes : (fuel : Nat) → Bracket → List Char → Bracket × List Char
    | fuel + 1, b, '-' :: rest => dashes fuel (b.addChar '-') (o.skip rest)
    | _, b, s => (b, s)

/-- Reads a character or a nested class. -/
def item? (o : Options) : List Char → Option (Escape × List Char)
  | [] => none
  | '\\' :: rest => Escape.read? o rest
  | c :: rest => some (.char c, rest)

/-- Whether a character is allowed in a class. -/
def isAllowed (o : Options) (c : Char) : Bool :=
  o.isUnicode || c.toNat < 0x80

/-- The set of an item. -/
def ofItem? (o : Options) : Escape → Option DeepSet
  | .char c => if isAllowed o c then some { set := .single c } else none
  | .set s => some { set := s }
  | .place _ => none

/-- The set of a range. -/
def ofRange? (o : Options) : (first last : Escape) → Option DeepSet
  | .char first, .char last =>
    if first ≤ last && isAllowed o first && isAllowed o last then some { set := .range first last }
    else none
  | _, _ => none

/-- Reads an item or a range. A dash before a closing bracket or another dash is an ordinary
character. -/
def range? (o : Options) (s : List Char) : Option (DeepSet × List Char) := do
  let (item, rest) ← item? o s
  match o.skip rest with
  | '-' :: behind =>
    let ahead := o.peek behind
    if ahead = some ']' || ahead = some '-' then return (← ofItem? o item, '-' :: behind)
    else
      let (last, rest) ← item? o (o.skip behind)
      return (← ofRange? o item last, rest)
  | rest => return (← ofItem? o item, rest)

/-- Reads the name of an ASCII class such as `[:alpha:]`, behind its opening bracket. -/
def named? (o : Options) (s : List Char) : Option (Option DeepSet × List Char) := do
  let (isNegated, behind) ← match s with
    | ':' :: '^' :: rest => some (true, rest)
    | ':' :: rest => some (false, rest)
    | _ => none
  let set ← CharSet.named? (String.ofList (behind.takeWhile (· ≠ ':')))
  match behind.dropWhile (· ≠ ':') with
  | ':' :: ']' :: rest =>
    return ((o.negated? isNegated (o.inCase set)).map fun set => { set }, rest)
  | _ => none

/-- Reads the rest of a class; `fuel` bounds its length. -/
def finish? (o : Options) : (fuel : Nat) → Bracket → List Char → Option (DeepSet × List Char)
  | 0, _, _ => none
  | fuel + 1, b, s =>
    let s := o.skip s
    match s with
    | [] => none
    | ']' :: rest => (b.close? o).map (·, rest)
    | '&' :: '&' :: rest => finish? o fuel (b.operate o .inter) rest
    | '-' :: '-' :: rest => finish? o fuel (b.operate o .without) rest
    | '~' :: '~' :: rest => finish? o fuel (b.operate o .inOne) rest
    | '[' :: rest =>
      match named? o rest with
      | some (item, rest) => item.bind fun item => finish? o fuel (b.add item) rest
      | none =>
        let (inner, rest) := start o rest
        (finish? o fuel inner rest).bind fun (item, rest) => finish? o fuel (b.add item) rest
    | s => (range? o s).bind fun (item, rest) => finish? o fuel (b.add item) rest

/-- Reads a class behind its opening bracket. -/
def read? (o : Options) (s : List Char) : Option (DeepSet × List Char) :=
  let (b, rest) := start o s
  finish? o (s.length + 1) b rest

end Bracket
end HubLink.Text.Pattern
