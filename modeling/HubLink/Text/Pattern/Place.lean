namespace HubLink.Text

/-- A zero-width assertion. -/
inductive Place where
  | textStart
  | textEnd
  | lineStart
  | lineEnd
  /-- The start of a line, where lines end with a line feed, a carriage return or both. -/
  | looseLineStart
  | looseLineEnd
  /-- A word boundary in ASCII. -/
  | wordEdge
  | noWordEdge
  | wordStart
  | wordEnd
  deriving DecidableEq

/-- Whether a character is an ASCII word character. -/
def isInWord (c : Option Char) : Bool :=
  c.any fun c => c.isAlphanum || c = '_'

namespace Place

/-- Whether an assertion holds whatever character follows. -/
def isKnownFrom (before : Option Char) : Place → Bool
  | textStart => before.isNone
  | lineStart | looseLineStart => before.isNone || before = some '\n'
  | _ => false

/-- Whether an assertion holds between two characters. -/
def isBetween (before behind : Option Char) : Place → Bool
  | textStart => before.isNone
  | textEnd => behind.isNone
  | lineStart => before.isNone || before = some '\n'
  | lineEnd => behind.isNone || behind = some '\n'
  | looseLineStart =>
    before.isNone || before = some '\n' || before = some '\r' && behind ≠ some '\n'
  | looseLineEnd => behind.isNone || behind = some '\r' || behind = some '\n' && before ≠ some '\r'
  | wordEdge => isInWord before != isInWord behind
  | noWordEdge => isInWord before == isInWord behind
  | wordStart => !isInWord before && isInWord behind
  | wordEnd => isInWord before && !isInWord behind

end Place
end HubLink.Text
