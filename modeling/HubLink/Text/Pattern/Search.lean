import HubLink.Text.Pattern.Automaton

namespace HubLink.Text

namespace Automaton

/-- The node with a number. -/
def node (a : Automaton) (n : Nat) : Node :=
  a.nodes.getD n (.fork [])

/-- Follows a node without consuming a character. Nodes in `seen`, the last one first, are not
followed again, so the number of nodes is enough as `fuel`. -/
def follow (a : Automaton) (isHere : Place → Bool) : (fuel : Nat) → (seen : List Nat) → Nat → List Nat
  | 0, seen, _ => seen
  | fuel + 1, seen, n =>
    if seen.contains n then seen
    else
      let seen := n :: seen
      match a.node n with
      | .fork nexts => nexts.foldl (a.follow isHere fuel) seen
      | .check place next => if isHere place then a.follow isHere fuel seen next else seen
      | .done | .take _ _ | .skip _ => seen

/-- Follows a node with enough fuel. -/
def reach (a : Automaton) (isHere : Place → Bool) (seen : List Nat) (n : Nat) : List Nat :=
  a.follow isHere a.nodes.size seen n

/-- Whether a node waits for the next character. -/
def waits (a : Automaton) (n : Nat) : Bool :=
  match a.node n with
  | .fork _ => false
  | _ => true

/-- The nodes that wait, in order of preference. -/
def waiting (a : Automaton) (seen : List Nat) : List Nat :=
  (seen.filter a.waits).reverse

/-- Whether one of the nodes is a complete match. -/
def isDone (a : Automaton) (nodes : List Nat) : Bool :=
  nodes.any fun n => a.node n = .done

/-- Whether an assertion holds only now that the next character is known. -/
def isNewlyHere (a : Automaton) (before behind : Option Char) (n : Nat) : Bool :=
  match a.node n with
  | .check place _ => place.isBetween before behind && !place.isKnownFrom before
  | _ => false

/-- The waiting nodes after the assertions on the next character. -/
def lookAhead (a : Automaton) (before behind : Option Char) (nodes : List Nat) : List Nat :=
  if nodes.any (a.isNewlyHere before behind) then
    a.waiting (nodes.foldl (a.reach (·.isBetween before behind)) [])
  else nodes

/-- Whether the pattern matches the empty text inside of the UTF-8 encoding of a character. -/
def matchesInside (a : Automaton) : Bool :=
  a.isDone (a.reach (· = .noWordEdge) [] a.first)

/-- Whether the search continues after a character: no empty match inside of its encoding comes
first. -/
def canSkip (a : Automaton) (c : Char) : Bool :=
  c.utf8Size = 1 || !a.matchesInside

/-- The nodes after consuming a character, up to the first complete match. -/
def advance (a : Automaton) (c : Char) : (nodes seen : List Nat) → List Nat
  | [], seen => seen
  | n :: rest, seen =>
    let reached (isTaken : Bool) (next : Nat) : List Nat :=
      if isTaken then a.reach (·.isKnownFrom (some c)) seen next else seen
    match a.node n with
    | .done => seen
    | .take set next => advance a c rest (reached (set.holds c) next)
    | .skip next => advance a c rest (reached (a.canSkip c) next)
    | .check _ _ | .fork _ => advance a c rest seen

/-- Whether there is a complete match at the end of the text; `before` is the character in front of
it. -/
def isDoneAtEnd (a : Automaton) (before : Option Char) (nodes : List Nat) : List Char → Bool
  | [] => a.isDone (a.lookAhead before none nodes)
  | c :: rest =>
    a.isDoneAtEnd (some c) (a.waiting (a.advance c (a.lookAhead before (some c) nodes) [])) rest

/-- Whether the leftmost preferred match ends at the end of the text. -/
def isFoundAtEnd (a : Automaton) (text : List Char) : Bool :=
  a.isDoneAtEnd none (a.waiting (a.reach (·.isKnownFrom none) [] a.search)) text

end Automaton

/-- Whether the leftmost preferred match of a pattern ends at the end of a text. -/
def Pattern.isFoundAtEnd (p : Pattern) (text : List Char) : Bool :=
  (Automaton.ofPattern p).isFoundAtEnd text

end HubLink.Text
