import HubLink.Text.Pattern

namespace HubLink.Text

/-- A node of the automaton with the numbers of its successors. -/
inductive Node where
  /-- A complete match. -/
  | done
  /-- A character of a set. -/
  | take (set : CharSet) (next : Nat)
  | check (place : Place) (next : Nat)
  /-- Alternatives in order of preference. -/
  | fork (nexts : List Nat)
  /-- A character before the match. -/
  | skip (next : Nat)
  deriving DecidableEq

/-- The nodes by number. -/
abbrev Nodes := Array Node

namespace Nodes

/-- Adds a node and returns its number. -/
def add (nodes : Nodes) (n : Node) : Nat × Nodes :=
  (nodes.size, nodes.push n)

/-- The fork between another round of a repetition and its end. -/
def between (isGreedy : Bool) (body next : Nat) : Node :=
  .fork (if isGreedy then [body, next] else [next, body])

/-- Adds a repeated body and returns the numbers of its first node and of the fork behind it. -/
def addLoop (nodes : Nodes) (isGreedy : Bool) (next : Nat) (body : Nat → Nodes → Nat × Nodes) :
    Nat × Nat × Nodes :=
  let (loop, nodes) := nodes.add (.fork [])
  let (first, nodes) := body loop nodes
  (first, loop, nodes.setIfInBounds loop (between isGreedy first next))

/-- Adds the nodes of a pattern in front of the node `next` and returns the number of the first one.
The first round of a repetition whose body matches the empty text has its own nodes. -/
def addPattern : Pattern → (next : Nat) → Nodes → Nat × Nodes
  | .empty, next, nodes => (next, nodes)
  | .text cs, next, nodes =>
    cs.foldr (fun c (next, nodes) => add nodes (.take (.single c) next)) (next, nodes)
  | .one set, next, nodes => add nodes (.take set next)
  | .place p, next, nodes => add nodes (.check p next)
  | .both p q, next, nodes =>
    let (next, nodes) := addPattern q next nodes
    addPattern p next nodes
  | .either p q, next, nodes =>
    let (first, nodes) := addPattern p next nodes
    let (second, nodes) := addPattern q next nodes
    add nodes (.fork [first, second])
  | .repeated p .atMostOnce isGreedy, next, nodes =>
    let (first, nodes) := addPattern p next nodes
    add nodes (between isGreedy first next)
  | .repeated p .atLeastOnce isGreedy, next, nodes =>
    let (first, _, nodes) := addLoop nodes isGreedy next (addPattern p)
    (first, nodes)
  | .repeated p .anyNumber isGreedy, next, nodes =>
    let (first, loop, nodes) := addLoop nodes isGreedy next (addPattern p)
    if p.leastLength?.any (0 < ·) then (loop, nodes) else add nodes (between isGreedy first next)
  | .group _ p, next, nodes => addPattern p next nodes

end Nodes

/-- An automaton with the first nodes of the match and of the search. -/
structure Automaton where
  nodes : Nodes
  first : Nat
  search : Nat

/-- The automaton of a pattern. -/
def Automaton.ofPattern (p : Pattern) : Automaton :=
  let (first, nodes) := Nodes.addPattern p 0 #[.done]
  let (search, nodes) := nodes.add (.fork [first, nodes.size + 1])
  { nodes := nodes.push (.skip search), first, search }

end HubLink.Text
