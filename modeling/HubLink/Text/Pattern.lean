import HubLink.Text.CharSet
import HubLink.Text.Pattern.Place

namespace HubLink.Text

/-- The bounds of a repetition. -/
inductive Repetition where
  | atMostOnce
  | anyNumber
  | atLeastOnce
  deriving DecidableEq

/-- A regular expression. Matches are preferred in the order of the alternatives, and by greediness of
repetitions. The operations below keep a normal form, on which the preference depends: no nested
sequences or alternatives, adjacent texts merged, alternatives of single characters merged into one
set, and common beginnings taken out. -/
inductive Pattern where
  | empty
  /-- A sequence of characters. -/
  | text (cs : List Char)
  | one (set : CharSet)
  | place (p : Place)
  | both (p q : Pattern)
  | either (p q : Pattern)
  | repeated (p : Pattern) (often : Repetition) (isGreedy : Bool)
  /-- A group with a number. -/
  | group (number : Nat) (p : Pattern)
  deriving DecidableEq

namespace Pattern

/-- The pattern of a set of characters. -/
def ofSet (s : CharSet) : Pattern :=
  match s.only? with
  | some c => .text [c]
  | none => .one s

/-- A pattern followed by another one. -/
def andThen : Pattern → Pattern → Pattern
  | .empty, q => q
  | .both p r, q => .both p (r.andThen q)
  | .text s, .text t => .text (s ++ t)
  | .text s, .both (.text t) q => .both (.text (s ++ t)) q
  | p, .empty => p
  | p, q => .both p q

/-- A sequence of patterns. -/
def inOrder (ps : List Pattern) : Pattern :=
  ps.foldr andThen .empty

/-- The patterns of a sequence. -/
def row : Pattern → List Pattern
  | .empty => []
  | .both p q => p :: q.row
  | p => [p]

/-- The alternatives of a pattern. -/
def alternatives : Pattern → List Pattern
  | .either p q => p :: q.alternatives
  | p => [p]

/-- The set of a pattern that is a single character. -/
def character? : Pattern → Option CharSet
  | .text [c] => some (.single c)
  | _ => none

/-- The set of a pattern that is a set or a single character. -/
def set? : Pattern → Option CharSet
  | .one s => some s
  | _ => none

/-- The union of the sets, if each pattern has one. -/
def joined? (set? : Pattern → Option CharSet) (ps : List Pattern) : Option Pattern :=
  (ps.mapM set?).map fun sets => ofSet (sets.foldl CharSet.union .nothing)

/-- The alternatives without simplification. -/
def ofAlternatives : List Pattern → Pattern
  | [] => .one .nothing
  | [p] => p
  | p :: rest => .either p (ofAlternatives rest)

/-- The alternatives, merged into one set if possible. -/
def eitherOf (ps : List Pattern) : Pattern :=
  let ps := ps.flatMap alternatives
  match ps with
  | [p] => p
  | ps => ((joined? character? ps).or (joined? set? ps)).getD (ofAlternatives ps)

/-- The common beginning of two sequences. -/
def shared : List Pattern → List Pattern → List Pattern
  | p :: ps, q :: qs => if p = q then p :: shared ps qs else []
  | _, _ => []

/-- The common beginning of all sequences; empty if one of the patterns is not a sequence. -/
def sharedByAll : List Pattern → List Pattern
  | [] => []
  | p :: ps =>
    if (p :: ps).all fun p => 1 < p.row.length then (ps.map row).foldl shared p.row else []

/-- The alternatives, with their common beginning taken out. -/
def choice (ps : List Pattern) : Pattern :=
  let ps := ps.flatMap alternatives
  match ps with
  | _ :: _ :: _ =>
    let start := sharedByAll ps
    if start.isEmpty then eitherOf ps
    else inOrder (start ++ [eitherOf (ps.map fun p => inOrder (p.row.drop start.length))])
  | ps => eitherOf ps

/-- Whether a pattern matches only the empty text. -/
def isBare : Pattern → Bool
  | .empty | .place _ => true
  | .text cs => cs.isEmpty
  | .one _ => false
  | .both p q | .either p q => p.isBare && q.isBare
  | .repeated p often _ => often = .atMostOnce && p.isBare
  | .group _ p => p.isBare

/-- The repetition of a pattern; one of an empty pattern has at most one round. -/
def repeating (p : Pattern) (often : Repetition) (isGreedy : Bool) : Pattern :=
  if p.isBare then if often = .atLeastOnce then p else .repeated p .atMostOnce isGreedy
  else .repeated p often isGreedy

/-- The minimum length of a match; `none` if there is no match. -/
def leastLength? : Pattern → Option Nat
  | .empty | .place _ => some 0
  | .text cs => some cs.length
  | .one set => if set = .nothing then none else some 1
  | .both p q => do return (← p.leastLength?) + (← q.leastLength?)
  | .either p q => do return min (← p.leastLength?) (← q.leastLength?)
  | .repeated p .atLeastOnce _ | .group _ p => p.leastLength?
  | .repeated p _ _ => p.leastLength?.map fun _ => 0

end Pattern
end HubLink.Text
