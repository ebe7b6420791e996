namespace HubLink.Text

/-- A set of characters as the ascending list of code points at which membership changes. -/
structure CharSet where
  /-- The code points at which membership changes, in ascending order. -/
  changes : List Nat
  deriving DecidableEq

namespace CharSet

/-- Whether `n` belongs to the set with the given changes, where `now` says so for the numbers before
the first change. -/
def isInside (n : Nat) (now : Bool) : List Nat → Bool
  | [] => now
  | change :: rest => if n < change then now else isInside n (!now) rest

/-- Whether a character belongs to a set. -/
def holds (s : CharSet) (c : Char) : Bool :=
  isInside c.toNat false s.changes

/-- A change at `n`, if membership changes there. -/
def changeAt (n : Nat) (before after : Bool) : List Nat :=
  if before = after then [] else [n]

/-- The changes if `outside` and `inside` differ, and none otherwise. -/
def unlessEqual (outside inside : Bool) (changes : List Nat) : List Nat :=
  if outside = inside then [] else changes

/-- The changes of the combination of two sets by `op`, where `inS` and `inT` say whether the numbers
before the first change belong to them. -/
def merge (op : Bool → Bool → Bool) (inS inT : Bool) : List Nat → List Nat → List Nat
  | s, [] => unlessEqual (op false inT) (op true inT) s
  | [], t => unlessEqual (op inS false) (op inS true) t
  | a :: s, b :: t =>
    if a < b then changeAt a (op inS inT) (op (!inS) inT) ++ merge op (!inS) inT s (b :: t)
    else if b < a then changeAt b (op inS inT) (op inS (!inT)) ++ merge op inS (!inT) (a :: s) t
    else changeAt a (op inS inT) (op (!inS) (!inT)) ++ merge op (!inS) (!inT) s t
  termination_by s t => s.length + t.length

/-- The union of two sets. -/
def union (s t : CharSet) : CharSet :=
  ⟨merge or false false s.changes t.changes⟩

/-- The intersection of two sets. -/
def inter (s t : CharSet) : CharSet :=
  ⟨merge and false false s.changes t.changes⟩

/-- The difference of two sets. -/
def without (s t : CharSet) : CharSet :=
  ⟨merge (fun inS inT => inS && !inT) false false s.changes t.changes⟩

/-- The symmetric difference of two sets. -/
def inOne (s t : CharSet) : CharSet :=
  ⟨merge xor false false s.changes t.changes⟩

/-- The empty set. -/
def nothing : CharSet :=
  ⟨[]⟩

/-- The set of all characters, without the surrogates. -/
def all : CharSet :=
  ⟨[0, 0xD800, 0xE000, 0x110000]⟩

/-- The complement of a set. -/
def complement (s : CharSet) : CharSet :=
  all.without s

/-- The set of one character. -/
def single (c : Char) : CharSet :=
  ⟨[c.toNat, c.toNat + 1]⟩

/-- The set of the characters from `first` to `last`. -/
def range (first last : Char) : CharSet :=
  all.inter ⟨[first.toNat, last.toNat + 1]⟩

/-- The set of the characters in ascending runs with gaps between them. -/
def ofRuns (runs : List (Nat × Nat)) : CharSet :=
  ⟨runs.flatMap fun (first, last) => [first, last + 1]⟩

/-- The changes of a set with `n` added, which is less than all numbers of the set. -/
def addFirst (n : Nat) : List Nat → List Nat
  | [] => [n, n + 1]
  | change :: rest =>
    if n < change then if n + 1 = change then n :: rest else n :: (n + 1) :: change :: rest
    else change :: rest

/-- The set of some code points. -/
def ofNumbers (ns : List Nat) : CharSet :=
  ⟨ns.mergeSort.foldr addFirst []⟩

/-- The pairs whose first number belongs to the set, given in the order of their first numbers. -/
def select (now : Bool) : (changes : List Nat) → List (Nat × Nat) → List (Nat × Nat)
  | _, [] => []
  | [], pairs => if now then pairs else []
  | change :: rest, pair :: pairs =>
    if pair.1 < change then
      if now then pair :: select now (change :: rest) pairs else select now (change :: rest) pairs
    else select (!now) rest (pair :: pairs)
  termination_by changes pairs => changes.length + pairs.length

/-- The second numbers of the pairs whose first number belongs to the set. -/
def image (s : CharSet) (pairs : List (Nat × Nat)) : CharSet :=
  ofNumbers ((select false s.changes pairs).map (·.2))

/-- The character of a set with exactly one. -/
def only? (s : CharSet) : Option Char :=
  match s.changes with
  | [first, behind] => if behind = first + 1 then some (Char.ofNat first) else none
  | _ => none

/-- The ASCII character classes by name. -/
def namedRuns : List (String × List (Nat × Nat)) :=
  [("alnum", [(0x30, 0x39), (0x41, 0x5A), (0x61, 0x7A)]),
   ("alpha", [(0x41, 0x5A), (0x61, 0x7A)]),
   ("ascii", [(0, 0x7F)]),
   ("blank", [(0x09, 0x09), (0x20, 0x20)]),
   ("cntrl", [(0, 0x1F), (0x7F, 0x7F)]),
   ("digit", [(0x30, 0x39)]),
   ("graph", [(0x21, 0x7E)]),
   ("lower", [(0x61, 0x7A)]),
   ("print", [(0x20, 0x7E)]),
   ("punct", [(0x21, 0x2F), (0x3A, 0x40), (0x5B, 0x60), (0x7B, 0x7E)]),
   ("space", [(0x09, 0x0D), (0x20, 0x20)]),
   ("upper", [(0x41, 0x5A)]),
   ("word", [(0x30, 0x39), (0x41, 0x5A), (0x5F, 0x5F), (0x61, 0x7A)]),
   ("xdigit", [(0x30, 0x39), (0x41, 0x46), (0x61, 0x66)])]

/-- The ASCII character class with a name. -/
def named? (name : String) : Option CharSet :=
  (namedRuns.lookup name).map ofRuns

/-- The characters with the property White_Space. -/
def blank : CharSet :=
  .ofRuns
    [(0x09, 0x0D), (0x20, 0x20), (0x85, 0x85), (0xA0, 0xA0), (0x1680, 0x1680), (0x2000, 0x200A),
     (0x2028, 0x2029), (0x202F, 0x202F), (0x205F, 0x205F), (0x3000, 0x3000)]

end CharSet
end HubLink.Text
