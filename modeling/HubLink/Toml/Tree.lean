import HubLink.Toml.Value

namespace HubLink.Toml

/-- The way in which a table was defined. -/
inductive Origin where
  /-- By its own header. -/
  | header
  /-- By a dotted key. -/
  | dotted
  /-- By the header of a table inside it. -/
  | implied
  deriving DecidableEq

/-- A node of the document while it is read. -/
inductive Node where
  | leaf (value : Value)
  | table (origin : Origin) (entries : List (String × Node))
  | rows (tables : List (List (String × Node)))

/-- The keys of a table with their nodes, in order. -/
abbrev Entries := List (String × Node)

/-- A dotted key: the tables on its path, and its last part. -/
structure Path where
  way : List String
  last : String

/-- A dotted key with its value. -/
abbrev Pair := Path × Value

/-- The start of a section: the root, a table header or an array-of-tables header. -/
inductive Header where
  | root
  | table (path : Path)
  | row (path : Path)

/-- A header with the pairs behind it. -/
structure Section where
  header : Header
  pairs : List Pair

namespace Entries

/-- The node of a key. -/
def node? (entries : Entries) (key : String) : Option Node :=
  (entries.find? (·.1 = key)).map (·.2)

/-- Replaces the node of a key. -/
def replace (entries : Entries) (key : String) (node : Node) : Entries :=
  entries.map fun entry => if entry.1 = key then (key, node) else entry

/-- Removes a key. -/
def erase (entries : Entries) (key : String) : Entries :=
  entries.filter (·.1 ≠ key)

/-- Inserts a pair. The key has to be new, and tables on its path have to be new or defined by dotted
keys; `open_` says that the current table may be extended. -/
def addPair (open_ : Bool) (entries : Entries) (last : String) (value : Value) :
    List String → Option Entries
  | [] =>
    if open_ && (entries.node? last).isNone then some (entries ++ [(last, .leaf value)]) else none
  | key :: way =>
    match entries.node? key with
    | none => do
      let inner ← addPair true [] last value way
      some (entries ++ [(key, .table .dotted inner)])
    | some (.table .dotted inner) => do
      let inner ← addPair true inner last value way
      some (entries.replace key (.table .dotted inner))
    | some (.table .implied inner) => do
      let inner ← addPair false inner last value way
      some (entries.replace key (.table .implied inner))
    | some (.rows tables) => do
      let newest ← tables.getLast?
      let newest ← addPair false newest last value way
      some (entries.replace key (.rows (tables.dropLast ++ [newest])))
    | some _ => none

/-- Inserts the pairs of a section. -/
def addPairs (entries : Entries) (pairs : List Pair) : Option Entries :=
  pairs.foldlM (fun entries (path, value) => addPair true entries path.last value path.way) entries

/-- Changes the table at the end of a header's path. Missing tables are created as implied; in an
array of tables the path leads to the last one. -/
def changeAt (change : Entries → Option Entries) (entries : Entries) : List String → Option Entries
  | [] => change entries
  | key :: way =>
    match entries.node? key with
    | none => do
      let inner ← changeAt change [] way
      some (entries ++ [(key, .table .implied inner)])
    | some (.table origin inner) => do
      let inner ← changeAt change inner way
      some (entries.replace key (.table origin inner))
    | some (.rows tables) => do
      let newest ← tables.getLast?
      let newest ← changeAt change newest way
      some (entries.replace key (.rows (tables.dropLast ++ [newest])))
    | some (.leaf _) => none

/-- Inserts a table with its pairs. An implied table keeps its content and is moved to the end. -/
def openTable (key : String) (pairs : List Pair) (entries : Entries) : Option Entries :=
  match entries.node? key with
  | none => do
    let inner ← addPairs [] pairs
    some (entries ++ [(key, .table .header inner)])
  | some (.table .implied inner) => do
    let inner ← addPairs inner pairs
    some (entries.erase key ++ [(key, .table .header inner)])
  | some _ => none

/-- Appends a table with its pairs to an array of tables. -/
def addRow (key : String) (pairs : List Pair) (entries : Entries) : Option Entries :=
  match entries.node? key with
  | none => do
    let row ← addPairs [] pairs
    some (entries ++ [(key, .rows [row])])
  | some (.rows tables) => do
    let row ← addPairs [] pairs
    some (entries.replace key (.rows (tables ++ [row])))
  | some _ => none

/-- Inserts a section. -/
def addSection (entries : Entries) (sec : Section) : Option Entries :=
  match sec.header with
  | .root => entries.addPairs sec.pairs
  | .table path => changeAt (openTable path.last sec.pairs) entries path.way
  | .row path => changeAt (addRow path.last sec.pairs) entries path.way

end Entries

mutual

/-- The value of a node. -/
def Node.value : Node → Value
  | .leaf value => value
  | .table _ entries => .table (Entries.values entries)
  | .rows tables => .array (Entries.valuesOfRows tables)

/-- The values of a table's entries. -/
def Entries.values : List (String × Node) → List (String × Value)
  | [] => []
  | (key, node) :: rest => (key, node.value) :: Entries.values rest

/-- The values of an array of tables. -/
def Entries.valuesOfRows : List (List (String × Node)) → List Value
  | [] => []
  | table :: rest => .table (Entries.values table) :: Entries.valuesOfRows rest

end

/-- The value of an inline table. -/
def inlineTable? (pairs : List Pair) : Option Value :=
  (Entries.addPairs [] pairs).map fun entries => .table (Entries.values entries)

/-- The entries of a document with the given sections; `none` if they conflict. -/
def tableOf? (sections : List Section) : Option (List (String × Value)) :=
  (sections.foldlM Entries.addSection []).map Entries.values

end HubLink.Toml
