import HubLink.Proofs.Toml.Written

namespace HubLink.Toml

open Text

variable {text rest : List Char}

section name

variable {name : String}

/-- The name is not empty and has only characters of unquoted keys. -/
structure IsBare (name : String) : Prop where
  chars : ∀ c ∈ name.toList, isBareKey c = true
  nonempty : name.toList ≠ []

instance (name : String) : Decidable (IsBare name) :=
  decidable_of_iff (name.toList.all isBareKey = true ∧ name.toList ≠ [])
    ⟨fun ⟨chars, nonempty⟩ => ⟨List.all_eq_true.1 chars, nonempty⟩,
      fun ⟨chars, nonempty⟩ => ⟨List.all_eq_true.2 chars, nonempty⟩⟩

/-- A bare name starts with none of the characters that start something else. -/
theorem IsBare.exists_cons (h : IsBare name) : ∃ c more, name.toList = c :: more ∧
    isBareKey c = true ∧ c ∉ [' ', '\t', '\n', '#', '"', '\'', '['] := by
  obtain ⟨c, more, hname⟩ := List.exists_cons_of_ne_nil h.nonempty
  have hc : isBareKey c = true := h.chars c (hname ▸ List.mem_cons_self)
  exact ⟨c, more, hname, hc, not_mem_of_any_eq_false (p := isBareKey) (by decide) hc⟩

theorem skipSpaces_of_head (h : ∀ c ∈ text.head?, isSpace c = false) : skipSpaces text = text := by
  cases text with
  | nil => rfl
  | cons c more =>
    have hc : isSpace c = false := h c rfl
    exact List.dropWhile_cons_of_neg (by simp [hc])

theorem IsBare.skipSpaces (h : IsBare name) (rest : List Char) :
    Toml.skipSpaces (name.toList ++ rest) = name.toList ++ rest := by
  obtain ⟨c, more, hname, -, hc⟩ := h.exists_cons
  apply skipSpaces_of_head
  intro d hd
  obtain rfl : c = d := by simpa [hname] using hd
  simp only [List.mem_cons, not_or] at hc
  simp [isSpace, hc]

/-- Reading a key part reads a bare name up to the first character that is not bare. -/
theorem readKeyPart?_bare (h : IsBare name) (hrest : ∀ c ∈ rest.head?, isBareKey c = false) :
    readKeyPart? (name.toList ++ rest) = some (name, rest) := by
  have hrow := takeWhile_dropWhile_row h.chars hrest
  have hempty : name.toList.isEmpty = false := by simpa using h.nonempty
  have hstart : ∀ more, name.toList ++ rest ≠ '"' :: more ∧ name.toList ++ rest ≠ '\'' :: more := by
    intro more
    obtain ⟨c, tail, hname, -, hc⟩ := h.exists_cons
    simp only [List.mem_cons, not_or] at hc
    simp [hname, hc]
  unfold readKeyPart?
  split
  case h_1 more heq => exact absurd heq (hstart more).1
  case h_2 more heq => exact absurd heq (hstart more).2
  case h_3 =>
    simp only [hrow, hempty]
    simp

/-- Reading a key reads a bare name that no dot follows. -/
theorem readPath?_bare (h : IsBare name) (rest : List Char)
    (hrest : ∀ c ∈ rest.head?, isBareKey c = false) (hdot : (skipSpaces rest).head? ≠ some '.') :
    readPath? (name.toList ++ rest) = some (⟨[], name⟩, skipSpaces rest) := by
  have hparts : readKeyParts? (depthLimit - 1) (name.toList ++ rest) =
      some ([name], skipSpaces rest) := by
    rw [show depthLimit - 1 = 78 + 1 from rfl, readKeyParts?, h.skipSpaces, readKeyPart?_bare h hrest]
    simp only [Option.bind_eq_bind, Option.bind_some]
    split
    case h_1 more heq => exact absurd (by rw [heq]; rfl) hdot
    case h_2 => rfl
  rw [readPath?, hparts]
  rfl

end name

section line

variable {name key : String}

/-- The line of a table header. -/
def headerLine (name : String) : List Char :=
  '[' :: name.toList ++ [']', '\n']

theorem readContent?_header (h : IsBare name) (rest : List Char) :
    readContent? (headerLine name ++ rest) = some (.header (.table ⟨[], name⟩), rest) := by
  have hpath := readPath?_bare h (']' :: '\n' :: rest) (by rintro _ ⟨⟩; decide)
    (by simp [skipSpaces, isSpace])
  have hline : headerLine name ++ rest = '[' :: (name.toList ++ ']' :: '\n' :: rest) := by
    simp [headerLine]
  rw [hline]
  unfold readContent?
  split
  case h_1 more heq =>
    obtain ⟨c, tail, hname, -, hc⟩ := h.exists_cons
    simp only [List.mem_cons, not_or] at hc
    simp [hname, hc] at heq
  case h_2 more _ heq =>
    obtain rfl : name.toList ++ ']' :: '\n' :: rest = more := by simpa using heq
    rw [hpath]
    rfl
  case h_3 hbracket => exact absurd rfl (hbracket _)

theorem readContent?_pair {v : Value} (h : IsBare key) (hv : WrittenAs text v) (rest : List Char) :
    readContent? (Config.line key text ++ rest) = some (.pair (⟨[], key⟩, v), rest) := by
  have hpath := readPath?_bare h (' ' :: '=' :: ' ' :: (text ++ '\n' :: rest))
    (by rintro _ ⟨⟩; decide) (by simp [skipSpaces, isSpace])
  have hline : Config.line key text ++ rest =
      key.toList ++ ' ' :: '=' :: ' ' :: (text ++ '\n' :: rest) := by
    simp [Config.line]
  have hspace : skipSpaces (' ' :: (text ++ '\n' :: rest)) = text ++ '\n' :: rest := by
    have hhead : ∀ c ∈ (text ++ '\n' :: rest).head?, isSpace c = false := by
      cases text with
      | nil =>
        rintro _ ⟨⟩
        decide
      | cons c more => exact hv.head
    exact skipSpaces_of_head hhead
  have hbracket : ∀ more, key.toList ++ ' ' :: '=' :: ' ' :: (text ++ '\n' :: rest) ≠ '[' :: more := by
    intro more
    obtain ⟨c, tail, hkey, -, hc⟩ := h.exists_cons
    simp only [List.mem_cons, not_or] at hc
    simp [hkey, hc]
  rw [hline]
  unfold readContent?
  split
  case h_1 heq => exact absurd heq (hbracket _)
  case h_2 heq => exact absurd heq (hbracket _)
  case h_3 =>
    rw [hpath]
    show (readTopValue? (skipSpaces (' ' :: (text ++ '\n' :: rest)))).bind _ = _
    rw [hspace, hv.read]
    rfl

end line

/-- The text is read as these lines, for any fuel greater than its length. -/
def ReadsAs (text : List Char) (lines : List Line) : Prop :=
  ∀ fuel, text.length < fuel → readAllLines? fuel text = some lines

theorem readsAs_nil : ReadsAs [] [] := by
  intro fuel hfuel
  cases fuel with
  | zero => exact absurd hfuel (Nat.lt_irrefl 0)
  | succ fuel => rfl

theorem ReadsAs.blank {lines : List Line} (h : ReadsAs text lines) : ReadsAs ('\n' :: text) lines := by
  intro fuel hfuel
  rw [List.length_cons] at hfuel
  obtain _ | fuel := fuel
  · omega
  have hread := h (fuel + 1) (by omega)
  rw [readAllLines?] at hread ⊢
  exact hread

/-- A line with content at the head of a text is read first. -/
theorem ReadsAs.cons {c : Char} {more : List Char} {line : Line} {lines : List Line}
    (h : ReadsAs rest lines)
    (hc : c ∉ [' ', '\t', '\n', '#']) (hline : readContent? (c :: more ++ rest) = some (line, rest)) :
    ReadsAs (c :: more ++ rest) (line :: lines) := by
  intro fuel hfuel
  rw [List.length_append, List.length_cons] at hfuel
  obtain _ | fuel := fuel
  · omega
  have hrest := h fuel (by omega)
  have hskip : skipLines? false (c :: more ++ rest) = some (c :: more ++ rest) := by
    simp only [List.mem_cons, List.not_mem_nil, or_false, not_or] at hc
    simp [skipLines?, isSpace, hc]
  rw [readAllLines?, hskip]
  show (readContent? (c :: more ++ rest)).bind _ = _
  rw [hline, Option.bind_some]
  show (readAllLines? fuel rest).bind _ = _
  rw [hrest]
  rfl

/-- A key with its value, and the text of the value. -/
structure Entry where
  key : String
  value : Value
  text : List Char

/-- A table name with its entries. -/
structure Block where
  name : String
  entries : List Entry

namespace Entry

variable {entries : List Entry} {lines : List Line}

/-- The keys are bare and distinct, and each text is written for its value. -/
structure AllWritten (entries : List Entry) : Prop where
  keys : ∀ e ∈ entries, IsBare e.key
  texts : ∀ e ∈ entries, WrittenAs e.text e.value
  distinct : (entries.map key).Nodup

/-- The line of an entry. -/
def write (e : Entry) : List Char :=
  Config.line e.key e.text

/-- The pair that an entry is read as. -/
def pair (e : Entry) : Pair :=
  (⟨[], e.key⟩, e.value)

theorem readsAs_write {e : Entry} (h : ReadsAs rest lines) (hkey : IsBare e.key)
    (hv : WrittenAs e.text e.value) : ReadsAs (e.write ++ rest) (.pair e.pair :: lines) := by
  have hline := readContent?_pair hkey hv rest
  obtain ⟨c, more, hname, -, hc⟩ := hkey.exists_cons
  have hwrite : e.write = c :: (more ++ [' ', '=', ' '] ++ e.text ++ ['\n']) := by
    simp [write, Config.line, hname]
  rw [hwrite]
  apply h.cons
  · simp only [List.mem_cons, List.not_mem_nil, or_false, not_or] at hc ⊢
    exact ⟨hc.1, hc.2.1, hc.2.2.1, hc.2.2.2.1⟩
  · rw [← hwrite]
    exact hline

theorem readsAs_entries (hkeys : ∀ e ∈ entries, IsBare e.key)
    (htexts : ∀ e ∈ entries, WrittenAs e.text e.value) (h : ReadsAs rest lines) :
    ReadsAs (entries.flatMap write ++ rest) (entries.map (.pair ·.pair) ++ lines) := by
  induction entries with
  | nil => exact h
  | cons e others ih =>
    obtain ⟨hkey, hkeys⟩ := List.forall_mem_cons.1 hkeys
    obtain ⟨htext, htexts⟩ := List.forall_mem_cons.1 htexts
    rw [List.flatMap_cons, List.append_assoc]
    exact readsAs_write (ih hkeys htexts) hkey htext

theorem node?_eq_none {nodes : Entries} {key : String} (h : key ∉ nodes.map (·.1)) : nodes.node? key = none := by
  have hfind : nodes.find? (·.1 = key) = none := by
    rw [List.find?_eq_none]
    intro entry hmem heq
    exact h (List.mem_map.2 ⟨entry, hmem, by simpa using heq⟩)
  rw [Entries.node?, hfind]
  rfl

/-- The node of an entry. -/
def node (e : Entry) : String × Node :=
  (e.key, .leaf e.value)

theorem addPairs_entries {nodes : Entries} (h : (nodes.map (·.1) ++ entries.map key).Nodup) :
    nodes.addPairs (entries.map pair) = some (nodes ++ entries.map node) := by
  induction entries generalizing nodes with
  | nil => simp [Entries.addPairs]
  | cons e others ih =>
    have hfresh : e.key ∉ nodes.map (·.1) := by
      intro hmem
      rw [List.nodup_append] at h
      exact h.2.2 _ hmem _ List.mem_cons_self rfl
    have hadd : Entries.addPair true nodes e.key e.value [] = some (nodes ++ [e.node]) := by
      simp [Entries.addPair, node?_eq_none hfresh, node]
    have hothers : ((nodes ++ [e.node]).map (·.1) ++ others.map key).Nodup := by
      simpa [node] using h
    have hrest := ih hothers
    rw [Entries.addPairs] at hrest ⊢
    rw [List.map_cons, List.foldlM_cons]
    show (Entries.addPair true nodes e.key e.value []).bind _ = _
    rw [hadd, Option.bind_some, hrest]
    simp

end Entry

theorem values_eq_map (nodes : List (String × Node)) :
    Entries.values nodes = nodes.map fun (key, node) => (key, node.value) := by
  induction nodes with
  | nil => rfl
  | cons entry nodes ih => rw [Entries.values, ih, List.map_cons]

namespace Block

variable {b : Block} {blocks : List Block}

/-- The name is bare, and all entries are written. -/
structure IsWritten (b : Block) : Prop where
  name : IsBare b.name
  entries : Entry.AllWritten b.entries

/-- The text of a table. -/
def write (b : Block) : List Char :=
  headerLine b.name ++ b.entries.flatMap Entry.write

/-- The value of a table. -/
def value (b : Block) : Value :=
  .table (b.entries.map fun e => (e.key, e.value))

/-- The lines of a table. -/
def lines (b : Block) : List Line :=
  .header (.table ⟨[], b.name⟩) :: b.entries.map (.pair ·.pair)

/-- The section of a table. -/
def toSection (b : Block) : Section :=
  ⟨.table ⟨[], b.name⟩, b.entries.map Entry.pair⟩

/-- The node of a table. -/
def node (b : Block) : String × Node :=
  (b.name, .table .header (b.entries.map Entry.node))

theorem readsAs_write {lines : List Line} (hb : b.IsWritten) (h : ReadsAs rest lines) :
    ReadsAs (b.write ++ rest) (b.lines ++ lines) := by
  have hentries := Entry.readsAs_entries hb.entries.keys hb.entries.texts h
  have hline := readContent?_header hb.name (b.entries.flatMap Entry.write ++ rest)
  rw [write, List.append_assoc]
  exact hentries.cons (by decide) hline

theorem readsAs_document (h : ∀ b ∈ blocks, b.IsWritten) :
    ReadsAs (join '\n' (blocks.map write)) (blocks.flatMap lines) := by
  induction blocks with
  | nil => exact readsAs_nil
  | cons b others ih =>
    obtain ⟨hb, hothers⟩ := List.forall_mem_cons.1 h
    cases others with
    | nil =>
      have hread := readsAs_write hb readsAs_nil
      rw [List.append_nil] at hread
      exact hread
    | cons next others => exact readsAs_write hb (ih hothers).blank

theorem sectionsOf_pairs (header : Header) (pairs more : List Pair) (rest : List Line) :
    sectionsOf header pairs (more.map .pair ++ rest) = sectionsOf header (pairs ++ more) rest := by
  induction more generalizing pairs with
  | nil => rw [List.append_nil, List.map_nil, List.nil_append]
  | cons pair more ih =>
    rw [List.map_cons, List.cons_append, sectionsOf, ih, List.append_assoc]
    rfl

/-- The sections of the lines of some tables are one for each table. -/
theorem sectionsOf_lines (header : Header) (pairs : List Pair) :
    sectionsOf header pairs (blocks.flatMap lines) = ⟨header, pairs⟩ :: blocks.map toSection := by
  induction blocks generalizing header pairs with
  | nil => rfl
  | cons b others ih =>
    have hpairs : b.entries.map (fun e => Line.pair e.pair) = (b.entries.map Entry.pair).map .pair := by
      simp
    rw [List.flatMap_cons, lines, List.cons_append, sectionsOf, hpairs, sectionsOf_pairs, ih]
    rfl

theorem foldlM_addSection (nodes : Entries) (h : ∀ b ∈ blocks, b.IsWritten)
    (hnames : (nodes.map (·.1) ++ blocks.map name).Nodup) :
    (blocks.map toSection).foldlM Entries.addSection nodes = some (nodes ++ blocks.map node) := by
  induction blocks generalizing nodes with
  | nil => simp
  | cons b others ih =>
    obtain ⟨hb, hothers⟩ := List.forall_mem_cons.1 h
    have hfresh : b.name ∉ nodes.map (·.1) := by
      intro hmem
      rw [List.nodup_append] at hnames
      exact hnames.2.2 _ hmem _ List.mem_cons_self rfl
    have hinner : Entries.addPairs [] (b.entries.map Entry.pair) = some (b.entries.map Entry.node) :=
      Entry.addPairs_entries hb.entries.distinct
    have hadd : nodes.addSection b.toSection = some (nodes ++ [b.node]) := by
      show Entries.openTable b.name (b.entries.map Entry.pair) nodes = _
      rw [Entries.openTable, Entry.node?_eq_none hfresh]
      simp only [hinner]
      rfl
    have hrest : ((nodes ++ [b.node]).map (·.1) ++ others.map name).Nodup := by
      simpa [node] using hnames
    rw [List.map_cons, List.foldlM_cons, hadd]
    show (others.map toSection).foldlM Entries.addSection (nodes ++ [b.node]) = _
    rw [ih _ hothers hrest]
    simp

/-- A document of written tables with distinct names has one entry for each. -/
theorem tableOf?_blocks (h : ∀ b ∈ blocks, b.IsWritten) (hnames : (blocks.map name).Nodup) :
    tableOf? (⟨.root, []⟩ :: blocks.map toSection) =
      some (blocks.map fun b => (b.name, b.value)) := by
  have hfold := foldlM_addSection [] h hnames
  have hvalue (b : Block) : (b.node.1, b.node.2.value) = (b.name, b.value) := by
    simp [node, value, Node.value, values_eq_map, Entry.node]
  rw [tableOf?, List.foldlM_cons]
  show ((blocks.map toSection).foldlM Entries.addSection []).map _ = _
  rw [hfold, Option.map_some, values_eq_map, List.nil_append, List.map_map]
  exact congrArg some (List.map_congr_left fun b _ => hvalue b)

end Block

theorem unifyLines?_of_not_mem (h : '\r' ∉ text) : unifyLines? text = some text := by
  induction text with
  | nil => rfl
  | cons c rest ih =>
    obtain ⟨hc, hrest⟩ : '\r' ≠ c ∧ '\r' ∉ rest := by simpa using h
    rw [unifyLines?, if_neg hc.symm, ih hrest]
    · rfl
    · rintro _ rfl
      exact absurd rfl hc

/-- A text without a byte order mark and without carriage returns is read line by line. -/
theorem read?_of_readsAs {lines : List Line} (hmark : ∀ c ∈ text.head?, c.toNat ≠ 0xFEFF)
    (hreturn : '\r' ∉ text) (h : ReadsAs text lines) :
    read? (String.ofList text) = tableOf? (sectionsOf .root [] lines) := by
  have hunified := unifyLines?_of_not_mem hreturn
  have hread := h (text.length + 1) (Nat.lt_succ_self _)
  rw [read?, String.toList_ofList]
  cases text with
  | nil =>
    simp only [hunified, hread, Option.bind_eq_bind, Option.bind_some]
  | cons c rest =>
    simp only [if_neg (hmark c rfl), hunified, hread, Option.bind_eq_bind, Option.bind_some]

namespace Block

variable {blocks : List Block}

theorem return_not_mem_of_isBare {name : String} (h : IsBare name) : '\r' ∉ name.toList := by
  intro hmem
  exact absurd (h.chars _ hmem) (by decide)

theorem return_not_mem_write {b : Block} (h : b.IsWritten) : '\r' ∉ b.write := by
  have hname := return_not_mem_of_isBare h.name
  have hentry : ∀ e ∈ b.entries, '\r' ∉ e.write := by
    intro e he
    have hkey := return_not_mem_of_isBare (h.entries.keys e he)
    have htext := (h.entries.texts e he).oneEnding
    simp [Entry.write, Config.line, hkey, htext]
  simpa [write, headerLine, hname] using hentry

theorem return_not_mem_document (h : ∀ b ∈ blocks, b.IsWritten) :
    '\r' ∉ join '\n' (blocks.map write) := by
  induction blocks with
  | nil => simp [join]
  | cons b others ih =>
    obtain ⟨hb, hothers⟩ := List.forall_mem_cons.1 h
    cases others with
    | nil => exact return_not_mem_write hb
    | cons next others =>
      have hrest := ih hothers
      simp only [List.map_cons, join] at hrest ⊢
      simp [return_not_mem_write hb, hrest]

/-- The text of a document starts with `[`. -/
theorem head?_document {c : Char} (h : c ∈ (join '\n' (blocks.map write)).head?) : c = '[' := by
  match blocks with
  | [] => cases h
  | [b] => exact (Option.some.inj h).symm
  | b :: _ :: _ => exact (Option.some.inj h).symm

/-- Reading the text of written tables with distinct names gives these tables, in order. -/
theorem read?_document (h : ∀ b ∈ blocks, b.IsWritten) (hnames : (blocks.map name).Nodup) :
    read? (String.ofList (join '\n' (blocks.map write))) =
      some (blocks.map fun b => (b.name, b.value)) := by
  have hmark : ∀ c ∈ (join '\n' (blocks.map write)).head?, c.toNat ≠ 0xFEFF := by
    intro c hc
    rw [head?_document hc]
    decide
  rw [read?_of_readsAs hmark (return_not_mem_document h) (readsAs_document h), sectionsOf_lines]
  exact tableOf?_blocks h hnames

end Block

end HubLink.Toml
