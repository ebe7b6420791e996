namespace HubLink.Text

/-- Whether a character has the Unicode property White_Space. -/
def isBlank (c : Char) : Bool :=
  let n := c.toNat
  (9 ≤ n && n ≤ 13) || n == 0x20 || n == 0x85 || n == 0xA0 || n == 0x1680 ||
    (0x2000 ≤ n && n ≤ 0x200A) || n == 0x2028 || n == 0x2029 || n == 0x202F || n == 0x205F ||
    n == 0x3000

/-- Removes white space at the start of a text. -/
def trimStart (s : List Char) : List Char :=
  s.dropWhile isBlank

/-- Removes white space at the end of a text. -/
def trimEnd (s : List Char) : List Char :=
  (s.reverse.dropWhile isBlank).reverse

/-- Removes white space at both ends of a text. -/
def trim (s : List Char) : List Char :=
  trimEnd (trimStart s)

theorem dropWhile_eq_nil {p : Char → Bool} {s : List Char} :
    s.dropWhile p = [] ↔ ∀ c ∈ s, p c = true := by
  induction s with
  | nil => simp
  | cons c rest ih => cases h : p c <;> simp [h, ih]

/-- Trimming gives the empty text exactly if all characters are white space. -/
theorem trim_eq_nil_iff {s : List Char} : trim s = [] ↔ ∀ c ∈ s, isBlank c = true := by
  constructor
  · intro h
    have hall : ∀ c ∈ trimStart s, isBlank c = true := by
      intro c hc
      have hback : (trimStart s).reverse.dropWhile isBlank = [] := by simpa [trim, trimEnd] using h
      exact dropWhile_eq_nil.1 hback c (by simpa using hc)
    have hnil : trimStart s = [] := by
      cases htail : trimStart s with
      | nil => rfl
      | cons c rest =>
        have hnot := List.head?_dropWhile_not isBlank s
        rw [show s.dropWhile isBlank = c :: rest from htail] at hnot
        simp [hall c (by simp [htail])] at hnot
    exact dropWhile_eq_nil.1 hnil
  · intro h
    simp [trim, trimEnd, show trimStart s = [] from dropWhile_eq_nil.2 h]

end HubLink.Text
