namespace HubLink.Text

/-- The small letter of a capital ASCII letter. -/
def lower (c : Char) : Char :=
  if 'A' ≤ c ∧ c ≤ 'Z' then Char.ofNat (c.toNat + 0x20) else c

/-- The capital letter of a small ASCII letter. -/
def upper (c : Char) : Char :=
  if 'a' ≤ c ∧ c ≤ 'z' then Char.ofNat (c.toNat - 0x20) else c

/-- The Unicode simple case folding of a character that folds to an ASCII letter: the capital ASCII
letters, the long s and the kelvin sign. -/
def fold (c : Char) : Char :=
  if c.toNat = 0x17F then 's' else if c.toNat = 0x212A then 'k' else lower c

/-- Equality up to the case of ASCII letters. -/
def sameLetters (s t : String) : Bool :=
  s.toList.map lower == t.toList.map lower

end HubLink.Text
