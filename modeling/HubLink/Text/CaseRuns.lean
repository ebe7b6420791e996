import HubLink.Text.CharSet

namespace HubLink.Text

/-- A run of characters with the same distance to the first character that is equal under simple case
folding. -/
structure CaseRun where
  first : Nat
  last : Nat
  /-- Whether only every second character of the run belongs to it. -/
  isAlternating : Bool
  /-- The distance of each character to its first variant. -/
  distance : Nat

/-- The runs of all characters with a smaller variant under simple case folding of Unicode 17, in
order. -/
def caseRuns : List CaseRun :=
  [⟨0x61, 0x7A, false, 0x20⟩, ⟨0xE0, 0xF6, false, 0x20⟩, ⟨0xF8, 0xFE, false, 0x20⟩,
   ⟨0x101, 0x12F, true, 0x1⟩, ⟨0x133, 0x137, true, 0x1⟩, ⟨0x13A, 0x148, true, 0x1⟩,
   ⟨0x14B, 0x177, true, 0x1⟩, ⟨0x178, 0x178, false, 0x79⟩, ⟨0x17A, 0x17E, true, 0x1⟩,
   ⟨0x17F, 0x17F, false, 0x12C⟩, ⟨0x183, 0x185, true, 0x1⟩, ⟨0x188, 0x188, false, 0x1⟩,
   ⟨0x18C, 0x18C, false, 0x1⟩, ⟨0x192, 0x192, false, 0x1⟩, ⟨0x199, 0x199, false, 0x1⟩,
   ⟨0x1A1, 0x1A5, true, 0x1⟩, ⟨0x1A8, 0x1A8, false, 0x1⟩, ⟨0x1AD, 0x1AD, false, 0x1⟩,
   ⟨0x1B0, 0x1B0, false, 0x1⟩, ⟨0x1B4, 0x1B6, true, 0x1⟩, ⟨0x1B9, 0x1B9, false, 0x1⟩,
   ⟨0x1BD, 0x1BD, false, 0x1⟩, ⟨0x1C5, 0x1C5, false, 0x1⟩, ⟨0x1C6, 0x1C6, false, 0x2⟩,
   ⟨0x1C8, 0x1C8, false, 0x1⟩, ⟨0x1C9, 0x1C9, false, 0x2⟩, ⟨0x1CB, 0x1CB, false, 0x1⟩,
   ⟨0x1CC, 0x1CC, false, 0x2⟩, ⟨0x1CE, 0x1DC, true, 0x1⟩, ⟨0x1DD, 0x1DD, false, 0x4F⟩,
   ⟨0x1DF, 0x1EF, true, 0x1⟩, ⟨0x1F2, 0x1F2, false, 0x1⟩, ⟨0x1F3, 0x1F3, false, 0x2⟩,
   ⟨0x1F5, 0x1F5, false, 0x1⟩, ⟨0x1F6, 0x1F6, false, 0x61⟩, ⟨0x1F7, 0x1F7, false, 0x38⟩,
   ⟨0x1F9, 0x21F, true, 0x1⟩, ⟨0x220, 0x220, false, 0x82⟩, ⟨0x223, 0x233, true, 0x1⟩,
   ⟨0x23C, 0x23C, false, 0x1⟩, ⟨0x23D, 0x23D, false, 0xA3⟩, ⟨0x242, 0x242, false, 0x1⟩,
   ⟨0x243, 0x243, false, 0xC3⟩, ⟨0x247, 0x24F, true, 0x1⟩, ⟨0x253, 0x253, false, 0xD2⟩,
   ⟨0x254, 0x254, false, 0xCE⟩, ⟨0x256, 0x257, false, 0xCD⟩, ⟨0x259, 0x259, false, 0xCA⟩,
   ⟨0x25B, 0x25B, false, 0xCB⟩, ⟨0x260, 0x260, false, 0xCD⟩, ⟨0x263, 0x263, false, 0xCF⟩,
   ⟨0x268, 0x268, false, 0xD1⟩, ⟨0x269, 0x269, false, 0xD3⟩, ⟨0x26F, 0x26F, false, 0xD3⟩,
   ⟨0x272, 0x272, false, 0xD5⟩, ⟨0x275, 0x275, false, 0xD6⟩, ⟨0x280, 0x280, false, 0xDA⟩,
   ⟨0x283, 0x283, false, 0xDA⟩, ⟨0x288, 0x288, false, 0xDA⟩, ⟨0x289, 0x289, false, 0x45⟩,
   ⟨0x28A, 0x28B, false, 0xD9⟩, ⟨0x28C, 0x28C, false, 0x47⟩, ⟨0x292, 0x292, false, 0xDB⟩,
   ⟨0x371, 0x373, true, 0x1⟩, ⟨0x377, 0x377, false, 0x1⟩, ⟨0x399, 0x399, false, 0x54⟩,
   ⟨0x39C, 0x39C, false, 0x2E7⟩, ⟨0x3AC, 0x3AC, false, 0x26⟩, ⟨0x3AD, 0x3AF, false, 0x25⟩,
   ⟨0x3B1, 0x3B8, false, 0x20⟩, ⟨0x3B9, 0x3B9, false, 0x74⟩, ⟨0x3BA, 0x3BB, false, 0x20⟩,
   ⟨0x3BC, 0x3BC, false, 0x307⟩, ⟨0x3BD, 0x3C1, false, 0x20⟩, ⟨0x3C2, 0x3C2, false, 0x1F⟩,
   ⟨0x3C3, 0x3CB, false, 0x20⟩, ⟨0x3CC, 0x3CC, false, 0x40⟩, ⟨0x3CD, 0x3CE, false, 0x3F⟩,
   ⟨0x3D0, 0x3D0, false, 0x3E⟩, ⟨0x3D1, 0x3D1, false, 0x39⟩, ⟨0x3D5, 0x3D5, false, 0x2F⟩,
   ⟨0x3D6, 0x3D6, false, 0x36⟩, ⟨0x3D7, 0x3D7, false, 0x8⟩, ⟨0x3D9, 0x3EF, true, 0x1⟩,
   ⟨0x3F0, 0x3F0, false, 0x56⟩, ⟨0x3F1, 0x3F1, false, 0x50⟩, ⟨0x3F3, 0x3F3, false, 0x74⟩,
   ⟨0x3F4, 0x3F4, false, 0x5C⟩, ⟨0x3F5, 0x3F5, false, 0x60⟩, ⟨0x3F8, 0x3F8, false, 0x1⟩,
   ⟨0x3F9, 0x3F9, false, 0x7⟩, ⟨0x3FB, 0x3FB, false, 0x1⟩, ⟨0x3FD, 0x3FF, false, 0x82⟩,
   ⟨0x430, 0x44F, false, 0x20⟩, ⟨0x450, 0x45F, false, 0x50⟩, ⟨0x461, 0x481, true, 0x1⟩,
   ⟨0x48B, 0x4BF, true, 0x1⟩, ⟨0x4C2, 0x4CE, true, 0x1⟩, ⟨0x4CF, 0x4CF, false, 0xF⟩,
   ⟨0x4D1, 0x52F, true, 0x1⟩, ⟨0x561, 0x586, false, 0x30⟩, ⟨0x13F8, 0x13FD, false, 0x8⟩,
   ⟨0x1C80, 0x1C80, false, 0x186E⟩, ⟨0x1C81, 0x1C81, false, 0x186D⟩,
   ⟨0x1C82, 0x1C82, false, 0x1864⟩, ⟨0x1C83, 0x1C84, false, 0x1862⟩,
   ⟨0x1C85, 0x1C85, false, 0x1863⟩, ⟨0x1C86, 0x1C86, false, 0x185C⟩,
   ⟨0x1C87, 0x1C87, false, 0x1825⟩, ⟨0x1C8A, 0x1C8A, false, 0x1⟩, ⟨0x1C90, 0x1CBA, false, 0xBC0⟩,
   ⟨0x1CBD, 0x1CBF, false, 0xBC0⟩, ⟨0x1E01, 0x1E95, true, 0x1⟩, ⟨0x1E9B, 0x1E9B, false, 0x3B⟩,
   ⟨0x1E9E, 0x1E9E, false, 0x1DBF⟩, ⟨0x1EA1, 0x1EFF, true, 0x1⟩, ⟨0x1F08, 0x1F0F, false, 0x8⟩,
   ⟨0x1F18, 0x1F1D, false, 0x8⟩, ⟨0x1F28, 0x1F2F, false, 0x8⟩, ⟨0x1F38, 0x1F3F, false, 0x8⟩,
   ⟨0x1F48, 0x1F4D, false, 0x8⟩, ⟨0x1F59, 0x1F5F, true, 0x8⟩, ⟨0x1F68, 0x1F6F, false, 0x8⟩,
   ⟨0x1F88, 0x1F8F, false, 0x8⟩, ⟨0x1F98, 0x1F9F, false, 0x8⟩, ⟨0x1FA8, 0x1FAF, false, 0x8⟩,
   ⟨0x1FB8, 0x1FB9, false, 0x8⟩, ⟨0x1FBA, 0x1FBB, false, 0x4A⟩, ⟨0x1FBC, 0x1FBC, false, 0x9⟩,
   ⟨0x1FBE, 0x1FBE, false, 0x1C79⟩, ⟨0x1FC8, 0x1FCB, false, 0x56⟩, ⟨0x1FCC, 0x1FCC, false, 0x9⟩,
   ⟨0x1FD3, 0x1FD3, false, 0x1C43⟩, ⟨0x1FD8, 0x1FD9, false, 0x8⟩, ⟨0x1FDA, 0x1FDB, false, 0x64⟩,
   ⟨0x1FE3, 0x1FE3, false, 0x1C33⟩, ⟨0x1FE8, 0x1FE9, false, 0x8⟩, ⟨0x1FEA, 0x1FEB, false, 0x70⟩,
   ⟨0x1FEC, 0x1FEC, false, 0x7⟩, ⟨0x1FF8, 0x1FF9, false, 0x80⟩, ⟨0x1FFA, 0x1FFB, false, 0x7E⟩,
   ⟨0x1FFC, 0x1FFC, false, 0x9⟩, ⟨0x2126, 0x2126, false, 0x1D7D⟩, ⟨0x212A, 0x212A, false, 0x20DF⟩,
   ⟨0x212B, 0x212B, false, 0x2066⟩, ⟨0x214E, 0x214E, false, 0x1C⟩, ⟨0x2170, 0x217F, false, 0x10⟩,
   ⟨0x2184, 0x2184, false, 0x1⟩, ⟨0x24D0, 0x24E9, false, 0x1A⟩, ⟨0x2C30, 0x2C5F, false, 0x30⟩,
   ⟨0x2C61, 0x2C61, false, 0x1⟩, ⟨0x2C62, 0x2C62, false, 0x29F7⟩, ⟨0x2C63, 0x2C63, false, 0xEE6⟩,
   ⟨0x2C64, 0x2C64, false, 0x29E7⟩, ⟨0x2C65, 0x2C65, false, 0x2A2B⟩,
   ⟨0x2C66, 0x2C66, false, 0x2A28⟩, ⟨0x2C68, 0x2C6C, true, 0x1⟩, ⟨0x2C6D, 0x2C6D, false, 0x2A1C⟩,
   ⟨0x2C6E, 0x2C6E, false, 0x29FD⟩, ⟨0x2C6F, 0x2C6F, false, 0x2A1F⟩,
   ⟨0x2C70, 0x2C70, false, 0x2A1E⟩, ⟨0x2C73, 0x2C73, false, 0x1⟩, ⟨0x2C76, 0x2C76, false, 0x1⟩,
   ⟨0x2C7E, 0x2C7F, false, 0x2A3F⟩, ⟨0x2C81, 0x2CE3, true, 0x1⟩, ⟨0x2CEC, 0x2CEE, true, 0x1⟩,
   ⟨0x2CF3, 0x2CF3, false, 0x1⟩, ⟨0x2D00, 0x2D25, false, 0x1C60⟩, ⟨0x2D27, 0x2D27, false, 0x1C60⟩,
   ⟨0x2D2D, 0x2D2D, false, 0x1C60⟩, ⟨0xA641, 0xA649, true, 0x1⟩, ⟨0xA64A, 0xA64A, false, 0x89C2⟩,
   ⟨0xA64B, 0xA64B, false, 0x89C3⟩, ⟨0xA64D, 0xA66D, true, 0x1⟩, ⟨0xA681, 0xA69B, true, 0x1⟩,
   ⟨0xA723, 0xA72F, true, 0x1⟩, ⟨0xA733, 0xA76F, true, 0x1⟩, ⟨0xA77A, 0xA77C, true, 0x1⟩,
   ⟨0xA77D, 0xA77D, false, 0x8A04⟩, ⟨0xA77F, 0xA787, true, 0x1⟩, ⟨0xA78C, 0xA78C, false, 0x1⟩,
   ⟨0xA78D, 0xA78D, false, 0xA528⟩, ⟨0xA791, 0xA793, true, 0x1⟩, ⟨0xA797, 0xA7A9, true, 0x1⟩,
   ⟨0xA7AA, 0xA7AA, false, 0xA544⟩, ⟨0xA7AB, 0xA7AB, false, 0xA54F⟩,
   ⟨0xA7AC, 0xA7AC, false, 0xA54B⟩, ⟨0xA7AD, 0xA7AD, false, 0xA541⟩,
   ⟨0xA7AE, 0xA7AE, false, 0xA544⟩, ⟨0xA7B0, 0xA7B0, false, 0xA512⟩,
   ⟨0xA7B1, 0xA7B1, false, 0xA52A⟩, ⟨0xA7B2, 0xA7B2, false, 0xA515⟩, ⟨0xA7B5, 0xA7C3, true, 0x1⟩,
   ⟨0xA7C4, 0xA7C4, false, 0x30⟩, ⟨0xA7C5, 0xA7C5, false, 0xA543⟩, ⟨0xA7C6, 0xA7C6, false, 0x8A38⟩,
   ⟨0xA7C8, 0xA7CA, true, 0x1⟩, ⟨0xA7CB, 0xA7CB, false, 0xA567⟩, ⟨0xA7CD, 0xA7DB, true, 0x1⟩,
   ⟨0xA7DC, 0xA7DC, false, 0xA641⟩, ⟨0xA7F6, 0xA7F6, false, 0x1⟩, ⟨0xAB53, 0xAB53, false, 0x3A0⟩,
   ⟨0xAB70, 0xABBF, false, 0x97D0⟩, ⟨0xFB06, 0xFB06, false, 0x1⟩, ⟨0xFF41, 0xFF5A, false, 0x20⟩,
   ⟨0x10428, 0x1044F, false, 0x28⟩, ⟨0x104D8, 0x104FB, false, 0x28⟩,
   ⟨0x10597, 0x105A1, false, 0x27⟩, ⟨0x105A3, 0x105B1, false, 0x27⟩,
   ⟨0x105B3, 0x105B9, false, 0x27⟩, ⟨0x105BB, 0x105BC, false, 0x27⟩,
   ⟨0x10CC0, 0x10CF2, false, 0x40⟩, ⟨0x10D70, 0x10D85, false, 0x20⟩,
   ⟨0x118C0, 0x118DF, false, 0x20⟩, ⟨0x16E60, 0x16E7F, false, 0x20⟩,
   ⟨0x16EBB, 0x16ED3, false, 0x1B⟩, ⟨0x1E922, 0x1E943, false, 0x22⟩]

/-- The characters of a run with their first variants. -/
def CaseRun.pairs (r : CaseRun) : List (Nat × Nat) :=
  let step := if r.isAlternating then 2 else 1
  (List.range' r.first ((r.last - r.first) / step + 1) step).map fun n => (n, n - r.distance)

/-- The pairs with their components exchanged, in order. -/
def reversePairs (pairs : List (Nat × Nat)) : List (Nat × Nat) :=
  (pairs.map Prod.swap).mergeSort fun p q => p.1 ≤ q.1

/-- All characters with a smaller variant, each with the smallest one. -/
def casePairs : List (Nat × Nat) :=
  caseRuns.flatMap CaseRun.pairs

/-- All smallest variants, each with every larger one. -/
def reverseCasePairs : List (Nat × Nat) :=
  reversePairs casePairs

/-- The small ASCII letters, each with the capital one. -/
def asciiCasePairs : List (Nat × Nat) :=
  CaseRun.pairs ⟨0x61, 0x7A, false, 0x20⟩

namespace CharSet

/-- The set with all case variants of its characters. -/
def anyCase (s : CharSet) : CharSet :=
  let s := s.union (s.image casePairs)
  s.union (s.image reverseCasePairs)

/-- The set with all ASCII case variants of its characters. -/
def anyAsciiCase (s : CharSet) : CharSet :=
  (s.union (s.image asciiCasePairs)).union (s.image (reversePairs asciiCasePairs))

end CharSet
end HubLink.Text
