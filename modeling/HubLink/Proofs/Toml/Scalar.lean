import HubLink.Proofs.Text.Decimal
import HubLink.Toml.Scalar

namespace HubLink.Toml

open Text

variable {c : Char} {text digits : List Char} {n : Nat}

/-- A text splits at the first character without property `p`. -/
theorem takeWhile_dropWhile_row {p : Char → Bool} {row rest : List Char} (h : ∀ c ∈ row, p c = true)
    (hrest : ∀ c ∈ rest.head?, p c = false) :
    (row ++ rest).takeWhile p = row ∧ (row ++ rest).dropWhile p = rest := by
  rw [List.takeWhile_append_of_pos h, List.dropWhile_append_of_pos h]
  cases rest with
  | nil => simp
  | cons c more => simp [hrest c rfl]

theorem not_mem_of_any_eq_false {p : Char → Bool} (h : text.any p = false) (hc : p c = true) :
    c ∉ text := by
  intro hmem
  have hnot := List.any_eq_false.1 h c hmem
  exact hnot hc

theorem behind?_of_not_mem (h : c ∉ text) : behind? c text = none := by
  cases text with
  | nil => rfl
  | cons d rest =>
    have hd : d ≠ c := fun heq => h (heq ▸ List.mem_cons_self)
    exact if_neg hd

theorem drop_of_fixedDigits? {count low high : Nat} {rest : List Char}
    (h : fixedDigits? count low high text = some (n, rest)) : rest = text.drop count := by
  unfold fixedDigits? at h
  obtain ⟨m, -, h⟩ := Option.bind_eq_some_iff.1 h
  split at h
  case isTrue =>
    cases h
    rfl
  case isFalse => cases h

/-- A text without a colon is not a time. -/
theorem behindTime?_of_not_mem (h : ':' ∉ text) : behindTime? text = none := by
  unfold behindTime?
  cases hhours : fixedDigits? 2 0 23 text with
  | none => rfl
  | some hours =>
    obtain ⟨n, rest⟩ := hours
    obtain rfl := drop_of_fixedDigits? hhours
    have hrest : ':' ∉ text.drop 2 := fun hmem => h (List.mem_of_mem_drop hmem)
    simp [behind?_of_not_mem hrest]

/-- A text without a minus sign is not a date. -/
theorem behindDate?_of_not_mem (h : '-' ∉ text) : behindDate? text = none := by
  unfold behindDate?
  cases hyear : fixedDigits? 4 0 9999 text with
  | none => rfl
  | some year =>
    obtain ⟨n, rest⟩ := year
    obtain rfl := drop_of_fixedDigits? hyear
    have hrest : '-' ∉ text.drop 4 := fun hmem => h (List.mem_of_mem_drop hmem)
    simp [behind?_of_not_mem hrest]

/-- All characters are digits. -/
abbrev AllDigits (digits : List Char) : Prop :=
  ∀ c ∈ digits, isDigit c = true

theorem AllDigits.not_mem (h : AllDigits digits) (hc : isDigit c = false) : c ∉ digits := by
  intro hmem
  rw [h c hmem] at hc
  cases hc

theorem isMoment_of_digits (h : AllDigits digits) : isMoment digits = false := by
  rw [isMoment, behindTime?_of_not_mem (h.not_mem (by decide)),
    behindDate?_of_not_mem (h.not_mem (by decide))]
  rfl

theorem digitGroups?_of_digits (h : AllDigits digits) (hne : digits ≠ []) :
    digitGroups? isDigit digits = some digits := by
  induction digits with
  | nil => exact absurd rfl hne
  | cons c rest ih =>
    obtain ⟨hc, hrest⟩ := List.forall_mem_cons.1 h
    cases rest with
    | nil => simp [digitGroups?, hc]
    | cons d more =>
      have hd : d ≠ '_' := by
        rintro rfl
        exact absurd (hrest '_' List.mem_cons_self) (by decide)
      rw [digitGroups?, if_pos hc, ih hrest (by simp)]
      · rfl
      · simp
      · rintro _ heq
        cases heq
        exact hd rfl

theorem integer?_of_digits (h : AllDigits digits) : integer? digits = decimalInteger? digits := by
  have hx : 'x' ∉ digits := h.not_mem (by decide)
  have ho : 'o' ∉ digits := h.not_mem (by decide)
  have hb : 'b' ∉ digits := h.not_mem (by decide)
  unfold integer?
  split
  · simp at hx
  · simp at ho
  · simp at hb
  · rfl

theorem splitSign_of_digits (h : AllDigits digits) : splitSign digits = (none, digits) := by
  have hplus : '+' ∉ digits := h.not_mem (by decide)
  have hminus : '-' ∉ digits := h.not_mem (by decide)
  unfold splitSign
  split
  · simp at hplus
  · simp at hminus
  · rfl

/-- The decimal digits of a number have no leading zero. -/
theorem wholeDigits?_decimal (n : Nat) : wholeDigits? (decimal n) = some (decimal n) := by
  have hdigits : AllDigits (decimal n) := fun c => isDigit_of_mem_decimal
  have hzero : ¬ ((decimal n).head? = some '0' ∧ (decimal n).length ≠ 1) := by
    rintro ⟨hhead, hlength⟩
    by_cases hn : n = 0
    · subst hn
      exact hlength rfl
    · exact head?_decimal_ne hn hhead
  rw [wholeDigits?, digitGroups?_of_digits hdigits (decimal_ne_nil n)]
  exact if_neg hzero

theorem decimalInteger?_decimal (n : Nat) : decimalInteger? (decimal n) = integerOf? n := by
  have hdigits : AllDigits (decimal n) := fun c => isDigit_of_mem_decimal
  unfold decimalInteger?
  rw [splitSign_of_digits hdigits]
  show (wholeDigits? (decimal n)).bind _ = _
  rw [wholeDigits?_decimal, Option.bind_some]
  show (decimal? (decimal n)).bind _ = _
  rw [decimal?_decimal, Option.bind_some, if_neg (by simp)]

/-- Reading the decimal digits of a number gives the number. -/
theorem scalar?_decimal (h : isInteger n = true) : scalar? (decimal n) = some (.integer n) := by
  have hdigits : AllDigits (decimal n) := fun c => isDigit_of_mem_decimal
  have hword : ∀ word : List Char, (∃ c ∈ word, isDigit c = false) → decimal n ≠ word := by
    rintro word ⟨c, hc, hdigit⟩ rfl
    exact hdigits.not_mem hdigit hc
  have htrue : decimal n ≠ "true".toList := hword _ ⟨'t', by decide, by decide⟩
  have hfalse : decimal n ≠ "false".toList := hword _ ⟨'f', by decide, by decide⟩
  have hinteger : integer? (decimal n) = some (.integer n) := by
    rw [integer?_of_digits hdigits, decimalInteger?_decimal, integerOf?, if_pos h]
  rw [scalar?, if_neg htrue, if_neg hfalse, isMoment_of_digits hdigits, hinteger]
  simp

/-- A value at the end of a line is read from the text up to the line break. -/
theorem readScalar?_line (h : text.any endsScalar = false) (rest : List Char) :
    readScalar? (text ++ '\n' :: rest) = (scalar? text).map (·, '\n' :: rest) := by
  obtain ⟨hrow, hrest⟩ := takeWhile_dropWhile_row (p := fun c => !endsScalar c) (by simpa using h)
    (show ∀ c ∈ ('\n' :: rest).head?, (!endsScalar c) = false by rintro _ ⟨⟩; decide)
  unfold readScalar?
  simp only [hrow, hrest]
  rfl

end HubLink.Toml
