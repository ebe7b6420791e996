import HubLink.Text.Decimal

namespace HubLink.Text

variable {c : Char} {n m : Nat}

theorem digitValue?_of_isDigit (h : c.isDigit = true) : digitValue? c = some (c.toNat - 0x30) := by
  have hrange : 0x30 ≤ c.toNat ∧ c.toNat ≤ 0x39 := by
    simpa [Char.isDigit, UInt32.le_iff_toNat_le] using h
  rw [digitValue?, if_pos hrange]

/-- The characters of a decimal numeral are digits. -/
theorem digitValue?_of_mem_decimal (h : c ∈ decimal n) : digitValue? c = some (c.toNat - 0x30) :=
  digitValue?_of_isDigit (Nat.isDigit_of_mem_toDigits (by decide) (by decide) h)

theorem isDigit_iff : isDigit c = true ↔ 0x30 ≤ c.toNat ∧ c.toNat ≤ 0x39 := by
  by_cases h : 0x30 ≤ c.toNat ∧ c.toNat ≤ 0x39 <;> simp [isDigit, digitValue?, h]

theorem isDigit_of_mem_decimal (h : c ∈ decimal n) : isDigit c = true := by
  rw [isDigit, digitValue?_of_mem_decimal h]
  rfl

theorem decimal_ne_nil (n : Nat) : decimal n ≠ [] :=
  Nat.toDigits_ne_nil

theorem foldlM_digits {digits : List Char}
    (h : ∀ c ∈ digits, digitValue? c = some (c.toNat - 0x30)) (sum : Nat) :
    digits.foldlM (fun sum c => (digitValue? c).map (10 * sum + ·)) sum =
      some (Nat.ofDigitChars 10 digits sum) := by
  induction digits generalizing sum with
  | nil => rfl
  | cons c digits ih =>
    obtain ⟨hc, hdigits⟩ := List.forall_mem_cons.1 h
    rw [List.foldlM_cons, hc, Nat.ofDigitChars_cons]
    exact ih hdigits _

/-- Reading the digits of a number gives the number. -/
theorem decimal?_decimal (n : Nat) : decimal? (decimal n) = some n := by
  have hne : (decimal n).isEmpty = false := by simpa using decimal_ne_nil n
  rw [decimal?, numeral?, hne]
  have hread := foldlM_digits (fun c => digitValue?_of_mem_decimal (n := n)) 0
  rwa [decimal, Nat.ofDigitChars_ten_toDigits] at hread

theorem decimal_inj : decimal n = decimal m ↔ n = m := by
  constructor
  · intro h
    have hread := decimal?_decimal n
    rw [h, decimal?_decimal m] at hread
    exact (Option.some.inj hread).symm
  · rintro rfl
    rfl

/-- The digits of a number other than 0 do not start with `0`. -/
theorem head?_decimal_ne (h : n ≠ 0) : (decimal n).head? ≠ some '0' := by
  induction n using Nat.strongRecOn with
  | ind n ih =>
    rw [decimal, Nat.toDigits_eq_if (by decide)]
    split
    case isTrue hsmall =>
      have hdigits : ∀ d < 10, d ≠ 0 → Nat.digitChar d ≠ '0' := by decide
      simpa using hdigits n hsmall h
    case isFalse hlarge =>
      have hfront := ih (n / 10) (by omega) (by omega)
      obtain ⟨d, rest, hdigits⟩ := List.exists_cons_of_ne_nil (decimal_ne_nil (n / 10))
      rw [hdigits] at hfront
      rw [show Nat.toDigits 10 (n / 10) = d :: rest from hdigits]
      exact hfront

theorem minus_not_mem_decimal (n : Nat) : '-' ∉ decimal n := by
  intro h
  have hdigit := digitValue?_of_mem_decimal h
  cases hdigit

/-- The numerals of integers are distinct. -/
theorem decimalInt_inj {x y : Int} : decimalInt x = decimalInt y ↔ x = y := by
  constructor
  · intro h
    unfold decimalInt at h
    split at h <;> split at h
    · have habs := decimal_inj.1 (List.cons_inj_right _ |>.1 h)
      omega
    · exact absurd (h ▸ List.mem_cons_self) (minus_not_mem_decimal _)
    · exact absurd (h ▸ List.mem_cons_self) (minus_not_mem_decimal _)
    · have habs := decimal_inj.1 h
      omega
  · rintro rfl
    rfl

/-- The characters of an integer's numeral are digits and `-`. -/
theorem mem_decimalInt {x : Int} (h : c ∈ decimalInt x) : c = '-' ∨ isDigit c = true := by
  unfold decimalInt at h
  split at h
  · obtain rfl | hc := List.mem_cons.1 h
    · exact .inl rfl
    · exact .inr (isDigit_of_mem_decimal hc)
  · exact .inr (isDigit_of_mem_decimal h)

end HubLink.Text
