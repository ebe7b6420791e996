import HubLink.Config.Render
import HubLink.Proofs.Toml.Quoting
import HubLink.Proofs.Toml.Scalar
import HubLink.Toml.Reader

namespace HubLink.Toml

open Text

variable {text rest : List Char}

/-- The text is read as the value if a line break follows it, and contains no carriage return. -/
structure WrittenAs (text : List Char) (v : Value) : Prop where
  read : ∀ rest, readTopValue? (text ++ '\n' :: rest) = some (v, '\n' :: rest)
  head : ∀ c ∈ text.head?, isSpace c = false
  oneEnding : '\r' ∉ text

theorem readTopValue?_of_scalar {c : Char} (hc : c ∉ ['"', '\'', '[', '\x7b']) :
    readTopValue? (c :: rest) = readScalar? (c :: rest) := by
  simp only [List.mem_cons, List.not_mem_nil, or_false, not_or] at hc
  obtain ⟨hdouble, hsingle, hbracket, hbrace⟩ := hc
  rw [readTopValue?, readValue?]
  all_goals
    rintro _ heq
    cases heq
    contradiction

/-- A text that is read as a scalar is written for its value. -/
theorem writtenAs_of_scalar {v : Value} {c : Char} (hv : scalar? (c :: text) = some v)
    (hc : c ∉ ['"', '\'', '[', '\x7b']) (hends : (c :: text).any endsScalar = false)
    (hreturn : '\r' ∉ c :: text) : WrittenAs (c :: text) v where
  read rest := by
    have hrow := readScalar?_line hends rest
    rw [hv] at hrow
    rw [List.cons_append, readTopValue?_of_scalar hc]
    exact hrow
  head d hd := by
    obtain rfl : c = d := by simpa using hd
    obtain ⟨hend, -⟩ : endsScalar c = false ∧ text.any endsScalar = false := by
      rwa [List.any_cons, Bool.or_eq_false_iff] at hends
    simp only [endsScalar, Bool.or_eq_false_iff] at hend
    simp [isSpace, hend]
  oneEnding := hreturn

theorem endsScalar_of_isDigit {c : Char} (h : isDigit c = true) : endsScalar c = false := by
  have hends : c ∉ [' ', '\t', '\n', '#', ',', ']', '\x7d'] :=
    not_mem_of_any_eq_false (p := isDigit) (by decide) h
  simp only [List.mem_cons, List.not_mem_nil, or_false, not_or] at hends
  simp [endsScalar, hends]

theorem writtenAs_decimal {n : Nat} (h : isInteger n = true) :
    WrittenAs (decimal n) (.integer n) := by
  have hdigits : AllDigits (decimal n) := fun c => isDigit_of_mem_decimal
  have hread := scalar?_decimal h
  have hreturn : '\r' ∉ decimal n := hdigits.not_mem (by decide)
  obtain ⟨c, more, hdecimal⟩ := List.exists_cons_of_ne_nil (decimal_ne_nil n)
  rw [hdecimal] at hdigits hread hreturn ⊢
  apply writtenAs_of_scalar hread
  · exact not_mem_of_any_eq_false (p := isDigit) (by decide) (hdigits c List.mem_cons_self)
  · rw [List.any_eq_false]
    intro d hd
    simp [endsScalar_of_isDigit (hdigits d hd)]
  · exact hreturn

theorem writtenAs_writeBool (b : Bool) : WrittenAs (Config.writeBool b) (.boolean b) := by
  cases b with
  | true => exact writtenAs_of_scalar rfl (by decide) (by decide) (by decide)
  | false => exact writtenAs_of_scalar rfl (by decide) (by decide) (by decide)

theorem return_ne_hexDigit {n : Nat} (h : n < 16) : '\r' ≠ hexDigit n := by
  have hdigits : ∀ m : Fin 16, '\r' ≠ hexDigit m := by decide
  exact hdigits ⟨n, h⟩

theorem return_not_mem_escapeChar (s : Style) (run : Nat) (c : Char) :
    '\r' ∉ (escapeChar s run c).1 := by
  unfold escapeChar
  split
  case isTrue => split <;> simp
  split
  case isTrue => simp
  split
  case isTrue => simp
  split
  case isTrue => simp
  split
  case isTrue => simp
  case isFalse hreturn =>
    split
    case isTrue => simp
    split
    case isTrue => split <;> simp
    split
    case isTrue hcontrol =>
      have hsmall : c.toNat < 0x80 := by
        simp [isControl] at hcontrol
        omega
      have hhigh := return_ne_hexDigit (n := c.toNat / 16) (by omega)
      have hlow := return_ne_hexDigit (n := c.toNat % 16) (by omega)
      simp [hhigh, hlow]
    case isFalse => simpa using Ne.symm hreturn

theorem return_not_mem_escapeText (s : Style) (run : Nat) (text : List Char) :
    '\r' ∉ escapeText s run text := by
  induction text generalizing run with
  | nil => simp [escapeText]
  | cons c text ih =>
    rw [escapeText, List.mem_append, not_or]
    exact ⟨return_not_mem_escapeChar s run c, ih _⟩

/-- A written string contains no carriage return. -/
theorem return_not_mem_writeString (text : String) : '\r' ∉ writeString text := by
  have hsuited := suited_spec text.toList
  unfold writeString
  generalize Style.suited text.toList = s at hsuited ⊢
  have hfence : '\r' ∉ List.replicate s.fence s.quote := by
    cases s <;> decide
  have hbody : '\r' ∉ if s.hasEscapes then escapeText s 0 text.toList else text.toList := by
    split
    case isTrue => exact return_not_mem_escapeText s 0 text.toList
    case isFalse hescapes =>
      intro hmem
      obtain ⟨hcontrol, -⟩ := (hsuited.resolve_left hescapes).2 _ hmem
      cases hcontrol
  have hstart : '\r' ∉ if s.isMultiline && text.toList.contains '\n' then ['\n'] else [] := by
    split <;> simp
  simp only [Style.write, List.mem_append, not_or]
  exact ⟨⟨⟨hfence, hstart⟩, hbody⟩, hfence⟩

theorem exists_writeString (text : String) :
    ∃ more, writeString text = (Style.suited text.toList).quote :: more := by
  unfold writeString
  generalize Style.suited text.toList = s
  cases s <;> exact ⟨_, rfl⟩

theorem writtenAs_writeString (text : String) : WrittenAs (writeString text) (.string text) where
  read rest := by
    have hquote : ∀ c ∈ ('\n' :: rest).head?, c ≠ (Style.suited text.toList).quote := by
      rintro _ ⟨⟩
      cases Style.suited text.toList <;> decide
    have hread := readString?_writeString text ('\n' :: rest) hquote
    obtain ⟨more, hwritten⟩ := exists_writeString text
    rw [hwritten, List.cons_append] at hread ⊢
    unfold readTopValue?
    generalize Style.suited text.toList = s at hread ⊢
    cases s <;> (rw [Style.quote] at hread ⊢; rw [readValue?, hread]; rfl)
  head c hc := by
    obtain ⟨more, hwritten⟩ := exists_writeString text
    obtain rfl : (Style.suited text.toList).quote = c := by simpa [hwritten] using hc
    cases Style.suited text.toList <;> decide
  oneEnding := return_not_mem_writeString text

end HubLink.Toml
