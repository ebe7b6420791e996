import HubLink.Text.Blank
import HubLink.Text.Form

namespace HubLink.Text.Form

variable {b : UInt8} {c : Char}

/-- Whether a character can occur in a form-encoded text. -/
def isFormChar (c : Char) : Bool :=
  (c.toNat < 0x80 && isPlain (UInt8.ofNat c.toNat)) || c == '+' || c == '%'

theorem toNat_lt_of_isPlain (h : isPlain b = true) : b.toNat < 0x80 := by
  simp only [isPlain, Bool.or_eq_true, Bool.and_eq_true, decide_eq_true_eq, beq_iff_eq] at h
  omega

theorem toNat_ofNat (b : UInt8) : (Char.ofNat b.toNat).toNat = b.toNat := by
  have hvalid : b.toNat.isValidChar := .inl (Nat.lt_trans b.toNat_lt (by decide))
  rw [Char.ofNat, dif_pos hvalid]
  rfl

theorem isFormChar_hexDigit {n : Nat} (h : n < 16) : isFormChar (hexDigit n) = true := by
  have hdigits : ∀ m : Fin 16, isFormChar (hexDigit m) = true := by decide
  exact hdigits ⟨n, h⟩

/-- The encoding of a byte has only such characters. -/
theorem isFormChar_of_mem_encodeByte (h : c ∈ encodeByte b) : isFormChar c = true := by
  unfold encodeByte at h
  split at h
  case isTrue hplain =>
    obtain rfl : c = Char.ofNat b.toNat := by simpa using h
    simp [isFormChar, toNat_ofNat, hplain, toNat_lt_of_isPlain hplain]
  case isFalse =>
    split at h
    case isTrue =>
      obtain rfl : c = '+' := by simpa using h
      decide
    case isFalse =>
      have hbyte := b.toNat_lt
      obtain rfl | rfl | rfl :
          c = '%' ∨ c = hexDigit (b.toNat / 16) ∨ c = hexDigit (b.toNat % 16) := by simpa using h
      · decide
      · exact isFormChar_hexDigit (by omega)
      · exact isFormChar_hexDigit (by omega)

theorem isFormChar_of_mem_encode {s : String} (h : c ∈ (encode s).toList) : isFormChar c = true := by
  rw [encode, String.toList_ofList, encodeBytes, List.mem_flatMap] at h
  obtain ⟨b, -, hb⟩ := h
  exact isFormChar_of_mem_encodeByte hb

/-- Any other character does not occur in a form-encoded text. -/
theorem not_mem_encode (h : isFormChar c = false) (s : String) : c ∉ (encode s).toList := by
  intro hmem
  rw [isFormChar_of_mem_encode hmem] at h
  cases h

theorem lt_of_isFormChar (h : isFormChar c = true) : c.toNat < 0x80 := by
  simp only [isFormChar, Bool.or_eq_true, Bool.and_eq_true, decide_eq_true_eq, beq_iff_eq] at h
  obtain (⟨hascii, -⟩ | rfl) | rfl := h
  · exact hascii
  · decide
  · decide

theorem isBlank_of_isFormChar (h : isFormChar c = true) : isBlank c = false := by
  have hascii : ∀ n < 0x80, isFormChar (Char.ofNat n) = true → isBlank (Char.ofNat n) = false := by
    decide
  have hchar := hascii c.toNat (lt_of_isFormChar h)
  rw [Char.ofNat_toNat] at hchar
  exact hchar h

theorem decodeBytes?_cons (hplus : c ≠ '+') (hpercent : c ≠ '%') (hascii : c.toNat < 0x80)
    (rest : List Char) :
    decodeBytes? (c :: rest) = (decodeBytes? rest).map (UInt8.ofNat c.toNat :: ·) := by
  rw [decodeBytes?]
  · simp [hpercent, Nat.not_le.2 hascii]
  · exact hplus
  · intro high low more hc
    exact absurd hc hpercent

theorem decodeBytes?_plain (hplain : isPlain b = true) (rest : List Char) :
    decodeBytes? (Char.ofNat b.toNat :: rest) = (decodeBytes? rest).map (b :: ·) := by
  have hne : ∀ d : Char, isPlain (UInt8.ofNat d.toNat) = false → Char.ofNat b.toNat ≠ d := by
    rintro d hd rfl
    simp [toNat_ofNat, hplain] at hd
  rw [decodeBytes?_cons (hne '+' (by decide)) (hne '%' (by decide)), toNat_ofNat]
  · simp
  · rw [toNat_ofNat]
    exact toNat_lt_of_isPlain hplain

theorem decodeBytes?_percent (b : UInt8) (rest : List Char) :
    decodeBytes? ('%' :: hexDigit (b.toNat / 16) :: hexDigit (b.toNat % 16) :: rest) =
      (decodeBytes? rest).map (b :: ·) := by
  have hbyte := b.toNat_lt
  have hhigh : hexValue? (hexDigit (b.toNat / 16)) = some (b.toNat / 16) :=
    hexValue?_hexDigit (by omega)
  have hlow : hexValue? (hexDigit (b.toNat % 16)) = some (b.toNat % 16) :=
    hexValue?_hexDigit (by omega)
  have hvalue : UInt8.ofNat (16 * (b.toNat / 16) + b.toNat % 16) = b := by
    rw [Nat.div_add_mod, UInt8.ofNat_toNat]
  rw [decodeBytes?, hhigh, hlow]
  cases hrest : decodeBytes? rest with
  | none => rfl
  | some bytes =>
    show some (UInt8.ofNat (16 * (b.toNat / 16) + b.toNat % 16) :: bytes) = some (b :: bytes)
    rw [hvalue]

/-- Decoding the encoding of a byte gives the byte. -/
theorem decodeBytes?_encodeByte (b : UInt8) (rest : List Char) :
    decodeBytes? (encodeByte b ++ rest) = (decodeBytes? rest).map (b :: ·) := by
  unfold encodeByte
  split
  case isTrue hplain => exact decodeBytes?_plain hplain rest
  case isFalse =>
    split
    case isTrue hspace =>
      subst hspace
      rfl
    case isFalse => exact decodeBytes?_percent b rest

theorem decodeBytes?_encodeBytes (bytes : Bytes) : decodeBytes? (encodeBytes bytes) = some bytes := by
  induction bytes with
  | nil => rfl
  | cons b bytes ih =>
    have hfirst : encodeBytes (b :: bytes) = encodeByte b ++ encodeBytes bytes := List.flatMap_cons
    rw [hfirst, decodeBytes?_encodeByte, ih]
    rfl

/-- Decoding the encoding of a text gives the text. -/
theorem decode?_encode (s : String) : decode? (encode s).toList = some s := by
  rw [decode?, encode, String.toList_ofList, decodeBytes?_encodeBytes]
  exact ofUtf8?_utf8 s

/-- Form encoding is injective. -/
theorem encode_injective {s t : String} (h : encode s = encode t) : s = t := by
  have hread := decode?_encode s
  rw [h, decode?_encode t] at hread
  exact (Option.some.inj hread).symm

theorem flatMap_utf8EncodeChar {s : List Char} (h : ∀ c ∈ s, c.toNat < 0x80) :
    s.flatMap String.utf8EncodeChar = s.map fun c => UInt8.ofNat c.toNat := by
  induction s with
  | nil => rfl
  | cons c s ih =>
    obtain ⟨hc, hs⟩ := List.forall_mem_cons.1 h
    have hsize : c.utf8Size = 1 := by
      rw [Char.utf8Size_eq_one_iff, UInt32.le_iff_toNat_le]
      exact Nat.le_of_lt_succ hc
    rw [List.flatMap_cons, String.utf8EncodeChar_eq_singleton hsize, ih hs]
    rfl

/-- The UTF-8 encoding of ASCII characters has one byte for each. -/
theorem utf8_of_ascii {s : List Char} (h : ∀ c ∈ s, c.toNat < 0x80) :
    utf8 (String.ofList s) = s.map fun c => UInt8.ofNat c.toNat := by
  rw [← flatMap_utf8EncodeChar h]
  simp [utf8, List.utf8Encode]

/-- A text of ASCII characters that are not escaped is its own encoding. -/
theorem encode_of_plain {s : List Char}
    (h : ∀ c ∈ s, c.toNat < 0x80 ∧ isPlain (UInt8.ofNat c.toNat) = true) :
    encode (String.ofList s) = String.ofList s := by
  rw [encode, utf8_of_ascii fun c hc => (h c hc).1, encodeBytes]
  congr 1
  induction s with
  | nil => rfl
  | cons c s ih =>
    obtain ⟨⟨hascii, hplain⟩, hs⟩ := List.forall_mem_cons.1 h
    have hbyte : (UInt8.ofNat c.toNat).toNat = c.toNat :=
      UInt8.toNat_ofNat_of_lt (Nat.lt_trans hascii (by decide))
    rw [List.map_cons, List.flatMap_cons, encodeByte, if_pos hplain, hbyte, Char.ofNat_toNat, ih hs]
    rfl

theorem encode_empty : encode "" = "" := by
  rfl

theorem encode_ne_empty {s : String} (h : s ≠ "") : encode s ≠ "" := by
  rw [← encode_empty]
  exact fun hsame => h (encode_injective hsame)

end HubLink.Text.Form
