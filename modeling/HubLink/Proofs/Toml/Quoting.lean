import HubLink.Toml.Quoting
import Mathlib.Data.List.Basic

namespace HubLink.Toml

open Text

namespace Reading

variable {s : Style} {n : Nat} {c x : Char} {rest : List Char}

/-- The state after `n` quotes that may belong to the content. -/
def behind : Nat → Reading
  | 0 => .plain
  | n + 1 => .quotes (n + 1)

/-- Prepends characters to the content that is read. -/
def add (added : List Char) (read : Option (List Char × List Char)) :
    Option (List Char × List Char) :=
  read.map fun (text, behind) => (added ++ text, behind)

@[simp] theorem add_nil (read : Option (List Char × List Char)) : add [] read = read := by
  simp [add]

/-- A string of this style can have `n` quotes at the end of its content. -/
def Fits (s : Style) (n : Nat) : Prop :=
  n + s.fence ≤ s.longestEnd

theorem fits_zero (s : Style) : Fits s 0 := by
  cases s <;> simp [Fits, Style.fence, Style.longestEnd, Style.isMultiline]

theorem Fits.mono {m : Nat} (h : Fits s n) (hm : m ≤ n) : Fits s m :=
  Nat.le_trans (Nat.add_le_add_right hm _) h

theorem Fits.lt (h : Fits s n) : n < s.fence ∧ n < s.longestEnd := by
  cases s <;> simp [Fits, Style.fence, Style.longestEnd, Style.isMultiline] at h ⊢ <;> omega

/-- A further quote is counted. -/
theorem run_quote (h : n < s.longestEnd) (rest : List Char) :
    run s (behind n) (s.quote :: rest) = run s (behind (n + 1)) rest := by
  cases n with
  | zero => simp [behind, run, react, plainly]
  | succ n =>
    have hlong : ¬ s.longestEnd ≤ n + 1 := by omega
    simp [behind, run, react, hlong]

/-- Reading a character other than a quote adds the quotes before it to the content. -/
theorem run_cons (h : Fits s n) (hc : c ≠ s.quote) {added : List Char} {reading : Reading}
    (hplain : plainly s c = some (added, reading)) (rest : List Char) :
    run s (behind n) (c :: rest) = add (List.replicate n s.quote ++ added) (run s reading rest) := by
  obtain ⟨hfence, hlong⟩ := h.lt
  cases n with
  | zero => simp [behind, run, react, hplain, add]
  | succ n => simp [behind, run, react, hplain, hc, add, Nat.not_le.2 hfence,
    Nat.not_le.2 hlong]

theorem run_quotes (k : Nat) (h : n + k ≤ s.longestEnd) (rest : List Char) :
    run s (behind n) (List.replicate k s.quote ++ rest) = run s (behind (n + k)) rest := by
  induction k generalizing n with
  | zero => rfl
  | succ k ih =>
    rw [List.replicate_succ, List.cons_append, run_quote (by omega), ih (by omega), Nat.add_right_comm]
    rfl

/-- Reading the closing quotes adds the quotes before them to the content. -/
theorem run_fence (h : Fits s n) (hrest : ∀ c ∈ rest.head?, c ≠ s.quote) :
    run s (behind n) (List.replicate s.fence s.quote ++ rest) =
      some (List.replicate n s.quote, rest) := by
  rw [run_quotes s.fence h]
  obtain ⟨k, hk⟩ : ∃ k, n + s.fence = k + 1 := ⟨n + s.fence - 1, by cases s <;> rfl⟩
  have hfence : s.fence ≤ k + 1 := by omega
  have hcount : k + 1 - s.fence = n := by omega
  rw [hk, behind]
  cases rest with
  | nil => simp [run, hfence, hcount]
  | cons c rest =>
    have hc : c ≠ s.quote := hrest c rfl
    by_cases hlong : s.longestEnd ≤ k + 1 <;> simp [run, react, hlong, hc, hfence, hcount]

/-- Reading an unescaped character adds it to the content. -/
theorem run_textual (h : Fits s n) (hquote : c ≠ s.quote) (hescape : c = '\\' → s.hasEscapes = false)
    (hc : isTextual c = true ∨ c = '\n' ∧ s.isMultiline = true) (rest : List Char) :
    run s (behind n) (c :: rest) = add (List.replicate n s.quote ++ [c]) (run s (behind 0) rest) := by
  refine run_cons h hquote ?_ rest
  have hback : ¬ (c = '\\' ∧ s.hasEscapes = true) := fun ⟨hc, hs⟩ => by
    rw [hescape hc] at hs
    cases hs
  obtain htextual | ⟨rfl, hmulti⟩ := hc
  · have hline : c ≠ '\n' := by
      rintro rfl
      cases htextual
    simp [plainly, hquote, hback, hline, htextual, behind]
  · simp [plainly, hquote, hmulti, behind]

/-- Reading a one-letter escape sequence adds its character to the content. -/
theorem run_escaped (h : Fits s n) (hs : s.hasEscapes = true) (hquote : s.quote = '"')
    (hx : x ∉ ['u', 'U', ' ', '\t', '\n']) (hescaped : escaped? x = some c) (rest : List Char) :
    run s (behind n) ('\\' :: x :: rest) =
      add (List.replicate n s.quote ++ [c]) (run s (behind 0) rest) := by
  have hplain : plainly s '\\' = some ([], .escape) := by simp [plainly, hquote, hs]
  rw [run_cons h (by simp [hquote]) hplain]
  have hletter : react s x .escape = some (.next [c] .plain) := by
    simp only [List.mem_cons, not_or] at hx
    simp [react, isSpace, hx, hescaped]
  rw [run, hletter]
  simp [add, behind, Function.comp_def]

/-- Reading a four-digit escape sequence below 0x80 adds its character to the content. -/
theorem run_code (h : Fits s n) (hs : s.hasEscapes = true) (hquote : s.quote = '"')
    (hc : c.toNat < 0x80) (rest : List Char) :
    run s (behind n)
        (['\\', 'u', '0', '0', hexDigit (c.toNat / 16), hexDigit (c.toNat % 16)] ++ rest) =
      add (List.replicate n s.quote ++ [c]) (run s (behind 0) rest) := by
  have hplain : plainly s '\\' = some ([], .escape) := by simp [plainly, hquote, hs]
  have hzero : hexValue? '0' = some 0 := by decide
  have hhigh : hexValue? (hexDigit (c.toNat / 16)) = some (c.toNat / 16) :=
    hexValue?_hexDigit (by omega)
  have hlow : hexValue? (hexDigit (c.toNat % 16)) = some (c.toNat % 16) :=
    hexValue?_hexDigit (by omega)
  have hvalue : 16 * (c.toNat / 16) + c.toNat % 16 = c.toNat := by omega
  have hchar : charOf? c.toNat = some c := by
    have hvalid : c.toNat.isValidChar := .inl (by omega)
    simp [charOf?, hvalid]
  simp only [List.cons_append, List.nil_append]
  rw [run_cons h (by simp [hquote]) hplain]
  simp [run, react, hzero, hhigh, hlow, hvalue, hchar, add, behind, Function.comp_def]

theorem isTextual_of_not_control (h : isControl c = false) (hline : c ≠ '\n') :
    isTextual c = true := by
  by_cases htab : c = '\t'
  · simp [htab, isTextual]
  · simp [isControl, htab, hline] at h
    simp [isTextual, htab, h]

/-- Reading the text of a character, as written after `n` quotes, adds this character to the content,
up to the quotes that are still counted. -/
theorem run_escapeChar (h : Fits s n) (hs : s.hasEscapes = true) (c : Char) :
    Fits s (escapeChar s n c).2 ∧ ∃ added,
      added ++ List.replicate (escapeChar s n c).2 s.quote = List.replicate n s.quote ++ [c] ∧
      ∀ rest, run s (behind n) ((escapeChar s n c).1 ++ rest) =
        add added (run s (behind (escapeChar s n c).2) rest) := by
  have hquote : s.quote = '"' := by cases s <;> first | rfl | cases hs
  have hescaped {x : Char} (hx : x ∉ ['u', 'U', ' ', '\t', '\n']) (hc : escaped? x = some c) :
      Fits s 0 ∧ ∃ added, added ++ List.replicate 0 s.quote = List.replicate n s.quote ++ [c] ∧
        ∀ rest, run s (behind n) (['\\', x] ++ rest) = add added (run s (behind 0) rest) :=
    ⟨fits_zero s, _, List.append_nil _, run_escaped h hs hquote hx hc⟩
  unfold escapeChar
  split
  case isTrue hc =>
    subst hc
    split
    case isTrue hrow =>
      obtain ⟨hmulti, hshort⟩ := hrow
      refine ⟨?_, [], ?_, fun rest => ?_⟩
      · simp only [Fits, Style.fence, Style.longestEnd, hmulti, if_true]
        omega
      · rw [hquote, List.nil_append]
        exact List.replicate_succ'
      · rw [add_nil, ← run_quote h.lt.2, hquote]
        rfl
    case isFalse => exact hescaped (by decide) rfl
  case isFalse hdouble =>
    split
    case isTrue hc => exact hescaped (by decide) (by rw [hc]; rfl)
    split
    case isTrue hc => exact hescaped (by decide) (by rw [hc]; rfl)
    split
    case isTrue hc => exact hescaped (by decide) (by rw [hc]; rfl)
    split
    case isTrue hc => exact hescaped (by decide) (by rw [hc]; rfl)
    split
    case isTrue hc => exact hescaped (by decide) (by rw [hc]; rfl)
    case isFalse hback =>
      split
      case isTrue hc =>
        split
        case isTrue hmulti =>
          subst hc
          exact ⟨fits_zero s, _, List.append_nil _, run_textual h (hquote ▸ hdouble) (absurd · hback)
            (.inr ⟨rfl, hmulti⟩)⟩
        case isFalse => exact hescaped (by decide) (by rw [hc]; rfl)
      case isFalse hline =>
        split
        case isTrue hcontrol =>
          have hsmall : c.toNat < 0x80 := by
            simp [isControl] at hcontrol
            omega
          exact ⟨fits_zero s, _, List.append_nil _, run_code h hs hquote hsmall⟩
        case isFalse hcontrol =>
          have htextual := isTextual_of_not_control (by simpa using hcontrol) hline
          exact ⟨fits_zero s, _, List.append_nil _, run_textual h (hquote ▸ hdouble) (absurd · hback)
            (.inl htextual)⟩

theorem run_escapeText (h : Fits s n) (hs : s.hasEscapes = true) (text : List Char)
    (hrest : ∀ c ∈ rest.head?, c ≠ s.quote) :
    run s (behind n) (escapeText s n text ++ (List.replicate s.fence s.quote ++ rest)) =
      some (List.replicate n s.quote ++ text, rest) := by
  induction text generalizing n with
  | nil => simpa [escapeText] using run_fence h hrest
  | cons c text ih =>
    obtain ⟨hfits, added, hadded, hrun⟩ := run_escapeChar h hs c
    rw [escapeText, List.append_assoc, hrun, ih hfits]
    have hwhole : added ++ (List.replicate (escapeChar s n c).2 s.quote ++ text) =
        List.replicate n s.quote ++ c :: text := by
      rw [← List.append_assoc, hadded, List.append_assoc]
      rfl
    simp [add, hwhole]

theorem le_longestRun (c : Char) (n : Nat) (text : List Char) : n ≤ longestRun c n text := by
  induction text generalizing n with
  | nil => exact Nat.le_refl n
  | cons d text ih =>
    rw [longestRun]
    split
    · exact Nat.le_trans (Nat.le_succ n) (ih (n + 1))
    · exact Nat.le_max_left ..

/-- Reading the content of a string without escapes gives this content, if no run of quotes is too
long. -/
theorem run_literal (hs : s.hasEscapes = false) (text : List Char)
    (hfits : Fits s (longestRun s.quote n text))
    (htext : ∀ c ∈ text, isControl c = false ∧ (c = '\n' → s.isMultiline = true))
    (hrest : ∀ c ∈ rest.head?, c ≠ s.quote) :
    run s (behind n) (text ++ (List.replicate s.fence s.quote ++ rest)) =
      some (List.replicate n s.quote ++ text, rest) := by
  induction text generalizing n with
  | nil =>
    have hend := run_fence (n := n) hfits hrest
    simpa using hend
  | cons c text ih =>
    obtain ⟨⟨hcontrol, hline⟩, hothers⟩ := List.forall_mem_cons.1 htext
    rw [longestRun] at hfits
    split at hfits
    case isTrue hc =>
      have hlong : n < s.longestEnd :=
        Nat.lt_of_succ_lt (hfits.mono (le_longestRun s.quote (n + 1) text)).lt.2
      subst hc
      rw [List.cons_append, run_quote hlong, ih hfits hothers, List.replicate_succ']
      simp
    case isFalse hc =>
      have hchar : isTextual c = true ∨ c = '\n' ∧ s.isMultiline = true := by
        by_cases hend : c = '\n'
        · exact .inr ⟨hend, hline hend⟩
        · exact .inl (isTextual_of_not_control hcontrol hend)
      rw [List.cons_append, run_textual (hfits.mono (Nat.le_max_left ..)) hc (fun _ => hs) hchar,
        ih (hfits.mono (Nat.le_max_right ..)) hothers]
      simp [add]

end Reading

open Reading

variable {s : Style} {rest : List Char}

theorem not_mem_of_longestRun {c : Char} {text : List Char} (h : longestRun c 0 text = 0) :
    c ∉ text := by
  induction text with
  | nil => simp
  | cons d text ih =>
    rw [longestRun] at h
    split at h
    · have hrow := le_longestRun c (0 + 1) text
      omega
    case isFalse hd =>
      have htext := ih (by omega)
      simp [htext, Ne.symm hd]

theorem suited_spec (text : List Char) :
    (Style.suited text).hasEscapes = true ∨
      Fits (Style.suited text) (longestRun (Style.suited text).quote 0 text) ∧
        ∀ c ∈ text, isControl c = false ∧ (c = '\n' → (Style.suited text).isMultiline = true) := by
  unfold Style.suited
  dsimp only
  split
  · exact .inl rfl
  split
  case isTrue h =>
    simp at h
    obtain ⟨⟨hcontrol, hline⟩, hrow⟩ := h
    refine .inr ⟨?_, fun c hc => ⟨hcontrol c hc, ?_⟩⟩
    · simp [Fits, Style.quote, Style.fence, Style.longestEnd, Style.isMultiline, hrow]
    · rintro rfl
      exact absurd hc hline
  split
  · exact .inl rfl
  split
  case isTrue h =>
    simp at h
    refine .inr ⟨?_, fun c hc => ⟨h.1 c hc, fun _ => rfl⟩⟩
    simp [Fits, Style.quote, Style.fence, Style.longestEnd, Style.isMultiline, h.2]
  split <;> exact .inl rfl

section opening

variable {t : List Char}

theorem opening?_basic (h : ¬ ['"', '"'] <+: t) :
    Style.opening? ('"' :: t) = some (.basic, t) := by
  unfold Style.opening?
  split <;> simp_all

theorem opening?_literal (h : ¬ ['\'', '\''] <+: t) :
    Style.opening? ('\'' :: t) = some (.literal, t) := by
  unfold Style.opening?
  split <;> simp_all

theorem opening?_multiline (hs : s.isMultiline = true) (h : t.head? ≠ some '\n') :
    Style.opening? (List.replicate s.fence s.quote ++ t) = some (s, t) := by
  cases s with
  | basic => cases hs
  | literal => cases hs
  | multilineBasic =>
    show Style.opening? ('"' :: '"' :: '"' :: t) = _
    rw [Style.opening?]
    rintro rest rfl
    exact h rfl
  | multilineLiteral =>
    show Style.opening? ('\'' :: '\'' :: '\'' :: t) = _
    rw [Style.opening?]
    rintro rest rfl
    exact h rfl

theorem opening?_line (hs : s.isMultiline = true) :
    Style.opening? (List.replicate s.fence s.quote ++ '\n' :: t) = some (s, t) := by
  cases s with
  | basic => cases hs
  | literal => cases hs
  | multilineBasic => rfl
  | multilineLiteral => rfl

end opening

/-- The text between the quotes. -/
def Style.body (s : Style) (text : List Char) : List Char :=
  if s.hasEscapes then escapeText s 0 text else text

/-- The text of a character starts with a line break or a quote only if the style allows it. -/
theorem exists_escapeChar (s : Style) (c : Char) :
    ∃ d more, (escapeChar s 0 c).1 = d :: more ∧ (d = '\n' → c = '\n') ∧
      (s.isMultiline = false → d ≠ '"') := by
  unfold escapeChar
  repeat' split
  all_goals exact ⟨_, _, rfl, by simp_all⟩

/-- The text between the quotes starts with a line break or a quote only if the style allows it. -/
theorem head?_body {text : List Char} {d : Char} (h : d ∈ (s.body text).head?) :
    (d = '\n' → '\n' ∈ text) ∧ (s.isMultiline = false → (s.hasEscapes = true ∨ s.quote ∉ text) →
      d ≠ s.quote) := by
  unfold Style.body at h
  split at h
  case isTrue hs =>
    have hquote : s.quote = '"' := by cases s <;> first | rfl | cases hs
    cases text with
    | nil => cases h
    | cons c text =>
      obtain ⟨e, more, hwritten, hline, hsingle⟩ := exists_escapeChar s c
      obtain rfl : e = d := by simpa [escapeText, hwritten] using h
      exact ⟨fun he => by simp [hline he], fun hs _ => hquote ▸ hsingle hs⟩
  case isFalse hs =>
    have hmem : d ∈ text := List.mem_of_mem_head? h
    refine ⟨fun hd => hd ▸ hmem, fun _ hor => ?_⟩
    rintro rfl
    exact (hor.resolve_left hs) hmem

/-- The opening quotes of a written string determine its style. -/
theorem opening?_write (text : List Char)
    (htext : s.isMultiline = false → s.hasEscapes = true ∨ s.quote ∉ text)
    (hrest : ∀ c ∈ rest.head?, c ≠ s.quote) :
    Style.opening? (s.write text ++ rest) =
      some (s, s.body text ++ (List.replicate s.fence s.quote ++ rest)) := by
  let inner := s.body text ++ (List.replicate s.fence s.quote ++ rest)
  have hwrite : s.write text ++ rest = List.replicate s.fence s.quote ++
      ((if s.isMultiline && text.contains '\n' then ['\n'] else []) ++ inner) := by
    simp [Style.write, Style.body, inner]
  rw [hwrite]
  cases hs : s.isMultiline with
  | true =>
    by_cases hline : '\n' ∈ text
    · simpa [hline] using opening?_line (t := inner) hs
    · have hhead : inner.head? ≠ some '\n' := by
        intro hhead
        cases hbody : s.body text with
        | nil => cases s <;> simp [inner, hbody, Style.fence, Style.quote, Style.isMultiline] at hhead
        | cons d more =>
          obtain rfl : d = '\n' := by simpa [inner, hbody] using hhead
          exact hline ((head?_body (by rw [hbody]; rfl)).1 rfl)
      simpa [hline] using opening?_multiline hs hhead
  | false =>
    have hfence : s.fence = 1 := by simp [Style.fence, hs]
    have hinner : ¬ [s.quote, s.quote] <+: inner := by
      intro hstart
      cases hbody : s.body text with
      | nil =>
        cases rest with
        | nil => simp [inner, hbody, hfence] at hstart
        | cons c rest =>
          have hc : c ≠ s.quote := hrest c rfl
          simp [inner, hbody, hfence, Ne.symm hc] at hstart
      | cons d more =>
        have hd : d ≠ s.quote := (head?_body (by rw [hbody]; rfl)).2 hs (htext hs)
        simp [inner, hbody, Ne.symm hd] at hstart
    cases s with
    | basic => exact opening?_basic hinner
    | literal => exact opening?_literal hinner
    | multilineBasic => cases hs
    | multilineLiteral => cases hs

/-- Reading a written string gives the string, if no quote follows it. -/
theorem readString?_writeString (text : String) (rest : List Char)
    (hrest : ∀ c ∈ rest.head?, c ≠ (Style.suited text.toList).quote) :
    readString? (writeString text ++ rest) = some (text, rest) := by
  have hsuited := suited_spec text.toList
  unfold writeString
  generalize Style.suited text.toList = s at hrest hsuited ⊢
  have htext : s.isMultiline = false → s.hasEscapes = true ∨ s.quote ∉ text.toList := by
    refine fun hsingle => hsuited.imp_right fun ⟨hfits, _⟩ => not_mem_of_longestRun ?_
    simp [Fits, Style.longestEnd, Style.fence, hsingle] at hfits
    exact hfits
  have hrun : run s .plain (s.body text.toList ++ (List.replicate s.fence s.quote ++ rest)) =
      some (text.toList, rest) := by
    unfold Style.body
    split
    case isTrue hs => exact run_escapeText (fits_zero s) hs text.toList hrest
    case isFalse hs =>
      obtain ⟨hfits, hchars⟩ := hsuited.resolve_left hs
      exact run_literal (n := 0) (by simpa using hs) text.toList hfits hchars hrest
  unfold readString?
  simp [opening?_write text.toList htext hrest, hrun]

/-- Writing strings is injective. -/
theorem writeString_injective : Function.Injective writeString := by
  intro text text' h
  have hread := readString?_writeString text [] (by simp)
  rw [h, readString?_writeString text' [] (by simp)] at hread
  exact (congrArg Prod.fst (Option.some.inj hread)).symm

end HubLink.Toml
