namespace HubLink.Text

/-- Splits a text at every separator. -/
def segments (sep : Char) : List Char → List (List Char)
  | [] => [[]]
  | c :: rest =>
    if c = sep then [] :: segments sep rest
    else
      match segments sep rest with
      | [] => [[c]]
      | first :: others => (c :: first) :: others

/-- Joins texts with a separator between them. -/
def join (sep : Char) : List (List Char) → List Char
  | [] => []
  | [s] => s
  | s :: t :: others => s ++ sep :: join sep (t :: others)

/-- Splits a text at the first separator. -/
def cut? (sep : Char) : List Char → Option (List Char × List Char)
  | [] => none
  | c :: rest =>
    if c = sep then some ([], rest)
    else (cut? sep rest).map fun (before, behind) => (c :: before, behind)

/-- The rest of a text that starts with `beginning`. -/
def after? (beginning s : List Char) : Option (List Char) :=
  if beginning.isPrefixOf s then some (s.drop beginning.length) else none

theorem segments_ne_nil (sep : Char) (s : List Char) : segments sep s ≠ [] := by
  cases s with
  | nil => simp [segments]
  | cons c rest =>
    rw [segments]
    split
    · simp
    · split <;> simp

theorem join_segments (sep : Char) (s : List Char) : join sep (segments sep s) = s := by
  induction s with
  | nil => rfl
  | cons c rest ih =>
    rw [segments]
    cases hparts : segments sep rest with
    | nil => exact absurd hparts (segments_ne_nil sep rest)
    | cons first others =>
      rw [hparts] at ih
      by_cases h : c = sep
      · simp [h, join, ih]
      · cases others <;> simp_all [join]

theorem not_mem_segment {sep : Char} {s part : List Char} (h : part ∈ segments sep s) :
    sep ∉ part := by
  induction s generalizing part with
  | nil =>
    have : part = [] := by simpa [segments] using h
    simp [this]
  | cons c rest ih =>
    rw [segments] at h
    split at h
    · rcases List.mem_cons.1 h with rfl | h
      · simp
      · exact ih h
    · next hne =>
      cases hparts : segments sep rest with
      | nil => exact absurd hparts (segments_ne_nil sep rest)
      | cons first others =>
        rw [hparts] at h ih
        rcases List.mem_cons.1 h with rfl | h
        · have : sep ∉ first := ih (by simp)
          simp [this, Ne.symm hne]
        · exact ih (by simp [h])

/-- A text that `cut?` splits has no separator in the first part. -/
theorem cut?_eq_some {sep : Char} {s before behind : List Char}
    (h : cut? sep s = some (before, behind)) : s = before ++ sep :: behind ∧ sep ∉ before := by
  induction s generalizing before with
  | nil => simp [cut?] at h
  | cons c rest ih =>
    rw [cut?] at h
    split at h
    · next heq =>
      obtain ⟨rfl, rfl⟩ := by simpa using h
      simp [heq]
    · next hne =>
      obtain ⟨⟨b, d⟩, hcut, heq⟩ := Option.map_eq_some_iff.1 h
      obtain ⟨rfl, rfl⟩ := by simpa using heq
      obtain ⟨hrest, hnot⟩ := ih hcut
      exact ⟨by simp [hrest], by simp [hnot, Ne.symm hne]⟩

theorem cut?_eq_none_iff {sep : Char} {s : List Char} : cut? sep s = none ↔ sep ∉ s := by
  induction s with
  | nil => simp [cut?]
  | cons c rest ih =>
    rw [cut?]
    by_cases h : c = sep
    · simp [h]
    · simp [h, ih, Ne.symm h]

theorem cut?_append {sep : Char} {before : List Char} (h : sep ∉ before) (behind : List Char) :
    cut? sep (before ++ sep :: behind) = some (before, behind) := by
  induction before with
  | nil => simp [cut?]
  | cons c before ih =>
    obtain ⟨hc, hbefore⟩ : sep ≠ c ∧ sep ∉ before := by simpa using h
    rw [List.cons_append, cut?, if_neg (Ne.symm hc), ih hbefore]
    rfl

theorem after?_eq_some_iff {beginning s rest : List Char} :
    after? beginning s = some rest ↔ s = beginning ++ rest := by
  rw [after?]
  constructor
  · intro h
    split at h
    · next hstart =>
      obtain ⟨tail, rfl⟩ := List.isPrefixOf_iff_prefix.1 hstart
      simpa using h
    · simp at h
  · rintro rfl
    simp

end HubLink.Text
