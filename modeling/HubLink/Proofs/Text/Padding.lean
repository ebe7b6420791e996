import HubLink.Text.Blank
import HubLink.Text.Segments
import Mathlib.Data.List.Basic
import Mathlib.Data.List.TakeWhile

namespace HubLink.Text

/-- All characters are white space. -/
abbrev AllBlank (s : List Char) : Prop :=
  ∀ c ∈ s, isBlank c = true

/-- The text neither starts nor ends with white space. -/
structure Tight (s : List Char) : Prop where
  head : ∀ c ∈ s.head?, isBlank c = false
  last : ∀ c ∈ s.getLast?, isBlank c = false

variable {s front back : List Char} {sep : Char}

theorem exists_trimEnd (s : List Char) : ∃ back, trimEnd s ++ back = s ∧ AllBlank back := by
  refine ⟨(s.reverse.takeWhile isBlank).reverse, ?_, fun c hc => ?_⟩
  · rw [trimEnd, ← List.reverse_append, List.takeWhile_append_dropWhile, List.reverse_reverse]
  · exact List.mem_takeWhile_imp (List.mem_reverse.1 hc)

/-- Trimming removes only white space. -/
theorem exists_trim (s : List Char) :
    ∃ front back, s = front ++ trim s ++ back ∧ AllBlank front ∧ AllBlank back := by
  obtain ⟨back, hback, hblank⟩ := exists_trimEnd (trimStart s)
  refine ⟨s.takeWhile isBlank, back, ?_, fun c hc => List.mem_takeWhile_imp hc, hblank⟩
  rw [List.append_assoc, trim, hback]
  exact List.takeWhile_append_dropWhile.symm

theorem mem_of_mem_trim {c : Char} (h : c ∈ trim s) : c ∈ s := by
  obtain ⟨front, back, hs, -⟩ := exists_trim s
  rw [hs]
  simp [h]

theorem allBlank_nil : AllBlank [] := fun _ h => absurd h List.not_mem_nil

theorem allBlank_append {t : List Char} : AllBlank (s ++ t) ↔ AllBlank s ∧ AllBlank t :=
  List.forall_mem_append

theorem AllBlank.not_mem {c : Char} (h : AllBlank s) (hc : isBlank c = false) : c ∉ s := fun hmem => by
  rw [h c hmem] at hc
  cases hc

theorem trimEnd_append_blank (h : AllBlank back) (s : List Char) : trimEnd (s ++ back) = trimEnd s := by
  rw [trimEnd, List.reverse_append, List.dropWhile_append_of_pos (by simpa using h), trimEnd]

theorem trim_blank_append (h : AllBlank front) (s : List Char) : trim (front ++ s) = trim s := by
  rw [trim, trimStart, List.dropWhile_append_of_pos h, trim, trimStart]

theorem trim_append_blank (h : AllBlank back) (s : List Char) : trim (s ++ back) = trim s := by
  rw [trim, trimStart, List.dropWhile_append]
  split
  case isTrue hnil =>
    have hs : AllBlank s := dropWhile_eq_nil.1 (List.isEmpty_iff.1 hnil)
    rw [dropWhile_eq_nil.2 h, trim_eq_nil_iff.2 hs]
    rfl
  case isFalse => exact trimEnd_append_blank h _

theorem trim_pad (hfront : AllBlank front) (hback : AllBlank back) (s : List Char) :
    trim (front ++ s ++ back) = trim s := by
  rw [trim_append_blank hback, trim_blank_append hfront]

theorem tight_trim (s : List Char) : Tight (trim s) := by
  constructor
  · intro c hc
    -- What trimming leaves is a beginning of the text behind the blanks at its start.
    obtain ⟨back, hback, -⟩ := exists_trimEnd (trimStart s)
    have hstart : (trimStart s).head? = some c := by
      rw [← hback, List.head?_append, show (trimEnd (trimStart s)).head? = some c from hc]
      rfl
    have hnot := List.head?_dropWhile_not isBlank s
    rw [show (s.dropWhile isBlank).head? = some c from hstart] at hnot
    simpa using hnot
  · intro c hc
    rw [trim, trimEnd, List.getLast?_reverse] at hc
    have hnot := List.head?_dropWhile_not isBlank (trimStart s).reverse
    rw [Option.mem_def.1 hc] at hnot
    simpa using hnot

theorem Tight.trim_eq (h : Tight s) : trim s = s := by
  have hstart : trimStart s = s := by
    cases s with
    | nil => rfl
    | cons c rest => exact List.dropWhile_cons_of_neg (by simp [h.head c rfl])
  rw [trim, hstart, trimEnd]
  obtain rfl | ⟨init, c, rfl⟩ := List.eq_nil_or_concat' s
  · rfl
  · have hc : isBlank c = false := h.last c (by simp)
    rw [List.reverse_append, List.reverse_singleton, List.singleton_append,
      List.dropWhile_cons_of_neg (by simp [hc])]
    simp

theorem tight_iff : Tight s ↔ trim s = s :=
  ⟨Tight.trim_eq, fun h => h ▸ tight_trim s⟩

theorem segments_of_not_mem (h : sep ∉ s) : segments sep s = [s] := by
  induction s with
  | nil => rfl
  | cons c rest ih =>
    obtain ⟨hc, hrest⟩ : sep ≠ c ∧ sep ∉ rest := by simpa using h
    rw [segments, if_neg (Ne.symm hc), ih hrest]

theorem cut?_append_left (h : sep ∉ front) (s : List Char) :
    cut? sep (front ++ s) = (cut? sep s).map fun (before, behind) => (front ++ before, behind) := by
  cases hcut : cut? sep s with
  | none =>
    have hs := cut?_eq_none_iff.1 hcut
    exact cut?_eq_none_iff.2 (by simp [h, hs])
  | some cut =>
    obtain ⟨before, behind⟩ := cut
    obtain ⟨rfl, hbefore⟩ := cut?_eq_some hcut
    rw [← List.append_assoc, cut?_append (by simp [h, hbefore])]
    rfl

theorem cut?_append_right (h : sep ∉ back) (s : List Char) :
    cut? sep (s ++ back) = (cut? sep s).map fun (before, behind) => (before, behind ++ back) := by
  cases hcut : cut? sep s with
  | none =>
    have hs := cut?_eq_none_iff.1 hcut
    exact cut?_eq_none_iff.2 (by simp [h, hs])
  | some cut =>
    obtain ⟨before, behind⟩ := cut
    obtain ⟨rfl, hbefore⟩ := cut?_eq_some hcut
    rw [List.append_assoc, List.cons_append, cut?_append hbefore]
    rfl

/-- Text without a separator in front belongs to the first segment. -/
theorem exists_segments_append_left (h : sep ∉ front) (s : List Char) :
    ∃ first others, segments sep s = first :: others ∧
      segments sep (front ++ s) = (front ++ first) :: others := by
  induction front with
  | nil =>
    cases hparts : segments sep s with
    | nil => exact absurd hparts (segments_ne_nil sep s)
    | cons first others => exact ⟨first, others, rfl, hparts⟩
  | cons c front ih =>
    obtain ⟨hc, hfront⟩ : sep ≠ c ∧ sep ∉ front := by simpa using h
    obtain ⟨first, others, hs, hparts⟩ := ih hfront
    refine ⟨first, others, hs, ?_⟩
    rw [List.cons_append, segments, if_neg (Ne.symm hc), hparts]
    rfl

/-- Text without a separator behind belongs to the last segment. -/
theorem exists_segments_append_right (h : sep ∉ back) (s : List Char) :
    ∃ init last, segments sep s = init ++ [last] ∧
      segments sep (s ++ back) = init ++ [last ++ back] := by
  induction s with
  | nil => exact ⟨[], [], rfl, segments_of_not_mem h⟩
  | cons c rest ih =>
    obtain ⟨init, last, hrest, hparts⟩ := ih
    rw [List.cons_append, segments, segments, hrest, hparts]
    by_cases hc : c = sep
    · exact ⟨[] :: init, last, by simp [hc], by simp [hc]⟩
    · cases init with
      | nil => exact ⟨[], c :: last, by simp [hc], by simp [hc]⟩
      | cons first others => exact ⟨(c :: first) :: others, last, by simp [hc], by simp [hc]⟩

theorem segments_append_sep (h : sep ∉ front) (s : List Char) :
    segments sep (front ++ sep :: s) = front :: segments sep s := by
  obtain ⟨first, others, hs, hparts⟩ := exists_segments_append_left h (sep :: s)
  rw [segments, if_pos rfl] at hs
  cases hs
  simpa using hparts

/-- Splitting joined segments gives the segments. -/
theorem segments_join {parts : List (List Char)} (hne : parts ≠ []) (h : ∀ part ∈ parts, sep ∉ part) :
    segments sep (join sep parts) = parts := by
  induction parts with
  | nil => exact absurd rfl hne
  | cons first rest ih =>
    obtain ⟨hfirst, hrest⟩ := List.forall_mem_cons.1 h
    cases rest with
    | nil => exact segments_of_not_mem hfirst
    | cons next others => rw [join, segments_append_sep hfirst, ih (by simp) hrest]

/-- A function that ignores white space around a segment has the same values on the segments of a text
and on those of the trimmed text. -/
theorem map_segments_trim {α : Type*} {k : List Char → α} (hsep : isBlank sep = false)
    (hfront : ∀ front raw, AllBlank front → k (front ++ raw) = k raw)
    (hback : ∀ raw back, AllBlank back → k (raw ++ back) = k raw) (s : List Char) :
    (segments sep (trim s)).map k = (segments sep s).map k := by
  obtain ⟨front, back, hs, hblank, hblank'⟩ := exists_trim s
  obtain ⟨init, last, htrim, hright⟩ :=
    exists_segments_append_right (AllBlank.not_mem hblank' hsep) (trim s)
  obtain ⟨first, others, hmiddle, hleft⟩ :=
    exists_segments_append_left (AllBlank.not_mem hblank hsep) (trim s ++ back)
  have hright' : (segments sep (trim s ++ back)).map k = (segments sep (trim s)).map k := by
    simp [htrim, hright, hback last back hblank']
  have hleft' : (segments sep (front ++ (trim s ++ back))).map k =
      (segments sep (trim s ++ back)).map k := by
    simp [hleft, hmiddle, hfront front first hblank]
  rw [← hright', ← hleft', ← List.append_assoc, ← hs]

end HubLink.Text
