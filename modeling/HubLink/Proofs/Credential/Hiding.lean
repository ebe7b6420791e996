import HubLink.Credential.Redaction
import HubLink.Text.Segments
import Mathlib.Data.List.Basic

namespace HubLink.Credential.Redaction

open Text

/-- The text starts with the mark of a key. -/
def StartsKey (s : List Char) : Prop :=
  (s.take keyMark.length).map fold = keyMark

instance (s : List Char) : Decidable (StartsKey s) :=
  inferInstanceAs (Decidable (_ = _))

/-- The replacement text for a mark at the head of the text. -/
def written (s : List Char) : List Char :=
  s.take keyMark.length ++ "[REDACTED]".toList

/-- The redaction of a text without semicolons. -/
def hideSegment : List Char → List Char
  | [] => []
  | c :: rest => if StartsKey (c :: rest) then written (c :: rest) else c :: hideSegment rest

/-- The text contains the mark of a key. -/
def HasKey : List Char → Prop
  | [] => False
  | c :: rest => StartsKey (c :: rest) ∨ HasKey rest

theorem start?_eq (s : List Char) :
    sharedAccessKey.start? s = if StartsKey s then some (written s) else none :=
  rfl

variable {s t rest : List Char} {c : Char}

theorem not_startsKey_nil : ¬ StartsKey [] := by
  decide

theorem hideSegment_of_startsKey (h : StartsKey s) : hideSegment s = written s := by
  cases s with
  | nil => exact absurd h not_startsKey_nil
  | cons c rest => exact if_pos h

theorem hideSegment_cons (h : ¬ StartsKey (c :: rest)) :
    hideSegment (c :: rest) = c :: hideSegment rest :=
  if_neg h

theorem hasKey_of_startsKey (h : StartsKey s) : HasKey s := by
  cases s with
  | nil => exact absurd h not_startsKey_nil
  | cons c rest => exact .inl h

theorem length_of_startsKey (h : StartsKey s) : keyMark.length ≤ s.length := by
  have hlength := congrArg List.length h
  simp only [List.length_map, List.length_take] at hlength
  omega

/-- A mark does not extend over a character that folds to none of its characters. -/
theorem startsKey_append_iff (h : ∀ c ∈ t.head?, fold c ∉ keyMark) :
    StartsKey (s ++ t) ↔ StartsKey s := by
  by_cases hlength : keyMark.length ≤ s.length
  · rw [StartsKey, StartsKey, List.take_append_of_le_length hlength]
  · have hs : ¬ StartsKey s := fun hstarts => hlength (length_of_startsKey hstarts)
    simp only [hs, iff_false]
    intro hstarts
    cases t with
    | nil => exact hs (by simpa using hstarts)
    | cons c t =>
      refine h c rfl ?_
      rw [← hstarts]
      refine List.mem_map_of_mem ?_
      obtain ⟨n, hn⟩ : ∃ n, keyMark.length = s.length + (n + 1) := ⟨keyMark.length - s.length - 1, by omega⟩
      rw [hn, List.take_append]
      simp

theorem fold_semicolon_not_mem : fold ';' ∉ keyMark := by
  decide

/-- Only `=` folds to `=`. -/
theorem eq_of_fold_eq_equals (h : fold c = '=') : c = '=' := by
  unfold fold lower at h
  split at h
  · cases h
  split at h
  · cases h
  split at h
  case isTrue hlarge =>
    have hletters : ∀ n < 26, Char.ofNat (65 + n + 0x20) ≠ '=' := by decide
    obtain ⟨n, hn⟩ : ∃ n, c.toNat = 65 + n := Nat.exists_eq_add_of_le hlarge.1
    have hlast : c.toNat ≤ 90 := hlarge.2
    rw [hn] at h
    exact absurd h (hletters n (by omega))
  case isFalse => exact h

theorem fold_of_isBlank (h : isBlank c = true) : fold c = c := by
  simp only [isBlank] at h
  unfold fold lower
  split
  case isTrue hs => simp [hs] at h
  split
  case isTrue hk => simp [hk] at h
  split
  case isTrue hlarge =>
    have hrange : 65 ≤ c.toNat ∧ c.toNat ≤ 90 := hlarge
    simp at h
    omega
  case isFalse => rfl

/-- White space folds to no character of the mark. -/
theorem fold_not_mem_of_isBlank (h : isBlank c = true) : fold c ∉ keyMark := by
  have hmark : (keyMark.all fun d => !isBlank d) = true := by decide
  intro hc
  rw [fold_of_isBlank h] at hc
  have hc' := List.all_eq_true.1 hmark c hc
  simp [h] at hc'

theorem isSecret_iff : sharedAccessKey.isSecret c = true ↔ c ≠ ';' :=
  bne_iff_ne

/-- A semicolon is kept and ends a secret. -/
theorem scan_semicolon (inside : Bool) (rest : List Char) :
    scan sharedAccessKey inside (';' :: rest) = ';' :: scan sharedAccessKey false rest := by
  have hstarts : ¬ StartsKey (';' :: rest) := by
    have hnil : StartsKey ([] ++ ';' :: rest) ↔ StartsKey [] :=
      startsKey_append_iff (by rintro _ ⟨⟩; exact fold_semicolon_not_mem)
    exact mt hnil.1 not_startsKey_nil
  have hsecret : ¬ sharedAccessKey.isSecret ';' = true := fun h => isSecret_iff.1 h rfl
  rw [scan, start?_eq, if_neg hstarts, if_neg (by simp [hsecret])]

/-- Inside a secret, a text without semicolons is dropped. -/
theorem scan_inside (hs : ';' ∉ s) (rest : List Char) :
    scan sharedAccessKey true (s ++ rest) = scan sharedAccessKey true rest := by
  induction s with
  | nil => rfl
  | cons c s ih =>
    obtain ⟨hc, hs⟩ : c ≠ ';' ∧ ';' ∉ s := by simpa [eq_comm] using hs
    rw [List.cons_append, scan, if_pos (by simpa using isSecret_iff.2 hc), ih hs]

/-- At a semicolon or the end of the text it does not matter whether a secret has started. -/
theorem scan_end (h : ∀ c ∈ rest.head?, c = ';') :
    scan sharedAccessKey true rest = scan sharedAccessKey false rest := by
  cases rest with
  | nil => rfl
  | cons c rest =>
    obtain rfl : c = ';' := h c rfl
    rw [scan_semicolon, scan_semicolon]

theorem scan_segment (hs : ';' ∉ s) (hrest : ∀ c ∈ rest.head?, c = ';') :
    scan sharedAccessKey false (s ++ rest) =
      hideSegment s ++ scan sharedAccessKey false rest := by
  induction s with
  | nil => rfl
  | cons c s ih =>
    have hstarts : StartsKey (c :: s ++ rest) ↔ StartsKey (c :: s) :=
      startsKey_append_iff fun d hd => by
        obtain rfl := hrest d hd
        exact fold_semicolon_not_mem
    obtain ⟨hc, hs⟩ : c ≠ ';' ∧ ';' ∉ s := by simpa [eq_comm] using hs
    rw [List.cons_append, scan, if_neg (by simp), start?_eq, ← List.cons_append]
    by_cases hkey : StartsKey (c :: s)
    · have hwritten : written (c :: s ++ rest) = written (c :: s) := by
        rw [written, List.take_append_of_le_length (length_of_startsKey hkey), written]
      rw [if_pos (hstarts.2 hkey), hideSegment_of_startsKey hkey, hwritten]
      simp only
      rw [scan_inside hs, scan_end hrest]
    · rw [if_neg (mt hstarts.1 hkey), hideSegment_cons hkey]
      simp only
      rw [ih hs, List.cons_append]

theorem scan_last (hs : ';' ∉ s) : scan sharedAccessKey false s = hideSegment s := by
  have hscan := scan_segment hs (fun c (hc : c ∈ ([] : List Char).head?) => nomatch hc)
  simpa [scan] using hscan

/-- Redaction of segments joined by semicolons is the redaction of each segment. -/
theorem scan_join {parts : List (List Char)} (h : ∀ part ∈ parts, ';' ∉ part) :
    scan sharedAccessKey false (join ';' parts) = join ';' (parts.map hideSegment) := by
  induction parts with
  | nil => rfl
  | cons part others ih =>
    obtain ⟨hpart, hothers⟩ := List.forall_mem_cons.1 h
    cases others with
    | nil => exact scan_last hpart
    | cons next others =>
      simp only [List.map_cons, join]
      rw [scan_segment hpart (by simp), scan_semicolon, ih hothers]
      rfl

/-- The key `SharedAccessKey` with its letters case folded. -/
def keyName : List Char :=
  "sharedaccesskey".toList

theorem keyMark_eq : keyMark = keyName ++ ['='] := by
  decide

theorem length_of_map_fold (h : s.map fold = keyName) : s.length = 15 := by
  have hname : keyName.length = 15 := by decide
  rw [← hname, ← h, List.length_map]

theorem equals_not_mem_map_fold (h : '=' ∉ s) : '=' ∉ s.map fold := by
  intro hmem
  obtain ⟨c, hc, hfold⟩ := List.mem_map.1 hmem
  exact h (eq_of_fold_eq_equals hfold ▸ hc)

/-- A text up to its first `=` starts with the mark exactly if it folds to the key. -/
theorem startsKey_equals_iff (h : '=' ∉ s) : StartsKey (s ++ '=' :: t) ↔ s.map fold = keyName := by
  have hname : '=' ∉ keyName := by decide
  have hfold : fold '=' = '=' := by decide
  have hmark : keyMark.length = 16 := by decide
  -- Up to the length of the name the equals sign is among the characters compared, else it is not.
  by_cases hlength : s.length ≤ 15
  · obtain ⟨n, hn⟩ : ∃ n, 16 - s.length = n + 1 := ⟨15 - s.length, by omega⟩
    have hhead : (s ++ '=' :: t).take keyMark.length = s ++ '=' :: t.take n := by
      rw [hmark, List.take_append, List.take_of_length_le (by omega), hn, List.take_succ_cons]
    rw [StartsKey, hhead, List.map_append, List.map_cons, hfold, keyMark_eq]
    constructor
    · intro hmap
      have hcut := cut?_append (equals_not_mem_map_fold h) ((t.take n).map fold)
      rw [hmap, cut?_append hname] at hcut
      exact (congrArg Prod.fst (Option.some.inj hcut)).symm
    · intro hmap
      have hkey := length_of_map_fold hmap
      obtain rfl : n = 0 := by omega
      rw [hmap]
      rfl
  · have hshort : s.map fold ≠ keyName := fun hmap => by
      have hkey := length_of_map_fold hmap
      omega
    simp only [hshort, iff_false]
    intro hstarts
    rw [StartsKey, hmark, List.take_append_of_le_length (by omega), keyMark_eq] at hstarts
    refine equals_not_mem_map_fold (fun hmem => h (List.mem_of_mem_take hmem)) (s := s.take 16) ?_
    rw [hstarts]
    simp

/-- After the key and `=`, the rest of the segment is redacted. -/
theorem hideSegment_key {lead key : List Char} (hlead : '=' ∉ lead) (hkey : key.map fold = keyName)
    (hequals : '=' ∉ key) (t : List Char) :
    hideSegment (lead ++ key ++ '=' :: t) = lead ++ key ++ '=' :: "[REDACTED]".toList := by
  have hlength := length_of_map_fold hkey
  induction lead with
  | nil =>
    have hstarts : StartsKey (key ++ '=' :: t) := (startsKey_equals_iff hequals).2 hkey
    have htake : (key ++ '=' :: t).take keyMark.length = key ++ ['='] := by
      have hmark : keyMark.length = key.length + 1 := by
        rw [hlength]
        decide
      rw [hmark, List.take_append, List.take_of_length_le (by omega), Nat.add_sub_cancel_left]
      rfl
    rw [List.nil_append, hideSegment_of_startsKey hstarts, written, htake, List.append_assoc]
    rfl
  | cons c lead ih =>
    obtain ⟨hc, hlead⟩ : '=' ≠ c ∧ '=' ∉ lead := by simpa using hlead
    have hstarts : ¬ StartsKey (c :: (lead ++ key ++ '=' :: t)) := by
      have hfirst : '=' ∉ c :: (lead ++ key) := by simp [hc, hlead, hequals]
      intro hstarts
      have hshort := length_of_map_fold ((startsKey_equals_iff hfirst).1 hstarts)
      rw [List.length_cons, List.length_append, hlength] at hshort
      omega
    rw [List.cons_append, List.cons_append, hideSegment_cons hstarts, ih hlead]
    rfl

/-- If no end of the name folds to the key, only the value is redacted. -/
theorem hideSegment_of_name {name : List Char} (hequals : '=' ∉ name)
    (hname : ∀ n, (name.drop n).map fold ≠ keyName) (value : List Char) :
    hideSegment (name ++ '=' :: value) = name ++ '=' :: hideSegment value := by
  have hstarts {name : List Char} (hequals : '=' ∉ name) (hname : name.map fold ≠ keyName) :
      ¬ StartsKey (name ++ '=' :: value) :=
    mt (startsKey_equals_iff hequals).1 hname
  induction name with
  | nil => exact hideSegment_cons (hstarts hequals (hname 0))
  | cons c name ih =>
    have hrest : '=' ∉ name := fun hmem => hequals (List.mem_cons_of_mem c hmem)
    have hhead : ¬ StartsKey (c :: (name ++ '=' :: value)) := hstarts hequals (hname 0)
    rw [List.cons_append, hideSegment_cons hhead, ih hrest fun n => hname (n + 1), List.cons_append]

/-- If white space stands in front of the first `=`, only the text after that `=` is redacted. -/
theorem hideSegment_blank {b : Char} (hs : '=' ∉ s) (hb : isBlank b = true) (t : List Char) :
    hideSegment (s ++ b :: '=' :: t) = s ++ b :: '=' :: hideSegment t := by
  have hequals : '=' ≠ b := by
    rintro rfl
    cases hb
  rw [List.append_cons s b ('=' :: t), List.append_cons s b ('=' :: hideSegment t)]
  refine hideSegment_of_name (by simp [hs, hequals]) (fun n hmap => ?_) t
  by_cases hn : n ≤ s.length
  · rw [List.drop_append_of_le_length hn] at hmap
    have hmem : fold b ∈ keyName := by
      rw [← hmap]
      simp
    exact fold_not_mem_of_isBlank hb (keyMark_eq ▸ List.mem_append_left _ hmem)
  · have hlong : (s ++ [b]).length ≤ n := by
      rw [List.length_append, List.length_singleton]
      omega
    rw [List.drop_of_length_le hlong] at hmap
    exact absurd hmap (by decide)

theorem hideSegment_gap {gap : List Char} (h : ∀ c ∈ gap, isBlank c = true) (s : List Char) :
    hideSegment (gap ++ s) = gap ++ hideSegment s := by
  induction gap with
  | nil => rfl
  | cons c gap ih =>
    obtain ⟨hc, hgap⟩ := List.forall_mem_cons.1 h
    have hstarts : ¬ StartsKey ([] ++ c :: (gap ++ s)) := by
      rw [startsKey_append_iff (by rintro _ ⟨⟩; exact fold_not_mem_of_isBlank hc)]
      exact not_startsKey_nil
    rw [List.cons_append, hideSegment_cons hstarts, ih hgap, List.cons_append]

instance : DecidablePred HasKey := fun s => by
  induction s with
  | nil => exact isFalse id
  | cons c rest ih => exact inferInstanceAs (Decidable (StartsKey (c :: rest) ∨ HasKey rest))

theorem startsKey_tail {tail : List Char} (h : ∀ c ∈ tail, isBlank c = true) (s : List Char) :
    StartsKey (s ++ tail) ↔ StartsKey s :=
  startsKey_append_iff fun c hc => fold_not_mem_of_isBlank (h c (List.mem_of_mem_head? hc))

theorem hasKey_tail {tail : List Char} (h : ∀ c ∈ tail, isBlank c = true) (s : List Char) :
    HasKey (s ++ tail) ↔ HasKey s := by
  induction s with
  | nil =>
    induction tail with
    | nil => rfl
    | cons c tail ih =>
      obtain ⟨-, htail⟩ := List.forall_mem_cons.1 h
      have hstarts := (startsKey_tail h []).not.2 not_startsKey_nil
      simpa [HasKey, show ¬ StartsKey (c :: tail) from hstarts] using ih htail
  | cons c s ih => exact or_congr (startsKey_tail h (c :: s)) ih

/-- White space at the end of a segment is kept, unless the segment contains a mark. -/
theorem hideSegment_tail {tail : List Char} (h : ∀ c ∈ tail, isBlank c = true) (s : List Char) :
    hideSegment (s ++ tail) = hideSegment s ++ if HasKey s then [] else tail := by
  induction s with
  | nil =>
    have hgap := hideSegment_gap h []
    simpa [hideSegment, HasKey] using hgap
  | cons c s ih =>
    have hstarts := startsKey_tail h (c :: s)
    by_cases hkey : StartsKey (c :: s)
    · rw [hideSegment_of_startsKey (hstarts.2 hkey), hideSegment_of_startsKey hkey, if_pos (.inl hkey),
        List.append_nil, written, List.take_append_of_le_length (length_of_startsKey hkey)]
      rfl
    · have hhas : HasKey (c :: s) ↔ HasKey s := or_iff_right hkey
      have hrest : hideSegment (c :: s ++ tail) = c :: hideSegment (s ++ tail) :=
        hideSegment_cons (hstarts.not.2 hkey)
      rw [hrest, ih, hideSegment_cons hkey, List.cons_append]
      simp only [hhas]

/-- Redaction keeps the first `keyMark.length` characters of a segment. -/
theorem take_hideSegment {n : Nat} (hn : n ≤ keyMark.length) (s : List Char) :
    (hideSegment s).take n = s.take n := by
  induction s generalizing n with
  | nil => rfl
  | cons c s ih =>
    by_cases hkey : StartsKey (c :: s)
    · have hlength := length_of_startsKey hkey
      rw [hideSegment_of_startsKey hkey, written,
        List.take_append_of_le_length (by rw [List.length_take]; omega), List.take_take,
        Nat.min_eq_left hn]
    · rw [hideSegment_cons hkey]
      cases n with
      | zero => rfl
      | succ n => rw [List.take_succ_cons, List.take_succ_cons, ih (by omega)]

theorem startsKey_hideSegment : StartsKey (hideSegment s) ↔ StartsKey s := by
  rw [StartsKey, StartsKey, take_hideSegment (Nat.le_refl _)]

/-- Redaction of a segment is idempotent. -/
theorem hideSegment_hideSegment (s : List Char) : hideSegment (hideSegment s) = hideSegment s := by
  induction s with
  | nil => rfl
  | cons c s ih =>
    have hstarts : StartsKey (hideSegment (c :: s)) ↔ StartsKey (c :: s) := startsKey_hideSegment
    by_cases hkey : StartsKey (c :: s)
    · have hmark : (hideSegment (c :: s)).take keyMark.length = (c :: s).take keyMark.length :=
        take_hideSegment (Nat.le_refl _) (c :: s)
      rw [hideSegment_of_startsKey (hstarts.2 hkey), written, hmark, hideSegment_of_startsKey hkey]
      rfl
    · rw [hideSegment_cons hkey] at hstarts ⊢
      rw [hideSegment_cons (hstarts.not.2 hkey), ih]

theorem semicolon_not_mem_hideSegment (hs : ';' ∉ s) : ';' ∉ hideSegment s := by
  induction s with
  | nil => exact hs
  | cons c s ih =>
    by_cases hkey : StartsKey (c :: s)
    · have hmark : ';' ∉ (c :: s).take keyMark.length := fun hmem => hs (List.mem_of_mem_take hmem)
      have hmask : ';' ∉ "[REDACTED]".toList := by decide
      rw [hideSegment_of_startsKey hkey, written, List.mem_append, not_or]
      exact ⟨hmark, hmask⟩
    · obtain ⟨hc, hs⟩ : ';' ≠ c ∧ ';' ∉ s := by simpa using hs
      rw [hideSegment_cons hkey, List.mem_cons, not_or]
      exact ⟨hc, ih hs⟩

/-- A redacted segment contains a mark exactly if the segment does. -/
theorem hasKey_hideSegment : HasKey (hideSegment s) ↔ HasKey s := by
  induction s with
  | nil => rfl
  | cons c s ih =>
    have hstarts : StartsKey (hideSegment (c :: s)) ↔ StartsKey (c :: s) := startsKey_hideSegment
    by_cases hkey : StartsKey (c :: s)
    · exact iff_of_true (hasKey_of_startsKey (hstarts.2 hkey)) (.inl hkey)
    · rw [hideSegment_cons hkey] at hstarts ⊢
      exact or_congr hstarts ih

/-- Common white space at the end does not affect whether two texts have the same redaction. -/
theorem hideSegment_tail_inj {tail : List Char} (h : ∀ c ∈ tail, isBlank c = true) :
    hideSegment (s ++ tail) = hideSegment (t ++ tail) ↔ hideSegment s = hideSegment t := by
  constructor
  · intro halike
    have hhas : HasKey s ↔ HasKey t := by
      rw [← hasKey_tail h s, ← hasKey_hideSegment, halike, hasKey_hideSegment, hasKey_tail h]
    rw [hideSegment_tail h, hideSegment_tail h] at halike
    simp only [hhas] at halike
    exact List.append_cancel_right halike
  · intro halike
    have hhas : HasKey s ↔ HasKey t := by rw [← hasKey_hideSegment, halike, hasKey_hideSegment]
    rw [hideSegment_tail h, hideSegment_tail h, halike]
    simp only [hhas]

/-- The redaction of a text is that of its segments. -/
theorem redactKey_eq_join (text : String) :
    redactKey text = String.ofList (join ';' ((segments ';' text.toList).map hideSegment)) := by
  have hscan := scan_join fun part (hpart : part ∈ segments ';' text.toList) => not_mem_segment hpart
  rw [join_segments] at hscan
  rw [redactKey, hide, hscan]

theorem redactKey_redactKey (text : String) : redactKey (redactKey text) = redactKey text := by
  have hparts : ∀ part ∈ (segments ';' text.toList).map hideSegment, ';' ∉ part := by
    intro part hpart
    obtain ⟨segment, hsegment, rfl⟩ := List.mem_map.1 hpart
    exact semicolon_not_mem_hideSegment (not_mem_segment hsegment)
  have hagain : ((segments ';' text.toList).map hideSegment).map hideSegment =
      (segments ';' text.toList).map hideSegment := by
    rw [List.map_map]
    exact List.map_congr_left fun segment _ => hideSegment_hideSegment segment
  rw [redactKey_eq_join text, redactKey, hide, String.toList_ofList, scan_join hparts, hagain]

end HubLink.Credential.Redaction
