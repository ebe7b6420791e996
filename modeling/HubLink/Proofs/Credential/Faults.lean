import HubLink.Proofs.Credential.Reading
import Mathlib.Data.List.Induction

namespace HubLink.Credential

open Text

/-- The error of a segment, given the segments before it. -/
inductive Offends (before : List (List Char)) (raw : List Char) : Error → Prop where
  | notKeyValue (hblank : ¬ AllBlank raw) (hequals : '=' ∉ raw) :
    Offends before raw (.ofFault (.notKeyValue (String.ofList raw)))
  | moduleIdentity (hkey : Names raw "ModuleId") : Offends before raw (.ofFault .moduleIdentity)
  | unknownField {key : String} (hkey : Names raw key) (hmodule : key ≠ "ModuleId")
      (hunknown : ∀ f : Field, f.key ≠ key) : Offends before raw (.ofFault (.unknownField key))
  | duplicateField {f : Field} {earlier : List Char} (hkey : Names raw f.key)
      (hearlier : earlier ∈ before) (hsame : Names earlier f.key) :
    Offends before raw (.duplicateField f.key)

namespace Fields

variable {fields fields' : Fields} {before : List (List Char)} {raw : List Char} {e : Error}

/-- If the fields read so far are those named by the segments before, `readSegment` fails exactly with
the error of the segment. -/
theorem readSegment_eq_error_iff
    (h : ∀ f, (fields.value? f).isSome = true ↔ ∃ earlier ∈ before, Names earlier f.key) :
    fields.readSegment raw = .error e ↔ Offends before raw e := by
  constructor
  · intro hread
    unfold readSegment at hread
    split at hread
    case isTrue => cases hread
    case isFalse hblank =>
      rw [trim_eq_nil_iff] at hblank
      split at hread
      case h_1 hcut =>
        cases hread
        exact .notKeyValue hblank (cut?_eq_none_iff.1 hcut)
      case h_2 name behind hcut =>
        have hkey : Names raw (String.ofList (trim name)) := ⟨name, behind, hcut, rfl⟩
        dsimp only at hread
        split at hread
        case isTrue hmodule =>
          cases hread
          exact .moduleIdentity (hmodule ▸ hkey)
        case isFalse hmodule =>
          split at hread
          case h_1 hunknown =>
            cases hread
            exact .unknownField hkey hmodule (Field.ofKey?_eq_none_iff.1 hunknown)
          case h_2 f hknown =>
            rw [← Field.ofKey?_eq_some_iff.1 hknown] at hkey hread
            split at hread
            case isTrue hseen =>
              cases hread
              obtain ⟨earlier, hearlier, hsame⟩ := (h f).1 hseen
              exact .duplicateField hkey hearlier hsame
            case isFalse => cases hread
  · intro hoffends
    cases hoffends with
    | notKeyValue hblank hequals =>
      simp [readSegment, trim_eq_nil_iff, hblank, cut?_eq_none_iff.2 hequals]
    | moduleIdentity hkey =>
      have hblank := trim_ne_nil_of_equals_mem (equals_mem_of_names hkey)
      obtain ⟨name, behind, hcut, hkey⟩ := hkey
      simp [readSegment, hblank, hcut, hkey]
    | unknownField hkey hmodule hunknown =>
      have hblank := trim_ne_nil_of_equals_mem (equals_mem_of_names hkey)
      obtain ⟨name, behind, hcut, rfl⟩ := hkey
      simp [readSegment, hblank, hcut, hmodule, Field.ofKey?_eq_none_iff.2 hunknown]
    | @duplicateField f earlier hkey hearlier hsame =>
      have hblank := trim_ne_nil_of_equals_mem (equals_mem_of_names hkey)
      have hseen := (h f).2 ⟨earlier, hearlier, hsame⟩
      have hmodule : f.key ≠ "ModuleId" := by cases f <;> decide
      obtain ⟨name, behind, hcut, hkey⟩ := hkey
      simp [readSegment, hblank, hcut, hkey, hmodule, Field.ofKey?_key, hseen]

end Fields

/-- No segment has an error. -/
def Clean (parts : List (List Char)) : Prop :=
  ∀ front raw back e, parts = front ++ raw :: back → ¬ Offends front raw e

/-- The error of the first segment that has one. -/
def FirstOffence (parts : List (List Char)) (e : Error) : Prop :=
  ∃ front raw back, parts = front ++ raw :: back ∧ Clean front ∧ Offends front raw e

section

variable {parts : List (List Char)} {raw : List Char} {e : Error}

theorem clean_nil : Clean [] := fun front raw back _ h => by simp at h

theorem clean_concat : Clean (parts ++ [raw]) ↔ Clean parts ∧ ∀ e, ¬ Offends parts raw e := by
  constructor
  · intro h
    exact ⟨fun front part back e hsplit =>
      h front part (back ++ [raw]) e (by simp [hsplit]), fun e => h parts raw [] e rfl⟩
  · rintro ⟨hparts, hraw⟩ front part back e hsplit
    obtain rfl | ⟨back, last, rfl⟩ := List.eq_nil_or_concat' back
    · obtain ⟨rfl, hlast⟩ := List.append_inj' hsplit rfl
      cases hlast
      exact hraw e
    · rw [← List.cons_append, ← List.append_assoc] at hsplit
      exact hparts front part back e (List.append_inj' hsplit rfl).1

theorem FirstOffence.concat (h : FirstOffence parts e) (raw : List Char) :
    FirstOffence (parts ++ [raw]) e := by
  obtain ⟨front, part, back, rfl, hclean, hoffends⟩ := h
  exact ⟨front, part, back ++ [raw], by simp, hclean, hoffends⟩

theorem FirstOffence.not_clean (h : FirstOffence parts e) : ¬ Clean parts := by
  obtain ⟨front, part, back, hsplit, -, hoffends⟩ := h
  exact fun hclean => hclean front part back e hsplit hoffends

namespace Fields

theorem readSegment_given?_eq_error_iff :
    readSegment (parts.filterMap given?) raw = .error e ↔ Offends parts raw e :=
  readSegment_eq_error_iff fun _ => isSome_value?_iff.trans mem_keys_filterMap_given?_iff

/-- Reading segments succeeds if none has an error, and fails with that of the first otherwise. -/
theorem readSegments_spec (parts : List (List Char)) :
    (Clean parts ∧ ∃ fields, parts.foldlM readSegment [] = .ok fields) ∨
      ∃ e, FirstOffence parts e ∧ parts.foldlM readSegment [] = .error e := by
  induction parts using List.reverseRecOn with
  | nil => exact .inl ⟨clean_nil, [], rfl⟩
  | append_singleton parts raw ih =>
    obtain ⟨hclean, fields, hread⟩ | ⟨e, hfirst, hread⟩ := ih
    · obtain rfl : fields = parts.filterMap given? := eq_append_of_readSegments hread
      have hlast : (parts ++ [raw]).foldlM readSegment [] =
          readSegment (parts.filterMap given?) raw := by
        rw [List.foldlM_append, hread]
        exact bind_pure (readSegment (parts.filterMap given?) raw)
      cases hraw : readSegment (parts.filterMap given?) raw with
      | error e =>
        have hoffends := readSegment_given?_eq_error_iff.1 hraw
        exact .inr ⟨e, ⟨parts, raw, [], rfl, hclean, hoffends⟩, hlast.trans hraw⟩
      | ok fields =>
        have hnone (e : Error) : ¬ Offends parts raw e := fun hoffends => by
          rw [readSegment_given?_eq_error_iff.2 hoffends] at hraw
          cases hraw
        exact .inl ⟨clean_concat.2 ⟨hclean, hnone⟩, fields, hlast.trans hraw⟩
    · refine .inr ⟨e, hfirst.concat raw, ?_⟩
      rw [List.foldlM_append, hread]
      rfl

theorem readSegments_eq_ok_iff {fields : Fields} :
    parts.foldlM readSegment [] = .ok fields ↔ Clean parts ∧ fields = parts.filterMap given? := by
  obtain ⟨hclean, fields', hread⟩ | ⟨e, hfirst, hread⟩ := readSegments_spec parts
  · obtain rfl : fields' = parts.filterMap given? := eq_append_of_readSegments hread
    rw [hread, Except.ok.injEq, and_iff_right hclean, eq_comm]
  · rw [hread]
    exact ⟨nofun, fun ⟨hclean, _⟩ => absurd hclean hfirst.not_clean⟩

theorem readSegments_eq_error_iff :
    parts.foldlM readSegment [] = .error e ↔ FirstOffence parts e := by
  constructor
  · intro h
    obtain ⟨-, fields, hread⟩ | ⟨e', hfirst, hread⟩ := readSegments_spec parts
    · cases h.symm.trans hread
    · cases h.symm.trans hread
      exact hfirst
  · rintro ⟨front, raw, back, rfl, hclean, hoffends⟩
    rw [List.foldlM_append, readSegments_eq_ok_iff.2 ⟨hclean, rfl⟩]
    simp only [bind, Except.bind, List.foldlM_cons, readSegment_given?_eq_error_iff.2 hoffends]

end Fields
end

section

variable {parts : List (List Char)} {raw : List Char}

theorem forall_not_offends_iff : (∀ e, ¬ Offends parts raw e) ↔
    Readable raw ∧ ∀ f : Field, Names raw f.key → ¬ ∃ earlier ∈ parts, Names earlier f.key := by
  constructor
  · intro h
    refine ⟨?_, fun f hkey ⟨earlier, hearlier, hsame⟩ => h _ (.duplicateField hkey hearlier hsame)⟩
    by_cases hblank : AllBlank raw
    · exact .inl hblank
    cases hcut : cut? '=' raw with
    | none => exact absurd (.notKeyValue hblank (cut?_eq_none_iff.1 hcut)) (h _)
    | some cut =>
      obtain ⟨name, behind⟩ := cut
      have hkey : Names raw (String.ofList (trim name)) := ⟨name, behind, hcut, rfl⟩
      by_cases hmodule : String.ofList (trim name) = "ModuleId"
      · exact absurd (.moduleIdentity (hmodule ▸ hkey)) (h _)
      cases hfield : Field.ofKey? (String.ofList (trim name)) with
      | none => exact absurd (.unknownField hkey hmodule (Field.ofKey?_eq_none_iff.1 hfield)) (h _)
      | some f =>
        exact .inr ⟨f, _, name, behind, hcut, (Field.ofKey?_eq_some_iff.1 hfield).symm, rfl⟩
  · rintro ⟨hreadable, hnew⟩ e hoffends
    have hknown {key : String} (hkey : Names raw key) : ∃ f : Field, f.key = key := by
      obtain hblank | ⟨f, value, hgives⟩ := hreadable
      · exact absurd (trim_eq_nil_iff.2 hblank) (trim_ne_nil_of_equals_mem (equals_mem_of_names hkey))
      · exact ⟨f, (names_key_iff.2 ⟨value, hgives⟩).eq hkey⟩
    cases hoffends with
    | notKeyValue hblank hequals =>
      obtain ⟨f, value, hgives⟩ := hreadable.resolve_left hblank
      exact hequals (equals_mem_of_names (names_key_iff.2 ⟨value, hgives⟩))
    | moduleIdentity hkey =>
      obtain ⟨f, hf⟩ := hknown hkey
      cases f <;> exact absurd hf (by decide)
    | unknownField hkey hmodule hunknown =>
      obtain ⟨f, hf⟩ := hknown hkey
      exact hunknown f hf
    | duplicateField hkey hearlier hsame => exact hnew _ hkey ⟨_, hearlier, hsame⟩

/-- No segment has an error exactly if all are readable and their fields are distinct. -/
theorem clean_iff : Clean parts ↔
    (∀ raw ∈ parts, Readable raw) ∧ ((parts.filterMap given?).map (·.1)).Nodup := by
  induction parts using List.reverseRecOn with
  | nil => simp [clean_nil]
  | append_singleton parts raw ih =>
    have hlast : (∀ f : Field, Names raw f.key → ¬ ∃ earlier ∈ parts, Names earlier f.key) ↔
        ∀ p, given? raw = some p → p.1 ∉ (parts.filterMap given?).map (·.1) := by
      have hnames (f : Field) : Names raw f.key ↔ ∃ value, given? raw = some (f, value) := by
        simp only [names_key_iff, given?_eq_some_iff]
      simp only [hnames, ← Fields.mem_keys_filterMap_given?_iff]
      exact ⟨fun h p hp => h p.1 ⟨p.2, hp⟩, fun h f ⟨value, hvalue⟩ => h (f, value) hvalue⟩
    rw [clean_concat, ih, forall_not_offends_iff, hlast, List.forall_mem_append,
      List.forall_mem_singleton, List.filterMap_append, List.map_append, List.nodup_append']
    cases hgiven : given? raw <;>
      · simp [hgiven]
        tauto

end

/-- The required fields, in the order in which they are checked. -/
def Field.mandatory : List Field :=
  [.hostName, .deviceId, .sharedAccessKey]

/-- No segment gives the field a value that is not empty. -/
def Lacks (parts : List (List Char)) (f : Field) : Prop :=
  ∀ raw ∈ parts, ∀ value, Gives raw f value → value = ""

/-- The first required field that is lacking. -/
def FirstLacking (parts : List (List Char)) (f : Field) : Prop :=
  ∃ front back, Field.mandatory = front ++ f :: back ∧ (∀ g ∈ front, ¬ Lacks parts g) ∧ Lacks parts f

namespace Fields

variable {fields : Fields} {f : Field} {value : String} {e : Error}

/-- Checking the required fields fails exactly with the error of the first required field that is
missing or empty. -/
theorem ofFields_eq_error_iff : ConnectionString.ofFields fields = .error e ↔
    ∃ front f back, Field.mandatory = front ++ f :: back ∧
      (∀ g ∈ front, ∃ value, fields.required g = .ok value) ∧ fields.required f = .error e := by
  rw [← mapM_eq_error_iff]
  simp [ConnectionString.ofFields, Field.mandatory, bind_eq_error, pure, Except.pure]

/-- Among segments without errors, the fields read are exactly those that the segments give. -/
theorem value?_filterMap_given?_iff {parts : List (List Char)} (h : Clean parts) :
    value? (parts.filterMap given?) f = some value ↔ ∃ raw ∈ parts, Gives raw f value := by
  rw [value?_eq_some_iff (clean_iff.1 h).2]
  simp only [List.mem_filterMap, given?_eq_some_iff]

theorem lacks_iff {parts : List (List Char)} (h : Clean parts) : Lacks parts f ↔
    ∀ value, value? (parts.filterMap given?) f = some value → value = "" := by
  simp only [value?_filterMap_given?_iff h]
  exact ⟨fun hlacks value ⟨raw, hraw, hgives⟩ => hlacks raw hraw value hgives,
    fun hall raw hraw value hgives => hall value ⟨raw, hraw, hgives⟩⟩

theorem not_lacks_iff {parts : List (List Char)} (h : Clean parts) : ¬ Lacks parts f ↔
    ∃ value, required (parts.filterMap given?) f = .ok value := by
  simp only [lacks_iff h, required_eq_ok_iff, not_forall, exists_prop, ne_eq]

end Fields

namespace ConnectionString

variable {text : String} {e : Error}

/-- Parsing trims the text, reads its segments and then checks the required fields. -/
theorem parse_eq (text : String) :
    parse text = (segments ';' (trim text.toList)).foldlM Fields.readSegment [] >>= ofFields :=
  rfl

theorem parse_eq_ok_iff {c : ConnectionString} : parse text = .ok c ↔
    Clean (segments ';' (trim text.toList)) ∧
      ofFields ((segments ';' (trim text.toList)).filterMap given?) = .ok c := by
  rw [parse_eq, bind_eq_ok]
  simp only [Fields.readSegments_eq_ok_iff]
  constructor
  · rintro ⟨fields, ⟨hclean, rfl⟩, hfields⟩
    exact ⟨hclean, hfields⟩
  · rintro ⟨hclean, hfields⟩
    exact ⟨_, ⟨hclean, rfl⟩, hfields⟩

/-- A text that is parsed lacks no required field. -/
theorem not_lacks_of_parse {c : ConnectionString} (h : parse text = .ok c) {f : Field}
    (hf : f ∈ Field.mandatory) : ¬ Lacks (segments ';' (trim text.toList)) f := by
  obtain ⟨hclean, hfields⟩ := parse_eq_ok_iff.1 h
  obtain ⟨hvalues, hhost, hdevice, hkey⟩ := ofFields_eq_ok_iff.1 hfields
  obtain ⟨hhostName, hdeviceId, hsharedAccessKey, -, -⟩ := c.value?_fields
  rw [Fields.lacks_iff hclean]
  intro hlacks
  rw [hvalues] at hlacks
  obtain rfl | rfl | rfl : f = .hostName ∨ f = .deviceId ∨ f = .sharedAccessKey := by
    simpa [Field.mandatory] using hf
  · exact hhost (hlacks _ hhostName)
  · exact hdevice (hlacks _ hdeviceId)
  · exact hkey (hlacks _ hsharedAccessKey)

theorem ofFields_given_eq_error_iff {parts : List (List Char)} (h : Clean parts) :
    ofFields (parts.filterMap given?) = .error e ↔
      ∃ f, FirstLacking parts f ∧ e = .missingField f.key := by
  simp only [Fields.ofFields_eq_error_iff, ← Fields.not_lacks_iff h, Fields.required_eq_error_iff,
    ← Fields.lacks_iff h]
  constructor
  · rintro ⟨front, f, back, hsplit, hfront, he, hlacks⟩
    exact ⟨f, ⟨front, back, hsplit, hfront, hlacks⟩, he⟩
  · rintro ⟨f, ⟨front, back, hsplit, hfront, hlacks⟩, he⟩
    exact ⟨front, f, back, hsplit, hfront, he, hlacks⟩

/-- For every text: parsing fails with error `e` exactly if `e` is the error of the first faulty
segment, or if no segment is faulty and `e` is `missingField` for the first required field that is
lacking. It fails exactly if there is a faulty segment or a lacking required field. -/
theorem parse_eq_error_iff (text : String) :
    let parts := segments ';' (trim text.toList)
    (∀ e, parse text = .error e ↔ FirstOffence parts e ∨
      Clean parts ∧ ∃ f, FirstLacking parts f ∧ e = .missingField f.key) ∧
    ((∃ e, parse text = .error e) ↔
      (∃ front raw back e, parts = front ++ raw :: back ∧ Offends front raw e) ∨
        ∃ f ∈ Field.mandatory, Lacks parts f) := by
  intro parts
  have herror (e : Error) : parse text = .error e ↔ FirstOffence parts e ∨
      Clean parts ∧ ∃ f, FirstLacking parts f ∧ e = .missingField f.key := by
    rw [parse_eq, bind_eq_error, Fields.readSegments_eq_error_iff]
    refine or_congr_right ?_
    simp only [Fields.readSegments_eq_ok_iff]
    constructor
    · rintro ⟨fields, ⟨hclean, rfl⟩, hfields⟩
      exact ⟨hclean, (ofFields_given_eq_error_iff hclean).1 hfields⟩
    · rintro ⟨hclean, hlacking⟩
      exact ⟨_, ⟨hclean, rfl⟩, (ofFields_given_eq_error_iff hclean).2 hlacking⟩
  refine ⟨herror, ?_, fun hfault => ?_⟩
  · rintro ⟨e, he⟩
    obtain ⟨front, raw, back, hsplit, -, hoffends⟩ | ⟨-, f, ⟨front, back, hf, -, hlacks⟩, -⟩ :=
      (herror e).1 he
    · exact .inl ⟨front, raw, back, e, hsplit, hoffends⟩
    · exact .inr ⟨f, by simp [hf], hlacks⟩
  · cases hparse : parse text with
    | error e => exact ⟨e, rfl⟩
    | ok c =>
      obtain ⟨front, raw, back, e, hsplit, hoffends⟩ | ⟨f, hf, hlacks⟩ := hfault
      · exact absurd hoffends ((parse_eq_ok_iff.1 hparse).1 front raw back e hsplit)
      · exact absurd hlacks (not_lacks_of_parse hparse hf)

end ConnectionString
end HubLink.Credential
