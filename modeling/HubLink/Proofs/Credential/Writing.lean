import HubLink.Proofs.Credential.Faults

namespace HubLink.Credential

open Text

/-- White space around the text does not affect whether its segments have errors. -/
theorem clean_segments_trim (s : List Char) :
    Clean (segments ';' (trim s)) ↔ Clean (segments ';' s) := by
  rw [clean_iff, clean_iff, filterMap_given?_segments_trim, forall_readable_segments_trim]

/-- The value contains no semicolon and does not start or end with white space. -/
structure IsPlain (value : String) : Prop where
  free : ';' ∉ value.toList
  tight : Tight value.toList

/-- The segments write the fields in order, with blank segments in between. -/
inductive Spells : List (List Char) → Fields → Prop where
  | nil : Spells [] []
  | blank {raw : List Char} {parts : List (List Char)} {fields : Fields} (hraw : AllBlank raw)
      (hparts : Spells parts fields) : Spells (raw :: parts) fields
  | field {lead trail gap tail : List Char} {parts : List (List Char)} {fields : Fields} (f : Field)
      (value : String) (hlead : AllBlank lead) (htrail : AllBlank trail) (hgap : AllBlank gap)
      (htail : AllBlank tail) (hparts : Spells parts fields) :
    Spells ((lead ++ f.key.toList ++ trail ++ '=' :: (gap ++ value.toList ++ tail)) :: parts)
      ((f, value) :: fields)

/-- The text writes the fields in order, with white space around keys, values and the whole text, and
with blank segments. -/
def IsWrittenIn (fields : Fields) (text : String) : Prop :=
  ∃ start parts stop, AllBlank start ∧ AllBlank stop ∧ Spells parts fields ∧
    text.toList = start ++ join ';' parts ++ stop

theorem Field.tight_key (f : Field) : Tight f.key.toList := by
  rw [tight_iff]
  cases f <;> decide

theorem Field.equals_not_mem_key (f : Field) : '=' ∉ f.key.toList := by
  cases f <;> decide

theorem Field.semicolon_not_mem_key (f : Field) : ';' ∉ f.key.toList := by
  cases f <;> decide

/-- A segment that writes a field gives its value. -/
theorem gives_of_written {lead trail gap tail : List Char} (f : Field) {value : String}
    (hlead : AllBlank lead) (htrail : AllBlank trail) (hgap : AllBlank gap) (htail : AllBlank tail)
    (hvalue : IsPlain value) :
    Gives (lead ++ f.key.toList ++ trail ++ '=' :: (gap ++ value.toList ++ tail)) f value := by
  refine ⟨_, _, cut?_append ?_ _, ?_, ?_⟩
  · have hlead : '=' ∉ lead := AllBlank.not_mem hlead (by decide)
    have htrail : '=' ∉ trail := AllBlank.not_mem htrail (by decide)
    simp [hlead, htrail, f.equals_not_mem_key]
  · rw [trim_pad hlead htrail, f.tight_key.trim_eq, String.ofList_toList]
  · rw [trim_pad hgap htail, hvalue.tight.trim_eq, String.ofList_toList]

/-- A segment that gives a field a value has the form `Key=Value` with white space. -/
theorem Gives.exists_written {raw : List Char} {f : Field} {value : String} (h : Gives raw f value) :
    ∃ lead trail gap tail, AllBlank lead ∧ AllBlank trail ∧ AllBlank gap ∧ AllBlank tail ∧
      raw = lead ++ f.key.toList ++ trail ++ '=' :: (gap ++ value.toList ++ tail) := by
  obtain ⟨before, behind, hcut, hkey, rfl⟩ := h
  obtain ⟨lead, trail, hbefore, hlead, htrail⟩ := exists_trim before
  obtain ⟨gap, tail, hbehind, hgap, htail⟩ := exists_trim behind
  refine ⟨lead, trail, gap, tail, hlead, htrail, hgap, htail, ?_⟩
  rw [← hkey, String.toList_ofList, String.toList_ofList, ← hbefore, ← hbehind]
  exact (cut?_eq_some hcut).1

theorem Gives.isPlain {raw : List Char} {f : Field} {value : String} (hraw : ';' ∉ raw)
    (h : Gives raw f value) : IsPlain value := by
  refine ⟨fun hmem => hraw (h.mem_of_mem hmem), ?_⟩
  obtain ⟨before, behind, -, -, rfl⟩ := h
  rw [String.toList_ofList]
  exact tight_trim behind

namespace Spells

variable {parts : List (List Char)} {fields : Fields}

theorem given (h : Spells parts fields) (hplain : ∀ p ∈ fields, IsPlain p.2) :
    (∀ raw ∈ parts, Readable raw) ∧ parts.filterMap given? = fields := by
  induction h with
  | nil => simp
  | @blank raw parts fields hraw hparts ih =>
    obtain ⟨hreadable, hgiven⟩ := ih hplain
    have hnone : given? raw = none := by
      rw [given?, cut?_eq_none_iff.2 (AllBlank.not_mem hraw (by decide))]
    exact ⟨List.forall_mem_cons.2 ⟨.inl hraw, hreadable⟩, by rw [List.filterMap_cons_none hnone, hgiven]⟩
  | field f value hlead htrail hgap htail hparts ih =>
    obtain ⟨hvalue, hrest⟩ := List.forall_mem_cons.1 hplain
    obtain ⟨hreadable, hgiven⟩ := ih hrest
    have hgives := gives_of_written f hlead htrail hgap htail hvalue
    refine ⟨List.forall_mem_cons.2 ⟨.inr ⟨f, value, hgives⟩, hreadable⟩, ?_⟩
    rw [List.filterMap_cons_some (given?_eq_some_iff.2 hgives), hgiven]

theorem semicolon_not_mem (h : Spells parts fields) (hplain : ∀ p ∈ fields, IsPlain p.2) :
    ∀ part ∈ parts, ';' ∉ part := by
  induction h with
  | nil => simp
  | blank hraw hparts ih =>
    exact List.forall_mem_cons.2 ⟨AllBlank.not_mem hraw (by decide), ih hplain⟩
  | field f value hlead htrail hgap htail hparts ih =>
    obtain ⟨hvalue, hrest⟩ := List.forall_mem_cons.1 hplain
    have hfree {s : List Char} (hs : AllBlank s) : ';' ∉ s := hs.not_mem (by decide)
    refine List.forall_mem_cons.2 ⟨?_, ih hrest⟩
    simp [hfree hlead, hfree htrail, hfree hgap, hfree htail, f.semicolon_not_mem_key, hvalue.free]

/-- Readable segments write the fields that they give. -/
theorem of_readable (h : ∀ raw ∈ parts, Readable raw) : Spells parts (parts.filterMap given?) := by
  induction parts with
  | nil => exact .nil
  | cons raw rest ih =>
    obtain ⟨hraw, hrest⟩ := List.forall_mem_cons.1 h
    cases hgiven : given? raw with
    | none =>
      rw [readable_iff, hgiven, or_iff_left (by simp)] at hraw
      rw [List.filterMap_cons_none hgiven]
      exact .blank hraw (ih hrest)
    | some p =>
      obtain ⟨lead, trail, gap, tail, hlead, htrail, hgap, htail, rfl⟩ :=
        (given?_eq_some_iff.1 hgiven).exists_written
      rw [List.filterMap_cons_some hgiven]
      exact .field p.1 p.2 hlead htrail hgap htail (ih hrest)

theorem map_segment (fields : Fields) : Spells (fields.map ConnectionString.segment) fields := by
  induction fields with
  | nil => exact .nil
  | cons p rest ih =>
    simpa [ConnectionString.segment] using
      Spells.field p.1 p.2 allBlank_nil allBlank_nil allBlank_nil allBlank_nil ih

end Spells

/-- The fields given by the segments of a text that writes distinct fields are these fields. -/
theorem IsWrittenIn.given {fields : Fields} {text : String} (h : IsWrittenIn fields text)
    (hne : fields ≠ []) (hplain : ∀ p ∈ fields, IsPlain p.2) (hnodup : (fields.map (·.1)).Nodup) :
    Clean (segments ';' (trim text.toList)) ∧
      (segments ';' (trim text.toList)).filterMap given? = fields := by
  obtain ⟨start, parts, stop, hstart, hstop, hparts, htext⟩ := h
  obtain ⟨hreadable, hgiven⟩ := hparts.given hplain
  have hparts_ne : parts ≠ [] := by
    rintro rfl
    exact hne hgiven.symm
  have hsegments : segments ';' (join ';' parts) = parts :=
    segments_join hparts_ne (hparts.semicolon_not_mem hplain)
  rw [htext, trim_pad hstart hstop, clean_segments_trim, filterMap_given?_segments_trim, hsegments,
    clean_iff, hgiven]
  exact ⟨⟨hreadable, hnodup⟩, rfl⟩

/-- A text whose segments have no errors writes the fields that they give. -/
theorem isWrittenIn_of_clean {text : String} (h : Clean (segments ';' (trim text.toList))) :
    IsWrittenIn ((segments ';' (trim text.toList)).filterMap given?) text := by
  obtain ⟨start, stop, htext, hstart, hstop⟩ := exists_trim text.toList
  exact ⟨start, _, stop, hstart, hstop, .of_readable (clean_iff.1 h).1, by rwa [join_segments]⟩

namespace ConnectionString

/-- All values are plain, and the required ones are not empty. -/
structure WellFormed (c : ConnectionString) : Prop where
  hostName : c.hostName ≠ ""
  deviceId : c.deviceId ≠ ""
  sharedAccessKey : c.sharedAccessKey ≠ ""
  isPlain : ∀ p ∈ c.fields, IsPlain p.2

variable {text : String} {c : ConnectionString} {fields : Fields}

/-- The fields of a parsed connection string are exactly those that its segments give. -/
theorem value?_fields_iff_gives (h : parse text = .ok c) {f : Field} {value : String} :
    c.fields.value? f = some value ↔ ∃ raw ∈ segments ';' (trim text.toList), Gives raw f value := by
  obtain ⟨hclean, hfields⟩ := parse_eq_ok_iff.1 h
  rw [← (ofFields_eq_ok_iff.1 hfields).1, Fields.value?_filterMap_given?_iff hclean]

/-- Distinct fields are a permutation of those of `c` exactly if they have the same values. -/
theorem perm_fields_iff (h : (fields.map (·.1)).Nodup) :
    fields.Perm c.fields ↔ ∀ f, fields.value? f = c.fields.value? f := by
  rw [List.perm_ext_iff_of_nodup (.of_map _ h) (.of_map _ c.nodup_keys_fields)]
  simp only [Prod.forall, ← Fields.value?_eq_some_iff h,
    ← Fields.value?_eq_some_iff c.nodup_keys_fields]
  exact forall_congr' fun f => ⟨Option.ext, fun hf value => by rw [hf]⟩

/-- A text that writes the fields of a well-formed connection string in any order is parsed as it. -/
theorem parse_of_isWrittenIn (hc : c.WellFormed) (hperm : fields.Perm c.fields)
    (h : IsWrittenIn fields text) : parse text = .ok c := by
  have hnodup : (fields.map (·.1)).Nodup := (hperm.map _).nodup_iff.2 c.nodup_keys_fields
  have hne : fields ≠ [] := fun hnil => by simp [hnil, ConnectionString.fields] at hperm
  obtain ⟨hclean, hgiven⟩ := h.given hne (fun p hp => hc.isPlain p (hperm.subset hp)) hnodup
  refine parse_eq_ok_iff.2 ⟨hclean, ?_⟩
  rw [hgiven, ofFields_eq_ok_iff]
  exact ⟨(perm_fields_iff hnodup).1 hperm, hc.hostName, hc.deviceId, hc.sharedAccessKey⟩

/-- The fields given by the segments of a parsed text are a permutation of those of the result. -/
theorem perm_of_parse (h : parse text = .ok c) :
    ((segments ';' (trim text.toList)).filterMap given?).Perm c.fields := by
  obtain ⟨hclean, hfields⟩ := parse_eq_ok_iff.1 h
  exact (perm_fields_iff (clean_iff.1 hclean).2).2 (ofFields_eq_ok_iff.1 hfields).1

/-- A parsed connection string is well-formed. -/
theorem wellFormed_of_parse (h : parse text = .ok c) : c.WellFormed := by
  obtain ⟨-, hhost, hdevice, hkey⟩ := ofFields_eq_ok_iff.1 (ofFields_of_parse h)
  refine ⟨hhost, hdevice, hkey, fun p hp => ?_⟩
  obtain ⟨raw, hraw, hgiven⟩ := List.mem_filterMap.1 ((perm_of_parse h).symm.subset hp)
  exact (given?_eq_some_iff.1 hgiven).isPlain (not_mem_segment hraw)

/-- A parsed text writes the fields of the result in some order. -/
theorem isWrittenIn_of_parse (h : parse text = .ok c) :
    ∃ fields, fields.Perm c.fields ∧ IsWrittenIn fields text :=
  ⟨_, perm_of_parse h, isWrittenIn_of_clean (parse_eq_ok_iff.1 h).1⟩

theorem isWrittenIn_render (c : ConnectionString) : IsWrittenIn c.fields c.render :=
  ⟨[], c.fields.map segment, [], allBlank_nil, allBlank_nil, .map_segment c.fields, by simp [render]⟩

/-- For every text: it is parsed as `c` exactly if `c` is well-formed and the text writes the fields
of `c`, in any order and with any white space and blank segments. And `c` is well-formed exactly if
its rendered text is parsed as `c`. -/
theorem parse_eq_ok_iff_isWrittenIn (text : String) (c : ConnectionString) :
    (parse text = .ok c ↔ c.WellFormed ∧ ∃ fields, fields.Perm c.fields ∧ IsWrittenIn fields text) ∧
      (c.WellFormed ↔ parse c.render = .ok c) := by
  refine ⟨⟨fun h => ⟨wellFormed_of_parse h, isWrittenIn_of_parse h⟩, ?_⟩, fun hc => ?_,
    wellFormed_of_parse⟩
  · rintro ⟨hc, fields, hperm, h⟩
    exact parse_of_isWrittenIn hc hperm h
  · exact parse_of_isWrittenIn hc (.refl _) c.isWrittenIn_render

/-- Fields in another order, white space and blank segments, a key of equals signs, and an empty
optional field. -/
example : parse "\t;GatewayHostName= ; DeviceId = d\u00a0e;;SharedAccessKey=== ;HostName=h;\n" =
    .ok ⟨"h", "d\u00a0e", "==", none, some ""⟩ := rfl

end ConnectionString
end HubLink.Credential
