import HubLink.Credential.ConnectionString
import HubLink.Proofs.Text.Padding
import Mathlib.Data.List.Nodup

namespace HubLink.Credential

open Text

theorem bind_eq_ok {ε α β : Type} {x : Except ε α} {f : α → Except ε β} {b : β} :
    x >>= f = .ok b ↔ ∃ a, x = .ok a ∧ f a = .ok b := by
  cases x with
  | error e => exact ⟨nofun, fun ⟨a, h, _⟩ => nomatch h⟩
  | ok a => exact ⟨fun h => ⟨a, rfl, h⟩, fun ⟨_, h, hb⟩ => Except.ok.inj h ▸ hb⟩

theorem bind_eq_error {ε α β : Type} {x : Except ε α} {f : α → Except ε β} {e : ε} :
    x >>= f = .error e ↔ x = .error e ∨ ∃ a, x = .ok a ∧ f a = .error e := by
  cases x with
  | error e' => simp [bind, Except.bind]
  | ok a => simp [bind, Except.bind]

/-- Mapping a list fails with the error of the first element that has one. -/
theorem mapM_eq_error_iff {ε α β : Type} {f : α → Except ε β} {xs : List α} {e : ε} :
    xs.mapM f = .error e ↔
      ∃ front x back, xs = front ++ x :: back ∧ (∀ y ∈ front, ∃ b, f y = .ok b) ∧ f x = .error e := by
  induction xs with
  | nil => simp [pure, Except.pure]
  | cons x rest ih =>
    have hcons : (x :: rest).mapM f = .error e ↔
        f x = .error e ∨ ∃ b, f x = .ok b ∧ rest.mapM f = .error e := by
      simp [List.mapM_cons, bind_eq_error, pure, Except.pure]
    rw [hcons]
    constructor
    · rintro (hx | ⟨b, hx, hrest⟩)
      · exact ⟨[], x, rest, rfl, by simp, hx⟩
      · obtain ⟨front, y, back, rfl, hfront, hy⟩ := ih.1 hrest
        exact ⟨x :: front, y, back, rfl, List.forall_mem_cons.2 ⟨⟨b, hx⟩, hfront⟩, hy⟩
    · rintro ⟨front, y, back, hsplit, hfront, hy⟩
      cases front with
      | nil =>
        cases hsplit
        exact .inl hy
      | cons z front =>
        cases hsplit
        obtain ⟨⟨b, hx⟩, hfront⟩ := List.forall_mem_cons.1 hfront
        exact .inr ⟨b, hx, ih.2 ⟨front, y, back, rfl, hfront, hy⟩⟩

theorem Field.ofKey?_eq_some_iff {key : String} {f : Field} :
    Field.ofKey? key = some f ↔ f.key = key := by
  constructor
  · intro h
    simpa using List.find?_some h
  · rintro rfl
    exact Field.ofKey?_key f

theorem Field.ofKey?_eq_none_iff {key : String} :
    Field.ofKey? key = none ↔ ∀ f : Field, f.key ≠ key := by
  constructor
  · intro h f hkey
    rw [Field.ofKey?_eq_some_iff.2 hkey] at h
    cases h
  · intro h
    cases hfield : Field.ofKey? key with
    | none => rfl
    | some f => exact absurd (Field.ofKey?_eq_some_iff.1 hfield) (h f)

/-- The segment has the key of `f` before its first `=` and `value` behind it, each without
surrounding white space. -/
def Gives (raw : List Char) (f : Field) (value : String) : Prop :=
  ∃ before behind, cut? '=' raw = some (before, behind) ∧ String.ofList (trim before) = f.key ∧
    String.ofList (trim behind) = value

/-- The text before the first `=` of the segment is `key`, without surrounding white space. -/
def Names (raw : List Char) (key : String) : Prop :=
  ∃ before behind, cut? '=' raw = some (before, behind) ∧ String.ofList (trim before) = key

/-- The field and the value that a segment gives. -/
def given? (raw : List Char) : Option (Field × String) :=
  match cut? '=' raw with
  | none => none
  | some (before, behind) =>
    (Field.ofKey? (String.ofList (trim before))).map (·, String.ofList (trim behind))

/-- The segment is blank or gives a field a value. -/
def Readable (raw : List Char) : Prop :=
  AllBlank raw ∨ ∃ f value, Gives raw f value

section

variable {raw front back : List Char} {f : Field} {key value : String}

theorem given?_eq_some_iff : given? raw = some (f, value) ↔ Gives raw f value := by
  unfold given? Gives
  cases hcut : cut? '=' raw with
  | none => simp
  | some parts =>
    obtain ⟨before, behind⟩ := parts
    simp only [Option.map_eq_some_iff, Field.ofKey?_eq_some_iff, Prod.mk.injEq]
    constructor
    · rintro ⟨f, hkey, rfl, rfl⟩
      exact ⟨before, behind, rfl, hkey.symm, rfl⟩
    · rintro ⟨before, behind, hparts, hkey, rfl⟩
      cases hparts
      exact ⟨f, hkey.symm, rfl, rfl⟩

theorem names_key_iff : Names raw f.key ↔ ∃ value, Gives raw f value := by
  constructor
  · rintro ⟨before, behind, hcut, hkey⟩
    exact ⟨_, before, behind, hcut, hkey, rfl⟩
  · rintro ⟨value, before, behind, hcut, hkey, -⟩
    exact ⟨before, behind, hcut, hkey⟩

/-- A segment has at most one key. -/
theorem Names.eq {key' : String} (h : Names raw key) (h' : Names raw key') : key = key' := by
  obtain ⟨before, behind, hcut, rfl⟩ := h
  obtain ⟨before', behind', hcut', rfl⟩ := h'
  rw [hcut] at hcut'
  cases hcut'
  rfl

/-- The characters of a value are characters of its segment. -/
theorem Gives.mem_of_mem {c : Char} (h : Gives raw f value) (hc : c ∈ value.toList) : c ∈ raw := by
  obtain ⟨before, behind, hcut, -, rfl⟩ := h
  rw [String.toList_ofList] at hc
  rw [(cut?_eq_some hcut).1]
  simp [mem_of_mem_trim hc]

theorem equals_mem_of_names (h : Names raw key) : '=' ∈ raw := by
  obtain ⟨before, behind, hcut, -⟩ := h
  rw [(cut?_eq_some hcut).1]
  simp

theorem trim_ne_nil_of_equals_mem (h : '=' ∈ raw) : trim raw ≠ [] := fun hnil =>
  absurd (trim_eq_nil_iff.1 hnil '=' h) (by decide)

/-- White space in front of a segment is ignored. -/
theorem given?_blank_append (h : AllBlank front) (raw : List Char) :
    given? (front ++ raw) = given? raw := by
  rw [given?, given?, cut?_append_left (AllBlank.not_mem h (by decide))]
  cases cut? '=' raw with
  | none => rfl
  | some cut => simp [trim_blank_append h]

theorem given?_append_blank (h : AllBlank back) (raw : List Char) :
    given? (raw ++ back) = given? raw := by
  rw [given?, given?, cut?_append_right (AllBlank.not_mem h (by decide))]
  cases cut? '=' raw with
  | none => rfl
  | some cut => simp [trim_append_blank h]

theorem readable_iff : Readable raw ↔ AllBlank raw ∨ (given? raw).isSome = true := by
  simp [Readable, ← given?_eq_some_iff, Option.isSome_iff_exists]

theorem readable_blank_append (h : AllBlank front) (raw : List Char) :
    Readable (front ++ raw) ↔ Readable raw := by
  rw [readable_iff, readable_iff, given?_blank_append h, allBlank_append, and_iff_right h]

theorem readable_append_blank (h : AllBlank back) (raw : List Char) :
    Readable (raw ++ back) ↔ Readable raw := by
  rw [readable_iff, readable_iff, given?_append_blank h, allBlank_append, and_iff_left h]

theorem filterMap_given?_segments_trim (s : List Char) :
    (segments ';' (trim s)).filterMap given? = (segments ';' s).filterMap given? := by
  have hmap : (segments ';' (trim s)).map given? = (segments ';' s).map given? :=
    map_segments_trim (by decide) (fun front raw h => given?_blank_append h raw)
      (fun raw back h => given?_append_blank h raw) s
  have hid (parts : List (List Char)) : parts.filterMap given? = (parts.map given?).filterMap id := by
    rw [List.filterMap_map]
    rfl
  rw [hid, hmap, ← hid]

theorem forall_readable_segments_trim (s : List Char) :
    (∀ raw ∈ segments ';' (trim s), Readable raw) ↔ ∀ raw ∈ segments ';' s, Readable raw := by
  have hmap : (segments ';' (trim s)).map Readable = (segments ';' s).map Readable :=
    map_segments_trim (by decide) (fun front raw h => propext (readable_blank_append h raw))
      (fun raw back h => propext (readable_append_blank h raw)) s
  have hall (parts : List (List Char)) :
      (∀ raw ∈ parts, Readable raw) ↔ ∀ p ∈ parts.map Readable, p :=
    (List.forall_mem_map (P := fun p => p)).symm
  rw [hall, hmap, ← hall]

end

namespace Fields

variable {fields fields' : Fields} {raw : List Char} {f : Field} {value : String} {e : Error}

theorem mem_of_value? (h : fields.value? f = some value) : (f, value) ∈ fields := by
  obtain ⟨⟨g, v⟩, hfind, rfl⟩ := Option.map_eq_some_iff.1 h
  obtain rfl : g = f := by simpa using List.find?_some hfind
  exact List.mem_of_find?_eq_some hfind

theorem isSome_value?_iff : (fields.value? f).isSome = true ↔ f ∈ fields.map (·.1) := by
  simp [value?]

theorem value?_eq_some_iff (h : (fields.map (·.1)).Nodup) :
    fields.value? f = some value ↔ (f, value) ∈ fields := by
  refine ⟨mem_of_value?, fun hmem => ?_⟩
  have hsome : (fields.value? f).isSome = true :=
    isSome_value?_iff.2 (List.mem_map_of_mem (f := (·.1)) hmem)
  obtain ⟨value', hvalue'⟩ := Option.isSome_iff_exists.1 hsome
  have hsame := List.inj_on_of_nodup_map h hmem (mem_of_value? hvalue') rfl
  rw [hvalue', (Prod.mk.inj hsame).2]

theorem mem_keys_filterMap_given?_iff {parts : List (List Char)} :
    f ∈ (parts.filterMap given?).map (·.1) ↔ ∃ raw ∈ parts, Names raw f.key := by
  simp only [names_key_iff, ← given?_eq_some_iff, List.mem_map, List.mem_filterMap]
  constructor
  · rintro ⟨⟨f, value⟩, ⟨raw, hraw, hgiven⟩, rfl⟩
    exact ⟨raw, hraw, value, hgiven⟩
  · rintro ⟨raw, hraw, value, hgiven⟩
    exact ⟨(f, value), ⟨raw, hraw, hgiven⟩, rfl⟩

theorem required_eq_ok_iff : fields.required f = .ok value ↔
    fields.value? f = some value ∧ value ≠ "" := by
  unfold required
  cases fields.value? f with
  | none => simp
  | some value' =>
    dsimp only
    split
    case isTrue hempty =>
      exact ⟨nofun, fun ⟨hsame, hne⟩ => absurd (Option.some.inj hsame ▸ hempty) hne⟩
    case isFalse hne =>
      exact ⟨fun h => Except.ok.inj h ▸ ⟨rfl, hne⟩, fun ⟨hsame, _⟩ => Option.some.inj hsame ▸ rfl⟩

theorem required_eq_error_iff : fields.required f = .error e ↔
    e = .missingField f.key ∧ ∀ value, fields.value? f = some value → value = "" := by
  unfold required
  cases fields.value? f with
  | none => simp [eq_comm]
  | some value => by_cases hvalue : value = "" <;> simp [hvalue, eq_comm]

/-- Reading a segment appends the field that it gives. -/
theorem eq_append_given?_of_readSegment (h : fields.readSegment raw = .ok fields') :
    fields' = fields ++ (given? raw).toList := by
  unfold readSegment at h
  split at h
  case isTrue hblank =>
    cases h
    have hcut : cut? '=' raw = none := cut?_eq_none_iff.2 fun hequals =>
      trim_ne_nil_of_equals_mem hequals hblank
    simp [given?, hcut]
  case isFalse =>
    split at h
    case h_1 => cases h
    case h_2 name behind hcut =>
      dsimp only at h
      split at h
      · cases h
      split at h
      · cases h
      case h_2 f hfield =>
        split at h
        · cases h
        · cases h
          simp [given?, hcut, hfield]

/-- Reading segments appends the fields that they give. -/
theorem eq_append_of_readSegments {parts : List (List Char)}
    (h : parts.foldlM readSegment fields = .ok fields') : fields' = fields ++ parts.filterMap given? := by
  induction parts generalizing fields with
  | nil =>
    cases h
    simp
  | cons raw rest ih =>
    obtain ⟨middle, hread, hrest⟩ := bind_eq_ok.1 ((List.foldlM_cons ..).symm.trans h)
    rw [ih hrest, eq_append_given?_of_readSegment hread]
    cases hgiven : given? raw <;> simp [hgiven]

end Fields

namespace ConnectionString

variable {s : String} {c : ConnectionString} {fields : Fields}

theorem nodup_keys_fields (c : ConnectionString) : (c.fields.map (·.1)).Nodup := by
  cases hname : c.sharedAccessKeyName <;> cases hgateway : c.gatewayHostName <;>
    simp [fields, hname, hgateway]

theorem value?_fields (c : ConnectionString) :
    c.fields.value? .hostName = some c.hostName ∧ c.fields.value? .deviceId = some c.deviceId ∧
      c.fields.value? .sharedAccessKey = some c.sharedAccessKey ∧
      c.fields.value? .sharedAccessKeyName = c.sharedAccessKeyName ∧
      c.fields.value? .gatewayHostName = c.gatewayHostName := by
  cases hname : c.sharedAccessKeyName <;> cases hgateway : c.gatewayHostName <;>
    simp [fields, Fields.value?, hname, hgateway]

/-- The fields make up `c` exactly if the fields have the values of `c` and the required ones are not
empty. -/
theorem ofFields_eq_ok_iff : ofFields fields = .ok c ↔
    (∀ f, fields.value? f = c.fields.value? f) ∧
      c.hostName ≠ "" ∧ c.deviceId ≠ "" ∧ c.sharedAccessKey ≠ "" := by
  obtain ⟨hhostName, hdeviceId, hsharedAccessKey, hname, hgateway⟩ := c.value?_fields
  constructor
  · intro h
    obtain ⟨host, hhost, h⟩ := bind_eq_ok.1 h
    obtain ⟨device, hdevice, h⟩ := bind_eq_ok.1 h
    obtain ⟨key, hkey, h⟩ := bind_eq_ok.1 h
    cases h
    obtain ⟨hhost, hhost_ne⟩ := Fields.required_eq_ok_iff.1 hhost
    obtain ⟨hdevice, hdevice_ne⟩ := Fields.required_eq_ok_iff.1 hdevice
    obtain ⟨hkey, hkey_ne⟩ := Fields.required_eq_ok_iff.1 hkey
    refine ⟨fun f => ?_, hhost_ne, hdevice_ne, hkey_ne⟩
    cases f with
    | hostName => rw [hhostName, hhost]
    | deviceId => rw [hdeviceId, hdevice]
    | sharedAccessKey => rw [hsharedAccessKey, hkey]
    | sharedAccessKeyName => rw [hname]
    | gatewayHostName => rw [hgateway]
  · rintro ⟨hvalues, hhost, hdevice, hkey⟩
    simp [ofFields, Fields.required, hvalues, hhostName, hdeviceId, hsharedAccessKey, hname, hgateway,
      hhost, hdevice, hkey, bind, Except.bind, pure, Except.pure]

/-- A parsed connection string is that of the fields which its segments give. -/
theorem ofFields_of_parse (h : parse s = .ok c) :
    ofFields ((segments ';' (trim s.toList)).filterMap given?) = .ok c := by
  obtain ⟨fields, hfields, h⟩ := bind_eq_ok.1 h
  have hgiven := Fields.eq_append_of_readSegments hfields
  rwa [hgiven, List.nil_append] at h

/-- The device id of a parsed connection string is not empty. -/
theorem deviceId_ne_empty (h : parse s = .ok c) : c.deviceId ≠ "" :=
  (ofFields_eq_ok_iff.1 (ofFields_of_parse h)).2.2.1

/-- The key of a parsed connection string is given by one of its segments. -/
theorem exists_gives_key (h : parse s = .ok c) :
    ∃ raw ∈ segments ';' (trim s.toList), Gives raw .sharedAccessKey c.sharedAccessKey := by
  obtain ⟨-, -, hkey, -⟩ := c.value?_fields
  rw [← (ofFields_eq_ok_iff.1 (ofFields_of_parse h)).1] at hkey
  obtain ⟨raw, hraw, hgiven⟩ := List.mem_filterMap.1 (Fields.mem_of_value? hkey)
  exact ⟨raw, hraw, given?_eq_some_iff.1 hgiven⟩

/-- The key of a parsed connection string contains no semicolon. -/
theorem semicolon_not_mem_key (h : parse s = .ok c) : ';' ∉ c.sharedAccessKey.toList := by
  obtain ⟨raw, hraw, hgives⟩ := exists_gives_key h
  exact fun hmem => not_mem_segment hraw (hgives.mem_of_mem hmem)

end ConnectionString
end HubLink.Credential
