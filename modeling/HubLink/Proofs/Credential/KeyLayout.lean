import HubLink.Config.Render
import HubLink.Proofs.Credential.Hiding
import HubLink.Proofs.Credential.Reading
import HubLink.Proofs.Toml.Quoting

namespace HubLink.Text

theorem join_cons (sep : Char) (first : List Char) {parts : List (List Char)} (h : parts ≠ []) :
    join sep (first :: parts) = first ++ sep :: join sep parts := by
  cases parts with
  | nil => exact absurd rfl h
  | cons next others => rfl

/-- A joined list splits around any of its parts. -/
theorem exists_join (sep : Char) (front back : List (List Char)) :
    ∃ before behind, ∀ part, join sep (front ++ part :: back) = before ++ part ++ behind := by
  induction front with
  | nil =>
    cases back with
    | nil => exact ⟨[], [], fun part => by simp [join]⟩
    | cons next back => exact ⟨[], sep :: join sep (next :: back), fun part => rfl⟩
  | cons first front ih =>
    obtain ⟨before, behind, hjoin⟩ := ih
    refine ⟨first ++ sep :: before, behind, fun part => ?_⟩
    rw [List.cons_append, join_cons sep first (by simp), hjoin]
    simp

/-- Text in front of joined parts belongs to the first part. -/
theorem exists_append_join {sep : Char} {start : List Char} (hstart : sep ∉ start)
    {front : List (List Char)} (hfront : ∀ part ∈ front, sep ∉ part) (part : List Char)
    (back : List (List Char)) :
    ∃ front' start', start ++ join sep (front ++ part :: back) =
        join sep (front' ++ (start' ++ part) :: back) ∧
      (∀ c ∈ start', c ∈ start) ∧ ∀ part ∈ front', sep ∉ part := by
  cases front with
  | nil =>
    refine ⟨[], start, ?_, fun _ => id, by simp⟩
    cases back with
    | nil => rfl
    | cons next back => simp [join]
  | cons first front =>
    refine ⟨(start ++ first) :: front, [], ?_, by simp, ?_⟩
    · rw [List.cons_append, List.cons_append, join_cons sep _ (by simp), join_cons sep _ (by simp)]
      simp
    · obtain ⟨hfirst, hrest⟩ := List.forall_mem_cons.1 hfront
      exact List.forall_mem_cons.2 ⟨by simp [hstart, hfirst], hrest⟩

theorem join_append_last (sep : Char) (parts : List (List Char)) (last stop : List Char) :
    join sep (parts ++ [last]) ++ stop = join sep (parts ++ [last ++ stop]) := by
  induction parts with
  | nil => rfl
  | cons first parts ih =>
    rw [List.cons_append, List.cons_append, join_cons sep first (by simp),
      join_cons sep first (by simp), ← ih]
    simp

/-- Text behind joined parts belongs to the last part. -/
theorem exists_join_append {sep : Char} {stop : List Char} (hstop : sep ∉ stop)
    {back : List (List Char)} (hback : ∀ part ∈ back, sep ∉ part) (front : List (List Char))
    (part : List Char) :
    ∃ stop' back', join sep (front ++ part :: back) ++ stop =
        join sep (front ++ (part ++ stop') :: back') ∧
      (∀ c ∈ stop', c ∈ stop) ∧ ∀ part ∈ back', sep ∉ part := by
  obtain rfl | ⟨parts, last, rfl⟩ := List.eq_nil_or_concat' back
  · exact ⟨stop, [], join_append_last sep front part stop, fun _ => id, by simp⟩
  · refine ⟨[], parts ++ [last ++ stop], ?_, by simp, ?_⟩
    · have hlast := join_append_last sep (front ++ part :: parts) last stop
      simpa using hlast
    · obtain ⟨hparts, hlast⟩ := List.forall_mem_append.1 hback
      exact List.forall_mem_append.2 ⟨hparts, by simpa [hstop] using hlast⟩

theorem join_inj {sep : Char} {front back : List (List Char)} {part part' : List Char} :
    join sep (front ++ part :: back) = join sep (front ++ part' :: back) ↔ part = part' := by
  obtain ⟨before, behind, hjoin⟩ := exists_join sep front back
  rw [hjoin, hjoin]
  simp

end HubLink.Text

namespace HubLink.Credential

open Text Redaction

/-- A connection string without the value of its key: the segments before and behind, and the white
space in the segment of the key. -/
structure KeyLayout where
  front : List (List Char)
  /-- The white space before the key. -/
  lead : List Char
  /-- The white space between the key and `=`. -/
  trail : List Char
  /-- The white space between `=` and the value. -/
  gap : List Char
  /-- The white space behind the value. -/
  tail : List Char
  back : List (List Char)
  front_free : ∀ part ∈ front, ';' ∉ part
  back_free : ∀ part ∈ back, ';' ∉ part
  lead_blank : ∀ c ∈ lead, isBlank c = true
  trail_blank : ∀ c ∈ trail, isBlank c = true
  gap_blank : ∀ c ∈ gap, isBlank c = true
  tail_blank : ∀ c ∈ tail, isBlank c = true

namespace KeyLayout

def name : List Char :=
  Field.sharedAccessKey.key.toList

def segment (l : KeyLayout) (key : String) : List Char :=
  l.lead ++ name ++ l.trail ++ '=' :: (l.gap ++ key.toList ++ l.tail)

/-- The connection string with a given value of its key. -/
def text (l : KeyLayout) (key : String) : String :=
  String.ofList (join ';' (l.front ++ l.segment key :: l.back))

variable {l : KeyLayout} {key key' : String}

/-- Without white space between the key and `=`, the whole value is redacted. -/
theorem hideSegment_of_trail_nil (htrail : l.trail = []) (key : String) :
    hideSegment (l.segment key) = l.lead ++ name ++ '=' :: "[REDACTED]".toList := by
  have hlead : '=' ∉ l.lead := AllBlank.not_mem l.lead_blank (by decide)
  rw [segment, htrail, List.append_nil]
  exact hideSegment_key hlead (by decide) (by decide) _

/-- With white space between the key and `=`, only marks inside the value are redacted. -/
theorem hideSegment_of_trail_ne_nil (htrail : l.trail ≠ []) (key : String) :
    hideSegment (l.segment key) =
      l.lead ++ name ++ l.trail ++ '=' :: (l.gap ++ hideSegment (key.toList ++ l.tail)) := by
  obtain ⟨trail, b, hlast⟩ := List.eq_nil_or_concat' l.trail |>.resolve_left htrail
  have hb : isBlank b = true := l.trail_blank b (by simp [hlast])
  have hequals : '=' ∉ l.lead ++ name ++ trail := by
    have hlead : '=' ∉ l.lead := AllBlank.not_mem l.lead_blank (by decide)
    have hname : '=' ∉ name := by decide
    have htrail : '=' ∉ l.trail := AllBlank.not_mem l.trail_blank (by decide)
    simp_all
  have hsegment : l.segment key =
      (l.lead ++ name ++ trail) ++ b :: '=' :: (l.gap ++ (key.toList ++ l.tail)) := by
    simp [segment, hlast]
  rw [hsegment, hideSegment_blank hequals hb, hideSegment_gap l.gap_blank, hlast]
  simp

theorem segment_free (h : ';' ∉ key.toList) : ';' ∉ l.segment key := by
  have hlead : ';' ∉ l.lead := AllBlank.not_mem l.lead_blank (by decide)
  have htrail : ';' ∉ l.trail := AllBlank.not_mem l.trail_blank (by decide)
  have hgap : ';' ∉ l.gap := AllBlank.not_mem l.gap_blank (by decide)
  have htail : ';' ∉ l.tail := AllBlank.not_mem l.tail_blank (by decide)
  have hname : ';' ∉ name := by decide
  simp [segment, hlead, htrail, hgap, htail, hname, h]

theorem redactKey_text (h : ';' ∉ key.toList) :
    redactKey (l.text key) = String.ofList (join ';'
      (l.front.map hideSegment ++ hideSegment (l.segment key) :: l.back.map hideSegment)) := by
  have hparts : ∀ part ∈ l.front ++ l.segment key :: l.back, ';' ∉ part := by
    intro part hpart
    obtain hfront | hrest := List.mem_append.1 hpart
    · exact l.front_free part hfront
    · obtain rfl | hback := List.mem_cons.1 hrest
      · exact segment_free h
      · exact l.back_free part hback
  rw [redactKey, hide, text, String.toList_ofList, scan_join hparts, List.map_append, List.map_cons]

theorem redactKey_eq_hideSegment (h : ';' ∉ key.toList) :
    redactKey key = String.ofList (hideSegment key.toList) := by
  rw [redactKey, hide, scan_last h]

/-- For values without semicolons, two connection strings of a layout have the same redaction exactly
if there is no white space between the key and `=`, or the values themselves have the same
redaction. -/
theorem redactKey_text_inj (h : ';' ∉ key.toList) (h' : ';' ∉ key'.toList) :
    redactKey (l.text key) = redactKey (l.text key') ↔
      l.trail = [] ∨ redactKey key = redactKey key' := by
  rw [redactKey_text h, redactKey_text h', String.ofList_inj, join_inj, redactKey_eq_hideSegment h,
    redactKey_eq_hideSegment h', String.ofList_inj]
  by_cases htrail : l.trail = []
  · rw [hideSegment_of_trail_nil htrail, hideSegment_of_trail_nil htrail]
    simp [htrail]
  · rw [hideSegment_of_trail_ne_nil htrail, hideSegment_of_trail_ne_nil htrail,
      ← hideSegment_tail_inj l.tail_blank]
    simp [htrail]

/-- Every connection string that can be parsed is a layout with its key. -/
theorem exists_text {s : String} {c : ConnectionString} (h : ConnectionString.parse s = .ok c) :
    ∃ l : KeyLayout, s = l.text c.sharedAccessKey := by
  obtain ⟨raw, hraw, before, behind, hcut, hname, hkey⟩ := ConnectionString.exists_gives_key h
  obtain ⟨start, stop, hs, hstart, hstop⟩ := exists_trim s.toList
  obtain ⟨front, back, hparts⟩ := List.append_of_mem hraw
  obtain ⟨lead, trail, hbefore, hlead, htrail⟩ := exists_trim before
  obtain ⟨gap, tail, hbehind, hgap, htail⟩ := exists_trim behind
  have hfree : ∀ part ∈ front ++ raw :: back, ';' ∉ part :=
    hparts ▸ fun part => not_mem_segment
  obtain ⟨hfront, hrest⟩ := List.forall_mem_append.1 hfree
  -- The blanks around the whole text are those of its first and its last segment, be it the key's.
  obtain ⟨front', start', hjoin, hstart', hfront'⟩ :=
    exists_append_join (AllBlank.not_mem hstart (by decide)) hfront raw back
  obtain ⟨stop', back', hjoin', hstop', hback'⟩ :=
    exists_join_append (AllBlank.not_mem hstop (by decide)) (List.forall_mem_cons.1 hrest).2 front'
      (start' ++ raw)
  let l : KeyLayout :=
    { front := front'
      lead := start' ++ lead
      trail := trail
      gap := gap
      tail := tail ++ stop'
      back := back'
      front_free := hfront'
      back_free := hback'
      lead_blank := List.forall_mem_append.2 ⟨fun c hc => hstart c (hstart' c hc), hlead⟩
      trail_blank := htrail
      gap_blank := hgap
      tail_blank := List.forall_mem_append.2 ⟨htail, fun c hc => hstop c (hstop' c hc)⟩ }
  refine ⟨l, ?_⟩
  have hname : trim before = name := by simpa [name] using congrArg String.toList hname
  have hkey : trim behind = c.sharedAccessKey.toList := by simpa using congrArg String.toList hkey
  have hsegment : start' ++ raw ++ stop' = l.segment c.sharedAccessKey := by
    rw [(cut?_eq_some hcut).1, hbefore, hbehind, hname, hkey]
    simp [l, segment]
  rw [← String.ofList_toList (s := s), hs, ← join_segments ';' (trim s.toList), hparts, hjoin, hjoin',
    hsegment]
  rfl

end KeyLayout

/-- The configuration with an inline connection string. -/
def withInline (config : Config) (text : String) : Config :=
  { config with device := { config.device with connectionString := some text } }

/-- Two configurations that differ in the connection string have the same redacted TOML exactly if a
limit is out of range or the connection strings have the same redaction. -/
theorem toRedactedToml_withInline_inj (config : Config) (text text' : String) :
    (withInline config text).toRedactedToml = (withInline config text').toRedactedToml ↔
      config.isWritable = false ∨ redactKey text = redactKey text' := by
  let before := "[device]\n".toList ++ ("connection_string".toList ++ [' ', '=', ' '])
  let behind := ['\n'] ++ (Config.optionalLine "connection_string_env" config.device.connectionStringEnv ++
    (Config.line "token_ttl_secs" (decimal config.device.tokenLifetime.toNat) ++
      '\n' :: (config.mqtt.write ++ '\n' :: config.transport.write)))
  have hdevice (text : String) :
      (withInline config text).redacted.device.write ++
        '\n' :: config.mqtt.write ++ '\n' :: config.transport.write =
      before ++ Toml.writeString (redactKey text) ++ behind := by
    show "[device]\n".toList ++ Config.line "connection_string" (Toml.writeString (redactKey text)) ++
      Config.optionalLine "connection_string_env" config.device.connectionStringEnv ++
      Config.line "token_ttl_secs" (decimal config.device.tokenLifetime.toNat) ++
      '\n' :: config.mqtt.write ++ '\n' :: config.transport.write = _
    rw [show Config.line "connection_string" (Toml.writeString (redactKey text)) =
      "connection_string".toList ++ [' ', '=', ' '] ++ Toml.writeString (redactKey text) ++ ['\n']
      from rfl]
    simp only [List.append_assoc, List.cons_append, before, behind]
  have hshown (text : String) : (withInline config text).toRedactedToml =
      if config.isWritable then
        .ok (String.ofList (before ++ Toml.writeString (redactKey text) ++ behind))
      else .error .unwritable := by
    rw [← hdevice]
    rfl
  rw [hshown, hshown]
  cases hwritable : config.isWritable with
  | false => simp
  | true =>
    simp only [if_true, Except.ok.injEq, String.ofList_inj, List.append_cancel_right_eq,
      List.append_cancel_left_eq, Toml.writeString_injective.eq_iff]
    simp

theorem toRedactedToml_ofConnectionString_inj (text text' : String) :
    (Config.ofConnectionString text).toRedactedToml =
        (Config.ofConnectionString text').toRedactedToml ↔ redactKey text = redactKey text' := by
  have hwritable : (Config.ofConnectionString "").isWritable = true := by decide
  have hinj := toRedactedToml_withInline_inj (Config.ofConnectionString "") text text'
  rw [hwritable, or_iff_right (by decide)] at hinj
  exact hinj

/-- For two keys in a layout: their connection strings have the same redaction exactly if there is no
white space between the key and `=`, or the keys themselves have the same redaction. The same holds
for the redacted TOML of a configuration that can be written. -/
theorem keys_shown_alike_iff (l : KeyLayout) (config : Config) {c c' : ConnectionString}
    (h : ConnectionString.parse (l.text c.sharedAccessKey) = .ok c)
    (h' : ConnectionString.parse (l.text c'.sharedAccessKey) = .ok c') :
    (redactKey (l.text c.sharedAccessKey) = redactKey (l.text c'.sharedAccessKey) ↔
      l.trail = [] ∨ redactKey c.sharedAccessKey = redactKey c'.sharedAccessKey) ∧
    ((withInline config (l.text c.sharedAccessKey)).toRedactedToml =
        (withInline config (l.text c'.sharedAccessKey)).toRedactedToml ↔
      config.isWritable = false ∨
        l.trail = [] ∨ redactKey c.sharedAccessKey = redactKey c'.sharedAccessKey) := by
  have halike : redactKey (l.text c.sharedAccessKey) = redactKey (l.text c'.sharedAccessKey) ↔
      l.trail = [] ∨ redactKey c.sharedAccessKey = redactKey c'.sharedAccessKey :=
    KeyLayout.redactKey_text_inj (ConnectionString.semicolon_not_mem_key h)
      (ConnectionString.semicolon_not_mem_key h')
  exact ⟨halike, (toRedactedToml_withInline_inj config _ _).trans (or_congr_right halike)⟩

/-- With a space between the key and `=`, the value of the key is not redacted. -/
theorem key_shown_behind_blank :
    let text := "HostName=h;DeviceId=d;SharedAccessKey =a2V5"
    let text' := "HostName=h;DeviceId=d;SharedAccessKey =a2Vz"
    ConnectionString.parse text = .ok ⟨"h", "d", "a2V5", none, none⟩ ∧
      ConnectionString.parse text' = .ok ⟨"h", "d", "a2Vz", none, none⟩ ∧
      redactKey text ≠ redactKey text' ∧
      (Config.ofConnectionString text).toRedactedToml ≠
        (Config.ofConnectionString text').toRedactedToml := by
  have hshown : redactKey "HostName=h;DeviceId=d;SharedAccessKey =a2V5" ≠
      redactKey "HostName=h;DeviceId=d;SharedAccessKey =a2Vz" := by decide
  exact ⟨rfl, rfl, hshown, mt (toRedactedToml_ofConnectionString_inj _ _).1 hshown⟩

/-- A layout with white space around the `=` of its key. -/
def spacedLayout : KeyLayout where
  front := ["HostName=h".toList]
  lead := [' ']
  trail := [' ']
  gap := [' ']
  tail := ['\n']
  back := [[], "DeviceId=d".toList]
  front_free := by decide
  back_free := by decide
  lead_blank := List.all_eq_true.1 (by decide)
  trail_blank := List.all_eq_true.1 (by decide)
  gap_blank := List.all_eq_true.1 (by decide)
  tail_blank := List.all_eq_true.1 (by decide)

theorem keys_shown_alike_iff_spaced :
    (redactKey (spacedLayout.text "a2V5") = redactKey (spacedLayout.text "a2Vz") ↔
      spacedLayout.trail = [] ∨ redactKey "a2V5" = redactKey "a2Vz") ∧
    ((withInline (Config.ofConnectionString "") (spacedLayout.text "a2V5")).toRedactedToml =
        (withInline (Config.ofConnectionString "") (spacedLayout.text "a2Vz")).toRedactedToml ↔
      (Config.ofConnectionString "").isWritable = false ∨
        spacedLayout.trail = [] ∨ redactKey "a2V5" = redactKey "a2Vz") :=
  @keys_shown_alike_iff spacedLayout (Config.ofConnectionString "")
    ⟨"h", "d", "a2V5", none, none⟩ ⟨"h", "d", "a2Vz", none, none⟩ rfl rfl

end HubLink.Credential
