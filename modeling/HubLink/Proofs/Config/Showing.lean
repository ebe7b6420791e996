import HubLink.Config.Decode
import HubLink.Proofs.Credential.Hiding
import HubLink.Proofs.Credential.Reading
import HubLink.Proofs.Toml.Document

namespace HubLink.Config

open Text Toml Credential

/-- An entry with an integer. -/
def numberEntry (key : String) (n : Nat) : Entry :=
  ⟨key, .integer n, decimal n⟩

/-- An entry with a string. -/
def textEntry (key : String) (text : String) : Entry :=
  ⟨key, .string text, writeString text⟩

/-- An entry with a boolean. -/
def flagEntry (key : String) (b : Bool) : Entry :=
  ⟨key, .boolean b, writeBool b⟩

@[simp] theorem write_numberEntry (key : String) (n : Nat) :
    (numberEntry key n).write = line key (decimal n) :=
  rfl

@[simp] theorem write_textEntry (key text : String) :
    (textEntry key text).write = line key (writeString text) :=
  rfl

@[simp] theorem write_flagEntry (key : String) (b : Bool) :
    (flagEntry key b).write = line key (writeBool b) :=
  rfl

theorem isInteger_natCast {n : Nat} : isInteger n = true ↔ n ≤ 0x7FFFFFFFFFFFFFFF := by
  simp only [isInteger, Bool.and_eq_true, decide_eq_true_eq]
  omega

theorem asNat_natCast {n bound : Nat} (h : n < bound) (expected : String) :
    asNat bound expected (.integer n) = .ok n := by
  have hrange : 0 ≤ (n : Int) ∧ (n : Int) < bound := by omega
  rw [asNat, if_pos hrange, Int.toNat_natCast]

@[simp] theorem asWord_toNat (n : UInt64) (expected : String) :
    asWord expected (.integer n.toNat) = .ok n := by
  rw [asWord, asNat_natCast n.toNat_lt]
  show Except.ok (UInt64.ofNat n.toNat) = _
  rw [UInt64.ofNat_toNat]

@[simp] theorem asPort_toNat (n : UInt16) : asPort (.integer n.toNat) = .ok n := by
  rw [asPort, asNat_natCast n.toNat_lt]
  show Except.ok (UInt16.ofNat n.toNat) = _
  rw [UInt16.ofNat_toNat]

/-- The table `device` as a block. -/
def DeviceSection.block (s : DeviceSection) : Block where
  name := "device"
  entries :=
    (s.connectionString.map (textEntry "connection_string")).toList ++
      (s.connectionStringEnv.map (textEntry "connection_string_env")).toList ++
      [numberEntry "token_ttl_secs" s.tokenLifetime.toNat]

/-- The table `mqtt` as a block. -/
def MqttSection.block (s : MqttSection) : Block where
  name := "mqtt"
  entries :=
    [numberEntry "port" s.port.toNat, numberEntry "keep_alive_secs" s.keepAlive.toNat,
      flagEntry "use_tls" s.useTls, numberEntry "channel_capacity" s.channelCapacity.toNat,
      textEntry "api_version" s.apiVersion]

/-- The table `transport` as a block. -/
def TransportSection.block (s : TransportSection) : Block where
  name := "transport"
  entries := [flagEntry "connect_on_send" s.connectOnSend]

theorem DeviceSection.write_block (s : DeviceSection) : s.block.write = s.write := by
  have hheader : headerLine "device" = "[device]\n".toList := by decide
  obtain ⟨text, name, lifetime⟩ := s
  unfold Block.write block write
  dsimp only
  rw [hheader]
  cases text <;> cases name <;>
    simp only [Option.map_none, Option.map_some, Option.toList_none, Option.toList_some, List.nil_append,
      List.cons_append, List.flatMap_cons, List.flatMap_nil, List.append_nil, List.append_assoc,
      optionalLine, write_numberEntry, write_textEntry]

theorem MqttSection.write_block (s : MqttSection) : s.block.write = s.write := by
  have hheader : headerLine "mqtt" = "[mqtt]\n".toList := by decide
  unfold Block.write block write
  dsimp only
  rw [hheader]
  simp only [List.flatMap_cons, List.flatMap_nil, List.append_nil, List.append_assoc, write_numberEntry,
    write_textEntry, write_flagEntry]

theorem TransportSection.write_block (s : TransportSection) : s.block.write = s.write := by
  have hheader : headerLine "transport" = "[transport]\n".toList := by decide
  unfold Block.write block write
  dsimp only
  rw [hheader, List.flatMap_cons, List.flatMap_nil, List.append_nil, write_flagEntry]

/-- Reading a table reads its first entry first. -/
theorem Layout.read_cons {α : Type} {layout : Layout α} {name : String} {s s' : α} (e : Entry)
    (h : layout.set e.key e.value s = .ok s') (others : List Entry) :
    layout.read s (Block.value ⟨name, e :: others⟩) = layout.read s' (Block.value ⟨name, others⟩) := by
  unfold Block.value Layout.read
  dsimp only
  rw [List.map_cons, List.foldlM_cons, h]
  rfl

/-- A key sets the value that its reader returns. -/
theorem Layout.set_of_read {α β : Type} {layout : Layout α} {key : String}
    {read : Value → Except Misfit β} {v : Value} {x : β} (put : β → α → α)
    (hset : ∀ v s, layout.set key v s = (read v).bind fun x => .ok (put x s)) (hv : read v = .ok x)
    (s : α) : layout.set key v s = .ok (put x s) := by
  -- For any value: of a number in its place `rfl` would compare the bounds bit by bit.
  rw [hset, hv]
  rfl

theorem DeviceSection.set_tokenLifetime (n : UInt64) (s : DeviceSection) :
    layout.set "token_ttl_secs" (.integer n.toNat) s = .ok { s with tokenLifetime := n } :=
  Layout.set_of_read (fun n s => { s with tokenLifetime := n }) (fun _ _ => rfl)
    (asWord_toNat n "u64") s

theorem MqttSection.set_port (n : UInt16) (s : MqttSection) :
    layout.set "port" (.integer n.toNat) s = .ok { s with port := n } :=
  Layout.set_of_read (fun n s => { s with port := n }) (fun _ _ => rfl) (asPort_toNat n) s

theorem MqttSection.set_keepAlive (n : UInt64) (s : MqttSection) :
    layout.set "keep_alive_secs" (.integer n.toNat) s = .ok { s with keepAlive := n } :=
  Layout.set_of_read (fun n s => { s with keepAlive := n }) (fun _ _ => rfl)
    (asWord_toNat n "u64") s

theorem MqttSection.set_channelCapacity (n : UInt64) (s : MqttSection) :
    layout.set "channel_capacity" (.integer n.toNat) s = .ok { s with channelCapacity := n } :=
  Layout.set_of_read (fun n s => { s with channelCapacity := n }) (fun _ _ => rfl)
    (asWord_toNat n "usize") s

/-- Reading the written table `device` gives the section. -/
theorem DeviceSection.read_block (s : DeviceSection) : layout.read {} s.block.value = .ok s := by
  have hlifetime (t : DeviceSection) : layout.read t
      (Block.value ⟨"device", [numberEntry "token_ttl_secs" s.tokenLifetime.toNat]⟩) =
        .ok { t with tokenLifetime := s.tokenLifetime } :=
    Layout.read_cons (numberEntry "token_ttl_secs" s.tokenLifetime.toNat)
      (set_tokenLifetime s.tokenLifetime t) []
  obtain ⟨text, name, lifetime⟩ := s
  cases text with
  | none =>
    cases name with
    | none => exact hlifetime _
    | some name =>
      have hname : layout.set "connection_string_env" (.string name) {} =
          .ok { connectionStringEnv := some name } := rfl
      exact (Layout.read_cons (textEntry _ name) hname _).trans (hlifetime _)
  | some text =>
    have htext : layout.set "connection_string" (.string text) {} =
        .ok { connectionString := some text } := rfl
    cases name with
    | none => exact (Layout.read_cons (textEntry _ text) htext _).trans (hlifetime _)
    | some name =>
      have hname : layout.set "connection_string_env" (.string name) { connectionString := some text } =
          .ok { connectionString := some text, connectionStringEnv := some name } := rfl
      exact (Layout.read_cons (textEntry _ text) htext _).trans ((Layout.read_cons (textEntry _ name) hname _).trans (hlifetime _))

theorem MqttSection.read_block (s : MqttSection) : layout.read {} s.block.value = .ok s := by
  have huseTls (t : MqttSection) : layout.set "use_tls" (.boolean s.useTls) t =
      .ok { t with useTls := s.useTls } := rfl
  have hversion (t : MqttSection) : layout.set "api_version" (.string s.apiVersion) t =
      .ok { t with apiVersion := s.apiVersion } := rfl
  rw [block, Layout.read_cons (numberEntry "port" _) (set_port s.port _),
    Layout.read_cons (numberEntry "keep_alive_secs" _) (set_keepAlive s.keepAlive _),
    Layout.read_cons (flagEntry "use_tls" _) (huseTls _),
    Layout.read_cons (numberEntry "channel_capacity" _) (set_channelCapacity s.channelCapacity _),
    Layout.read_cons (textEntry "api_version" _) (hversion _)]
  rfl

theorem TransportSection.read_block (s : TransportSection) : layout.read {} s.block.value = .ok s :=
  rfl

/-- A block whose keys are a sublist of those of a layout is written correctly, if its values are. -/
theorem isWritten_of_layout {α : Type} (layout : Layout α) {b : Block} (hname : IsBare b.name)
    (hbare : layout.keys.all (IsBare ·) = true) (hdistinct : layout.keys.Nodup)
    (hkeys : (b.entries.map Entry.key).Sublist layout.keys)
    (htexts : ∀ e ∈ b.entries, WrittenAs e.text e.value) : b.IsWritten where
  name := hname
  entries := {
    keys e he := by
      have hkey := List.all_eq_true.1 hbare e.key (hkeys.subset (List.mem_map_of_mem he))
      exact of_decide_eq_true hkey
    texts := htexts
    distinct := hdistinct.sublist hkeys }

theorem writtenAs_numberEntry {n : Nat} (h : isInteger n = true) (key : String) :
    WrittenAs (numberEntry key n).text (numberEntry key n).value :=
  writtenAs_decimal h

theorem writtenAs_textEntry (key text : String) :
    WrittenAs (textEntry key text).text (textEntry key text).value :=
  writtenAs_writeString text

theorem writtenAs_flagEntry (key : String) (b : Bool) :
    WrittenAs (flagEntry key b).text (flagEntry key b).value :=
  writtenAs_writeBool b

/-- An optional entry adds at most its key. -/
theorem keys_optional (key : String) (text : Option String) :
    ((text.map (textEntry key)).toList.map Entry.key).Sublist [key] := by
  cases text with
  | none => exact List.nil_sublist _
  | some text => exact List.Sublist.refl _

theorem DeviceSection.isWritten_block {s : DeviceSection}
    (h : isInteger s.tokenLifetime.toNat = true) : s.block.IsWritten := by
  have hname : IsBare "device" := by decide
  apply isWritten_of_layout layout hname (by decide) (by decide)
  · unfold block
    rw [List.map_append, List.map_append]
    have hsources := (keys_optional "connection_string" s.connectionString).append
      (keys_optional "connection_string_env" s.connectionStringEnv)
    exact hsources.append (List.Sublist.refl ["token_ttl_secs"])
  · intro e he
    simp only [block, List.mem_append, Option.mem_toList, Option.map_eq_some_iff,
      List.mem_singleton] at he
    obtain (⟨text, -, rfl⟩ | ⟨name, -, rfl⟩) | rfl := he
    · exact writtenAs_textEntry _ text
    · exact writtenAs_textEntry _ name
    · exact writtenAs_numberEntry h _

theorem MqttSection.isWritten_block {s : MqttSection} (hkeepAlive : isInteger s.keepAlive.toNat = true)
    (hcapacity : isInteger s.channelCapacity.toNat = true) : s.block.IsWritten := by
  have hport : isInteger s.port.toNat = true := by
    have hsmall := s.port.toNat_lt
    rw [isInteger_natCast]
    omega
  have hname : IsBare "mqtt" := by decide
  apply isWritten_of_layout layout hname (by decide) (by decide)
  · exact List.Sublist.refl _
  · intro e he
    simp only [block, List.mem_cons, List.not_mem_nil, or_false] at he
    obtain rfl | rfl | rfl | rfl | rfl := he
    · exact writtenAs_numberEntry hport _
    · exact writtenAs_numberEntry hkeepAlive _
    · exact writtenAs_flagEntry _ s.useTls
    · exact writtenAs_numberEntry hcapacity _
    · exact writtenAs_textEntry _ s.apiVersion

theorem TransportSection.isWritten_block (s : TransportSection) : s.block.IsWritten := by
  have hname : IsBare "transport" := by decide
  apply isWritten_of_layout layout hname (by decide) (by decide)
  · exact List.Sublist.refl _
  · intro e he
    obtain rfl := List.mem_singleton.1 he
    exact writtenAs_flagEntry _ s.connectOnSend

variable {c : Config} {text : String}

/-- The blocks of a configuration. -/
def blocks (c : Config) : List Block :=
  [c.device.block, c.mqtt.block, c.transport.block]

theorem isWritten_blocks (h : c.isWritable = true) : ∀ b ∈ c.blocks, b.IsWritten := by
  simp only [isWritable, List.all_cons, List.all_nil, Bool.and_eq_true, and_true] at h
  obtain ⟨hlifetime, hkeepAlive, hcapacity⟩ := h
  simp only [blocks, List.forall_mem_cons]
  exact ⟨DeviceSection.isWritten_block hlifetime, MqttSection.isWritten_block hkeepAlive hcapacity,
    TransportSection.isWritten_block c.transport, List.forall_mem_nil _⟩

/-- A document with the three sections gives the configuration with these sections. -/
theorem ofEntries_sections {device mqtt transport : Value}
    (hdevice : DeviceSection.layout.read {} device = .ok c.device)
    (hmqtt : MqttSection.layout.read {} mqtt = .ok c.mqtt)
    (htransport : TransportSection.layout.read {} transport = .ok c.transport) :
    ofEntries [("device", device), ("mqtt", mqtt), ("transport", transport)] = .ok c := by
  have hset (s : Sections) : s.set "device" device = .ok { s with device := some c.device } ∧
      s.set "mqtt" mqtt = .ok { s with mqtt := c.mqtt } ∧
      s.set "transport" transport = .ok { s with transport := c.transport } := by
    refine ⟨?_, ?_, ?_⟩
    · show (DeviceSection.layout.read {} device).bind _ = _
      rw [hdevice]
      rfl
    · show (MqttSection.layout.read {} mqtt).bind _ = _
      rw [hmqtt]
      rfl
    · show (TransportSection.layout.read {} transport).bind _ = _
      rw [htransport]
      rfl
  simp only [ofEntries, List.foldlM_cons, List.foldlM_nil, hset]
  rfl

/-- Decoding the text of a configuration gives the configuration. -/
theorem decode_of_toToml (h : c.toToml = .ok text) : decode text = .ok c := by
  unfold toToml at h
  split at h
  case isFalse => cases h
  case isTrue hwritable =>
    have hnames : ["device", "mqtt", "transport"].Nodup := by decide
    have hread := Block.read?_document (isWritten_blocks hwritable) hnames
    have hdocument : join '\n' (c.blocks.map Block.write) =
        c.device.write ++ '\n' :: c.mqtt.write ++ '\n' :: c.transport.write := by
      simp only [blocks, List.map_cons, List.map_nil, join, DeviceSection.write_block,
        MqttSection.write_block, TransportSection.write_block, List.cons_append, List.append_assoc]
    have hentries : ofEntries (c.blocks.map fun b => (b.name, b.value)) = .ok c :=
      ofEntries_sections (DeviceSection.read_block c.device) (MqttSection.read_block c.mqtt)
        (TransportSection.read_block c.transport)
    rw [hdocument, Except.ok.inj h] at hread
    rw [decode, hread]
    simp only [hentries]

theorem toToml_eq_ok_iff : (∃ text, c.toToml = .ok text) ↔ c.isWritable = true := by
  unfold toToml
  by_cases h : c.isWritable = true <;> simp [h]

theorem isWritable_eq_false_iff : c.isWritable = false ↔
    ∃ n ∈ [c.device.tokenLifetime, c.mqtt.keepAlive, c.mqtt.channelCapacity],
      0x7FFFFFFFFFFFFFFF < n.toNat := by
  rw [isWritable, List.all_eq_false]
  refine exists_congr fun n => and_congr_right fun _ => ?_
  rw [isInteger_natCast, Nat.not_le]

theorem redacted_redacted (c : Config) : c.redacted.redacted = c.redacted := by
  obtain ⟨⟨text, name, lifetime⟩, mqtt, transport⟩ := c
  cases text with
  | none => rfl
  | some text => simp [redacted, Redaction.redactKey_redactKey]

/-- Redaction does not change the validity of a configuration. -/
theorem validate_redacted (c : Config) : c.redacted.validate = c.validate := by
  obtain ⟨⟨text, name, lifetime⟩, mqtt, transport⟩ := c
  cases text <;> cases name <;> rfl

theorem ofToml_of_decode (h : decode text = .ok c) :
    (∃ c', ofToml text = .ok c') ↔ c.validate = .ok () := by
  constructor
  · rintro ⟨c', hread⟩
    obtain ⟨c'', hdecode, hread⟩ := bind_eq_ok.1 hread
    obtain ⟨⟨⟩, hvalid, -⟩ := bind_eq_ok.1 hread
    obtain rfl : c = c'' := Except.ok.inj (h.symm.trans hdecode)
    exact hvalid
  · intro hvalid
    exact ⟨c, bind_eq_ok.2 ⟨c, h, bind_eq_ok.2 ⟨(), hvalid, rfl⟩⟩⟩

/-- Rendering fails exactly if one of the three limits exceeds the largest signed 64-bit integer.
Otherwise decoding the rendered text gives the configuration with its key redacted; the rendered text
is read and validated exactly if the configuration is valid; and rendering that configuration again
gives the same text. -/
theorem shown_reads_back (c : Config) :
    ((∃ e, c.toRedactedToml = .error e) ↔
      ∃ n ∈ [c.device.tokenLifetime, c.mqtt.keepAlive, c.mqtt.channelCapacity],
        0x7FFFFFFFFFFFFFFF < n.toNat) ∧
    ∀ text, c.toRedactedToml = .ok text →
      decode text = .ok { c with
        device.connectionString := c.device.connectionString.map redactKey } ∧
      ((∃ c', ofToml text = .ok c') ↔ c.validate = .ok ()) ∧
      ∀ c', decode text = .ok c' → c'.toRedactedToml = .ok text := by
  refine ⟨?_, ?_⟩
  · rw [← isWritable_eq_false_iff]
    show (∃ e, c.redacted.toToml = .error e) ↔ c.redacted.isWritable = false
    unfold toToml
    by_cases h : c.redacted.isWritable = true <;> simp [h]
  · intro text htext
    have hdecode : decode text = .ok c.redacted := decode_of_toToml htext
    refine ⟨hdecode, ?_, ?_⟩
    · rw [ofToml_of_decode hdecode, validate_redacted]
    · intro c' hc'
      obtain rfl : c.redacted = c' := Except.ok.inj (hdecode.symm.trans hc')
      rw [toRedactedToml, redacted_redacted]
      exact htext

/-- Quotes, a backslash, line breaks and control characters in every string, the largest integer, and
two sources, so that the text is decoded but not valid. -/
theorem shown_reads_back_escaped :
    let c : Config :=
      { device :=
          { connectionString := some "HostName=\"h'\\;DeviceId=\x07d\r\n;SharedAccessKey=a2V5"
            connectionStringEnv := some "'''\"\"\"\n"
            tokenLifetime := 0x7FFFFFFFFFFFFFFF }
        mqtt := { keepAlive := 0, apiVersion := "\t'\x7f" } }
    ∃ text, c.toRedactedToml = .ok text ∧
      decode text = .ok { c with
        device.connectionString :=
          some "HostName=\"h'\\;DeviceId=\x07d\r\n;SharedAccessKey=[REDACTED]" } ∧
      ¬ ∃ c', ofToml text = .ok c' := by
  intro c
  obtain ⟨text, htext⟩ : ∃ text, c.toRedactedToml = .ok text := toToml_eq_ok_iff.2 (by decide)
  obtain ⟨hdecode, husable, -⟩ := (shown_reads_back c).2 text htext
  refine ⟨text, htext, ?_, ?_⟩
  · exact hdecode
  · rw [husable]
    intro hvalid
    cases hvalid

end HubLink.Config
