import HubLink.Command.Load
import HubLink.Command.Send
import HubLink.Proofs.Session.Identity
import HubLink.Session.Setup

namespace HubLink

open Credential Transport

namespace Config

variable {config : Config} {env : Environment}

theorem validate_eq_ok_iff : config.validate = .ok () ↔
    (config.device.connectionString.isSome = true ↔ config.device.connectionStringEnv = none) ∧
      config.device.tokenLifetime ≠ 0 ∧ config.mqtt.channelCapacity ≠ 0 := by
  unfold validate
  cases config.device.connectionString <;> cases config.device.connectionStringEnv <;>
    by_cases hlifetime : config.device.tokenLifetime = 0 <;>
    by_cases hcapacity : config.mqtt.channelCapacity = 0 <;> simp [hlifetime, hcapacity]

/-- A configuration read from a file is valid. -/
theorem validate_of_ofFile {content : Except FileFault Bytes} (h : ofFile content = .ok config) :
    config.validate = .ok () := by
  unfold ofFile at h
  split at h
  case h_1 => cases h
  case h_2 =>
    split at h
    case h_1 text htext =>
      obtain ⟨config', -, h⟩ := bind_eq_ok.1 h
      obtain ⟨⟨⟩, hvalid, h⟩ := bind_eq_ok.1 h
      cases h
      exact hvalid
    case h_2 => cases h

/-- Replacing the connection string keeps a configuration valid. -/
theorem validate_override (h : config.validate = .ok ()) (text : String) :
    (config.override text).validate = .ok () := by
  obtain ⟨-, hlifetime, hcapacity⟩ := validate_eq_ok_iff.1 h
  exact validate_eq_ok_iff.2 ⟨by simp [override], hlifetime, hcapacity⟩

/-- A signer exists exactly if the connection string is found and can be parsed, and has its fields
and the configured lifetime. -/
theorem signer_eq_ok_iff {signer : Signer} : config.signer env = .ok signer ↔
    ∃ text c, config.connectionString env = .ok text ∧ ConnectionString.parse text = .ok c ∧
      signer = { connectionString := c, lifetime := config.device.tokenLifetime } := by
  constructor
  · intro hsigner
    obtain ⟨text, htext, h⟩ := bind_eq_ok.1 hsigner
    cases hparse : ConnectionString.parse text with
    | error e => simp [Signer.ofConnectionString, hparse, bind, Except.bind] at h
    | ok c =>
      have hsame := hsigner.symm.trans (Session.signer_of_parse htext hparse)
      exact ⟨text, c, htext, hparse, Except.ok.inj hsame⟩
  · rintro ⟨text, c, htext, hparse, rfl⟩
    exact Session.signer_of_parse htext hparse

/-- The configuration without the source of its connection string. -/
def withoutSource (config : Config) : Config :=
  { config with
    device := { config.device with connectionString := none, connectionStringEnv := none } }

/-- A configuration with its connection string replaced does not depend on the source in the file. -/
theorem override_eq_of_withoutSource_eq {config' : Config}
    (h : config'.withoutSource = config.withoutSource) (text : String) :
    config'.override text = config.override text := by
  show config'.withoutSource.override text = config.withoutSource.override text
  rw [h]

end Config

/-- For a configuration with a signer, the transport is built for the device of this signer. -/
theorem Transport.Handle.ofConfig_eq_ok {κ : Type} {config : Config} {env : Config.Environment}
    {signer : Signer} (h : config.signer env = .ok signer) (now : Int64) (number : Nat) :
    ∃ handle : Handle Session.Device κ, Handle.ofConfig config env now number = .ok handle ∧
      handle.deviceId = signer.deviceId ∧ handle.task.world.signer = signer ∧
      handle.task.world.provider.options = .ofConfig config signer := by
  let device : Session.Device := { provider := { options := .ofConfig config signer }, signer, now }
  refine ⟨.ofMachine (Session.machineOf config signer) device number, ?_, rfl, rfl, rfl⟩
  unfold Handle.ofConfig
  rw [h]
  rfl

namespace Command

variable {s s' : Surroundings} {a a' : Arguments} {config file file' : Config} {path path' : String}

/-- Loading succeeds exactly if the given configuration is valid and has a signer. -/
theorem load_eq_ok_iff : load s a = .ok config ↔
    given s a = .ok config ∧ config.validate = .ok () ∧ ∃ signer, config.signer s.env = .ok signer := by
  rw [load, bind_eq_ok]
  constructor
  · rintro ⟨config', hgiven, hcheck⟩
    unfold check at hcheck
    split at hcheck
    case h_1 => cases hcheck
    case h_2 hvalid =>
      split at hcheck
      case h_1 => cases hcheck
      case h_2 signer hsigner =>
        cases hcheck
        exact ⟨hgiven, hvalid, signer, hsigner⟩
  · rintro ⟨hgiven, hvalid, signer, hsigner⟩
    exact ⟨config, hgiven, by simp [check, hvalid, hsigner]⟩

theorem given_of_file (hpath : configFile? s a = some path)
    (hfile : Config.ofFile (s.fileAt path) = .ok file) {text : String}
    (htext : a.connectionString = some text) : given s a = .ok (file.override text) := by
  simp [given, hpath, htext, hfile]

/-- With a file and a connection string on the command line, the result is the configuration of the
file with that connection string, if it can be parsed, and its parse error otherwise. -/
theorem load_of_file (hpath : configFile? s a = some path)
    (hfile : Config.ofFile (s.fileAt path) = .ok file) {text : String}
    (htext : a.connectionString = some text) :
    load s a = match ConnectionString.parse text with
      | .ok _ => .ok (file.override text)
      | .error e => .error (.config (.credential e)) := by
  have hvalid := Config.validate_override (Config.validate_of_ofFile hfile) text
  have hresolved : (file.override text).connectionString s.env = .ok text := rfl
  rw [load, given_of_file hpath hfile htext]
  simp only [bind, Except.bind, check, hvalid]
  cases hparse : ConnectionString.parse text with
  | ok c => rw [Session.signer_of_parse hresolved hparse]
  | error e => simp [Config.signer, hresolved, Signer.ofConnectionString, hparse, bind, Except.bind]

/-- Every loaded configuration is valid, and its signer and its transport can be built in the same
environment, both for the device of its connection string. With a connection string on the command
line, a readable file is loaded exactly if that connection string can be parsed, and the result
depends neither on the source in the file nor on the environment. -/
theorem load_usable (s : Surroundings) (a : Arguments) :
    (∀ config, load s a = .ok config → config.validate = .ok () ∧
      ∃ text c signer, config.connectionString s.env = .ok text ∧
        ConnectionString.parse text = .ok c ∧ config.signer s.env = .ok signer ∧
        signer.deviceId = c.deviceId ∧
        ∀ (κ : Type) (now : Int64) (number : Nat), ∃ handle : Handle Session.Device κ,
          Handle.ofConfig config s.env now number = .ok handle ∧ handle.deviceId = c.deviceId ∧
          handle.task.world.provider.options.deviceId = c.deviceId) ∧
    ∀ path file text, configFile? s a = some path → Config.ofFile (s.fileAt path) = .ok file →
      a.connectionString = some text →
      ((∃ config, load s a = .ok config) ↔ ∃ c, ConnectionString.parse text = .ok c) ∧
      (∀ config, load s a = .ok config → ∀ env, config.connectionString env = .ok text) ∧
      ∀ s' a' path' file', configFile? s' a' = some path' →
        Config.ofFile (s'.fileAt path') = .ok file' → a'.connectionString = some text →
        file'.withoutSource = file.withoutSource → load s' a' = load s a := by
  refine ⟨fun config hload => ?_, fun path file text hpath hfile htext => ?_⟩
  · obtain ⟨-, hvalid, signer, hsigner⟩ := load_eq_ok_iff.1 hload
    obtain ⟨text, c, hresolved, hparse, rfl⟩ := Config.signer_eq_ok_iff.1 hsigner
    refine ⟨hvalid, text, c, _, hresolved, hparse, hsigner, rfl, fun κ now number => ?_⟩
    obtain ⟨handle, hhandle, hdevice, -, hoptions⟩ := Handle.ofConfig_eq_ok (κ := κ) hsigner now number
    exact ⟨handle, hhandle, hdevice, congrArg Session.Options.deviceId hoptions⟩
  · have hload := load_of_file hpath hfile htext
    refine ⟨?_, fun config hconfig env => ?_, fun s' a' path' file' hpath' hfile' htext' hsame => ?_⟩
    · rw [hload]
      cases ConnectionString.parse text <;> simp
    · rw [hload] at hconfig
      cases hparse : ConnectionString.parse text with
      | error e => simp [hparse] at hconfig
      | ok c =>
        obtain rfl : file.override text = config := by simpa [hparse] using hconfig
        rfl
    · rw [hload, load_of_file hpath' hfile' htext', Config.override_eq_of_withoutSource_eq hsame]

/-- The variable named in the file is not set, and the connection string of the command line is
used. -/
theorem load_usable_replaced :
    let s : Surroundings :=
      { fileAt := fun _ => .ok (Text.utf8 "[device]\nconnection_string_env = \"GONE\"\n"), now := 0 }
    let a : Arguments :=
      { configFile := some "device.toml"
        connectionString := some "HostName=h;DeviceId=d;SharedAccessKey=a2V5"
        action := .config true }
    ∃ config, load s a = .ok config ∧
      config.connectionString s.env = .ok "HostName=h;DeviceId=d;SharedAccessKey=a2V5" := by
  intro s a
  have hread : (Config.ofFile (s.fileAt "device.toml")).toOption.isSome = true := by decide +kernel
  obtain ⟨file, hfile⟩ : ∃ file, Config.ofFile (s.fileAt "device.toml") = .ok file := by
    cases hresult : Config.ofFile (s.fileAt "device.toml") with
    | ok file => exact ⟨file, rfl⟩
    | error e => simp [hresult, Except.toOption] at hread
  obtain ⟨hloads, hresolves, -⟩ := (load_usable s a).2 "device.toml" file _ rfl hfile rfl
  obtain ⟨config, hconfig⟩ := hloads.2 ⟨⟨"h", "d", "a2V5", none, none⟩, rfl⟩
  exact ⟨config, hconfig, hresolves config hconfig s.env⟩

end Command
end HubLink
