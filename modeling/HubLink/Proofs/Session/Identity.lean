import HubLink.Proofs.Credential.Reading
import HubLink.Session.Draft
import HubLink.Session.Provider

namespace HubLink.Session

open Credential Transport

/-- A connection string that can be parsed gives a signer with its fields and the configured
lifetime. -/
theorem signer_of_parse {config : Config} {env : Config.Environment} {text : String}
    {c : ConnectionString} (htext : config.connectionString env = .ok text)
    (hparse : ConnectionString.parse text = .ok c) :
    config.signer env = .ok { connectionString := c, lifetime := config.device.tokenLifetime } := by
  have hsigner : Signer.ofConnectionString text = .ok { connectionString := c } := by
    unfold Signer.ofConnectionString
    rw [hparse]
    rfl
  unfold Config.signer
  rw [htext]
  simp only [bind, Except.bind, hsigner]
  rfl

/-- A device of a parsed connection string has a login for every token. -/
theorem login?_of_parse {text : String} {c : ConnectionString}
    (hparse : ConnectionString.parse text = .ok c) {o : Options} (ho : o.deviceId = c.deviceId)
    (token : String) :
    ∃ login, o.login? token = some login ∧ login.clientId = o.deviceId ∧ login.host = o.hostName ∧
      login.userName = o.userName ∧ login.password = token := by
  have hname : o.deviceId ≠ "" := by
    rw [ho]
    exact c.deviceId_ne_empty hparse
  exact ⟨_, if_neg hname, rfl, rfl, rfl, rfl⟩

/-- User names with the same device and version are equal exactly if their hosts are. -/
theorem userName_inj {host host' deviceId apiVersion : String} :
    userName host deviceId apiVersion = userName host' deviceId apiVersion ↔ host = host' := by
  constructor
  · intro h
    have hlist := congrArg String.toList h
    simp only [userName, String.toList_append, List.append_assoc] at hlist
    exact String.toList_injective (List.append_cancel_right hlist)
  · rintro rfl
    rfl

/-- For every configuration with a connection string that can be parsed: tokens are signed for the
device at the hub, and logins name the device at the host that is dialled. The two hosts are equal
exactly if there is no gateway or the gateway is the hub. A gateway changes nothing else but the
dialled host and the user name. -/
theorem identities_agree_iff (config : Config) (env : Config.Environment) (text : String)
    (c : ConnectionString) (htext : config.connectionString env = .ok text)
    (hparse : ConnectionString.parse text = .ok c) :
    ∃ signer, config.signer env = .ok signer ∧
      (∀ expiry token, signer.sign expiry = .ok token →
        token.resource = Token.deviceResource c.hostName c.deviceId) ∧
      (∀ password, ∃ login, (Options.ofConfig config signer).login? password = some login ∧
        login.host = c.connectHost ∧ login.clientId = c.deviceId ∧
        login.userName = userName c.connectHost c.deviceId config.mqtt.apiVersion ∧
        (login.userName = userName c.hostName c.deviceId config.mqtt.apiVersion ↔
          c.gatewayHostName = none ∨ c.gatewayHostName = some c.hostName)) ∧
      let direct : Signer := { signer with connectionString := { c with gatewayHostName := none } }
      Options.ofConfig config signer =
        { Options.ofConfig config direct with hostName := c.connectHost } ∧
      ∀ expiry, signer.sign expiry = direct.sign expiry := by
  refine ⟨_, signer_of_parse htext hparse, fun expiry token hsign => ?_, fun password => ?_, rfl,
    fun expiry => rfl⟩
  · unfold Signer.sign Token.sign at hsign
    split at hsign
    · cases hsign
    · cases hsign
      rfl
  · obtain ⟨login, hlogin, hclientId, hhost, huserName, -⟩ :=
      login?_of_parse hparse (o := .ofConfig config { connectionString := c }) rfl password
    refine ⟨login, hlogin, hhost, hclientId, huserName, ?_⟩
    have hnames : login.userName = userName c.connectHost c.deviceId config.mqtt.apiVersion := huserName
    rw [hnames, userName_inj, ConnectionString.connectHost]
    cases c.gatewayHostName with
    | none => simp
    | some gateway => simp

theorem identities_agree_iff_direct :
    let config := Config.ofConnectionString "HostName=h;DeviceId=d;SharedAccessKey=a2V5"
    ∃ signer login, config.signer [] = .ok signer ∧
      (Options.ofConfig config signer).login? "t" = some login ∧
      login.userName = userName "h" "d" "2018-06-30" := by
  intro config
  obtain ⟨signer, hsigner, -, hlogins, -⟩ := identities_agree_iff config []
    "HostName=h;DeviceId=d;SharedAccessKey=a2V5" ⟨"h", "d", "a2V5", none, none⟩ rfl rfl
  obtain ⟨login, hlogin, -, -, -, hagree⟩ := hlogins "t"
  exact ⟨signer, login, hsigner, hlogin, hagree.2 (.inl rfl)⟩

/-- With a gateway, the login names another host than the one for which tokens are signed. -/
theorem gateway_announced_as_hub :
    let config :=
      Config.ofConnectionString "HostName=h;DeviceId=d;SharedAccessKey=a2V5;GatewayHostName=g"
    ∃ signer token, config.signer [] = .ok signer ∧ signer.sign 0 = .ok token ∧
      token.resource = Token.deviceResource "h" "d" ∧
      (Options.ofConfig config signer).userName = "g/d/?api-version=2018-06-30" ∧
      (Options.ofConfig config signer).userName ≠ userName "h" "d" "2018-06-30" :=
  ⟨_, _, rfl, rfl, rfl, by decide, by decide⟩

/-- A client that refuses only keep-alives of a fraction of a second accepts every setting of a device
with a parsed connection string, for every token and whether or not the configuration is valid
otherwise. The device id is not empty, so a session is started. -/
theorem configured_client_accepted (refuses : Duration → Bool)
    (hrefuses : ∀ d, refuses d = true → d.IsFraction) (config : Config) (env : Config.Environment)
    (text : String) (c : ConnectionString) (htext : config.connectionString env = .ok text)
    (hparse : ConnectionString.parse text = .ok c) (token : String) :
    ∃ signer login, config.signer env = .ok signer ∧
      (Options.ofConfig config signer).login? token = some login ∧
      (Options.ofConfig config signer).draft refuses token = .ok login.draft ∧
      ∀ p : Provider, p.options = Options.ofConfig config signer →
        ∃ asides, p.connect? token = some ({ p with session := some (.start login) }, asides) := by
  let signer : Signer := { connectionString := c, lifetime := config.device.tokenLifetime }
  let o := Options.ofConfig config signer
  obtain ⟨login, hlogin, -⟩ := login?_of_parse hparse (o := o) rfl token
  have hkeepAlive : refuses (.ofSeconds o.keepAlive) = false := by
    cases hrefused : refuses (.ofSeconds o.keepAlive) with
    | false => rfl
    | true => exact absurd (hrefuses _ hrefused) (Duration.not_isFraction_ofSeconds _)
  have hdraft := o.draft_eq refuses token hkeepAlive
  rw [hlogin] at hdraft
  refine ⟨signer, login, signer_of_parse htext hparse, hlogin, hdraft, fun p hp => ?_⟩
  have hlogin' : p.options.login? token = some login := by
    rw [hp]
    exact hlogin
  exact ⟨_, by rw [Provider.connect?, hlogin']; rfl⟩

theorem configured_client_accepted_whole :
    let config := Config.ofConnectionString "HostName=h;DeviceId=d;SharedAccessKey=a2V5"
    let refuses (d : Duration) := 0 < d.nanoseconds && d.nanoseconds < 1000000000
    config.validate = .ok () ∧ ∃ (signer : Signer) (login : Login), config.signer [] = .ok signer ∧
      (Options.ofConfig config signer).draft refuses "t" = .ok login.draft := by
  intro config refuses
  have hrefuses (d : Duration) (h : refuses d = true) : d.IsFraction := by
    simpa [refuses, Duration.IsFraction] using h
  obtain ⟨signer, login, hsigner, -, hdraft, -⟩ := configured_client_accepted refuses hrefuses config []
    "HostName=h;DeviceId=d;SharedAccessKey=a2V5" ⟨"h", "d", "a2V5", none, none⟩ rfl rfl "t"
  exact ⟨rfl, signer, login, hsigner, hdraft⟩

end HubLink.Session
