import HubLink.Proofs.Credential.Writing
import HubLink.Proofs.Session.Identity

namespace HubLink.Session

open Credential Text

/-- No setting changes the host. -/
theorem Draft.host_of_set {refuses : Duration → Bool} {d d' : Draft} {s : Setting}
    (h : d.set refuses s = .ok d') : d'.host = d.host := by
  cases s with
  | keepAlive | cleanSession =>
    simp only [Draft.set] at h
    split at h
    · cases h
    · cases h
      rfl
  | credentials | maxPacketSize | tls =>
    cases h
    rfl

theorem Draft.host_of_setAll {refuses : Duration → Bool} {settings : List Setting} {d d' : Draft}
    (h : settings.foldlM (Draft.set refuses) d = .ok d') : d'.host = d.host := by
  induction settings generalizing d with
  | nil =>
    cases h
    rfl
  | cons s rest ih =>
    obtain ⟨middle, hset, hrest⟩ := bind_eq_ok.1 ((List.foldlM_cons ..).symm.trans h)
    rw [ih hrest, Draft.host_of_set hset]

theorem Options.host_of_draft {refuses : Duration → Bool} {o : Options} {token : String} {d : Draft}
    (h : o.draft refuses token = .ok d) : d.host = o.hostName :=
  Draft.host_of_setAll h

/-- The host to connect to is empty exactly if a segment gives an empty gateway. -/
theorem connectHost_eq_empty_iff {text : String} {c : ConnectionString}
    (h : ConnectionString.parse text = .ok c) : c.connectHost = "" ↔
      ∃ raw ∈ segments ';' (trim text.toList), Gives raw .gatewayHostName "" := by
  have hhost : c.hostName ≠ "" := (ConnectionString.wellFormed_of_parse h).hostName
  obtain ⟨-, -, -, -, hgateway⟩ := c.value?_fields
  rw [← ConnectionString.value?_fields_iff_gives h, hgateway, ConnectionString.connectHost]
  cases c.gatewayHostName with
  | none => simp [hhost]
  | some gateway => simp

/-- For every configuration with a connection string that can be parsed, the host of the options and
of the client is that of the connection string, and it is empty exactly if one of its segments gives
an empty gateway. -/
theorem host_empty_iff (config : Config) (env : Config.Environment) (text : String)
    (c : ConnectionString) (htext : config.connectionString env = .ok text)
    (hparse : ConnectionString.parse text = .ok c) :
    ∃ signer, config.signer env = .ok signer ∧
      (Options.ofConfig config signer).hostName = c.connectHost ∧
      (∀ token, ∃ login, (Options.ofConfig config signer).login? token = some login ∧
        login.host = c.connectHost) ∧
      (∀ refuses token draft, (Options.ofConfig config signer).draft refuses token = .ok draft →
        draft.host = c.connectHost) ∧
      (c.connectHost = "" ↔
        ∃ raw ∈ segments ';' (trim text.toList), Gives raw .gatewayHostName "") := by
  refine ⟨_, signer_of_parse htext hparse, rfl, fun token => ?_, fun refuses token draft hdraft =>
    Options.host_of_draft hdraft, connectHost_eq_empty_iff hparse⟩
  obtain ⟨login, hlogin, -, hhost, -⟩ :=
    login?_of_parse hparse (o := .ofConfig config { connectionString := c }) rfl token
  exact ⟨login, hlogin, hhost⟩

theorem host_empty_iff_gateway :
    let config := Config.ofConnectionString "HostName=h;DeviceId=d;SharedAccessKey=a2V5; GatewayHostName = g"
    ∃ signer, config.signer [] = .ok signer ∧ (Options.ofConfig config signer).hostName ≠ "" := by
  intro config
  obtain ⟨signer, hsigner, hhost, -, -, hempty⟩ := host_empty_iff config []
    "HostName=h;DeviceId=d;SharedAccessKey=a2V5; GatewayHostName = g" ⟨"h", "d", "a2V5", none, some "g"⟩
    rfl rfl
  refine ⟨signer, hsigner, ?_⟩
  rw [hhost, ne_eq, hempty]
  simp only [← given?_eq_some_iff]
  decide

/-- A connection string with an empty gateway is accepted, and its empty host is dialled. -/
theorem blank_gateway_dialled :
    let config := Config.ofConnectionString "HostName=h;DeviceId=d;SharedAccessKey=a2V5;GatewayHostName="
    ∃ c signer draft,
      ConnectionString.parse "HostName=h;DeviceId=d;SharedAccessKey=a2V5;GatewayHostName=" = .ok c ∧
        config.validate = .ok () ∧ config.signer [] = .ok signer ∧
        (Options.ofConfig config signer).draft (fun _ => false) "t" = .ok draft ∧
        c.connectHost = "" ∧ (Options.ofConfig config signer).hostName = "" ∧ draft.host = "" :=
  ⟨_, _, _, rfl, rfl, rfl, rfl, rfl, rfl, rfl⟩

end HubLink.Session
