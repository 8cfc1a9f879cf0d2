import Metastore.Proofs.Client.Building
import Metastore.Proofs.Config.Settings

/-!
# What is verified of a cluster

A cluster that is reached over https is verified, and is asked with the user name and the password that
the environment gives or with none, unless the configuration declares it insecure and it is a
self-managed one (`Client.guarded_of_createFromConfig`).
-/

namespace Metastore

/-- Whether a configuration declares its cluster insecure: by the truth value, or by the word for it in
some letter case. -/
def Config.DeclaresInsecure (config : Config) : Prop :=
  config.lookup [sectionName, "insecure"] = .bool true ∨
    ∃ s, config.lookup [sectionName, "insecure"] = .text s ∧ Text.lower s = "true"

/-- Whether the other side of an encrypted connection is not verified in full. -/
def ClientOptions.IsUnverified (options : ClientOptions) : Prop :=
  options.isEncrypted = true ∧ match options.tls with
    | some context => context.verifiesChain = false ∨ context.checksHost = false
    | none => options.verifies = false

/-- Whether requests show a user name or a password that the environment does not give. -/
def Authentication.IsBuiltIn (env : Environment) : Authentication → Prop
  | basic user password => ¬ env.GivesLogin user password
  | _ => False

/-- The transport through which a client reaches a search cluster, if it reaches one. -/
def Client.transport? (client : Client) : Option Transport :=
  match client.delegate with
  | .callerStore .. => none
  | .cluster backend => some backend.transport
  | .table _ search _ => some search.transport

/-- What is promised of the transport of a client of some kind. -/
structure Transport.Guarded (env : Environment) (config : Config) (kind : DelegateKind)
    (transport : Transport) : Prop where
  /-- Only a self-managed cluster is left unverified or asked with a built-in name, and only if it is
  declared insecure. -/
  declared_of_weak : transport.options.IsUnverified ∨ transport.authentication.IsBuiltIn env →
    config.DeclaresInsecure ∧ kind = .remoteCluster
  /-- A self-managed cluster is reached where the section says. -/
  parsed : kind = .remoteCluster →
    Endpoint.parse (((Config.given? (config.lookup [Config.sectionName, "endpoint"])).getD .null).display) =
      .ok transport.address
  /-- Nothing is encrypted over http. -/
  http : kind = .remoteCluster → transport.address.scheme = .http → transport.options.tls = none
  /-- Over https, chain and host are verified. -/
  https : kind = .remoteCluster → transport.address.scheme = .https → ¬ config.DeclaresInsecure →
    ∃ context, transport.options.tls = some context ∧ context.verifiesChain = true ∧
      context.checksHost = true
  /-- A self-managed cluster is asked with what the environment gives, or with nothing. -/
  login : kind = .remoteCluster → ¬ config.DeclaresInsecure →
    (∃ user password, env.GivesLogin user password ∧
      transport.authentication = .basic user password) ∨
    (∀ user password, ¬ env.GivesLogin user password) ∧ transport.authentication = .anonymous
  /-- A managed cluster is always verified. -/
  signed : kind ≠ .remoteCluster → transport.isSigned = true ∧ transport.options.isEncrypted = true ∧
    transport.options.verifies = true ∧ transport.options.tls = none

namespace Transport

variable {env : Environment} {config : Config} {credentials : Credentials.Deferred}
  {endpoint region serviceName : Value} {insecure : Bool} {transport : Transport}

lemma Reaches.insecure_of_unverified (h : transport.Reaches env endpoint insecure)
    (hunverified : transport.options.IsUnverified) : insecure = true := by
  obtain ⟨hencrypted, hweak⟩ := hunverified
  have hverified := h.verified
  simp only [options, isEncrypted, h.isSigned_eq, Bool.or_false] at hencrypted hweak
  cases htls : transport.tls with
  | none => rw [htls] at hencrypted; cases hencrypted
  | some context =>
    rw [htls] at hweak hverified
    obtain ⟨-, hchain, hhost⟩ := hverified
    simpa [hchain, hhost] using hweak

lemma Reaches.login (h : transport.Reaches env endpoint false) :
    (∃ user password, env.GivesLogin user password ∧
      transport.authentication = .basic user password) ∨
    (∀ user password, ¬ env.GivesLogin user password) ∧ transport.authentication = .anonymous := by
  by_cases hlogin : ∃ user password, env.GivesLogin user password
  · obtain ⟨user, password, hlogin⟩ := hlogin
    refine .inl ⟨user, password, hlogin, ?_⟩
    rw [h.authentication_eq, Authentication.ofEnvironment_of_login hlogin]
  · have hnone : ∀ user password, ¬ env.GivesLogin user password := by simpa using hlogin
    refine .inr ⟨hnone, ?_⟩
    rw [h.authentication_eq, Authentication.ofEnvironment_of_none hnone]
    rfl

lemma Reaches.insecure_of_builtIn (h : transport.Reaches env endpoint insecure)
    (hbuiltIn : transport.authentication.IsBuiltIn env) : insecure = true := by
  cases insecure with
  | true => rfl
  | false =>
    rcases h.login with ⟨user, password, hlogin, heq⟩ | ⟨-, heq⟩
    · rw [heq] at hbuiltIn
      exact absurd hlogin hbuiltIn
    · rw [heq] at hbuiltIn
      exact absurd hbuiltIn id

lemma Reaches.guarded (h : transport.Reaches env endpoint insecure)
    (hendpoint : endpoint = (Config.given? (config.lookup [Config.sectionName, "endpoint"])).getD .null)
    (hinsecure : insecure = true ↔ config.DeclaresInsecure) :
    transport.Guarded env config .remoteCluster where
  declared_of_weak hweak :=
    ⟨hinsecure.mp (hweak.elim h.insecure_of_unverified h.insecure_of_builtIn), rfl⟩
  parsed _ := hendpoint ▸ h.parsed
  http _ hscheme := by
    have hverified := h.verified
    rw [hscheme] at hverified
    cases htls : transport.tls with
    | none => exact htls
    | some context =>
      rw [htls] at hverified
      cases hverified.1
  https _ hscheme hsecure := by
    have hverified := h.verified
    obtain rfl : insecure = false := by simpa using hsecure ∘ hinsecure.mp
    rw [hscheme] at hverified
    cases htls : transport.tls with
    | none =>
      rw [htls] at hverified
      cases hverified
    | some context =>
      rw [htls] at hverified
      exact ⟨context, htls, hverified.2⟩
  login _ hsecure := by
    obtain rfl : insecure = false := by simpa using hsecure ∘ hinsecure.mp
    exact h.login
  signed hkind := absurd rfl hkind

lemma Signs.guarded (h : transport.Signs credentials region serviceName) {kind : DelegateKind}
    (hkind : kind ≠ .remoteCluster) : transport.Guarded env config kind where
  declared_of_weak := by
    rintro (⟨-, hweak⟩ | hbuiltIn)
    · simp only [options, h.tls_eq, h.isSigned_eq] at hweak
      cases hweak
    · rw [h.authentication_eq] at hbuiltIn
      exact absurd hbuiltIn id
  parsed hremote := absurd hremote hkind
  http hremote := absurd hremote hkind
  https hremote := absurd hremote hkind
  login hremote := absurd hremote hkind
  signed _ := by simp [options, isEncrypted, h.isSigned_eq, h.tls_eq]

end Transport

namespace Client

variable {around : Surroundings} {config : Config} {begin after : Privileged Services}
  {client : Client} {transport : Transport}

/-- What the settings of a configuration say of its cluster, they say by the values of the section. -/
lemma getText_of_settings {settings : Mapping} (h : config.settings = .ok settings)
    {key name : String} (hkey : (key, name) ∈ Config.settingKeys) :
    settings.getText name =
      (Config.given? (config.lookup [Config.sectionName, key])).getD .null := by
  obtain ⟨entries, rfl, hlookup⟩ := Config.settings_eq_ok h
  rw [Mapping.getText, Mapping.get, ← Mapping.getText?, Config.getText?_settingsOf hkey, hlookup]

lemma guarded_of_making {opening : Setup Credentials.ChainRef} {kind : Value} {settings : Mapping}
    {read : BackendSettings} (hsettings : config.settings = .ok settings)
    (hread : BackendSettings.ofMapping settings = .ok read)
    (h : Delegate.Making opening around kind read begin (.ok client.delegate, after))
    (htransport : client.transport? = some transport) :
    after.state.cluster = some { transport } ∧ transport.Guarded around.env config client.kind := by
  obtain ⟨backend, -, heq⟩ := except_bind_eq_ok.mp hread
  obtain rfl := Except.ok.inj heq
  have hkind : client.kind = kindFor backend := kind_of_making h
  obtain ⟨delegate, multiTenancy⟩ := client
  rw [hkind]
  cases h with
  | onCallerStore hbackend => cases htransport
  | remote found notices hbackend hnotices hreaches hbuilt =>
    obtain rfl := Option.some.inj htransport
    obtain rfl : backend = .remote := hbackend
    refine ⟨rfl, ?_⟩
    apply hreaches.guarded (getText_of_settings hsettings (by decide))
    have hinsecure : ("insecure", Setting.insecure) ∈ Config.settingKeys := by decide
    dsimp only
    rw [getText_of_settings hsettings hinsecure]
    exact Config.isOn_given? _
  | cloud chain found between hbackend hsearching =>
    obtain rfl := Option.some.inj htransport
    obtain rfl : backend = .cloud := hbackend
    exact ⟨rfl, hsearching.signs.guarded DelegateKind.noConfusion⟩
  | keyValue chain found between hbackend hsearching =>
    obtain rfl := Option.some.inj htransport
    obtain rfl : backend = .keyValue := hbackend
    exact ⟨rfl, hsearching.signs.guarded DelegateKind.noConfusion⟩

/-- Take any configuration and any environment, and a client that is created from them. The search
cluster is reached through the transport of the client, and that is guarded: it is left unverified, or
asked with a built-in name, only if the configuration declares it insecure, and then only if it is a
self-managed one. -/
theorem guarded_of_createFromConfig
    (h : createFromConfig around config begin = (.ok client, after))
    (htransport : client.transport? = some transport) :
    after.state.cluster = some { transport } ∧
      transport.Guarded around.env config client.kind := by
  obtain ⟨settings, between, hlift, hcreate⟩ := Action.bind_eq_ok h
  obtain ⟨hsettings, rfl⟩ := Prod.mk.inj hlift
  obtain ⟨read, hread, hmaking, -⟩ := making_of_createOpening hcreate
  exact guarded_of_making hsettings hread hmaking htransport

/-- The number one counts as yes but declares nothing, and a user name without a password is no login:
the cluster is verified, and asked without user name and password. -/
theorem guarded_of_createFromConfig_one :
    let around : Surroundings := { env := [("REMOTE_METADATA_USER", "u")] }
    let config : Config := ⟨[(.text "metadata", .map [(.text "type", .text "remote"),
      (.text "endpoint", .text "https://h"), (.text "insecure", .int 1)])]⟩
    let outcome := createFromConfig around config ⟨false, {}⟩
    ∃ client transport, outcome.1 = .ok client ∧ client.transport? = some transport ∧
      outcome.2.state.cluster = some { transport } ∧ ¬ config.DeclaresInsecure ∧
      transport.authentication = .anonymous ∧ ∃ context, transport.options.tls = some context ∧
        context.verifiesChain = true ∧ context.checksHost = true := by
  intro around config outcome
  let transport : Transport :=
    ⟨.text "https://h", ⟨.https, "h", 443⟩, .anonymous, some ⟨true, true, none⟩, 20, true⟩
  let client : Client := ⟨.cluster ⟨transport, .null⟩, false⟩
  have hclient : (createFromConfig around config ⟨false, {}⟩).1 = .ok client := by decide +kernel
  have hcreate : createFromConfig around config ⟨false, {}⟩ =
      (.ok client, (createFromConfig around config ⟨false, {}⟩).2) := by
    generalize createFromConfig around config ⟨false, {}⟩ = found at hclient ⊢
    exact Prod.ext hclient rfl
  have hinsecure : config.lookup [Config.sectionName, "insecure"] = .int 1 := by decide +kernel
  have hsecure : ¬ config.DeclaresInsecure := by simp [Config.DeclaresInsecure, hinsecure]
  obtain ⟨hcluster, hguarded⟩ := guarded_of_createFromConfig hcreate rfl
  exact ⟨client, transport, hclient, rfl, hcluster, hsecure, rfl,
    hguarded.https rfl rfl hsecure⟩

end Client
end Metastore
