import SentinelProxy.Config.Precedence

/-! The TLS setups of a loaded configuration: what the sections say is what the setups do, and
no option is left without effect. -/

namespace SentinelProxy.Config

def given (setting : Option String) : Option String := setting.filter (· ≠ "")

theorem given_of_set {setting : Option String} {text : String} (set : strSet setting = true)
    (present : setting = some text) : given setting = some text := by
  subst present
  exact Option.filter_some_pos set

theorem given_of_unset {setting : Option String} (unset : strSet setting = false) :
    given setting = none := by
  cases setting with
  | none => rfl
  | some text => exact Option.filter_some_neg (by simpa [strSet] using unset)

/-- The setup towards a backend does what the section says, with files that could be read. -/
structure Applied (host : Host) (backend : BackendTLS) (conf : TLSConf) : Prop where
  serverName : backend.serverName = some conf.serverName
  skipVerify : backend.skipVerify = some conf.insecureSkipVerify
  rootCAs : conf.rootCAs = given backend.caFile
  certificate : conf.certificate.map Prod.fst = given backend.certFile
  key : conf.certificate.map Prod.snd = given backend.keyFile
  clientCAs : conf.clientCAs = none
  trusted : ∀ path, conf.rootCAs = some path → loadCertPool host path = true
  loaded : ∀ cert key, conf.certificate = some (cert, key) → host.loadX509KeyPair cert key = true

/-- The section has no option that asks for a setup. -/
def Untouched (backend : BackendTLS) : Bool :=
  !(strSet backend.caFile || strSet backend.certFile || strSet backend.keyFile ||
    strSet backend.serverName || boolSet backend.skipVerify)

/-- The section towards Sentinel and its setup. Nothing is passed through to Sentinel. -/
inductive SentinelSettled (host : Host) (backend : BackendTLS) : Option TLSConf → Prop where
  | unused (disabled : boolSet backend.enabled = false) (untouched : Untouched backend = true)
      (ends : boolSet backend.passthrough = false) : SentinelSettled host backend none
  | active {conf : TLSConf} (enabled : boolSet backend.enabled = true)
      (ends : boolSet backend.passthrough = false) (applied : Applied host backend conf) :
      SentinelSettled host backend (some conf)

/-- The section of the listeners and its setup. Clients have to show a certificate where there
is an authority to check it with. -/
inductive ListenSettled (host : Host) (listen : ListenTLS) : Option TLSConf → Prop where
  | unused (disabled : boolSet listen.enabled = false)
      (untouched : (strSet listen.certFile || strSet listen.keyFile ||
        strSet listen.clientCAFile) = false) : ListenSettled host listen none
  | active {conf : TLSConf} {cert key : String} (enabled : boolSet listen.enabled = true)
      (certificate : given listen.certFile = some cert) (keyed : given listen.keyFile = some key)
      (shown : conf.certificate = some (cert, key)) (loaded : host.loadX509KeyPair cert key = true)
      (clientCAs : conf.clientCAs = given listen.clientCAFile)
      (trusted : ∀ path, conf.clientCAs = some path → loadCertPool host path = true) :
      ListenSettled host listen (some conf)

/-- The section towards the master, the setup of the role probe and that of the proxied
connections. Passing through is for the proxied connections alone. -/
inductive MasterSettled (host : Host) (backend : BackendTLS) :
    Option TLSConf → Option TLSConf → Prop where
  | unused (disabled : boolSet backend.enabled = false) (untouched : Untouched backend = true)
      (ends : boolSet backend.passthrough = false) : MasterSettled host backend none none
  | active {conf : TLSConf} (wanted : boolSet backend.enabled = true ∨ Untouched backend = false)
      (ends : boolSet backend.passthrough = false) (applied : Applied host backend conf) :
      MasterSettled host backend (some conf) (some conf)
  | passes {conf : TLSConf} (passthrough : boolSet backend.passthrough = true)
      (disabled : boolSet backend.enabled = false) (applied : Applied host backend conf) :
      MasterSettled host backend (some conf) none

theorem SentinelSettled.isSome {host : Host} {backend : BackendTLS} {conf? : Option TLSConf}
    (settled : SentinelSettled host backend conf?) : conf?.isSome = boolSet backend.enabled := by
  cases settled with
  | unused disabled => exact disabled.symm
  | active enabled => exact enabled.symm

theorem ListenSettled.isSome {host : Host} {listen : ListenTLS} {conf? : Option TLSConf}
    (settled : ListenSettled host listen conf?) : conf?.isSome = boolSet listen.enabled := by
  cases settled with
  | unused disabled => exact disabled.symm
  | active enabled => exact enabled.symm

theorem MasterSettled.isSome {host : Host} {backend : BackendTLS} {probe dial : Option TLSConf}
    (settled : MasterSettled host backend probe dial) :
    probe.isSome =
      (boolSet backend.enabled || boolSet backend.passthrough || !Untouched backend) := by
  cases settled with
  | unused disabled untouched ends => simp [disabled, untouched, ends]
  | active wanted => rcases wanted with enabled | touched <;> simp [*]
  | passes passthrough => simp [passthrough]

/-- Without passing through, the probe and the proxied connections are set up alike. -/
theorem MasterSettled.dial_eq {host : Host} {backend : BackendTLS} {probe dial : Option TLSConf}
    (settled : MasterSettled host backend probe dial)
    (ends : boolSet backend.passthrough = false) : dial = probe := by
  cases settled with
  | unused => rfl
  | active => rfl
  | passes passthrough => cases passthrough.symm.trans ends

section Built

variable {host : Host} {config : Config} {backend : BackendTLS}

private theorem deref_eq_ok {pointer : Option α} {value : α} (read : deref pointer = .ok value) :
    pointer = some value := by
  cases pointer with
  | none => cases read
  | some found =>
    cases read
    rfl

theorem pool_ok {file : Option String} {error : String → Failure} {β : Type}
    {next : Option String → Except Failure β} {result : β}
    (built : (if strSet file then do
        let path ← deref file
        if loadCertPool host path then do
          let pool ← .ok (some path)
          next pool
        else do
          let pool ← .error (error path)
          next pool
      else do
        let pool ← .ok none
        next pool) = .ok result) :
    (∀ path, given file = some path → loadCertPool host path = true) ∧
      next (given file) = .ok result := by
  by_cases set : strSet file = true
  · rw [if_pos set] at built
    obtain ⟨path, read, built⟩ := bind_eq_ok.mp built
    rw [given_of_set set (deref_eq_ok read)]
    split at built
    · rename_i trusted
      refine ⟨?_, built⟩
      rintro _ ⟨⟩
      exact trusted
    · cases built
  · rw [if_neg set] at built
    rw [given_of_unset (Bool.eq_false_iff.mpr set)]
    exact ⟨nofun, built⟩

theorem certificate_ok {certFile keyFile : Option String} {error : String → String → Failure}
    {β : Type} {next : Option (String × String) → Except Failure β} {result : β}
    (together : strSet certFile = strSet keyFile)
    (built : (if strSet certFile then do
        let cert ← deref certFile
        let key ← deref keyFile
        if host.loadX509KeyPair cert key then do
          let certificate ← .ok (some (cert, key))
          next certificate
        else do
          let certificate ← .error (error cert key)
          next certificate
      else do
        let certificate ← .ok none
        next certificate) = .ok result) :
    ∃ certificate, certificate.map Prod.fst = given certFile ∧
      certificate.map Prod.snd = given keyFile ∧
      (∀ cert key, certificate = some (cert, key) → host.loadX509KeyPair cert key = true) ∧
      next certificate = .ok result := by
  by_cases set : strSet certFile = true
  · rw [if_pos set] at built
    obtain ⟨cert, certRead, built⟩ := bind_eq_ok.mp built
    obtain ⟨key, keyRead, built⟩ := bind_eq_ok.mp built
    rw [given_of_set set (deref_eq_ok certRead),
      given_of_set (together ▸ set) (deref_eq_ok keyRead)]
    split at built
    · rename_i loads
      refine ⟨some (cert, key), rfl, rfl, ?_, built⟩
      rintro _ _ ⟨⟩
      exact loads
    · cases built
  · rw [if_neg set] at built
    have unset := Bool.eq_false_iff.mpr set
    exact ⟨none, (given_of_unset unset).symm, (given_of_unset (together ▸ unset)).symm, nofun,
      built⟩

private theorem clientTLSConf_applied {errors : ClientErrors} {conf : TLSConf}
    (built : clientTLSConf host errors backend = .ok conf) : Applied host backend conf := by
  obtain ⟨serverName, named, built⟩ := bind_eq_ok.mp built
  obtain ⟨skipVerify, skipped, built⟩ := bind_eq_ok.mp built
  obtain ⟨trusted, built⟩ := pool_ok built
  split at built
  · cases built
  · rename_i together
    obtain ⟨certificate, cert, key, loaded, built⟩ := certificate_ok (by simpa using together) built
    cases built
    exact ⟨deref_eq_ok named, deref_eq_ok skipped, rfl, cert, key, rfl, trusted, loaded⟩

theorem sentinelTLSConfig_settled {conf? : Option TLSConf}
    (built : sentinelTLSConfig host config = .ok conf?) :
    SentinelSettled host (config.sentinelTLS.getD {}) conf? := by
  unfold sentinelTLSConfig at built
  split at built
  · rename_i absent
    cases built
    rw [absent]
    exact .unused rfl rfl rfl
  · rename_i backend present
    rw [present]
    split at built
    · cases built
    · rename_i ends
      replace ends : boolSet backend.passthrough = false := by simpa using ends
      split at built
      · rename_i enabled
        obtain ⟨conf, client, made⟩ := bind_eq_ok.mp built
        cases made
        exact .active enabled ends (clientTLSConf_applied client)
      · rename_i disabled
        split at built
        · cases built
        · rename_i untouched
          cases built
          exact .unused (by simpa using disabled) (by simpa [Untouched] using untouched) ends

theorem listenTLSConfig_settled {conf? : Option TLSConf}
    (built : listenTLSConfig host config = .ok conf?) :
    ListenSettled host (config.listenTLS.getD {}) conf? := by
  unfold listenTLSConfig at built
  split at built
  · rename_i absent
    cases built
    rw [absent]
    exact .unused rfl rfl
  · rename_i listen present
    rw [present]
    split at built
    · rename_i enabled
      split at built
      · cases built
      · rename_i both
        simp only [Bool.or_eq_true, Bool.not_eq_true', not_or, Bool.not_eq_false] at both
        obtain ⟨cert, certRead, built⟩ := bind_eq_ok.mp built
        obtain ⟨key, keyRead, built⟩ := bind_eq_ok.mp built
        have certSaid := given_of_set both.1 (deref_eq_ok certRead)
        have keySaid := given_of_set both.2 (deref_eq_ok keyRead)
        split at built
        · cases built
        · rename_i loads
          obtain ⟨trusted, built⟩ := pool_ok built
          cases built
          exact .active enabled certSaid keySaid rfl (by simpa using loads) rfl trusted
    · rename_i disabled
      split at built
      · cases built
      · rename_i untouched
        cases built
        exact .unused (by simpa using disabled) (by simpa using untouched)

theorem masterTLSConfig_settled {probe dial : Option TLSConf}
    (built : masterTLSConfig host config = .ok (probe, dial)) :
    MasterSettled host (config.masterTLS.getD {}) probe dial := by
  unfold masterTLSConfig at built
  split at built
  · rename_i absent
    cases built
    rw [absent]
    exact .unused rfl rfl rfl
  · rename_i backend present
    rw [present]
    split at built
    · cases built
    · rename_i exclusive
      split at built
      · rename_i nothing
        cases built
        simp only [Bool.and_eq_true, Bool.not_eq_true', Bool.or_eq_false_iff] at nothing
        exact .unused nothing.1.1.1.1.1.1 (by simp [Untouched, nothing.1]) nothing.2
      · rename_i wanted
        obtain ⟨conf, client, made⟩ := bind_eq_ok.mp built
        have applied := clientTLSConf_applied client
        cases passes : boolSet backend.passthrough with
        | true =>
          rw [passes] at made
          cases made
          exact .passes passes (by simpa [passes] using exclusive) applied
        | false =>
          rw [passes] at made
          cases made
          refine .active ?_ passes applied
          cases enabled : boolSet backend.enabled with
          | true => exact .inl enabled
          | false =>
            refine .inr ?_
            simpa [Untouched, enabled, passes] using wanted

end Built

section Loaded

variable {host : Host} {flags : Option Config} {path : String} {config : Config}

private theorem normalise_setups (config : Config) :
    config.normalise.sentinelTLS = config.sentinelTLS ∧
      config.normalise.listenTLS = config.listenTLS ∧
      config.normalise.masterTLS = config.masterTLS ∧ config.normalise.tls = config.tls := by
  simp only [normalise]
  split <;> split <;> exact ⟨rfl, rfl, rfl, rfl⟩

/-- What is left of the checks when they have been passed. -/
structure Checked (host : Host) (config : Config) (tls : TLSSetups) : Prop where
  sentinel : sentinelTLSConfig host config = .ok tls.sentinel
  listen : listenTLSConfig host config = .ok tls.listen
  master : masterTLSConfig host config = .ok (tls.masterProbe, tls.master)
  router : config.router = some true → boolSet (config.masterTLS.getD {}).passthrough = false

private theorem validate_checked {tls : TLSSetups} (validated : validate host config = .ok tls) :
    Checked host config tls := by
  obtain ⟨fallback, _, validated⟩ := bind_eq_ok.mp validated
  split at validated
  · cases validated
  · obtain ⟨router, routes, validated⟩ := bind_eq_ok.mp validated
    split at validated
    · cases validated
    · rename_i apart
      obtain ⟨sentinel, sentinelBuilt, validated⟩ := bind_eq_ok.mp validated
      obtain ⟨listen, listenBuilt, validated⟩ := bind_eq_ok.mp validated
      obtain ⟨⟨probe, dial⟩, masterBuilt, validated⟩ := bind_eq_ok.mp validated
      cases validated
      refine ⟨sentinelBuilt, listenBuilt, masterBuilt, ?_⟩
      intro routed
      obtain rfl := Option.some.inj ((deref_eq_ok routes).symm.trans routed)
      cases present : config.masterTLS with
      | none => rfl
      | some backend => simpa [present] using apart

/-- The setups of a configuration are what its sections ask for. -/
structure Settled (host : Host) (config : Config) : Prop where
  sentinel : SentinelSettled host (config.sentinelTLS.getD {}) config.tls.sentinel
  listen : ListenSettled host (config.listenTLS.getD {}) config.tls.listen
  master : MasterSettled host (config.masterTLS.getD {}) config.tls.masterProbe config.tls.master

theorem load_settled (loaded : load host flags path = .ok config) : Settled host config := by
  obtain ⟨merged, tls, _, validated, rfl⟩ := load_ok loaded
  obtain ⟨sentinel, listen, master, setups⟩ := normalise_setups { merged with tls }
  have checked := validate_checked validated
  refine ⟨?_, ?_, ?_⟩
  · rw [sentinel, setups]
    exact sentinelTLSConfig_settled checked.sentinel
  · rw [listen, setups]
    exact listenTLSConfig_settled checked.listen
  · rw [master, setups]
    exact masterTLSConfig_settled checked.master

theorem load_routes (loaded : load host flags path = .ok config)
    (routes : config.router = some true) :
    boolSet (config.masterTLS.getD {}).passthrough = false := by
  obtain ⟨merged, tls, _, validated, rfl⟩ := load_ok loaded
  rw [(normalise_setups { merged with tls }).2.2.1]
  rw [normalise_router] at routes
  exact (validate_checked validated).router routes

/-- Where the options of a loaded configuration come from: from the first source that sets them,
but for `sentinel_tls.passthrough`, which the flags alone can set. -/
structure Sourced (host : Host) (flags : Option Config) (path : String) (config : Config)
    (env file : Config) : Prop where
  environment : fromEnv host = .ok env
  document : FileSource host path file
  options : ∀ key : Key, key.adjusted = false → key.get config = key.chosen flags env file
  passthrough : sentinelPassthrough config = sentinelPassthrough (flags.getD {})

private theorem load_sourced (loaded : load host flags path = .ok config) :
    ∃ env file, Sourced host flags path config env file := by
  obtain ⟨env, file, merged, layered⟩ := load_layered loaded
  refine ⟨env, file, layered.environment, layered.document, layered.kept, ?_⟩
  obtain ⟨merged, tls, sourced, _, rfl⟩ := load_ok loaded
  rw [← sources_passthrough sourced, sentinelPassthrough, (normalise_setups _).1]
  rfl

/-- A certificate authority for the master and nothing else. -/
def authorityOnly : Config := { masterTLS := some { caFile := some "ca.pem" } }

def authorityHost : Host where
  lookupEnv _ := none
  parseDuration _ := none
  readFile path := if path = "ca.pem" then some "certificate" else none
  decodeYAML _ := .eof
  appendCertsFromPEM _ := true
  loadX509KeyPair _ _ := false

/-- Every TLS setup of a loaded configuration is the one its section asks for, no option of a
section is without effect, and router mode reads what it proxies. The options of the sections
are those of the sources, but for one: the file's `sentinel_tls.passthrough` gets lost. -/
theorem tls_settled (loaded : load host flags path = .ok config) :
    Settled host config ∧
      (config.router = some true → config.tls.master = config.tls.masterProbe) ∧
      ∃ env file, Sourced host flags path config env file := by
  have settled := load_settled loaded
  refine ⟨settled, ?_, load_sourced loaded⟩
  intro routes
  exact settled.master.dial_eq (load_routes loaded routes)

theorem tls_settled_authorityOnly : ∃ config,
    load authorityHost (some authorityOnly) "" = .ok config ∧
      config.tls.master = some { rootCAs := some "ca.pem" } ∧
      MasterSettled authorityHost (config.masterTLS.getD {}) config.tls.masterProbe
        config.tls.master ∧
      ∃ env file, Sourced authorityHost (some authorityOnly) "" config env file := by
  obtain ⟨settled, _, sourced⟩ := @tls_settled authorityHost (some authorityOnly) "" _ rfl
  exact ⟨_, rfl, rfl, settled.master, sourced⟩

end Loaded

end SentinelProxy.Config
