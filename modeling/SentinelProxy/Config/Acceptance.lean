import SentinelProxy.Config.Complete
import SentinelProxy.Config.Setups

/-! What loading accepts, as conditions on its sources: the environment parses, the file can be
read, and the options chosen from them fit together and name files that load. -/

namespace SentinelProxy.Config

/-- Every variable that is set has a text its option can be read from. -/
def Parses (host : Host) : Prop :=
  ∀ (key : Key) (text : String), host.lookupEnv key.variable = some text →
    (key.parse host text).isSome = true

/-- The settings in the configuration file, which may be empty; without a path there is none. -/
def Reads (host : Host) (path : String) (file : Config) : Prop :=
  if path = "" then file = {}
  else ∃ data, host.readFile path = some data ∧
    (host.decodeYAML data = .eof ∧ file = {} ∨ host.decodeYAML data = .document file)

/-- The value of an option: from the flags, its variable, the file or the defaults. -/
def Key.effective (host : Host) (flags : Option Config) (file : Config) (key : Key) :
    Option key.Value :=
  (flags.bind key.get).or (((host.lookupEnv key.variable).bind (key.parse host)).or
    ((key.get file).or (key.get default)))

/-- The files of a client setup: authorities that can be read, and a certificate with its key. -/
structure ClientFiles (host : Host) (value : (key : BackendKey) → Option key.Value) : Prop where
  ca : ∀ path, given (value .caFile) = some path → loadCertPool host path = true
  together : strSet (value .certFile) = strSet (value .keyFile)
  pair : ∀ cert key, given (value .certFile) = some cert → given (value .keyFile) = some key →
    host.loadX509KeyPair cert key = true

structure ListenFiles (host : Host) (value : (key : ListenKey) → Option key.Value) : Prop where
  cert : strSet (value .certFile) = true
  key : strSet (value .keyFile) = true
  pair : ∀ cert key, given (value .certFile) = some cert → given (value .keyFile) = some key →
    host.loadX509KeyPair cert key = true
  clientCA : ∀ path, given (value .clientCAFile) = some path → loadCertPool host path = true

/-- An option towards a backend other than `enabled` says something. -/
def Touched (value : (key : BackendKey) → Option key.Value) : Bool :=
  strSet (value .caFile) || strSet (value .certFile) || strSet (value .keyFile) ||
    strSet (value .serverName) || boolSet (value .skipVerify)

def ListenTouched (value : (key : ListenKey) → Option key.Value) : Bool :=
  strSet (value .certFile) || strSet (value .keyFile) || strSet (value .clientCAFile)

/-- Values of the options that fit together. -/
structure Accepts (host : Host) (value : (key : Key) → Option key.Value) : Prop where
  fallback : value .replicaFallback = some replicaFallbackMaster ∨
    value .replicaFallback = some replicaFallbackReject
  router : ¬(value .router = some true ∧ boolSet (value .masterPassthrough) = true)
  sentinel : if boolSet (value (.sentinelTLS .enabled)) = true
    then ClientFiles host fun key => value (.sentinelTLS key)
    else Touched (fun key => value (.sentinelTLS key)) = false
  listen : if boolSet (value (.listenTLS .enabled)) = true
    then ListenFiles host fun key => value (.listenTLS key)
    else ListenTouched (fun key => value (.listenTLS key)) = false
  exclusive : ¬(boolSet (value .masterPassthrough) = true ∧
    boolSet (value (.masterTLS .enabled)) = true)
  master : boolSet (value (.masterTLS .enabled)) = true ∨
      boolSet (value .masterPassthrough) = true ∨
      Touched (fun key => value (.masterTLS key)) = true →
    ClientFiles host fun key => value (.masterTLS key)

section Sources

variable {host : Host} {flags : Option Config} {path : String}

private theorem parsedEnv_parses {parse : String → Option α} {name : String}
    (parses : ∀ text, host.lookupEnv name = some text → (parse text).isSome = true) :
    ∃ value?, host.parsedEnv parse name = .ok value? := by
  unfold Host.parsedEnv
  split
  · exact ⟨none, rfl⟩
  · rename_i text set
    obtain ⟨value, parsed⟩ := Option.isSome_iff_exists.mp (parses text set)
    exact ⟨some value, by rw [parsed]⟩

theorem fromEnv_ok_iff : (∃ env, fromEnv host = .ok env) ↔ Parses host := by
  constructor
  · rintro ⟨env, read⟩ key text set
    obtain ⟨value, unset⟩ := fromEnv_ok read key
    rw [set, Option.bind_some] at value
    rw [← value, Option.isSome_iff_ne_none, ne_eq, unset, set]
    simp
  · intro parses
    obtain ⟨_, router⟩ := parsedEnv_parses (parses .router)
    obtain ⟨_, retries⟩ := parsedEnv_parses (parses .resolveRetries)
    obtain ⟨_, connections⟩ := parsedEnv_parses (parses .maxConnections)
    obtain ⟨_, timeout⟩ := parsedEnv_parses (parses .idleTimeout)
    obtain ⟨_, debug⟩ := parsedEnv_parses (parses .debug)
    obtain ⟨_, sentinel⟩ := parsedEnv_parses (parses (.sentinelTLS .enabled))
    obtain ⟨_, sentinelSkip⟩ := parsedEnv_parses (parses (.sentinelTLS .skipVerify))
    obtain ⟨_, listen⟩ := parsedEnv_parses (parses (.listenTLS .enabled))
    obtain ⟨_, master⟩ := parsedEnv_parses (parses (.masterTLS .enabled))
    obtain ⟨_, masterSkip⟩ := parsedEnv_parses (parses (.masterTLS .skipVerify))
    obtain ⟨_, passthrough⟩ := parsedEnv_parses (parses .masterPassthrough)
    exact ⟨_, bind_eq_ok.mpr ⟨_, router, bind_eq_ok.mpr ⟨_, retries, bind_eq_ok.mpr ⟨_, connections,
      bind_eq_ok.mpr ⟨_, timeout, bind_eq_ok.mpr ⟨_, debug, bind_eq_ok.mpr ⟨_, sentinel,
      bind_eq_ok.mpr ⟨_, sentinelSkip, bind_eq_ok.mpr ⟨_, listen, bind_eq_ok.mpr ⟨_, master,
      bind_eq_ok.mpr ⟨_, masterSkip, bind_eq_ok.mpr ⟨_, passthrough, rfl⟩⟩⟩⟩⟩⟩⟩⟩⟩⟩⟩⟩

theorem fileSource_iff {file : Config} : FileSource host path file ↔ Reads host path file := by
  unfold FileSource Reads
  split
  · rfl
  · unfold loadFile
    cases host.readFile path with
    | none => simp
    | some data =>
      simp only [Option.some.injEq, exists_eq_left']
      cases host.decodeYAML data <;> simp [eq_comm]

theorem FileSource.unique {file other : Config} (opened : FileSource host path file)
    (again : FileSource host path other) : file = other := by
  unfold FileSource at opened again
  split at opened
  · rename_i absent
    rw [if_pos absent] at again
    exact opened.trans again.symm
  · rename_i named
    rw [if_neg named, opened] at again
    exact Except.ok.inj again

private theorem sources_ok_iff :
    (∃ merged, sources host flags path = .ok merged) ↔
      (∃ env, fromEnv host = .ok env) ∧ ∃ file, FileSource host path file := by
  constructor
  · rintro ⟨merged, sourced⟩
    obtain ⟨env, file, read, opened, _⟩ := sources_ok sourced
    exact ⟨⟨env, read⟩, file, opened⟩
  · rintro ⟨⟨env, read⟩, file, opened⟩
    unfold FileSource at opened
    unfold sources
    rw [read]
    by_cases absent : path = ""
    · exact ⟨_, by simp only [bind, Except.bind, absent, ne_eq, not_true_eq_false, if_false]; rfl⟩
    · rw [if_neg absent] at opened
      exact ⟨_, by
        simp only [bind, Except.bind, absent, opened, ne_eq, not_false_eq_true, if_true]; rfl⟩

/-- The merged options are the effective ones. -/
theorem chosen_effective {env file : Config} (read : fromEnv host = .ok env) (key : Key) :
    key.chosen flags env file = key.effective host flags file := by
  rw [Key.chosen, Key.effective, (fromEnv_ok read key).value]

end Sources

section Setups

variable {host : Host} {config : Config} {backend : BackendTLS}

private theorem pool_loads {file : Option String} {error : String → Failure} {β : Type}
    {next : Option String → Except Failure β}
    (trusted : ∀ path, given file = some path → loadCertPool host path = true) :
    (if strSet file then do
        let path ← deref file
        if loadCertPool host path then do
          let pool ← .ok (some path)
          next pool
        else do
          let pool ← .error (error path)
          next pool
      else do
        let pool ← .ok none
        next pool) = next (given file) := by
  by_cases set : strSet file = true
  · obtain ⟨path, rfl⟩ := Option.isSome_iff_exists.mp (isSome_of_strSet set)
    have named := given_of_set set rfl
    rw [if_pos set, named]
    simp only [deref, bind, Except.bind, trusted path named, if_true]
  · rw [if_neg set, given_of_unset (Bool.eq_false_iff.mpr set)]
    rfl

private theorem certificate_loads {certFile keyFile : Option String}
    {error : String → String → Failure} {β : Type}
    {next : Option (String × String) → Except Failure β}
    (together : strSet certFile = strSet keyFile)
    (pair : ∀ cert key, given certFile = some cert → given keyFile = some key →
      host.loadX509KeyPair cert key = true)
    (later : ∀ certificate, ∃ result, next certificate = .ok result) :
    ∃ result, (if strSet certFile then do
        let cert ← deref certFile
        let key ← deref keyFile
        if host.loadX509KeyPair cert key then do
          let certificate ← .ok (some (cert, key))
          next certificate
        else do
          let certificate ← .error (error cert key)
          next certificate
      else do
        let certificate ← .ok none
        next certificate) = .ok result := by
  by_cases set : strSet certFile = true
  · have also : strSet keyFile = true := together ▸ set
    obtain ⟨cert, rfl⟩ := Option.isSome_iff_exists.mp (isSome_of_strSet set)
    obtain ⟨key, rfl⟩ := Option.isSome_iff_exists.mp (isSome_of_strSet also)
    have loads := pair cert key (given_of_set set rfl) (given_of_set also rfl)
    rw [if_pos set]
    simp only [deref, bind, Except.bind, loads, if_true]
    exact later _
  · rw [if_neg set]
    exact later none

private theorem isSome_given (setting : Option String) :
    (given setting).isSome = strSet setting := by
  cases set : strSet setting with
  | true =>
    obtain ⟨text, rfl⟩ := Option.isSome_iff_exists.mp (isSome_of_strSet set)
    rw [given_of_set set rfl]
    rfl
  | false =>
    rw [given_of_unset set]
    rfl

private theorem strSet_of_given {setting : Option String} {text : String}
    (named : given setting = some text) : strSet setting = true := by
  rw [← isSome_given, named]
  rfl

/-- A setup that does what its section says has found the files. -/
theorem Applied.files {conf : TLSConf} (applied : Applied host backend conf) :
    ClientFiles host fun key => key.get backend := by
  obtain ⟨_, _, rootCAs, cert, key, _, trusted, loaded⟩ := applied
  refine ⟨fun path named => trusted path (rootCAs.trans named), ?_, ?_⟩
  · have both : (given backend.certFile).isSome = (given backend.keyFile).isSome := by
      rw [← cert, ← key, Option.isSome_map, Option.isSome_map]
    rwa [isSome_given, isSome_given] at both
  · intro certFile keyFile certNamed keyNamed
    obtain ⟨⟨first, second⟩, present, rfl⟩ := Option.map_eq_some_iff.mp (cert.trans certNamed)
    rw [present] at key
    cases key.trans keyNamed
    exact loaded _ _ present

/-- The two options that are dereferenced unchecked have to be there. -/
theorem clientTLSConf_loads {errors : ClientErrors}
    (files : ClientFiles host fun key => key.get backend)
    (serverName : backend.serverName.isSome = true)
    (skipVerify : backend.skipVerify.isSome = true) :
    ∃ conf, clientTLSConf host errors backend = .ok conf := by
  obtain ⟨name, named⟩ := Option.isSome_iff_exists.mp serverName
  obtain ⟨skip, skipped⟩ := Option.isSome_iff_exists.mp skipVerify
  have together : strSet backend.certFile = strSet backend.keyFile := files.together
  unfold clientTLSConf
  rw [named, skipped]
  refine (exists_congr fun conf => Eq.congr_left (pool_loads files.ca)).mpr ?_
  rw [if_neg (not_not.mpr together)]
  exact certificate_loads files.together files.pair fun certificate => ⟨_, rfl⟩

private theorem untouched_eq (backend : BackendTLS) :
    Untouched backend = !Touched fun key => key.get backend := rfl

private theorem sentinelTLSConfig_ok_iff (present : config.sentinelTLS = some backend)
    (ends : boolSet backend.passthrough = false) (serverName : backend.serverName.isSome = true)
    (skipVerify : backend.skipVerify.isSome = true) :
    (∃ conf?, sentinelTLSConfig host config = .ok conf?) ↔
      if boolSet (Key.get (.sentinelTLS .enabled) config) = true
      then ClientFiles host fun key => Key.get (.sentinelTLS key) config
      else Touched (fun key => Key.get (.sentinelTLS key) config) = false := by
  simp only [Key.get, present, Option.bind_some]
  change _ ↔ if boolSet backend.enabled = true then ClientFiles host fun key => key.get backend
    else Touched (fun key => key.get backend) = false
  constructor
  · rintro ⟨conf?, built⟩
    have settled := sentinelTLSConfig_settled built
    rw [present, Option.getD_some] at settled
    cases settled with
    | unused disabled untouched =>
      rw [if_neg (by simpa using disabled)]
      simpa [untouched_eq] using untouched
    | active enabled _ applied =>
      rw [if_pos enabled]
      exact applied.files
  · intro accepted
    unfold sentinelTLSConfig
    rw [present]
    simp only [ends, Bool.false_eq_true, if_false]
    split at accepted
    · rename_i enabled
      obtain ⟨conf, built⟩ := clientTLSConf_loads accepted serverName skipVerify
      exact ⟨some conf, by rw [if_pos enabled, built]; rfl⟩
    · rename_i disabled
      rw [if_neg disabled]
      exact ⟨none, if_neg (by simpa [Touched, BackendKey.get] using accepted)⟩

private theorem listenTLSConfig_ok_iff {listen : ListenTLS}
    (present : config.listenTLS = some listen) :
    (∃ conf?, listenTLSConfig host config = .ok conf?) ↔
      if boolSet (Key.get (.listenTLS .enabled) config) = true
      then ListenFiles host fun key => Key.get (.listenTLS key) config
      else ListenTouched (fun key => Key.get (.listenTLS key) config) = false := by
  simp only [Key.get, present, Option.bind_some]
  change _ ↔ if boolSet listen.enabled = true then ListenFiles host fun key => key.get listen
    else ListenTouched (fun key => key.get listen) = false
  constructor
  · rintro ⟨conf?, built⟩
    have settled := listenTLSConfig_settled built
    rw [present, Option.getD_some] at settled
    cases settled with
    | unused disabled untouched =>
      rw [if_neg (by simpa using disabled)]
      exact untouched
    | active enabled certificate keyed _ loaded clientCAs trusted =>
      rw [if_pos enabled]
      refine ⟨strSet_of_given certificate, strSet_of_given keyed, ?_,
        fun path named => trusted path (clientCAs.trans named)⟩
      · intro cert key certNamed keyNamed
        cases certificate.symm.trans certNamed
        cases keyed.symm.trans keyNamed
        exact loaded
  · intro accepted
    unfold listenTLSConfig
    rw [present]
    dsimp only
    split at accepted
    · rename_i enabled
      rw [if_pos enabled]
      have certSet : strSet listen.certFile = true := accepted.cert
      have keySet : strSet listen.keyFile = true := accepted.key
      obtain ⟨cert, certNamed⟩ := Option.isSome_iff_exists.mp (isSome_of_strSet certSet)
      obtain ⟨key, keyNamed⟩ := Option.isSome_iff_exists.mp (isSome_of_strSet keySet)
      have loads := accepted.pair cert key (given_of_set certSet certNamed)
        (given_of_set keySet keyNamed)
      rw [if_neg (by simp [certSet, keySet])]
      refine ⟨some { certificate := some (cert, key), clientCAs := given listen.clientCAFile },
        bind_eq_ok.mpr ⟨cert, by rw [certNamed]; rfl, bind_eq_ok.mpr ⟨key, by rw [keyNamed]; rfl,
        ?_⟩⟩⟩
      rw [if_neg (by simp [loads])]
      exact (pool_loads accepted.clientCA).trans rfl
    · rename_i disabled
      rw [if_neg disabled]
      exact ⟨none, if_neg (by simpa [ListenTouched, ListenKey.get] using accepted)⟩

private theorem masterTLSConfig_ok_iff (present : config.masterTLS = some backend)
    (serverName : backend.serverName.isSome = true)
    (skipVerify : backend.skipVerify.isSome = true) :
    (∃ confs, masterTLSConfig host config = .ok confs) ↔
      ¬(boolSet (Key.get .masterPassthrough config) = true ∧
          boolSet (Key.get (.masterTLS .enabled) config) = true) ∧
        (boolSet (Key.get (.masterTLS .enabled) config) = true ∨
          boolSet (Key.get .masterPassthrough config) = true ∨
          Touched (fun key => Key.get (.masterTLS key) config) = true →
          ClientFiles host fun key => Key.get (.masterTLS key) config) := by
  simp only [Key.get, present, Option.bind_some]
  change _ ↔ ¬(boolSet backend.passthrough = true ∧ boolSet backend.enabled = true) ∧
    (boolSet backend.enabled = true ∨ boolSet backend.passthrough = true ∨
      Touched (fun key => key.get backend) = true → ClientFiles host fun key => key.get backend)
  constructor
  · rintro ⟨⟨probe, dial⟩, built⟩
    have settled := masterTLSConfig_settled built
    rw [present, Option.getD_some] at settled
    cases settled with
    | unused disabled untouched ends =>
      rw [untouched_eq] at untouched
      simp_all
    | active wanted ends applied => exact ⟨by simp [ends], fun _ => applied.files⟩
    | passes passthrough disabled applied => exact ⟨by simp [disabled], fun _ => applied.files⟩
  · rintro ⟨exclusive, files⟩
    unfold masterTLSConfig
    rw [present]
    dsimp only
    rw [if_neg (by simpa using exclusive)]
    split
    · exact ⟨_, rfl⟩
    · rename_i wanted
      have asked : boolSet backend.enabled = true ∨ boolSet backend.passthrough = true ∨
          Touched (fun key => key.get backend) = true := by
        by_contra nothing
        simp only [not_or, Bool.not_eq_true, Touched, Bool.or_eq_false_iff] at nothing
        simp_all [BackendKey.get]
      obtain ⟨conf, built⟩ := clientTLSConf_loads (files asked) serverName skipVerify
      rw [built]
      cases boolSet backend.passthrough with
      | true => exact ⟨_, rfl⟩
      | false => exact ⟨_, rfl⟩

end Setups

section Loading

variable {host : Host} {flags : Option Config} {path : String} {config : Config}

private theorem backend_complete {backend? : Option BackendTLS}
    (serverName : (backend?.bind BackendTLS.serverName).isSome = true)
    (skipVerify : (backend?.bind BackendTLS.skipVerify).isSome = true) :
    ∃ backend, backend? = some backend ∧ backend.serverName.isSome = true ∧
      backend.skipVerify.isSome = true := by
  cases backend? with
  | none => cases serverName
  | some backend => exact ⟨backend, rfl, serverName, skipVerify⟩

private theorem listen_complete (complete : Complete config) :
    ∃ listen, config.listenTLS = some listen := by
  have enabled := complete (.listenTLS .enabled) rfl
  cases present : config.listenTLS with
  | none => simp [Key.get, present] at enabled
  | some listen => exact ⟨listen, rfl⟩

/-- The checks one by one. -/
private theorem validate_checks (complete : Complete config) :
    (∃ tls, validate host config = .ok tls) ↔
      (config.replicaFallback = some replicaFallbackMaster ∨
          config.replicaFallback = some replicaFallbackReject) ∧
        ¬(config.router = some true ∧
          boolSet (config.masterTLS.bind BackendTLS.passthrough) = true) ∧
        (∃ sentinel, sentinelTLSConfig host config = .ok sentinel) ∧
        (∃ listen, listenTLSConfig host config = .ok listen) ∧
        ∃ confs, masterTLSConfig host config = .ok confs := by
  obtain ⟨fallback, fallbackSet⟩ : ∃ fallback, config.replicaFallback = some fallback :=
    Option.isSome_iff_exists.mp (complete .replicaFallback rfl)
  obtain ⟨router, routerSet⟩ : ∃ router, config.router = some router :=
    Option.isSome_iff_exists.mp (complete .router rfl)
  obtain ⟨master, masterTLS, _⟩ := backend_complete
    (complete (.masterTLS .serverName) rfl) (complete (.masterTLS .skipVerify) rfl)
  have fallbackRead : deref config.replicaFallback = .ok fallback := by rw [fallbackSet]; rfl
  have routerRead : deref config.router = .ok router := by rw [routerSet]; rfl
  rw [fallbackSet, routerSet, masterTLS, Option.some_inj, Option.some_inj, Option.some_inj,
    Option.bind_some]
  constructor
  · rintro ⟨tls, validated⟩
    obtain ⟨_, read, validated⟩ := bind_eq_ok.mp validated
    cases fallbackRead.symm.trans read
    split at validated
    · cases validated
    · rename_i known
      obtain ⟨_, read, validated⟩ := bind_eq_ok.mp validated
      cases routerRead.symm.trans read
      split at validated
      · cases validated
      · rename_i apart
        obtain ⟨sentinel, sentinelBuilt, validated⟩ := bind_eq_ok.mp validated
        obtain ⟨listen, listenBuilt, validated⟩ := bind_eq_ok.mp validated
        obtain ⟨confs, masterBuilt, _⟩ := bind_eq_ok.mp validated
        rw [masterTLS] at apart
        exact ⟨by tauto, by simpa using apart, ⟨_, sentinelBuilt⟩, ⟨_, listenBuilt⟩, _, masterBuilt⟩
  · rintro ⟨known, apart, ⟨sentinel, sentinelBuilt⟩, ⟨listen, listenBuilt⟩, confs, masterBuilt⟩
    refine ⟨⟨confs.2, confs.1, sentinel, listen⟩, bind_eq_ok.mpr ⟨fallback, fallbackRead, ?_⟩⟩
    rw [if_neg (by tauto)]
    refine bind_eq_ok.mpr ⟨router, routerRead, ?_⟩
    rw [if_neg (by simpa [masterTLS] using apart)]
    exact bind_eq_ok.mpr ⟨sentinel, sentinelBuilt, bind_eq_ok.mpr ⟨listen, listenBuilt,
      bind_eq_ok.mpr ⟨confs, masterBuilt, rfl⟩⟩⟩

/-- The checks of a configuration with every option that has a default. -/
theorem validate_ok_iff (complete : Complete config)
    (ends : sentinelPassthrough config ≠ some true) :
    (∃ tls, validate host config = .ok tls) ↔ Accepts host fun key => key.get config := by
  obtain ⟨sentinel, sentinelTLS, sentinelName, sentinelSkip⟩ := backend_complete
    (complete (.sentinelTLS .serverName) rfl) (complete (.sentinelTLS .skipVerify) rfl)
  obtain ⟨master, masterTLS, masterName, masterSkip⟩ := backend_complete
    (complete (.masterTLS .serverName) rfl) (complete (.masterTLS .skipVerify) rfl)
  obtain ⟨listen, listenTLS⟩ := listen_complete complete
  have plain : boolSet sentinel.passthrough = false := by
    rw [sentinelPassthrough, sentinelTLS, Option.bind_some] at ends
    rcases set : sentinel.passthrough with _ | _ | _
    · rfl
    · rfl
    · exact absurd set ends
  rw [validate_checks complete,
    sentinelTLSConfig_ok_iff sentinelTLS plain sentinelName sentinelSkip,
    listenTLSConfig_ok_iff listenTLS, masterTLSConfig_ok_iff masterTLS masterName masterSkip]
  constructor
  · rintro ⟨fallback, router, sentinel, listen, exclusive, master⟩
    exact ⟨fallback, router, sentinel, listen, exclusive, master⟩
  · rintro ⟨fallback, router, sentinel, listen, exclusive, master⟩
    exact ⟨fallback, router, sentinel, listen, exclusive, master⟩

/-- No connection to Sentinel is passed through. -/
theorem validate_passthrough {config : Config} {tls : TLSSetups}
    (checked : validate host config = .ok tls) : sentinelPassthrough config ≠ some true := by
  intro requested
  obtain ⟨fallback, _, checked⟩ := bind_eq_ok.mp checked
  split at checked
  · cases checked
  · obtain ⟨router, _, checked⟩ := bind_eq_ok.mp checked
    split at checked
    · cases checked
    · obtain ⟨sentinel, built, _⟩ := bind_eq_ok.mp checked
      obtain ⟨backend, present, set⟩ := Option.bind_eq_some_iff.mp requested
      simp [sentinelTLSConfig, present, set, boolSet] at built

/-- The merged configuration passes the checks if the effective options do. -/
theorem sources_accepts {merged env file : Config} (sourced : sources host flags path = .ok merged)
    (ends : sentinelPassthrough (flags.getD {}) ≠ some true) (read : fromEnv host = .ok env)
    (first : ∀ key : Key, key.get merged = key.chosen flags env file) :
    (∃ tls, validate host merged = .ok tls) ↔
      Accepts host fun key => key.effective host flags file := by
  rw [validate_ok_iff (sources_complete sourced) (sources_passthrough sourced ▸ ends)]
  have same : (fun key : Key => key.get merged) = fun key => key.effective host flags file := by
    funext key
    rw [first key, chosen_effective read]
  rw [same]

/-- What loading accepts. -/
theorem load_ok_iff :
    (∃ config, load host flags path = .ok config) ↔
      Parses host ∧ sentinelPassthrough (flags.getD {}) ≠ some true ∧
        ∃ file, Reads host path file ∧ Accepts host fun key => key.effective host flags file := by
  constructor
  · rintro ⟨config, loaded⟩
    obtain ⟨merged, tls, sourced, checked, _⟩ := load_ok loaded
    obtain ⟨env, file, read, opened, first⟩ := sources_ok sourced
    have ends : sentinelPassthrough (flags.getD {}) ≠ some true := by
      rw [← sources_passthrough sourced]
      exact validate_passthrough checked
    exact ⟨fromEnv_ok_iff.mp ⟨env, read⟩, ends, file, fileSource_iff.mp opened,
      (sources_accepts sourced ends read first).mp ⟨tls, checked⟩⟩
  · rintro ⟨parses, ends, file, reads, accepted⟩
    obtain ⟨merged, sourced⟩ := sources_ok_iff.mpr
      ⟨fromEnv_ok_iff.mpr parses, file, fileSource_iff.mpr reads⟩
    obtain ⟨env, document, read, opened, first⟩ := sources_ok sourced
    obtain rfl := (fileSource_iff.mpr reads).unique opened
    obtain ⟨tls, checked⟩ := (sources_accepts sourced ends read first).mpr accepted
    exact ⟨_, bind_eq_ok.mpr ⟨merged, sourced, bind_eq_ok.mpr ⟨tls, checked, rfl⟩⟩⟩

end Loading

end SentinelProxy.Config
