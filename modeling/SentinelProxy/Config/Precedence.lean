import SentinelProxy.Config.Options

/-! Precedence of the sources, option by option: merging keeps the first value, whatever
sections the sources have, and loading takes flags over environment over file over
defaults. -/

namespace SentinelProxy.Config

/-- Sources merged into the first one, from left to right. -/
def mergeAll (first : Config) (rest : List Config) : Config :=
  rest.foldl (fun merged other => merged.merge (some other)) first

/-- The options that loading may still change after the merge. -/
def Key.adjusted : Key → Bool
  | .listen | .replicaListen | .replicaFallback => true
  | _ => false

section Merging

private theorem get_mergeSentinelTLS (key : BackendKey) (section? other : Option BackendTLS) :
    (mergeSentinelTLS section? other).bind key.get =
      fill (section?.bind key.get) (other.bind key.get) := by
  cases section? with
  | none => cases other <;> cases key <;> rfl
  | some backend =>
    cases other with
    | none => exact Option.or_none.symm
    | some other => cases key <;> rfl

private theorem get_mergeListenTLS (key : ListenKey) (section? other : Option ListenTLS) :
    (mergeListenTLS section? other).bind key.get =
      fill (section?.bind key.get) (other.bind key.get) := by
  cases section? with
  | none => cases other <;> cases key <;> rfl
  | some listen =>
    cases other with
    | none => exact Option.or_none.symm
    | some other => cases key <;> rfl

private theorem get_mergeMasterTLS (key : BackendKey) (section? other : Option BackendTLS) :
    (mergeMasterTLS section? other).bind key.get =
      fill (section?.bind key.get) (other.bind key.get) := by
  cases section? with
  | none => cases other <;> cases key <;> rfl
  | some backend =>
    cases other with
    | none => exact Option.or_none.symm
    | some other => cases key <;> rfl

private theorem passthrough_mergeMasterTLS (section? other : Option BackendTLS) :
    (mergeMasterTLS section? other).bind BackendTLS.passthrough =
      fill (section?.bind BackendTLS.passthrough) (other.bind BackendTLS.passthrough) := by
  cases section? with
  | none => cases other <;> rfl
  | some backend =>
    cases other with
    | none => exact Option.or_none.symm
    | some other => rfl

/-- Merging fills every option on its own. -/
theorem get_merge (key : Key) (config other : Config) :
    key.get (config.merge (some other)) = fill (key.get config) (key.get other) := by
  cases key with
  | sentinelTLS key => exact get_mergeSentinelTLS key _ _
  | listenTLS key => exact get_mergeListenTLS key _ _
  | masterTLS key => exact get_mergeMasterTLS key _ _
  | masterPassthrough => exact passthrough_mergeMasterTLS _ _
  | _ => rfl

/-- `sentinel_tls.passthrough` as a configuration has it. -/
def sentinelPassthrough (config : Config) : Option Bool :=
  config.sentinelTLS.bind BackendTLS.passthrough

private theorem mergeSentinelTLS_passthrough (tls? other : Option BackendTLS) :
    (mergeSentinelTLS tls? other).bind BackendTLS.passthrough =
      tls?.bind BackendTLS.passthrough := by
  cases other with
  | none => rfl
  | some other => cases tls? <;> rfl

/-- The one setting that merging does not fill. -/
theorem merge_passthrough (config : Config) (other : Option Config) :
    sentinelPassthrough (config.merge other) = sentinelPassthrough config := by
  cases other with
  | none => rfl
  | some other => exact mergeSentinelTLS_passthrough _ _

private theorem get_mergeAll (key : Key) (first : Config) (rest : List Config) :
    key.get (mergeAll first rest) = (first :: rest).findSome? key.get :=
  findSome?_merge (get_merge key) first rest

end Merging

section Environment

variable {host : Host}

private theorem parsedEnv_ok {parse : String → Option α} {name : String} {value? : Option α}
    (read : host.parsedEnv parse name = .ok value?) :
    value? = (host.lookupEnv name).bind parse ∧
      (value? = none ↔ host.lookupEnv name = none) := by
  unfold Host.parsedEnv at read
  split at read
  · rename_i unset
    cases read
    simp [unset]
  · rename_i text set
    split at read
    · cases read
    · rename_i value parsed
      cases read
      simp [set, parsed]

/-- The environment sets an option exactly if its variable is set, to what it says. -/
structure ReadFrom (host : Host) (env : Config) (key : Key) : Prop where
  value : key.get env = (host.lookupEnv key.variable).bind (key.parse host)
  unset : key.get env = none ↔ host.lookupEnv key.variable = none

private theorem readFrom_parsed {env : Config} {key : Key}
    (read : host.parsedEnv (key.parse host) key.variable = .ok (key.get env)) :
    ReadFrom host env key := by
  obtain ⟨value, unset⟩ := parsedEnv_ok read
  exact ⟨value, unset⟩

theorem fromEnv_ok {env : Config} (read : fromEnv host = .ok env) (key : Key) :
    ReadFrom host env key := by
  obtain ⟨router, routerRead, read⟩ := bind_eq_ok.mp read
  obtain ⟨resolveRetries, retriesRead, read⟩ := bind_eq_ok.mp read
  obtain ⟨maxConnections, connectionsRead, read⟩ := bind_eq_ok.mp read
  obtain ⟨idleTimeout, timeoutRead, read⟩ := bind_eq_ok.mp read
  obtain ⟨debug, debugRead, read⟩ := bind_eq_ok.mp read
  obtain ⟨sentinelEnabled, sentinelRead, read⟩ := bind_eq_ok.mp read
  obtain ⟨sentinelSkipVerify, sentinelSkipRead, read⟩ := bind_eq_ok.mp read
  obtain ⟨listenEnabled, listenRead, read⟩ := bind_eq_ok.mp read
  obtain ⟨masterEnabled, masterRead, read⟩ := bind_eq_ok.mp read
  obtain ⟨masterSkipVerify, masterSkipRead, read⟩ := bind_eq_ok.mp read
  obtain ⟨masterPassthrough, passthroughRead, read⟩ := bind_eq_ok.mp read
  cases read
  cases key with
  | router => exact readFrom_parsed routerRead
  | resolveRetries => exact readFrom_parsed retriesRead
  | maxConnections => exact readFrom_parsed connectionsRead
  | idleTimeout => exact readFrom_parsed timeoutRead
  | debug => exact readFrom_parsed debugRead
  | masterPassthrough => exact readFrom_parsed passthroughRead
  | sentinelTLS key =>
    cases key with
    | enabled => exact readFrom_parsed sentinelRead
    | skipVerify => exact readFrom_parsed sentinelSkipRead
    | _ => exact ⟨(Option.bind_fun_some _).symm, Iff.rfl⟩
  | listenTLS key =>
    cases key with
    | enabled => exact readFrom_parsed listenRead
    | _ => exact ⟨(Option.bind_fun_some _).symm, Iff.rfl⟩
  | masterTLS key =>
    cases key with
    | enabled => exact readFrom_parsed masterRead
    | skipVerify => exact readFrom_parsed masterSkipRead
    | _ => exact ⟨(Option.bind_fun_some _).symm, Iff.rfl⟩
  | _ => exact ⟨(Option.bind_fun_some _).symm, Iff.rfl⟩

end Environment

section Loading

variable {host : Host} {flags : Option Config} {path : String}

/-- The options of the configuration file; without a file there is none. -/
def FileSource (host : Host) (path : String) (file : Config) : Prop :=
  if path = "" then file = {} else loadFile host path = .ok file

/-- The value of the first source that sets the option: the flags, the environment, the
file, the defaults. -/
def Key.chosen (key : Key) (flags : Option Config) (env file : Config) : Option key.Value :=
  (flags.bind key.get).or ((key.get env).or ((key.get file).or (key.get default)))

private theorem get_flags (key : Key) : key.get (flags.getD {}) = flags.bind key.get := by
  cases flags with
  | none => exact get_empty key
  | some config => rfl

theorem sources_ok {merged : Config} (sourced : sources host flags path = .ok merged) :
    ∃ env file, fromEnv host = .ok env ∧ FileSource host path file ∧
      ∀ key : Key, key.get merged = key.chosen flags env file := by
  obtain ⟨env, read, sourced⟩ := bind_eq_ok.mp sourced
  by_cases file : path ≠ ""
  · rw [if_pos file] at sourced
    obtain ⟨document, opened, sourced⟩ := bind_eq_ok.mp sourced
    cases sourced
    refine ⟨env, document, read, by rwa [FileSource, if_neg file], fun key => ?_⟩
    rw [get_merge, get_merge, get_merge, get_flags]
    simp only [fill, Key.chosen, Option.or_assoc]
  · rw [if_neg file] at sourced
    cases sourced
    refine ⟨env, {}, read, by rw [FileSource, if_pos (not_not.mp file)], fun key => ?_⟩
    rw [get_merge, get_merge, get_flags]
    simp only [fill, Key.chosen, Option.or_assoc, get_empty, Option.none_or]

theorem sources_passthrough {merged : Config} (sourced : sources host flags path = .ok merged) :
    sentinelPassthrough merged = sentinelPassthrough (flags.getD {}) := by
  obtain ⟨env, _, sourced⟩ := bind_eq_ok.mp sourced
  by_cases file : path ≠ ""
  · rw [if_pos file] at sourced
    obtain ⟨document, _, sourced⟩ := bind_eq_ok.mp sourced
    cases sourced
    simp only [merge_passthrough]
  · rw [if_neg file] at sourced
    cases sourced
    simp only [merge_passthrough]

theorem get_normalise (key : Key) (kept : key.adjusted = false) (config : Config) :
    key.get config.normalise = key.get config := by
  simp only [normalise]
  split <;> split <;> cases key <;> first | rfl | cases kept

theorem get_setups (key : Key) (config : Config) (tls : TLSSetups) :
    key.get { config with tls } = key.get config := by
  cases key <;> rfl

/-- A loaded configuration: its sources, what they were merged into, and the final
adjustment, which leaves all other options as they are. -/
structure Layered (host : Host) (flags : Option Config) (path : String) (config : Config)
    (env file merged : Config) : Prop where
  environment : fromEnv host = .ok env
  readout : ∀ key : Key, ReadFrom host env key
  document : FileSource host path file
  first : ∀ key : Key, key.get merged = key.chosen flags env file
  adjusted : ∃ tls, config = normalise { merged with tls }
  kept : ∀ key : Key, key.adjusted = false → key.get config = key.chosen flags env file

theorem load_layered {config : Config} (loaded : load host flags path = .ok config) :
    ∃ env file merged, Layered host flags path config env file merged := by
  obtain ⟨merged, tls, sourced, _, rfl⟩ := load_ok loaded
  obtain ⟨env, file, read, opened, first⟩ := sources_ok sourced
  refine ⟨env, file, merged, read, fromEnv_ok read, opened, first, ⟨tls, rfl⟩, ?_⟩
  intro key kept
  rw [get_normalise key kept, get_setups, first]

end Loading

end SentinelProxy.Config
