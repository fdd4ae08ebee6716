import SentinelProxy.Config.Precedence

/-! Pointers of a loaded configuration: the defaults at the end of the merge fill every
option that is dereferenced later, and the final adjustment takes none of them away that is
still needed. -/

namespace SentinelProxy.Config

/-- The computation does not end in this failure. -/
def Avoids (result : Except ε α) (failure : ε) : Prop := result ≠ .error failure

section Avoiding

variable {failure : ε}

theorem Avoids.ok (value : α) : Avoids (.ok value) failure := by
  intro crash
  cases crash

theorem Avoids.error {other : ε} (different : other ≠ failure) :
    Avoids (.error other : Except ε α) failure := by
  intro crash
  cases crash
  exact different rfl

theorem Avoids.bind {value : Except ε α} {next : α → Except ε β} (first : Avoids value failure)
    (later : ∀ produced, value = .ok produced → Avoids (next produced) failure) :
    Avoids (value >>= next) failure := by
  cases value with
  | error other => exact Avoids.error fun same => first (congrArg Except.error same)
  | ok produced => exact later produced rfl

end Avoiding

private theorem deref_avoids {pointer : Option α} (set : pointer.isSome = true) :
    Avoids (deref pointer) .nilPointer := by
  obtain ⟨value, rfl⟩ := Option.isSome_iff_exists.mp set
  exact .ok value

theorem isSome_of_strSet {text? : Option String} (set : strSet text? = true) :
    text?.isSome = true := by
  cases text? with
  | none => cases set
  | some text => rfl

/-- Every option that has a default is set. -/
def Complete (config : Config) : Prop :=
  ∀ key : Key, (key.get default).isSome = true → (key.get config).isSome = true

section Sources

variable {host : Host} {flags : Option Config} {path : String}

theorem sources_complete {merged : Config} (sourced : sources host flags path = .ok merged) :
    Complete merged := by
  obtain ⟨env, file, _, _, first⟩ := sources_ok sourced
  intro key set
  rw [first, Key.chosen]
  simp [Option.isSome_or, set]

private theorem parsedEnv_avoids (parse : String → Option α) (name : String) :
    Avoids (host.parsedEnv parse name) .nilPointer := by
  unfold Host.parsedEnv
  split
  · exact .ok _
  · split
    · exact .error nofun
    · exact .ok _

private theorem fromEnv_avoids : Avoids (fromEnv host) .nilPointer := by
  unfold fromEnv
  repeat' refine Avoids.bind (parsedEnv_avoids _ _) fun _ _ => ?_
  exact .ok _

private theorem loadFile_avoids : Avoids (loadFile host path) .nilPointer := by
  unfold loadFile
  split
  · exact .error nofun
  · split
    · exact .error nofun
    · exact .ok _
    · exact .ok _

private theorem sources_avoids : Avoids (sources host flags path) .nilPointer := by
  refine Avoids.bind fromEnv_avoids fun env _ => ?_
  split
  · refine Avoids.bind loadFile_avoids fun file _ => ?_
    exact .ok _
  · exact .ok _

end Sources

section Setups

variable {host : Host} {config : Config}

/-- The pool of a CA file that may be missing, and what is done with it. -/
theorem pool_avoids {file : Option String} {error : String → Failure}
    {next : Option String → Except Failure α} (different : ∀ path, error path ≠ .nilPointer)
    (later : ∀ pool, Avoids (next pool) .nilPointer) :
    Avoids (do
      let pool ←
        if strSet file then do
          let path ← deref file
          if loadCertPool host path then .ok (some path) else .error (error path)
        else .ok none
      next pool) .nilPointer := by
  dsimp only
  split
  · rename_i set
    refine Avoids.bind (deref_avoids (isSome_of_strSet set)) fun path _ => ?_
    split
    · exact later _
    · exact .error (different path)
  · exact later _

/-- The same for a certificate, whose key file is set if its own file is. -/
theorem certificate_avoids {cert? key? : Option String} {error : String → String → Failure}
    {next : Option (String × String) → Except Failure α}
    (different : ∀ cert key, error cert key ≠ .nilPointer)
    (paired : strSet cert? = strSet key?) (later : ∀ pair, Avoids (next pair) .nilPointer) :
    Avoids (do
      let pair ←
        if strSet cert? then do
          let cert ← deref cert?
          let key ← deref key?
          if host.loadX509KeyPair cert key then .ok (some (cert, key))
          else .error (error cert key)
        else .ok none
      next pair) .nilPointer := by
  dsimp only
  split
  · rename_i set
    refine Avoids.bind (deref_avoids (isSome_of_strSet set)) fun cert _ => ?_
    refine Avoids.bind (deref_avoids (isSome_of_strSet (paired ▸ set))) fun key _ => ?_
    split
    · exact later _
    · exact .error (different cert key)
  · exact later _

/-- A client setup of a section with the two options that are dereferenced unchecked. -/
theorem clientTLSConf_avoids {errors : ClientErrors} {backend : BackendTLS}
    (serverName : backend.serverName.isSome = true) (skipVerify : backend.skipVerify.isSome = true)
    (ca : ∀ path, errors.ca path ≠ .nilPointer) (keyPair : errors.keyPair ≠ .nilPointer)
    (certificate : ∀ cert key, errors.certificate cert key ≠ .nilPointer) :
    Avoids (clientTLSConf host errors backend) .nilPointer := by
  unfold clientTLSConf
  refine Avoids.bind (deref_avoids serverName) fun _ _ => ?_
  refine Avoids.bind (deref_avoids skipVerify) fun _ _ => ?_
  refine pool_avoids ca fun pool => ?_
  split
  · exact .error keyPair
  · rename_i paired
    exact certificate_avoids certificate (not_not.mp paired) fun pair => .ok _

private theorem sentinelTLSConfig_avoids (complete : Complete config) :
    Avoids (sentinelTLSConfig host config) .nilPointer := by
  have serverName := complete (.sentinelTLS .serverName) rfl
  have skipVerify := complete (.sentinelTLS .skipVerify) rfl
  unfold sentinelTLSConfig
  split
  · exact .ok _
  · rename_i backend present
    simp only [Key.get, present] at serverName skipVerify
    split
    · exact .error nofun
    · split
      · refine Avoids.bind ?_ fun _ _ => .ok _
        exact clientTLSConf_avoids serverName skipVerify nofun nofun nofun
      · split
        · exact .error nofun
        · exact .ok _

private theorem listenTLSConfig_avoids : Avoids (listenTLSConfig host config) .nilPointer := by
  unfold listenTLSConfig
  split
  · exact .ok _
  · rename_i listen present
    split
    · split
      · exact .error nofun
      · rename_i paired
        simp only [Bool.or_eq_true, Bool.not_eq_true', not_or, Bool.not_eq_false] at paired
        refine Avoids.bind (deref_avoids (isSome_of_strSet paired.1)) fun _ _ => ?_
        refine Avoids.bind (deref_avoids (isSome_of_strSet paired.2)) fun _ _ => ?_
        split
        · exact .error nofun
        · exact pool_avoids nofun fun pool => .ok _
    · split
      · exact .error nofun
      · exact .ok _

private theorem masterTLSConfig_avoids (complete : Complete config) :
    Avoids (masterTLSConfig host config) .nilPointer := by
  have serverName := complete (.masterTLS .serverName) rfl
  have skipVerify := complete (.masterTLS .skipVerify) rfl
  unfold masterTLSConfig
  split
  · exact .ok _
  · rename_i backend present
    simp only [Key.get, present] at serverName skipVerify
    split
    · exact .error nofun
    · split
      · exact .ok _
      · refine Avoids.bind (clientTLSConf_avoids serverName skipVerify nofun nofun nofun)
          fun _ _ => ?_
        split
        · exact .ok _
        · exact .ok _

end Setups

private theorem validate_avoids {host : Host} {config : Config} (complete : Complete config) :
    Avoids (validate host config) .nilPointer := by
  unfold validate
  refine Avoids.bind (deref_avoids (complete .replicaFallback rfl)) fun fallback _ => ?_
  split
  · exact .error nofun
  · refine Avoids.bind (deref_avoids (complete .router rfl)) fun router _ => ?_
    split
    · exact .error nofun
    · refine Avoids.bind (sentinelTLSConfig_avoids complete) fun _ _ => ?_
      refine Avoids.bind listenTLSConfig_avoids fun _ _ => ?_
      refine Avoids.bind (masterTLSConfig_avoids complete) fun _ _ => ?_
      exact .ok _

section Loaded

variable {host : Host} {flags : Option Config} {path : String} {config : Config}

/-- Loading never dereferences a nil pointer. -/
theorem load_avoids : Avoids (load host flags path) .nilPointer := by
  refine Avoids.bind sources_avoids fun merged sourced => ?_
  exact Avoids.bind (validate_avoids (sources_complete sourced)) fun _ _ => .ok _

/-- What a loaded configuration can be relied on for. -/
structure Usable (config : Config) : Prop where
  set : ∀ key : Key, key.adjusted = false → (key.get default).isSome = true →
    (key.get config).isSome = true
  fallback : strSet config.replicaListen = true → config.replicaFallback.isSome = true
  endpoint : strSet config.listen = true ∨ strSet config.replicaListen = true

private theorem normalise_endpoint (config : Config) :
    strSet config.normalise.listen = true ∨ strSet config.normalise.replicaListen = true := by
  rw [normalise_replicaListen]
  by_cases bare : (!strSet config.listen && !strSet config.replicaListen) = true
  · left
    simp only [normalise, if_pos bare]
    split <;> rfl
  · have kept : config.normalise.listen = config.listen := by
      simp only [normalise, if_neg bare]
      split <;> rfl
    rw [kept]
    simpa [or_iff_not_imp_left] using bare

private theorem normalise_fallback (complete : Complete config)
    (set : strSet config.normalise.replicaListen = true) :
    config.normalise.replicaFallback.isSome = true := by
  have fallback : config.replicaFallback.isSome = true := complete .replicaFallback rfl
  rw [normalise_replicaListen] at set
  have present : config.replicaListen ≠ some "" := by
    intro empty
    rw [empty] at set
    cases set
  simp only [normalise]
  split
  · exact fallback
  · exact fallback

theorem load_usable (loaded : load host flags path = .ok config) : Usable config := by
  obtain ⟨merged, tls, sourced, _, rfl⟩ := load_ok loaded
  have complete := sources_complete sourced
  have still : Complete { merged with tls } := fun key set => by
    rw [get_setups]
    exact complete key set
  refine ⟨?_, normalise_fallback still, normalise_endpoint _⟩
  intro key kept set
  rw [get_normalise key kept]
  exact still key set

end Loaded

end SentinelProxy.Config
