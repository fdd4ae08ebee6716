import SentinelProxy.Config.Complete
import SentinelProxy.Proxy.Construct

/-! Resolver and proxy built from a loaded configuration: no pointer they dereference is
nil, and an endpoint is always configured. -/

namespace SentinelProxy.Proxy

open SentinelProxy.Config SentinelProxy.Net SentinelProxy.Resolver

variable {lookups : Lookups} {abilities : Abilities} {config : Config}

private theorem newRedisMasterResolver_builds (usable : Usable config) :
    ∃ resolver, newRedisMasterResolver config = .ok resolver := by
  obtain ⟨master, masterSet⟩ := Option.isSome_iff_exists.mp (usable.set .master rfl rfl)
  obtain ⟨sentinel, sentinelSet⟩ := Option.isSome_iff_exists.mp (usable.set .sentinel rfl rfl)
  obtain ⟨retries, retriesSet⟩ := Option.isSome_iff_exists.mp (usable.set .resolveRetries rfl rfl)
  simp only [Key.get] at masterSet sentinelSet retriesSet
  simp [newRedisMasterResolver, masterSet, sentinelSet, retriesSet, Config.deref, bind,
    Except.bind, pure, Except.pure]

private theorem proxyDeref_avoids {pointer : Option α} (set : pointer.isSome = true)
    (failure : Failure) :
    Avoids (deref pointer) failure := by
  obtain ⟨value, rfl⟩ := Option.isSome_iff_exists.mp set
  exact .ok value

private theorem endpoint_avoids {error : LookupError → Failure} {setting : Option String}
    {failure : Failure} (different : ∀ cause, error cause ≠ failure) :
    Avoids (endpoint lookups error setting) failure := by
  unfold endpoint
  split
  · exact .ok _
  · split
    · exact .ok _
    · split
      · exact .error (different _)
      · exact .ok _

/-- The two failures that a loaded configuration rules out. -/
def Ruled (failure : Failure) : Prop := failure = .nilPointer ∨ failure = .noEndpoint

private theorem replicaEndpoint_avoids (usable : Usable config) {failure : Failure}
    (ruled : Ruled failure) : Avoids (replicaEndpoint lookups abilities config) failure := by
  refine Avoids.bind (endpoint_avoids ?_) fun addr? located => ?_
  · rintro cause rfl
    simp [Ruled] at ruled
  · cases addr? with
    | none => exact .ok _
    | some addr =>
      dsimp only
      split
      · refine .error ?_
        rintro rfl
        simp [Ruled] at ruled
      · have set := usable.fallback (endpoint_isSome located).symm
        exact Avoids.bind (proxyDeref_avoids set failure) fun _ _ => .ok _

private theorem routerMode_avoids {localAddr : Option TCPAddr} {failure : Failure}
    (ruled : Ruled failure) : Avoids (routerMode abilities config localAddr) failure := by
  have routerless : Failure.routerWithoutListen ≠ failure := by
    rintro rfl
    simp [Ruled] at ruled
  have untracked : Failure.noReplicaTracking ≠ failure := by
    rintro rfl
    simp [Ruled] at ruled
  unfold routerMode
  split
  · split
    · exact .error routerless
    · split
      · exact .error untracked
      · exact .ok _
  · exact .ok _

/-- The constructor neither crashes nor misses an endpoint. -/
theorem newRedisSentinelProxy_avoids (usable : Usable config) {failure : Failure}
    (ruled : Ruled failure) :
    Avoids (newRedisSentinelProxy lookups abilities config) failure := by
  unfold newRedisSentinelProxy
  refine Avoids.bind (proxyDeref_avoids (usable.set .maxConnections rfl rfl) _) fun _ _ => ?_
  refine Avoids.bind (proxyDeref_avoids (usable.set .idleTimeout rfl rfl) _) fun _ _ => ?_
  refine Avoids.bind (proxyDeref_avoids (usable.set .debug rfl rfl) _) fun _ _ => ?_
  refine Avoids.bind (endpoint_avoids ?_) fun localAddr located => ?_
  · rintro cause rfl
    simp [Ruled] at ruled
  · refine Avoids.bind (replicaEndpoint_avoids usable ruled) fun found replica => ?_
    obtain ⟨replicaAddr, fallback⟩ := found
    have listens := endpoint_isSome located
    have reads := replicaEndpoint_isSome replica
    dsimp only
    split
    · rename_i missing
      simp only [Bool.and_eq_true, Option.isNone_iff_eq_none] at missing
      rcases usable.endpoint with listen | replicaListen
      · rw [← listens, missing.1] at listen
        cases listen
      · rw [← reads, missing.2] at replicaListen
        cases replicaListen
    · exact Avoids.bind (routerMode_avoids ruled) fun _ _ => .ok _

/-- A loaded configuration is safe to use: loading dereferences no nil pointer whatever its
sources are, and neither does building the resolver or the proxy from the result, for which
an endpoint is always configured. -/
theorem loaded_safe (host : Host) (flags : Option Config) (path : String) :
    load host flags path ≠ .error .nilPointer ∧
      ∀ config, load host flags path = .ok config →
        (∃ resolver, newRedisMasterResolver config = .ok resolver) ∧
        (∀ lookups abilities,
          newRedisSentinelProxy lookups abilities config ≠ .error .nilPointer ∧
            newRedisSentinelProxy lookups abilities config ≠ .error .noEndpoint) ∧
        (strSet config.replicaListen = true → config.replicaFallback.isSome = true) ∧
        (strSet config.listen = true ∨ strSet config.replicaListen = true) := by
  refine ⟨load_avoids, fun config loaded => ?_⟩
  have usable := load_usable loaded
  refine ⟨newRedisMasterResolver_builds usable, fun lookups abilities => ?_, usable.fallback,
    usable.endpoint⟩
  exact ⟨newRedisSentinelProxy_avoids usable (.inl rfl),
    newRedisSentinelProxy_avoids usable (.inr rfl)⟩

end SentinelProxy.Proxy
