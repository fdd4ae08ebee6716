import SentinelProxy.Resolver.Round

/-! The proxy built from a loaded configuration, next to the resolver built from the
same one: whether the two agree on tracking replicas. -/

namespace SentinelProxy.Proxy

open SentinelProxy.Net SentinelProxy.Resolver

/-- The optional abilities of the resolver the proxy is built with. -/
structure Abilities where
  replicaResolver : Bool
  addressRefresher : Bool

def redisMasterResolver : Abilities := ⟨true, true⟩

/-- `sem` is the capacity of the connection limit, `replicaResolver` whether the resolver
is asked for replicas. -/
structure RedisSentinelProxy where
  localAddr : Option TCPAddr
  tlsConf : Option TLSConf
  masterTLSConf : Option TLSConf
  idleTimeout : Int
  sem : Option Int
  debug : Bool
  refresher : Bool
  replicaAddr : Option TCPAddr
  replicaResolver : Bool
  replicaFallbackMaster : Bool
  router : Bool
  deriving DecidableEq, Repr

inductive Failure where
  | listenAddress (error : LookupError)
  | replicaListenAddress (error : LookupError)
  | noReplicaTracking
  | noEndpoint
  | routerWithoutListen
  | nilPointer
  deriving DecidableEq, Repr

/-- The text of an error, up to the text of the error it wraps. -/
def Failure.text : Failure → String
  | .listenAddress _ => "failed resolving listen address"
  | .replicaListenAddress _ => "failed resolving replica listen address"
  | .noReplicaTracking => "resolver does not support replica tracking"
  | .noEndpoint => "no endpoint configured: set listen and/or replica_listen"
  | .routerWithoutListen => "router mode requires the master endpoint (listen)"
  | .nilPointer => "invalid memory address or nil pointer dereference"

def deref : Option α → Except Failure α
  | none => .error .nilPointer
  | some value => .ok value

/-- An endpoint whose setting is missing or empty is disabled. -/
def endpoint (lookups : Lookups) (error : LookupError → Failure) (setting : Option String) :
    Except Failure (Option TCPAddr) :=
  match setting with
  | none => .ok none
  | some address =>
    if address = "" then .ok none
    else
      match resolveTCPAddr lookups address with
      | .error cause => .error (error cause)
      | .ok addr => .ok (some addr)

/-- The replica endpoint with what it falls back to. -/
def replicaEndpoint (lookups : Lookups) (abilities : Abilities) (config : Config) :
    Except Failure (Option TCPAddr × Bool) := do
  match ← endpoint lookups .replicaListenAddress config.replicaListen with
  | none => return (none, false)
  | some addr =>
    if !abilities.replicaResolver then .error .noReplicaTracking
    else
      let fallback ← deref config.replicaFallback
      return (some addr, fallback = Config.replicaFallbackMaster)

/-- Router mode needs the master endpoint. -/
def routerMode (abilities : Abilities) (config : Config) (localAddr : Option TCPAddr) :
    Except Failure Bool :=
  if config.router = some true then
    if localAddr.isNone then .error .routerWithoutListen
    else if !abilities.replicaResolver then .error .noReplicaTracking
    else .ok true
  else .ok false

def newRedisSentinelProxy (lookups : Lookups) (abilities : Abilities) (config : Config) :
    Except Failure RedisSentinelProxy := do
  let maxConnections ← deref config.maxConnections
  let idleTimeout ← deref config.idleTimeout
  let debug ← deref config.debug
  let localAddr ← endpoint lookups .listenAddress config.listen
  let (replicaAddr, replicaFallbackMaster) ← replicaEndpoint lookups abilities config
  if localAddr.isNone && replicaAddr.isNone then .error .noEndpoint
  else
    let router ← routerMode abilities config localAddr
    return {
      localAddr, idleTimeout, debug, replicaAddr, replicaFallbackMaster, router
      tlsConf := config.tls.listen
      masterTLSConf := config.tls.master
      sem := if 0 < maxConnections then some maxConnections else none
      refresher := abilities.addressRefresher
      replicaResolver := replicaAddr.isSome || router }

section Built

variable {lookups : Lookups} {abilities : Abilities} {config : Config}
  {proxy : RedisSentinelProxy}

theorem endpoint_isSome {error : LookupError → Failure} {setting : Option String}
    {addr? : Option TCPAddr} (resolved : endpoint lookups error setting = .ok addr?) :
    addr?.isSome = Config.strSet setting := by
  unfold endpoint at resolved
  split at resolved
  · cases resolved
    rfl
  · split at resolved
    · rename_i empty
      cases resolved
      simp [Config.strSet, empty]
    · rename_i present
      split at resolved
      · cases resolved
      · cases resolved
        simp [Config.strSet, present]

theorem replicaEndpoint_isSome {addr? : Option TCPAddr} {fallback : Bool}
    (resolved : replicaEndpoint lookups abilities config = .ok (addr?, fallback)) :
    addr?.isSome = Config.strSet config.replicaListen := by
  obtain ⟨found, located, resolved⟩ := Config.bind_eq_ok.mp resolved
  rw [← endpoint_isSome located]
  cases found with
  | none =>
    cases resolved
    rfl
  | some addr =>
    dsimp only at resolved
    split at resolved
    · cases resolved
    · obtain ⟨_, _, resolved⟩ := Config.bind_eq_ok.mp resolved
      cases resolved
      rfl

private theorem routerMode_ok {localAddr : Option TCPAddr} {router : Bool}
    (mode : routerMode abilities config localAddr = .ok router) :
    router = true ↔ config.router = some true := by
  unfold routerMode at mode
  split at mode
  · rename_i routed
    split at mode
    · cases mode
    · split at mode
      · cases mode
      · cases mode
        simp [routed]
  · rename_i plain
    cases mode
    simp [plain]

/-- What the constructor takes over: the replica endpoint and router mode. -/
theorem newRedisSentinelProxy_ok
    (built : newRedisSentinelProxy lookups abilities config = .ok proxy) :
    proxy.replicaAddr.isSome = Config.strSet config.replicaListen ∧
      (proxy.router = true ↔ config.router = some true) := by
  obtain ⟨_, _, built⟩ := Config.bind_eq_ok.mp built
  obtain ⟨_, _, built⟩ := Config.bind_eq_ok.mp built
  obtain ⟨_, _, built⟩ := Config.bind_eq_ok.mp built
  obtain ⟨localAddr, _, built⟩ := Config.bind_eq_ok.mp built
  obtain ⟨⟨replicaAddr, fallback⟩, replica, built⟩ := Config.bind_eq_ok.mp built
  dsimp only at built
  split at built
  · cases built
  · obtain ⟨router, mode, built⟩ := Config.bind_eq_ok.mp built
    cases built
    exact ⟨replicaEndpoint_isSome replica, routerMode_ok mode⟩

private theorem newRedisMasterResolver_ok {resolver : RedisMasterResolver}
    (built : newRedisMasterResolver config = .ok resolver) :
    resolver.trackReplicas = Config.strSet config.replicaListen := by
  obtain ⟨_, _, built⟩ := Config.bind_eq_ok.mp built
  obtain ⟨_, _, built⟩ := Config.bind_eq_ok.mp built
  obtain ⟨_, _, built⟩ := Config.bind_eq_ok.mp built
  cases built
  rfl

end Built

/-- The proxy asks the resolver for replicas: in router mode and on the replica endpoint. -/
def RedisSentinelProxy.Consults (proxy : RedisSentinelProxy) : Prop :=
  proxy.router = true ∨ proxy.replicaAddr.isSome = true

/-- The answers of a round resolve the master and show a replica worth keeping. -/
structure Healthy (answers : Answers) : Prop where
  master : ∃ resolved, resolveMasterAddress answers.master answers.masterNetwork = .ok resolved
  replica : ∃ entries index fields, answers.replicas = some entries ∧
    entries[index]? = some fields ∧ (examine (answers.replicaNetwork index) fields).isSome = true

/-- Whenever the proxy asks for replicas the resolver tracks them, and hands one out
after every round that has seen one. -/
structure Agree (proxy : RedisSentinelProxy) (resolver : RedisMasterResolver) : Prop where
  tracks : proxy.Consults → resolver.trackReplicas = true
  serves : proxy.Consults → ∀ sorter answers store, Healthy answers →
    ∃ addr, (updateMasterAddress resolver sorter answers store).2.replicaAddress.1 = .address addr

/-- A resolver that tracks replicas has one to hand out after a round that has seen one. -/
theorem updateMasterAddress_serves {resolver : RedisMasterResolver} {sorter : Sorter}
    {answers : Answers} {store : Store} (tracking : resolver.trackReplicas = true)
    (seen : Healthy answers) : ∃ addr,
      (updateMasterAddress resolver sorter answers store).2.replicaAddress.1 = .address addr := by
  obtain ⟨⟨addr, name⟩, resolved⟩ := seen.master
  obtain ⟨entries, index, fields, listed, entry, kept⟩ := seen.replica
  apply replicaAddress_known
  have gathered := gather_nonempty entry kept
  simp only [updateMasterAddress, resolved, tracking, resolveReplicaAddresses, listed, if_true,
    Option.map_some, Option.getD_some, Store.setReplicaAddresses, Sorter.lists]
  intro none?
  have empty := (sorter.perm (gather answers.replicaNetwork entries)).length_eq
  rw [List.map_eq_nil_iff.mp none?, List.length_nil] at empty
  exact gathered (List.length_eq_zero_iff.mp empty.symm)

section Agreement

variable {host : Config.Host} {flags : Option Config} {path : String} {lookups : Lookups}
  {config : Config} {resolver : RedisMasterResolver} {proxy : RedisSentinelProxy}

/-- Router mode without a replica endpoint is where proxy and resolver disagree. -/
theorem agree_iff (loaded : Config.load host flags path = .ok config)
    (resolving : newRedisMasterResolver config = .ok resolver)
    (built : newRedisSentinelProxy lookups redisMasterResolver config = .ok proxy) :
    Agree proxy resolver ↔
      (Config.setting host flags path Config.router ≠ some true ∨
        Config.strSet (Config.setting host flags path Config.replicaListen) = true) := by
  obtain ⟨endpoint, routed⟩ := newRedisSentinelProxy_ok built
  have tracked := newRedisMasterResolver_ok resolving
  rw [← Config.load_router loaded, ← Config.load_replicaListen loaded, ← tracked]
  constructor
  · intro agree
    by_cases router : config.router = some true
    · exact .inr (agree.tracks (.inl (routed.mpr router)))
    · exact .inl router
  · intro condition
    have tracks : proxy.Consults → resolver.trackReplicas = true := by
      rintro (router | replica)
      · exact condition.resolve_left (not_not.mpr (routed.mp router))
      · rw [tracked, ← endpoint, replica]
    exact ⟨tracks, fun consults _ _ _ seen => updateMasterAddress_serves (tracks consults) seen⟩

end Agreement

def bareHost : Config.Host where
  lookupEnv _ := none
  parseDuration _ := none
  readFile _ := none
  decodeYAML _ := .eof
  appendCertsFromPEM _ := false
  loadX509KeyPair _ _ := false

def routerAndReplica : Config :=
  { router := some true, listen := some ":10000", replicaListen := some ":10001" }

theorem agree_routerAndReplica : ∃ config resolver proxy,
    Config.load bareHost (some routerAndReplica) "" = .ok config ∧
      newRedisMasterResolver config = .ok resolver ∧
      newRedisSentinelProxy .silent redisMasterResolver config = .ok proxy ∧
      proxy.router = true ∧ Agree proxy resolver := by
  refine ⟨_, _, _, rfl, rfl, rfl, rfl, ?_⟩
  exact (@agree_iff bareHost (some routerAndReplica) "" .silent _ _ _ rfl rfl rfl).mpr (.inr rfl)

/-- With router mode alone the proxy asks for replicas that the resolver does not track. -/
theorem routerOnly_untracked : ∃ config resolver proxy,
    Config.load bareHost (some { router := some true }) "" = .ok config ∧
      newRedisMasterResolver config = .ok resolver ∧
      newRedisSentinelProxy .silent redisMasterResolver config = .ok proxy ∧
      proxy.Consults ∧ resolver.trackReplicas = false ∧ ¬Agree proxy resolver := by
  refine ⟨_, _, _, rfl, rfl, rfl, .inl rfl, rfl, ?_⟩
  intro agree
  cases agree.tracks (.inl rfl)

end SentinelProxy.Proxy
