import SentinelProxy.Proxy.Serve
import SentinelProxy.Transition.Machine

/-! How a session comes to its backends: an attempt and, where that fails, a second one after
the addresses have been refreshed; a routed session then looks for a replica. -/

namespace SentinelProxy.Proxy

open SentinelProxy.Resolver SentinelProxy.Transition

/-- What a backend is called in the log. -/
inductive Label where
  | master
  | replica
  | replicaFallback
  deriving DecidableEq, Repr

def Label.text : Label → String
  | .master => "master"
  | .replica => "replica"
  | .replicaFallback => "master (replica fallback)"

inductive Refusal where
  | noReplica
  | connecting (label : Label) (addr : String)
  deriving DecidableEq, Repr

/-- The text of the error, up to the text of the error it wraps. -/
def Refusal.text : Refusal → String
  | .noReplica => "no healthy replica available"
  | .connecting label addr => "error connecting to " ++ label.text ++ " " ++ addr

/-- What `pickAndDial` has returned. -/
inductive Attempt where
  | refused (refusal : Refusal)
  | connected (label : Label) (addr : String)
  deriving DecidableEq, Repr

/-- A node that is dialled, in plain text or with a TLS setup. -/
structure Dial where
  label : Label
  addr : String
  tls : Option TLSConf
  deriving DecidableEq, Repr

def RedisSentinelProxy.dialRedis (proxy : RedisSentinelProxy) (label : Label) (addr : String) :
    Dial where
  label
  addr
  tls := proxy.masterTLSConf

/-- Where `connectBackend` stands, and after it `dialReplicaForRouting`. The flag tells whether
the addresses have been refreshed before. -/
inductive Stage where
  | pick (refreshed : Bool)
  | fallback (refreshed : Bool)
  | dial (refreshed : Bool) (label : Label) (addr : String)
  | refresh
  | refreshing
  | pickReplica (refreshed : Bool)
  | refreshReplica
  | refreshingReplica
  | dialReplica (addr : String)
  | connected
  | rejected (refusal : Refusal)
  deriving DecidableEq, Repr

def RedisSentinelProxy.attemptLimit (proxy : RedisSentinelProxy) : Nat :=
  if proxy.refresher then 2 else 1

def RedisSentinelProxy.dialOf (proxy : RedisSentinelProxy) : Attempt → Option Dial
  | .refused .noReplica => none
  | .refused (.connecting label addr) => some (proxy.dialRedis label addr)
  | .connected label addr => some (proxy.dialRedis label addr)

/-- The failed attempts before the current one. -/
inductive Failed (proxy : RedisSentinelProxy) : Bool → List Attempt → Prop where
  | never : Failed proxy false []
  | once (refusal : Refusal) (able : proxy.refresher = true) : Failed proxy true [.refused refusal]

/-- The attempts of a session that has its backend. -/
def Backed (proxy : RedisSentinelProxy) (attempts : List Attempt) : Prop :=
  ∃ label addr refreshed failed, attempts = .connected label addr :: failed ∧
    Failed proxy refreshed failed

/-- The attempts of a session that is turned away. -/
def Exhausted (proxy : RedisSentinelProxy) (refusal : Refusal) (attempts : List Attempt) : Prop :=
  ∃ refreshed failed, attempts = .refused refusal :: failed ∧ Failed proxy refreshed failed ∧
    (refreshed || !proxy.refresher) = true

/-- What a stage tells about the attempts made so far. -/
def Stage.Tells (proxy : RedisSentinelProxy) (attempts : List Attempt) : Stage → Prop
  | .pick refreshed => Failed proxy refreshed attempts
  | .fallback refreshed => Failed proxy refreshed attempts
  | .dial refreshed _ _ => Failed proxy refreshed attempts
  | .refresh => Failed proxy true attempts
  | .refreshing => Failed proxy true attempts
  | .rejected refusal => Exhausted proxy refusal attempts
  | _ => Backed proxy attempts

/-- Stages of a routed session that looks for its replica. -/
def Stage.routing : Stage → Bool
  | .pickReplica _ => true
  | .refreshReplica => true
  | .refreshingReplica => true
  | .dialReplica _ => true
  | _ => false

def Stage.phase (routed : Bool) : Stage → Phase
  | .pick refreshed => .attempt refreshed
  | .fallback refreshed => .attempt refreshed
  | .dial refreshed _ _ => .attempt refreshed
  | .refresh => .refreshing
  | .refreshing => .refreshing
  | .pickReplica refreshed => .replicaAddress refreshed
  | .refreshReplica => .replicaRefreshing
  | .refreshingReplica => .replicaRefreshing
  | .dialReplica _ => .replicaDial
  | .connected => if routed then .routing else .piping 2
  | .rejected _ => .returning

section Attempts

variable {proxy : RedisSentinelProxy} {refreshed : Bool} {attempts : List Attempt}

theorem Failed.length (failed : Failed proxy refreshed attempts) :
    attempts.length + 1 ≤ proxy.attemptLimit := by
  cases failed with
  | never =>
    unfold RedisSentinelProxy.attemptLimit
    split <;> simp
  | once refusal able => simp [RedisSentinelProxy.attemptLimit, able]

theorem Failed.refused (failed : Failed proxy refreshed attempts) :
    ∀ attempt ∈ attempts, ∃ refusal, attempt = .refused refusal := by
  cases failed with
  | never => simp
  | once refusal able => simp

/-- After the first failure there is a second attempt, where the resolver can refresh. -/
theorem Failed.again (failed : Failed proxy refreshed attempts) (refusal : Refusal)
    (first : ¬(refreshed || !proxy.refresher) = true) :
    Failed proxy true (.refused refusal :: attempts) := by
  cases failed with
  | never =>
    have able : proxy.refresher = true := by simpa using first
    exact .once refusal able
  | once => simp at first

theorem Exhausted.length {refusal : Refusal}
    (exhausted : Exhausted proxy refusal attempts) : attempts.length = proxy.attemptLimit := by
  obtain ⟨refreshed, failed, rfl, before, last⟩ := exhausted
  cases before with
  | never =>
    have unable : proxy.refresher = false := by simpa using last
    simp [RedisSentinelProxy.attemptLimit, unable]
  | once refusal able => simp [RedisSentinelProxy.attemptLimit, able]

end Attempts

/-- A session that connects. Attempts and dials are kept with the latest first; `replica` is
the one a routed session reads from. -/
structure Dialler where
  endpoint : Endpoint
  stage : Stage
  attempts : List Attempt
  dials : List Dial
  replica : Option String
  deriving DecidableEq, Repr

/-- What a dialler waits for: an address of the resolver, the network, or a refresh. -/
inductive Reply where
  | masterAddress (addr : String)
  | replicaAddress (picked : Picked)
  | dialled (success : Bool)
  | called
  | returned
  deriving DecidableEq, Repr

namespace Dialler

def start (endpoint : Endpoint) : Dialler where
  endpoint
  stage := .pick false
  attempts := []
  dials := []
  replica := none

variable (proxy : RedisSentinelProxy)

/-- The attempt has failed: refresh and retry once, where the resolver can refresh. -/
def refuse (dialler : Dialler) (refreshed : Bool) (refusal : Refusal) : Dialler :=
  { dialler with
    attempts := .refused refusal :: dialler.attempts
    stage := if refreshed || !proxy.refresher then .rejected refusal else .refresh }

def connect (dialler : Dialler) (label : Label) (addr : String) : Dialler :=
  { dialler with
    attempts := .connected label addr :: dialler.attempts
    stage := if proxy.routes dialler.endpoint then .pickReplica false else .connected }

/-- One step, `none` where the reply is not the one the stage waits for. An index out of range
would end the program. -/
def step (dialler : Dialler) (reply : Reply) : Option Dialler :=
  match dialler.stage, reply with
  | .pick refreshed, .masterAddress addr =>
    match dialler.endpoint with
    | .master => some { dialler with stage := .dial refreshed .master addr }
    | .replica => none
  | .pick refreshed, .replicaAddress picked =>
    match dialler.endpoint, picked with
    | .replica, .address addr => some { dialler with stage := .dial refreshed .replica addr }
    | .replica, .unavailable =>
      if proxy.replicaFallbackMaster then some { dialler with stage := .fallback refreshed }
      else some (dialler.refuse proxy refreshed .noReplica)
    | _, _ => none
  | .fallback refreshed, .masterAddress addr =>
    some { dialler with stage := .dial refreshed .replicaFallback addr }
  | .dial refreshed label addr, .dialled success =>
    let dialler := { dialler with dials := proxy.dialRedis label addr :: dialler.dials }
    if success then some (dialler.connect proxy label addr)
    else some (dialler.refuse proxy refreshed (.connecting label addr))
  | .refresh, .called => some { dialler with stage := .refreshing }
  | .refreshing, .returned => some { dialler with stage := .pick true }
  | .pickReplica _, .replicaAddress (.address addr) =>
    some { dialler with stage := .dialReplica addr }
  | .pickReplica refreshed, .replicaAddress .unavailable =>
    some { dialler with
      stage := if refreshed || !proxy.refresher then .connected else .refreshReplica }
  | .refreshReplica, .called => some { dialler with stage := .refreshingReplica }
  | .refreshingReplica, .returned => some { dialler with stage := .pickReplica true }
  | .dialReplica addr, .dialled success =>
    some { dialler with
      stage := .connected
      dials := proxy.dialRedis .replica addr :: dialler.dials
      replica := if success then some addr else none }
  | _, _ => none

def machine (endpoint : Endpoint) : Machine Dialler Reply := ⟨start endpoint, step proxy⟩

/-- The steps, one by one. -/
inductive Advances (dialler : Dialler) : Reply → Dialler → Prop where
  | pickMaster {refreshed : Bool} {addr : String} (picks : dialler.stage = .pick refreshed)
      (side : dialler.endpoint = .master) :
      Advances dialler (.masterAddress addr) { dialler with stage := .dial refreshed .master addr }
  | pickReplica {refreshed : Bool} {addr : String} (picks : dialler.stage = .pick refreshed)
      (side : dialler.endpoint = .replica) :
      Advances dialler (.replicaAddress (.address addr))
        { dialler with stage := .dial refreshed .replica addr }
  | fallBack {refreshed : Bool} (picks : dialler.stage = .pick refreshed)
      (side : dialler.endpoint = .replica) (fallback : proxy.replicaFallbackMaster = true) :
      Advances dialler (.replicaAddress .unavailable)
        { dialler with stage := .fallback refreshed }
  | noReplica {refreshed : Bool} (picks : dialler.stage = .pick refreshed)
      (side : dialler.endpoint = .replica) (fallback : proxy.replicaFallbackMaster = false) :
      Advances dialler (.replicaAddress .unavailable) (dialler.refuse proxy refreshed .noReplica)
  | pickFallback {refreshed : Bool} {addr : String} (picks : dialler.stage = .fallback refreshed) :
      Advances dialler (.masterAddress addr)
        { dialler with stage := .dial refreshed .replicaFallback addr }
  | connect {refreshed : Bool} {label : Label} {addr : String}
      (dials : dialler.stage = .dial refreshed label addr) :
      Advances dialler (.dialled true)
        ({ dialler with dials := proxy.dialRedis label addr :: dialler.dials }.connect proxy
          label addr)
  | miss {refreshed : Bool} {label : Label} {addr : String}
      (dials : dialler.stage = .dial refreshed label addr) :
      Advances dialler (.dialled false)
        ({ dialler with dials := proxy.dialRedis label addr :: dialler.dials }.refuse proxy
          refreshed (.connecting label addr))
  | call (fails : dialler.stage = .refresh) :
      Advances dialler .called { dialler with stage := .refreshing }
  | retry (waits : dialler.stage = .refreshing) :
      Advances dialler .returned { dialler with stage := .pick true }
  | findReplica {refreshed : Bool} {addr : String}
      (picks : dialler.stage = .pickReplica refreshed) :
      Advances dialler (.replicaAddress (.address addr)) { dialler with stage := .dialReplica addr }
  | goWithout {refreshed : Bool} (picks : dialler.stage = .pickReplica refreshed)
      (last : (refreshed || !proxy.refresher) = true) :
      Advances dialler (.replicaAddress .unavailable) { dialler with stage := .connected }
  | lackReplica {refreshed : Bool} (picks : dialler.stage = .pickReplica refreshed)
      (first : (refreshed || !proxy.refresher) = false) :
      Advances dialler (.replicaAddress .unavailable) { dialler with stage := .refreshReplica }
  | callReplica (lacks : dialler.stage = .refreshReplica) :
      Advances dialler .called { dialler with stage := .refreshingReplica }
  | retryReplica (waits : dialler.stage = .refreshingReplica) :
      Advances dialler .returned { dialler with stage := .pickReplica true }
  | dialReplica {addr : String} {success : Bool} (dials : dialler.stage = .dialReplica addr) :
      Advances dialler (.dialled success)
        { dialler with
          stage := .connected
          dials := proxy.dialRedis .replica addr :: dialler.dials
          replica := if success then some addr else none }

variable {proxy} {dialler next : Dialler}

theorem refuse_stage (refreshed : Bool) (refusal : Refusal) :
    (dialler.refuse proxy refreshed refusal).stage = .rejected refusal ∨
      (dialler.refuse proxy refreshed refusal).stage = .refresh := by
  unfold refuse
  dsimp only
  split
  · exact .inl rfl
  · exact .inr rfl

theorem connect_stage (label : Label) (addr : String) :
    (dialler.connect proxy label addr).stage = .pickReplica false ∨
      (dialler.connect proxy label addr).stage = .connected := by
  unfold connect
  dsimp only
  split
  · exact .inl rfl
  · exact .inr rfl

theorem step_advances {reply : Reply} (stepped : dialler.step proxy reply = some next) :
    dialler.Advances proxy reply next := by
  unfold step at stepped
  split at stepped
  · split at stepped <;> cases stepped
    exact .pickMaster ‹_› ‹_›
  · split at stepped
    · cases stepped
      exact .pickReplica ‹_› ‹_›
    · split at stepped <;> cases stepped
      · exact .fallBack ‹_› ‹_› ‹_›
      · exact .noReplica ‹_› ‹_› (Bool.eq_false_iff.mpr ‹_›)
    · cases stepped
  · cases stepped
    exact .pickFallback ‹_›
  · rename_i success dials
    cases success <;> cases stepped
    · exact .miss dials
    · exact .connect dials
  · cases stepped
    exact .call ‹_›
  · cases stepped
    exact .retry ‹_›
  · cases stepped
    exact .findReplica ‹_›
  · rename_i refreshed picks
    cases stepped
    cases last : refreshed || !proxy.refresher
    · exact .lackReplica picks last
    · exact .goWithout picks last
  · cases stepped
    exact .callReplica ‹_›
  · cases stepped
    exact .retryReplica ‹_›
  · cases stepped
    exact .dialReplica ‹_›
  · cases stepped

section Outcome

/-- The invariant of a session that connects. -/
structure Accounted (proxy : RedisSentinelProxy) (dialler : Dialler) : Prop where
  tells : dialler.stage.Tells proxy dialler.attempts
  routed : dialler.stage.routing = true → proxy.routes dialler.endpoint = true
  alone : dialler.stage ≠ .connected → dialler.replica = none
  dialled : dialler.dials = dialler.attempts.filterMap proxy.dialOf ∨
    dialler.stage = .connected ∧ proxy.routes dialler.endpoint = true ∧ ∃ addr,
      dialler.dials = proxy.dialRedis .replica addr :: dialler.attempts.filterMap proxy.dialOf

theorem accounted_start (endpoint : Endpoint) : Accounted proxy (start endpoint) where
  tells := .never
  routed := nofun
  alone _ := rfl
  dialled := .inl rfl

/-- A refused attempt leads to the refresh or to the end. -/
theorem Accounted.refuse (accounted : Accounted proxy dialler) {refreshed : Bool}
    {refusal : Refusal} {dials : List Dial} (failed : Failed proxy refreshed dialler.attempts)
    (away : dialler.stage ≠ .connected)
    (dialled : dials = (Attempt.refused refusal :: dialler.attempts).filterMap proxy.dialOf) :
    Accounted proxy ({ dialler with dials }.refuse proxy refreshed refusal) := by
  refine ⟨?_, ?_, fun _ => accounted.alone away, .inl dialled⟩
  · unfold Dialler.refuse
    dsimp only
    split
    · rename_i last
      exact ⟨refreshed, dialler.attempts, rfl, failed, last⟩
    · rename_i first
      exact failed.again refusal first
  · unfold Dialler.refuse
    dsimp only
    split <;> nofun

/-- Steps that change nothing but the stage. -/
theorem Accounted.onward (accounted : Accounted proxy dialler) {stage : Stage}
    (away : dialler.stage ≠ .connected) (tells : stage.Tells proxy dialler.attempts)
    (routed : stage.routing = true → dialler.stage.routing = true) :
    Accounted proxy { dialler with stage } :=
  ⟨tells, fun routes => accounted.routed (routed routes), fun _ => accounted.alone away,
    .inl (accounted.dialled.resolve_right fun late => away late.1)⟩

theorem Accounted.step {reply : Reply} (accounted : Accounted proxy dialler)
    (stepped : dialler.step proxy reply = some next) : Accounted proxy next := by
  have tells := accounted.tells
  have single (away : dialler.stage ≠ .connected) :
      dialler.dials = dialler.attempts.filterMap proxy.dialOf :=
    accounted.dialled.resolve_right fun late => away late.1
  cases step_advances stepped with
  | pickMaster stands =>
    rw [stands] at tells
    exact accounted.onward (by simp [stands]) tells nofun
  | pickReplica stands =>
    rw [stands] at tells
    exact accounted.onward (by simp [stands]) tells nofun
  | fallBack stands =>
    rw [stands] at tells
    exact accounted.onward (by simp [stands]) tells nofun
  | noReplica stands =>
    rw [stands] at tells
    have away : dialler.stage ≠ .connected := by simp [stands]
    exact accounted.refuse tells away (single away)
  | pickFallback stands =>
    rw [stands] at tells
    exact accounted.onward (by simp [stands]) tells nofun
  | @connect refreshed label addr stands =>
    rw [stands] at tells
    have away : dialler.stage ≠ .connected := by simp [stands]
    have backed : Backed proxy (.connected label addr :: dialler.attempts) :=
      ⟨label, addr, refreshed, dialler.attempts, rfl, tells⟩
    have dialled : proxy.dialRedis label addr :: dialler.dials =
        (Attempt.connected label addr :: dialler.attempts).filterMap proxy.dialOf := by
      rw [single away]
      rfl
    unfold Dialler.connect
    dsimp only
    split
    · rename_i routed
      exact ⟨backed, fun _ => routed, fun _ => accounted.alone away, .inl dialled⟩
    · exact ⟨backed, nofun, fun _ => accounted.alone away, .inl dialled⟩
  | @miss refreshed label addr stands =>
    rw [stands] at tells
    have away : dialler.stage ≠ .connected := by simp [stands]
    refine accounted.refuse tells away ?_
    rw [single away]
    rfl
  | call stands =>
    rw [stands] at tells
    exact accounted.onward (by simp [stands]) tells nofun
  | retry stands =>
    rw [stands] at tells
    exact accounted.onward (by simp [stands]) tells nofun
  | findReplica stands =>
    rw [stands] at tells
    exact accounted.onward (by simp [stands]) tells fun _ => by rw [stands]; rfl
  | goWithout stands =>
    rw [stands] at tells
    exact accounted.onward (by simp [stands]) tells nofun
  | lackReplica stands =>
    rw [stands] at tells
    exact accounted.onward (by simp [stands]) tells fun _ => by rw [stands]; rfl
  | callReplica stands =>
    rw [stands] at tells
    exact accounted.onward (by simp [stands]) tells fun _ => by rw [stands]; rfl
  | retryReplica stands =>
    rw [stands] at tells
    exact accounted.onward (by simp [stands]) tells fun _ => by rw [stands]; rfl
  | @dialReplica addr success stands =>
    rw [stands] at tells
    have away : dialler.stage ≠ .connected := by simp [stands]
    have routed := accounted.routed (by rw [stands]; rfl)
    refine ⟨tells, nofun, fun other => absurd rfl other, .inr ⟨rfl, routed, addr, ?_⟩⟩
    rw [single away]

theorem accounted_of_reaches {endpoint : Endpoint}
    (reached : (machine proxy endpoint).Reaches (fun _ _ => True) dialler) :
    Accounted proxy dialler :=
  reached.invariant (accounted_start endpoint) fun _ _ _ _ accounted _ stepped =>
    accounted.step stepped

theorem Accounted.attempts_le (accounted : Accounted proxy dialler) :
    dialler.attempts.length ≤ proxy.attemptLimit := by
  have tells := accounted.tells
  have backed (connected : Backed proxy dialler.attempts) :
      dialler.attempts.length ≤ proxy.attemptLimit := by
    obtain ⟨label, addr, refreshed, failed, same, before⟩ := connected
    rw [same]
    exact before.length
  unfold Stage.Tells at tells
  split at tells
  · exact Nat.le_of_succ_le tells.length
  · exact Nat.le_of_succ_le tells.length
  · exact Nat.le_of_succ_le tells.length
  · exact Nat.le_of_succ_le tells.length
  · exact Nat.le_of_succ_le tells.length
  · obtain ⟨refreshed, failed, same, before, -⟩ := tells
    rw [same]
    exact before.length
  · exact backed tells

/-- A client costs at most two attempts, one where the resolver cannot refresh, and for a
routed session one more dial. It is turned away only when all of them have failed, with
the error of the last one, and a session that is connected is so by its last attempt. -/
theorem connect_outcome {endpoint : Endpoint}
    (reached : (machine proxy endpoint).Reaches (fun _ _ => True) dialler) :
    dialler.attempts.length ≤ proxy.attemptLimit ∧
      dialler.dials.length ≤ dialler.attempts.length + (proxy.routes dialler.endpoint).toNat ∧
      (∀ refusal, dialler.stage = .rejected refusal →
        dialler.attempts.head? = some (.refused refusal) ∧
          dialler.attempts.length = proxy.attemptLimit ∧
          ∀ attempt ∈ dialler.attempts, ∃ refusal, attempt = .refused refusal) ∧
      (dialler.stage = .connected → ∃ label addr,
        dialler.attempts.head? = some (.connected label addr) ∧
          ∀ attempt ∈ dialler.attempts.tail, ∃ refusal, attempt = .refused refusal) := by
  have accounted := accounted_of_reaches reached
  refine ⟨accounted.attempts_le, ?_, ?_, ?_⟩
  · have fits := List.length_filterMap_le proxy.dialOf dialler.attempts
    rcases accounted.dialled with same | ⟨-, routed, addr, same⟩
    · rw [same]
      omega
    · rw [same, routed, List.length_cons]
      exact Nat.succ_le_succ fits
  · intro refusal stands
    have exhausted : Exhausted proxy refusal dialler.attempts := by
      have tells := accounted.tells
      rwa [stands] at tells
    have length := exhausted.length
    obtain ⟨refreshed, failed, same, before, -⟩ := exhausted
    refine ⟨by rw [same]; rfl, length, ?_⟩
    rw [same]
    intro attempt member
    rcases List.mem_cons.mp member with rfl | earlier
    · exact ⟨refusal, rfl⟩
    · exact before.refused attempt earlier
  · intro stands
    have backed : Backed proxy dialler.attempts := by
      have tells := accounted.tells
      rwa [stands] at tells
    obtain ⟨label, addr, refreshed, failed, same, before⟩ := backed
    rw [same]
    exact ⟨label, addr, rfl, before.refused⟩

/-- A proxy in router mode. -/
def routingProxy : RedisSentinelProxy where
  localAddr := some ⟨[], 9999, ""⟩
  tlsConf := none
  masterTLSConf := none
  idleTimeout := 0
  sem := none
  debug := false
  refresher := true
  replicaAddr := none
  replicaResolver := true
  replicaFallbackMaster := false
  router := true

/-- Nobody answers, before the refresh and after it. -/
def nobodyThere : Dialler :=
  ((machine routingProxy .master).after
    [.masterAddress "10.0.0.1:6379", .dialled false, .called, .returned,
      .masterAddress "10.0.0.2:6379", .dialled false]).get (by decide)

theorem connect_outcome_nobodyThere :
    nobodyThere.attempts.length = 2 ∧
      ∀ attempt ∈ nobodyThere.attempts, ∃ refusal, attempt = .refused refusal :=
  ((connect_outcome (.after (Option.some_get _).symm)).2.2.1
    (.connecting .master "10.0.0.2:6379") (by decide)).2

end Outcome

section Refinement

/-- The connections a session has open. -/
def links (dialler : Dialler) : List Link :=
  (match dialler.replica with
    | some _ => [.replica]
    | none => []) ++
  match dialler.attempts with
  | .connected _ _ :: _ => [.backend, .client]
  | _ => [.client]

/-- The session as the server sees it. -/
def session (proxy : RedisSentinelProxy) (conn : Nat) (dialler : Dialler) : Session where
  conn
  routed := proxy.routes dialler.endpoint
  phase := dialler.stage.phase (proxy.routes dialler.endpoint)
  deferred := dialler.links
  opened := dialler.links
  released := 0

private theorem session_failed (accounted : Accounted proxy dialler) (conn : Nat) {refreshed : Bool}
    (failed : Failed proxy refreshed dialler.attempts) (away : dialler.stage ≠ .connected)
    (attempt : ∀ routed, dialler.stage.phase routed = .attempt refreshed) :
    dialler.session proxy conn =
      ⟨conn, proxy.routes dialler.endpoint, .attempt refreshed, [.client], [.client], 0⟩ := by
  have links : dialler.links = [.client] := by
    unfold links
    rw [accounted.alone away]
    generalize dialler.attempts = attempts at failed
    cases failed <;> rfl
  simp only [session, attempt, links]

private theorem session_refuse (conn : Nat) {refreshed : Bool} {refusal : Refusal}
    {dials : List Dial}
    (alone : dialler.replica = none) :
    ({ dialler with dials }.refuse proxy refreshed refusal).session proxy conn =
      ⟨conn, proxy.routes dialler.endpoint,
        if refreshed || !proxy.refresher then .returning else .refreshing,
        [.client], [.client], 0⟩ := by
  simp only [session, refuse, links, alone]
  split <;> rfl

private theorem session_connect (conn : Nat) {label : Label} {addr : String} {dials : List Dial}
    (alone : dialler.replica = none) :
    ({ dialler with dials }.connect proxy label addr).session proxy conn =
      ⟨conn, proxy.routes dialler.endpoint,
        if proxy.routes dialler.endpoint then .replicaAddress false else .piping 2,
        [.backend, .client], [.backend, .client], 0⟩ := by
  simp only [session, connect, links, alone]
  cases proxy.routes dialler.endpoint <;> rfl

/-- Steps the session does not see. -/
theorem session_stutter (conn : Nat) {stage : Stage}
    (same : ∀ routed, stage.phase routed = dialler.stage.phase routed) :
    { dialler with stage }.session proxy conn = dialler.session proxy conn := by
  simp [session, links, same]

private theorem move_refused (accounted : Accounted proxy dialler) (conn : Nat) {refreshed : Bool}
    {dials : List Dial} {refusal : Refusal} (failed : Failed proxy refreshed dialler.attempts)
    (away : dialler.stage ≠ .connected)
    (attempt : ∀ routed, dialler.stage.phase routed = .attempt refreshed) :
    (dialler.session proxy conn).move proxy (.attempt false) =
      some (({ dialler with dials }.refuse proxy refreshed refusal).session proxy conn) := by
  rw [session_failed accounted conn failed away attempt, session_refuse conn (accounted.alone away)]
  cases last : refreshed || !proxy.refresher <;> simp [Session.move, last]

private theorem move_connected (accounted : Accounted proxy dialler) (conn : Nat) {refreshed : Bool}
    {dials : List Dial} {label : Label} {addr : String}
    (failed : Failed proxy refreshed dialler.attempts) (away : dialler.stage ≠ .connected)
    (attempt : ∀ routed, dialler.stage.phase routed = .attempt refreshed) :
    (dialler.session proxy conn).move proxy (.attempt true) =
      some (({ dialler with dials }.connect proxy label addr).session proxy conn) := by
  rw [session_failed accounted conn failed away attempt,
    session_connect conn (accounted.alone away)]
  rfl

end Refinement

end Dialler

/-- A session after its handshake. -/
def Session.machine (proxy : RedisSentinelProxy) (endpoint : Endpoint) (conn : Nat) :
    Machine Session Move :=
  ⟨{ Session.start conn (proxy.routes endpoint) with phase := .attempt false }, Session.move proxy⟩

/-- The steps of `connectBackend` and `dialReplicaForRouting` are those of the session. -/
theorem connect_refines (proxy : RedisSentinelProxy) (endpoint : Endpoint) (conn : Nat) :
    Simulation (Dialler.machine proxy endpoint) (Session.machine proxy endpoint conn)
      (Dialler.session proxy conn) := by
  refine ⟨rfl, ?_⟩
  intro dialler reply next reached stepped
  have accounted := Dialler.accounted_of_reaches reached
  have tells := accounted.tells
  cases Dialler.step_advances stepped with
  | pickMaster stands =>
    exact .inl (Dialler.session_stutter conn (by simp [Stage.phase, stands]))
  | pickReplica stands =>
    exact .inl (Dialler.session_stutter conn (by simp [Stage.phase, stands]))
  | fallBack stands =>
    exact .inl (Dialler.session_stutter conn (by simp [Stage.phase, stands]))
  | pickFallback stands =>
    exact .inl (Dialler.session_stutter conn (by simp [Stage.phase, stands]))
  | noReplica stands =>
    rw [stands] at tells
    exact .inr ⟨.attempt false, Dialler.move_refused accounted conn tells (by simp [stands])
      (by simp [Stage.phase, stands])⟩
  | connect stands =>
    rw [stands] at tells
    exact .inr ⟨.attempt true, Dialler.move_connected accounted conn tells (by simp [stands])
      (by simp [Stage.phase, stands])⟩
  | miss stands =>
    rw [stands] at tells
    exact .inr ⟨.attempt false, Dialler.move_refused accounted conn tells (by simp [stands])
      (by simp [Stage.phase, stands])⟩
  | call stands =>
    exact .inl (Dialler.session_stutter conn (by simp [Stage.phase, stands]))
  | retry stands =>
    refine .inr ⟨.refresh, ?_⟩
    simp [Session.machine, Session.move, Dialler.session, Stage.phase, stands, Dialler.links]
  | findReplica stands =>
    refine .inr ⟨.replicaAddress true, ?_⟩
    simp [Session.machine, Session.move, Dialler.session, Stage.phase, stands, Dialler.links]
  | goWithout stands last =>
    have routed := accounted.routed (by rw [stands]; rfl)
    refine .inr ⟨.replicaAddress false, ?_⟩
    simp [Session.machine, Session.move, Dialler.session, Stage.phase, stands, Dialler.links, last,
      routed]
  | lackReplica stands first =>
    refine .inr ⟨.replicaAddress false, ?_⟩
    simp [Session.machine, Session.move, Dialler.session, Stage.phase, stands, Dialler.links, first]
  | callReplica stands =>
    exact .inl (Dialler.session_stutter conn (by simp [Stage.phase, stands]))
  | retryReplica stands =>
    refine .inr ⟨.replicaRefresh, ?_⟩
    simp [Session.machine, Session.move, Dialler.session, Stage.phase, stands, Dialler.links]
  | @dialReplica addr success stands =>
    rw [stands] at tells
    have routed := accounted.routed (by rw [stands]; rfl)
    have alone := accounted.alone (by simp [stands])
    obtain ⟨label, host, refreshed, failed, same, -⟩ := tells
    refine .inr ⟨.replicaDial success, ?_⟩
    cases success <;>
      simp [Session.machine, Session.move, Session.connect, Dialler.session, Stage.phase, stands,
        Dialler.links, routed, alone, same]

end SentinelProxy.Proxy
