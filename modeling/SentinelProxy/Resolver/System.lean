import Mathlib.Logic.Function.Basic
import Mathlib.Logic.Relation
import SentinelProxy.Resolver.Phase

/-! The resolver at work: the update loop, callers that force a refresh, and readers,
interleaved step by step, with a log of what happened. -/

namespace SentinelProxy.Resolver

open SentinelProxy.Net

structure Round where
  id : Nat
  phase : Phase
  deriving DecidableEq, Repr

/-- Where the update loop stands. `errCount` counts failures against the retry budget,
`wait` is the time until the next attempt in nanoseconds. -/
inductive Loop where
  | initial (errCount : Int64) (round : Round)
  | initialWait (errCount wait : Int64) (fault : Fault)
  | tick (errCount : Int64)
  | steady (errCount : Int64) (round : Round)
  | backoff (errCount wait : Int64) (fault : Fault)
  | returned (outcome : Option Fault)
  deriving DecidableEq, Repr

/-- A caller of `RefreshAddresses`; `resolving` holds the refresh lock. -/
inductive Caller where
  | idle
  | waiting
  | resolving (round : Round)
  deriving DecidableEq, Repr

inductive Thread where
  | loop
  | caller (id : Nat)
  deriving DecidableEq, Repr

/-- What happened, each with the round it belongs to. -/
inductive Event where
  | answered (round : Nat) (reply : MasterReply)
  | located (round : Nat) (host port : String) (addr : TCPAddr)
  | role (round : Nat) (addr : String) (reply : RoleReply)
  | masterResolved (round : Nat) (addr : TCPAddr)
  | masterStored (round : Nat) (addr : TCPAddr)
  | listed (round : Nat) (entries : List Fields)
  | replicasResolved (round : Nat) (addrs : List String)
  | replicasStored (round : Nat) (addrs : List String)
  | initialFinished (outcome : Option Fault)
  | refreshing (caller : Nat)
  | masterRead (addr : String)
  | replicaRead (picked : Picked)
  deriving DecidableEq, Repr

/-- The whole resolver; the log is newest first. -/
structure State where
  store : Store
  loop : Loop
  callers : Nat → Caller
  refreshLock : Option Nat
  initialDone : Bool
  cancelled : Bool
  started : Nat
  log : List Event

inductive Action where
  | work (thread : Thread) (answer : Answer)
  | timer
  | leave
  | cancel
  | call (caller : Nat)
  | acquire (caller : Nat) (throttled : Bool)
  | readMaster
  | readReplica

def second : Int64 := 1000000000

def sentinelNotReadyBackoff : Int64 := 10 * second

def resolveFailureBackoffCap : Int64 := 30 * second

/-- One second after the first failure, doubled with each further one, capped. -/
def resolveFailureBackoff (errCount : Int64) : Int64 :=
  if errCount < 1 then second
  else if 5 < errCount then resolveFailureBackoffCap
  else min (second <<< (errCount - 1)) resolveFailureBackoffCap

/-- A probe of a usable address: where it was found, and the role it gave. -/
def probeEvents (round : Nat) (network : Network) (host port : String) : List Event :=
  match usableTCPAddr network.toLookups host port with
  | .error _ => []
  | .ok addr => [.role round addr.string (network.role addr.string), .located round host port addr]

theorem mem_probeEvents {round : Nat} {network : Network} {host port : String} {event : Event}
    (member : event ∈ probeEvents round network host port) :
    (∃ addr reply, event = .role round addr reply) ∨
      ∃ addr, event = .located round host port addr := by
  unfold probeEvents at member
  split at member
  · cases member
  · rcases List.mem_cons.mp member with given | found
    · exact .inl ⟨_, _, given⟩
    · exact .inr ⟨_, List.mem_singleton.mp found⟩

/-- What a step of a round leaves in the log. -/
def Phase.events (sorter : Sorter) (round : Nat) : Phase → Answer → List Event
  | .query, .master reply => [.answered round reply]
  | .probe host port, .network network =>
    match probeMaster network host port with
    | .error _ => probeEvents round network host port
    | .ok (addr, _) => .masterResolved round addr :: probeEvents round network host port
  | .storeMaster addr _, .quiet => [.masterStored round addr]
  | .listReplicas, .replicas none => [.replicasResolved round []]
  | .listReplicas, .replicas (some entries) => [.listed round entries]
  | .examine found [], .quiet => [.replicasResolved round (sorter.lists found).1]
  | .examine _ (fields :: _), .network network =>
    if healthy fields then probeEvents round network (fields.text "ip") (fields.text "port") else []
  | .storeReplicas addrs _, .quiet => [.replicasStored round addrs]
  | _, _ => []

def Loop.round? : Loop → Option Round
  | .initial _ round => some round
  | .steady _ round => some round
  | _ => none

def Loop.resume (loop : Loop) (round : Round) : Loop :=
  match loop with
  | .initial errCount _ => .initial errCount round
  | .steady errCount _ => .steady errCount round
  | _ => loop

def Caller.round? : Caller → Option Round
  | .resolving round => some round
  | _ => none

namespace State

/-- Before anything happened: the initial resolve has begun its first round. -/
def init : State where
  store := {}
  loop := .initial 0 ⟨0, .query⟩
  callers := fun _ => .idle
  refreshLock := none
  initialDone := false
  cancelled := false
  started := 1
  log := []

def active (state : State) : Thread → Option Round
  | .loop => state.loop.round?
  | .caller id => (state.callers id).round?

def resume (state : State) (thread : Thread) (round : Round) : State :=
  match thread with
  | .loop => { state with loop := state.loop.resume round }
  | .caller id => { state with callers := Function.update state.callers id (.resolving round) }

/-- The initial resolve is over, whatever came of it. -/
def finishInitial (state : State) (outcome : Option Fault) : State :=
  { state with initialDone := true, log := .initialFinished outcome :: state.log }

/-- The head of the steady loop. -/
def enter (resolver : RedisMasterResolver) (errCount : Int64) (last : Option Fault) : Loop :=
  if errCount.toInt ≤ resolver.retryOnMasterResolveFail then .tick errCount else .returned last

variable (resolver : RedisMasterResolver) (sorter : Sorter)

/-- The loop's round has returned. -/
def loopDone (state : State) (outcome : Option Fault) : State :=
  match state.loop, outcome with
  | .initial _ _, none => { state.finishInitial none with loop := enter resolver 0 none }
  | .initial errCount _, some fault =>
    if fault.notReady then
      { state with loop := .initialWait errCount sentinelNotReadyBackoff fault }
    else if resolver.retryOnMasterResolveFail < (errCount + 1).toInt then
      { state.finishInitial (some fault) with loop := .returned (some fault) }
    else
      { state with
        loop := .initialWait (errCount + 1) (resolveFailureBackoff (errCount + 1)) fault }
  | .steady _ _, none => { state with loop := enter resolver 0 none }
  | .steady errCount _, some fault =>
    if fault.notReady then { state with loop := .backoff errCount sentinelNotReadyBackoff fault }
    else { state with loop := .backoff (errCount + 1) (resolveFailureBackoff (errCount + 1)) fault }
  | _, _ => state

/-- A thread's round has returned; a caller releases the refresh lock. -/
def finish (state : State) (thread : Thread) (outcome : Option Fault) : State :=
  match thread with
  | .loop => state.loopDone resolver outcome
  | .caller id =>
    { state with callers := Function.update state.callers id .idle, refreshLock := none }

def work (state : State) (thread : Thread) (answer : Answer) : Option State :=
  match state.active thread with
  | none => none
  | some round =>
    match round.phase.step resolver sorter answer state.store with
    | none => none
    | some (progress, store) =>
      let next := { state with
        store, log := round.phase.events sorter round.id answer ++ state.log }
      match progress with
      | .busy phase => some (next.resume thread ⟨round.id, phase⟩)
      | .done outcome => some (next.finish resolver thread outcome)

def timer (state : State) : Option State :=
  match state.loop with
  | .initialWait errCount _ _ =>
    some { state with
      loop := .initial errCount ⟨state.started, .query⟩, started := state.started + 1 }
  | .tick errCount =>
    some { state with
      loop := .steady errCount ⟨state.started, .query⟩, started := state.started + 1 }
  | .backoff errCount _ fault => some { state with loop := enter resolver errCount (some fault) }
  | _ => none

/-- The loop notices that its context is cancelled. -/
def leave (state : State) : Option State :=
  if !state.cancelled then none
  else
    match state.loop with
    | .initialWait _ _ fault =>
      some { state.finishInitial (some fault) with loop := .returned (some fault) }
    | .tick _ => some { state with loop := .returned none }
    | .backoff _ _ _ => some { state with loop := .returned none }
    | _ => none

/-- `RefreshAddresses` returns at once while the initial resolve is running. -/
def call (state : State) (id : Nat) : Option State :=
  match state.callers id with
  | .idle =>
    if state.initialDone then
      some { state with callers := Function.update state.callers id .waiting }
    else some state
  | _ => none

/-- A caller gets the refresh lock, and gives it back at once when throttled. -/
def acquire (state : State) (id : Nat) (throttled : Bool) : Option State :=
  match state.callers id, state.refreshLock with
  | .waiting, none =>
    if throttled then some { state with callers := Function.update state.callers id .idle }
    else
      some { state with
        callers := Function.update state.callers id (.resolving ⟨state.started, .query⟩)
        refreshLock := some id
        started := state.started + 1
        log := .refreshing id :: state.log }
  | _, _ => none

def step (state : State) : Action → Option State
  | .work thread answer => state.work resolver sorter thread answer
  | .timer => state.timer resolver
  | .leave => state.leave
  | .cancel => some { state with cancelled := true }
  | .call id => state.call id
  | .acquire id throttled => state.acquire id throttled
  | .readMaster =>
    if state.initialDone then
      some { state with log := .masterRead state.store.masterAddr :: state.log }
    else none
  | .readReplica =>
    if state.initialDone then
      some { state with
        store := state.store.replicaAddress.2
        log := .replicaRead state.store.replicaAddress.1 :: state.log }
    else none

/-- A sequence of steps, `none` where one of them cannot be taken. -/
def steps (state : State) : List Action → Option State
  | [] => some state
  | action :: rest => (state.step resolver sorter action).bind fun next => next.steps rest

end State

/-- The round a thread is in after a step of it. -/
def Progress.round? (id : Nat) : Progress → Option Round
  | .busy phase => some ⟨id, phase⟩
  | .done _ => none

/-- Log and end of the initial resolve, as a step of a round leaves them. -/
inductive Recorded (state next : State) (events : List Event) (progress : Progress) : Prop where
  | plain (log : next.log = events ++ state.log) (initial : next.initialDone = state.initialDone)
  | initial {outcome : Option Fault} (last : progress = .done outcome)
      (log : next.log = .initialFinished outcome :: (events ++ state.log))
      (initial : next.initialDone = true)

/-- Steps that leave all rounds where they are. -/
inductive Aside (state next : State) : Prop where
  | quiet (store : next.store = state.store) (log : next.log = state.log)
      (initial : next.initialDone = state.initialDone)
  | gaveUp {fault : Fault} (store : next.store = state.store)
      (log : next.log = .initialFinished (some fault) :: state.log)
      (initial : next.initialDone = true)
  | readMaster (ready : state.initialDone = true) (store : next.store = state.store)
      (log : next.log = .masterRead state.store.masterAddr :: state.log)
      (initial : next.initialDone = true)
  | readReplica (ready : state.initialDone = true)
      (store : next.store = state.store.replicaAddress.2)
      (log : next.log = .replicaRead state.store.replicaAddress.1 :: state.log)
      (initial : next.initialDone = true)

/-- A step as the rounds, the store and the log see it. -/
inductive Effect (resolver : RedisMasterResolver) (sorter : Sorter) (state : State)
    (action : Action) (next : State) : Prop where
  | work {thread : Thread} {round : Round} {answer : Answer} {progress : Progress}
      (taken : action = .work thread answer)
      (running : state.active thread = some round)
      (moved : round.phase.Moves resolver sorter answer state.store progress next.store)
      (active : next.active = Function.update state.active thread (progress.round? round.id))
      (started : next.started = state.started)
      (waiting : ∀ id, next.callers id = .waiting → state.callers id = .waiting)
      (recorded : Recorded state next (round.phase.events sorter round.id answer) progress)
  | start {thread : Thread} (taken : ∀ thread answer, action ≠ .work thread answer)
      (idle : state.active thread = none)
      (active : next.active = Function.update state.active thread (some ⟨state.started, .query⟩))
      (started : next.started = state.started + 1)
      (waiting : ∀ id, next.callers id = .waiting → state.callers id = .waiting)
      (store : next.store = state.store) (initial : next.initialDone = state.initialDone)
      (log : next.log = state.log ∨
        ∃ id, state.callers id = .waiting ∧ next.log = .refreshing id :: state.log)
  | aside (taken : ∀ thread answer, action ≠ .work thread answer)
      (active : next.active = state.active) (started : next.started = state.started)
      (waiting : ∀ id, next.callers id = .waiting →
        state.callers id = .waiting ∨ state.initialDone = true)
      (aside : Aside state next)

section Effects

variable {resolver : RedisMasterResolver} {sorter : Sorter} {state next : State}

private theorem active_ext {first second : State} (loop : first.loop.round? = second.loop.round?)
    (callers : ∀ id, (first.callers id).round? = (second.callers id).round?) :
    first.active = second.active := by
  funext thread
  cases thread with
  | loop => exact loop
  | caller id => exact callers id

private theorem active_loop {round? : Option Round} (loop : next.loop.round? = round?)
    (callers : next.callers = state.callers) :
    next.active = Function.update state.active .loop round? := by
  funext thread
  cases thread with
  | loop => simpa [State.active] using loop
  | caller id => simp [State.active, callers]

private theorem active_caller {id : Nat} (caller : Caller) (loop : next.loop = state.loop)
    (callers : next.callers = Function.update state.callers id caller) :
    next.active = Function.update state.active (.caller id) caller.round? := by
  funext thread
  cases thread with
  | loop => simp [State.active, loop]
  | caller other =>
    by_cases same : other = id
    · subst same
      simp [State.active, callers]
    · simp [State.active, callers, same]

theorem active_after_work {thread other : Thread} {progress : Progress} {id : Nat} {later : Round}
    (active : next.active = Function.update state.active thread (progress.round? id))
    (runs : next.active other = some later) :
    (other = thread ∧ progress = .busy later.phase ∧ later.id = id) ∨
      other ≠ thread ∧ state.active other = some later := by
  rw [active] at runs
  by_cases same : other = thread
  · subst same
    rw [Function.update_self] at runs
    cases progress with
    | busy phase =>
      cases runs
      exact .inl ⟨rfl, rfl, rfl⟩
    | done outcome => cases runs
  · rw [Function.update_of_ne same] at runs
    exact .inr ⟨same, runs⟩

theorem active_after_start {thread other : Thread} {first later : Round}
    (active : next.active = Function.update state.active thread (some first))
    (runs : next.active other = some later) :
    (other = thread ∧ later = first) ∨ other ≠ thread ∧ state.active other = some later := by
  rw [active] at runs
  by_cases same : other = thread
  · subst same
    rw [Function.update_self] at runs
    exact .inl ⟨rfl, (Option.some.inj runs).symm⟩
  · rw [Function.update_of_ne same] at runs
    exact .inr ⟨same, runs⟩

/-- Readers and control steps leave both addresses as they are. -/
theorem Aside.addresses (step : Aside state next) :
    next.store.masterAddr = state.store.masterAddr ∧
      next.store.replicaAddrs = state.store.replicaAddrs := by
  cases step with
  | quiet store | gaveUp store | readMaster _ store =>
    rw [store]
    exact ⟨rfl, rfl⟩
  | readReplica _ store =>
    rw [store]
    rcases replicaAddress_store state.store with same | advanced
    · rw [same]
      exact ⟨rfl, rfl⟩
    · rw [advanced]
      exact ⟨rfl, rfl⟩

private theorem waiting_update {callers : Nat → Caller} {id other : Nat} {caller : Caller}
    (busy : caller ≠ .waiting) (waits : Function.update callers id caller other = .waiting) :
    callers other = .waiting := by
  by_cases same : other = id
  · subst same
    simp only [Function.update_self] at waits
    exact absurd waits busy
  · rwa [Function.update_of_ne same] at waits

theorem Loop.running {loop : Loop} {round : Round} (running : loop.round? = some round) :
    (∃ errCount, loop = .initial errCount round) ∨ ∃ errCount, loop = .steady errCount round := by
  cases loop with
  | initial errCount before => exact .inl ⟨errCount, by rw [Option.some.inj running]⟩
  | steady errCount before => exact .inr ⟨errCount, by rw [Option.some.inj running]⟩
  | _ => cases running

theorem Loop.resume_round? {loop : Loop} {before : Round} (running : loop.round? = some before)
    (round : Round) : (loop.resume round).round? = some round := by
  rcases Loop.running running with ⟨errCount, rfl⟩ | ⟨errCount, rfl⟩ <;> rfl

private theorem enter_round? (errCount : Int64) (last : Option Fault) :
    (State.enter resolver errCount last).round? = none := by
  unfold State.enter
  split <;> rfl

private theorem resume_active {thread : Thread} {before : Round}
    (running : state.active thread = some before) (round : Round) :
    (state.resume thread round).active = Function.update state.active thread (some round) := by
  cases thread with
  | loop => exact active_loop (Loop.resume_round? running round) rfl
  | caller id => exact active_caller (.resolving round) rfl rfl

private theorem resume_waiting {thread : Thread} {round : Round} {id : Nat}
    (waits : (state.resume thread round).callers id = .waiting) : state.callers id = .waiting := by
  cases thread with
  | loop => exact waits
  | caller other => exact waiting_update (by simp) waits

theorem loopDone_spec {round : Round} {outcome : Option Fault}
    (running : state.loop.round? = some round) (ended : state.loopDone resolver outcome = next) :
    next.loop.round? = none ∧ next.callers = state.callers ∧ next.store = state.store ∧
      next.started = state.started ∧ Recorded state next [] (.done outcome) := by
  rcases Loop.running running with ⟨errCount, initial⟩ | ⟨errCount, steady⟩
  · cases outcome with
    | none =>
      simp only [State.loopDone, initial] at ended
      subst ended
      exact ⟨enter_round? _ _, rfl, rfl, rfl, .initial rfl rfl rfl⟩
    | some fault =>
      simp only [State.loopDone, initial] at ended
      split at ended
      · subst ended
        exact ⟨rfl, rfl, rfl, rfl, .plain rfl rfl⟩
      · split at ended
        · subst ended
          exact ⟨rfl, rfl, rfl, rfl, .initial rfl rfl rfl⟩
        · subst ended
          exact ⟨rfl, rfl, rfl, rfl, .plain rfl rfl⟩
  · cases outcome with
    | none =>
      simp only [State.loopDone, steady] at ended
      subst ended
      exact ⟨enter_round? _ _, rfl, rfl, rfl, .plain rfl rfl⟩
    | some fault =>
      simp only [State.loopDone, steady] at ended
      split at ended
      · subst ended
        exact ⟨rfl, rfl, rfl, rfl, .plain rfl rfl⟩
      · subst ended
        exact ⟨rfl, rfl, rfl, rfl, .plain rfl rfl⟩

theorem finish_spec {thread : Thread} {round : Round} {outcome : Option Fault}
    (running : state.active thread = some round)
    (ended : state.finish resolver thread outcome = next) :
    next.active = Function.update state.active thread none ∧ next.store = state.store ∧
      next.started = state.started ∧
      (∀ id, next.callers id = .waiting → state.callers id = .waiting) ∧
      Recorded state next [] (.done outcome) := by
  cases thread with
  | loop =>
    obtain ⟨idle, callers, store, started, recorded⟩ := loopDone_spec running ended
    exact ⟨active_loop idle callers, store, started, fun id => by simp [callers], recorded⟩
  | caller id =>
    subst ended
    exact ⟨active_caller .idle rfl rfl, rfl, rfl, fun _ => waiting_update (by simp), .plain rfl rfl⟩

private theorem work_effect {thread : Thread} {answer : Answer}
    (worked : state.work resolver sorter thread answer = some next) :
    Effect resolver sorter state (.work thread answer) next := by
  unfold State.work at worked
  split at worked
  · cases worked
  · rename_i round running
    split at worked
    · cases worked
    · rename_i progress store stepped
      have moved := Phase.step_moves stepped
      have running' : State.active { state with
          store, log := round.phase.events sorter round.id answer ++ state.log } thread =
        some round := running
      cases progress with
      | busy phase =>
        obtain rfl := Option.some.inj worked
        refine @Effect.work _ _ _ _ _ thread round answer (.busy phase) rfl running ?_
          (resume_active running' _) ?_ (fun _ => resume_waiting) (.plain ?_ ?_)
        all_goals cases thread <;> first | exact moved | rfl
      | done outcome =>
        obtain ⟨active, same, started, waiting, recorded⟩ :=
          finish_spec running' (Option.some.inj worked)
        refine @Effect.work _ _ _ _ _ thread round answer (.done outcome) rfl running
          (by rw [same]; exact moved) active started waiting ?_
        cases recorded with
        | plain log initial => exact .plain log initial
        | initial last log initial => exact .initial last log initial

private theorem timer_effect (fired : state.timer resolver = some next) :
    Effect resolver sorter state .timer next := by
  unfold State.timer at fired
  split at fired
  case h_1 waits =>
    cases fired
    exact .start (by simp) (by rw [State.active, waits]; rfl) (active_loop rfl rfl) rfl
      (fun _ => id) rfl rfl
      (.inl rfl)
  case h_2 waits =>
    cases fired
    exact .start (by simp) (by rw [State.active, waits]; rfl) (active_loop rfl rfl) rfl
      (fun _ => id) rfl rfl
      (.inl rfl)
  case h_3 waits =>
    cases fired
    refine .aside (by simp) (active_ext ?_ fun _ => rfl) rfl (fun _ => .inl) (.quiet rfl rfl rfl)
    rw [waits]
    exact enter_round? _ _
  case h_4 => cases fired

private theorem leave_effect (left : state.leave = some next) :
    Effect resolver sorter state .leave next := by
  unfold State.leave at left
  split at left
  · cases left
  · split at left
    case h_1 waits =>
      cases left
      exact .aside (by simp) (active_ext (by rw [waits]; rfl) fun _ => rfl) rfl (fun _ => .inl)
        (.gaveUp rfl rfl rfl)
    case h_2 waits =>
      cases left
      exact .aside (by simp) (active_ext (by rw [waits]; rfl) fun _ => rfl) rfl (fun _ => .inl)
        (.quiet rfl rfl rfl)
    case h_3 waits =>
      cases left
      exact .aside (by simp) (active_ext (by rw [waits]; rfl) fun _ => rfl) rfl (fun _ => .inl)
        (.quiet rfl rfl rfl)
    case h_4 => cases left

theorem active_bystander {id : Nat} {caller : Caller} (before : (state.callers id).round? = none)
    (after : caller.round? = none) (loop : next.loop = state.loop)
    (callers : next.callers = Function.update state.callers id caller) :
    next.active = state.active := by
  rw [active_caller caller loop callers, after, ← before]
  exact Function.update_eq_self (Thread.caller id) state.active

private theorem call_effect {id : Nat} (called : state.call id = some next) :
    Effect resolver sorter state (.call id) next := by
  unfold State.call at called
  split at called
  · rename_i idle
    split at called
    · rename_i ready
      cases called
      exact .aside (by simp) (active_bystander (by rw [idle]; rfl) rfl rfl rfl) rfl
        (fun _ _ => .inr ready)
        (.quiet rfl rfl rfl)
    · cases called
      exact .aside (by simp) rfl rfl (fun _ => .inl) (.quiet rfl rfl rfl)
  · cases called

private theorem acquire_effect {id : Nat} {throttled : Bool}
    (acquired : state.acquire id throttled = some next) :
    Effect resolver sorter state (.acquire id throttled) next := by
  unfold State.acquire at acquired
  split at acquired
  · rename_i waits _
    split at acquired
    · cases acquired
      exact .aside (by simp) (active_bystander (by rw [waits]; rfl) rfl rfl rfl) rfl
        (fun _ still => .inl (waiting_update (by simp) still)) (.quiet rfl rfl rfl)
    · cases acquired
      exact .start (by simp) (by rw [State.active, waits]; rfl)
        (active_caller (.resolving _) rfl rfl) rfl
        (fun _ => waiting_update (by simp)) rfl rfl (.inr ⟨id, waits, rfl⟩)
  · cases acquired

theorem step_effect {action : Action} (stepped : state.step resolver sorter action = some next) :
    Effect resolver sorter state action next := by
  cases action with
  | work thread answer => exact work_effect stepped
  | timer => exact timer_effect stepped
  | leave => exact leave_effect stepped
  | cancel =>
    cases stepped
    exact .aside (by simp) rfl rfl (fun _ => .inl) (.quiet rfl rfl rfl)
  | call id => exact call_effect stepped
  | acquire id throttled => exact acquire_effect stepped
  | readMaster =>
    simp only [State.step] at stepped
    split at stepped
    · rename_i ready
      cases stepped
      exact .aside (by simp) rfl rfl (fun _ => .inl) (.readMaster ready rfl rfl ready)
    · cases stepped
  | readReplica =>
    simp only [State.step] at stepped
    split at stepped
    · rename_i ready
      cases stepped
      exact .aside (by simp) rfl rfl (fun _ => .inl) (.readReplica ready rfl rfl ready)
    · cases stepped

end Effects

/-- Runs whose steps all meet a condition. -/
def State.Leads (resolver : RedisMasterResolver) (sorter : Sorter)
    (allowed : State → Action → Prop) : State → State → Prop :=
  Relation.ReflTransGen fun state next =>
    ∃ action, allowed state action ∧ state.step resolver sorter action = some next

def State.Reachable (resolver : RedisMasterResolver) (sorter : Sorter)
    (allowed : State → Action → Prop) : State → Prop :=
  State.Leads resolver sorter allowed State.init

/-- What holds at first and is kept by every allowed step holds throughout. -/
theorem State.Leads.invariant {resolver : RedisMasterResolver} {sorter : Sorter}
    {allowed : State → Action → Prop} {holds : State → Prop} {first last : State}
    (run : State.Leads resolver sorter allowed first last) (initially : holds first)
    (kept : ∀ state next action, holds state → allowed state action →
      state.step resolver sorter action = some next → holds next) : holds last := by
  induction run with
  | refl => exact initially
  | tail _ stepped ih =>
    obtain ⟨action, permitted, moved⟩ := stepped
    exact kept _ _ action ih permitted moved

/-- A sequence of steps takes one reachable state to another if each of them is allowed
in the state it is taken in. -/
theorem State.Reachable.steps {resolver : RedisMasterResolver} {sorter : Sorter}
    {allowed : State → Action → Prop} {actions : List Action} {first last : State}
    (reached : State.Reachable resolver sorter allowed first)
    (ran : first.steps resolver sorter actions = some last)
    (permitted : ∀ done action rest state, actions = done ++ action :: rest →
      first.steps resolver sorter done = some state → allowed state action) :
    State.Reachable resolver sorter allowed last := by
  induction actions generalizing first with
  | nil => rwa [← Option.some.inj ran]
  | cons action rest ih =>
    obtain ⟨next, moved, ran⟩ := Option.bind_eq_some_iff.mp ran
    have allowedNow := permitted [] action rest first rfl rfl
    refine ih (reached.tail ⟨action, allowedNow, moved⟩) ran ?_
    intro done later others state split passed
    refine permitted (action :: done) later others state (by rw [split]; rfl) ?_
    simp [State.steps, moved, passed]

/-- A round keeps its number for as long as it runs. -/
theorem steps_round {resolver : RedisMasterResolver} {sorter : Sorter} {actions : List Action}
    {first last : State} {thread : Thread} {round later : Round}
    (own : ∀ action ∈ actions, ∃ answer, action = .work thread answer)
    (ran : first.steps resolver sorter actions = some last)
    (running : first.active thread = some round) (runs : last.active thread = some later) :
    later.id = round.id := by
  induction actions generalizing first round with
  | nil =>
    rw [← Option.some.inj ran, running] at runs
    rw [Option.some.inj runs]
  | cons action rest ih =>
    obtain ⟨next, moved, follows⟩ := Option.bind_eq_some_iff.mp ran
    obtain ⟨answer, rfl⟩ := own action List.mem_cons_self
    have remaining : ∀ action ∈ rest, ∃ answer, action = .work thread answer :=
      fun later member => own later (List.mem_cons_of_mem _ member)
    cases step_effect moved with
    | @work other before _ progress taken started _ active =>
      cases taken
      obtain rfl := Option.some.inj (running.symm.trans started)
      cases progress with
      | busy phase =>
        have inside : next.active thread = some ⟨round.id, phase⟩ := by
          rw [active, Function.update_self]
          rfl
        have same := ih remaining follows inside
        exact same
      | done outcome =>
        have idle : next.active thread = none := by
          rw [active, Function.update_self]
          rfl
        cases rest with
        | nil =>
          rw [← Option.some.inj follows, idle] at runs
          cases runs
        | cons action rest =>
          obtain ⟨answer, rfl⟩ := remaining action List.mem_cons_self
          simp [State.steps, State.step, State.work, idle] at follows
    | start taken => exact absurd rfl (taken thread answer)
    | aside taken => exact absurd rfl (taken thread answer)

section Scenarios

/-- A resolver that tracks replicas, with the default retry budget. -/
def tracker : RedisMasterResolver where
  masterName := "mymaster"
  sentinelAddr := ":26379"
  username := ""
  password := ""
  sentinelTLSConf := none
  masterTLSConf := none
  masterUsername := ""
  masterPassword := ""
  retryOnMasterResolveFail := 3
  trackReplicas := true

def nodes (roles : List (String × String)) : Network :=
  { Lookups.silent with
    role := fun addr =>
      match List.lookup addr roles with
      | none => .failed
      | some role => .elements [.text role]
    lookupPTR := fun _ => "" }

def entry (ip : String) : Fields :=
  [("ip", ip), ("port", "6379"), ("flags", "slave"), ("master-link-status", "ok")]

/-- The first steps of a round, up to the stored master. -/
def masterSteps (thread : Thread) (network : Network) (master : String) : List Action :=
  [.work thread (.master (.elements [master, "6379"])), .work thread (.network network),
    .work thread .quiet]

/-- The rest of a round: the replicas listed, probed and stored. -/
def replicaSteps (thread : Thread) (network : Network) (replicas : List String) : List Action :=
  .work thread (.replicas (some (replicas.map entry))) ::
    replicas.map (fun _ => .work thread (.network network)) ++
    [.work thread .quiet, .work thread .quiet]

end Scenarios

end SentinelProxy.Resolver
