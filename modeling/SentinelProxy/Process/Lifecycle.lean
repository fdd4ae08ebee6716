import SentinelProxy.Proxy.Serve
import SentinelProxy.Resolver.Budget
import SentinelProxy.Resolver.Throttle
import SentinelProxy.Transition.Group

/-! The whole process: the update loop and the proxy side by side, the listeners the proxy
binds, and what the process exits with. -/

namespace SentinelProxy

open SentinelProxy.Transition

namespace Proxy

/-- The endpoint whose accept loop takes a step. -/
def Action.endpoint? : Action → Option Endpoint
  | .listen endpoint => some endpoint
  | .accept endpoint _ => some endpoint
  | .decide endpoint => some endpoint
  | .launch endpoint => some endpoint
  | _ => none

/-- The turns of an accept loop. -/
inductive Listener.Turns (cancelled : Bool) : Action → Listener → Listener → Prop where
  | stops {endpoint : Endpoint} (told : cancelled = true) :
      Turns cancelled (.listen endpoint) .looping .stopped
  | listens {endpoint : Endpoint} (untold : cancelled = false) :
      Turns cancelled (.listen endpoint) .looping .accepting
  | accepts {endpoint : Endpoint} {conn : Nat} :
      Turns cancelled (.accept endpoint true) .accepting (.deciding conn)
  | closes {endpoint : Endpoint} (told : cancelled = true) :
      Turns cancelled (.accept endpoint false) .accepting .stopped
  | errs {endpoint : Endpoint} (untold : cancelled = false) :
      Turns cancelled (.accept endpoint false) .accepting .looping
  | admits {endpoint : Endpoint} {conn : Nat} :
      Turns cancelled (.decide endpoint) (.deciding conn) (.launching conn)
  | rejects {endpoint : Endpoint} {conn : Nat} :
      Turns cancelled (.decide endpoint) (.deciding conn) .looping
  | launches {endpoint : Endpoint} {conn : Nat} :
      Turns cancelled (.launch endpoint) (.launching conn) .looping

theorem Listener.Turns.running {cancelled : Bool} {action : Action} {before after : Listener}
    (turned : Turns cancelled action before after) : before ≠ .stopped := by
  cases turned <;> nofun

theorem Listener.Turns.told {cancelled : Bool} {action : Action} {before : Listener}
    (turned : Turns cancelled action before .stopped) : cancelled = true := by
  cases turned with
  | stops told => exact told
  | closes told => exact told

/-- A step of the server as its accept loops see it. -/
inductive Server.Hears (server : Server) (action : Action) (next : Server) : Prop where
  | turns {endpoint : Endpoint} {listener : Listener} (place : action.endpoint? = some endpoint)
      (turned : Listener.Turns server.cancelled action (server.listener endpoint) listener)
      (listeners : next.listener = Function.update server.listener endpoint listener)
      (cancelled : next.cancelled = server.cancelled)
  | bystands (place : action.endpoint? = none) (listeners : next.listener = server.listener)
      (cancelled : next.cancelled = server.cancelled)

theorem Server.step_hears {server next : Server} {action : Action} (ordinary : action ≠ .cancel)
    (stepped : server.step action = some next) : server.Hears action next := by
  cases action with
  | cancel => exact absurd rfl ordinary
  | listen endpoint =>
    simp only [Server.step] at stepped
    split at stepped
    · rename_i looping
      cases stepped
      cases told : server.cancelled with
      | true => exact .turns rfl (by rw [told, looping]; exact .stops rfl) rfl rfl
      | false => exact .turns rfl (by rw [told, looping]; exact .listens rfl) rfl rfl
    · cases stepped
  | accept endpoint success =>
    simp only [Server.step] at stepped
    split at stepped
    · rename_i accepting
      cases success with
      | true =>
        cases stepped
        exact .turns rfl (by rw [accepting]; exact .accepts) rfl rfl
      | false =>
        cases stepped
        cases told : server.cancelled with
        | true => exact .turns rfl (by rw [told, accepting]; exact .closes rfl) rfl rfl
        | false => exact .turns rfl (by rw [told, accepting]; exact .errs rfl) rfl rfl
    · cases stepped
  | decide endpoint =>
    simp only [Server.step] at stepped
    split at stepped
    · rename_i conn deciding
      cases stepped
      unfold letIn
      split
      · exact .turns rfl (by rw [deciding]; exact .admits) rfl rfl
      · split
        · exact .turns rfl (by rw [deciding]; exact .admits) rfl rfl
        · exact .turns rfl (by rw [deciding]; exact .rejects) rfl rfl
    · cases stepped
  | launch endpoint =>
    simp only [Server.step] at stepped
    split at stepped
    · rename_i conn launching
      cases stepped
      exact .turns rfl (by rw [launching]; exact .launches) rfl rfl
    · cases stepped
  | move index move =>
    simp only [Server.step] at stepped
    split at stepped
    · cases stepped
    · split at stepped
      · cases stepped
      · cases stepped
        exact .bystands rfl rfl rfl
  | release index =>
    simp only [Server.step] at stepped
    split at stepped
    · cases stepped
    · split at stepped
      · unfold Server.release at stepped
        split at stepped
        · cases stepped
          exact .bystands rfl rfl rfl
        · split at stepped
          · cases stepped
          · cases stepped
            exact .bystands rfl rfl rfl
      · cases stepped

def Server.machine (proxy : RedisSentinelProxy) : Machine Server Action :=
  ⟨Server.start proxy, Server.step⟩

end Proxy

/-- Why `runProxying` does not get as far as starting anything. -/
inductive Unready where
  | resolver (failure : Config.Failure)
  | proxy (failure : Proxy.Failure)

/-- What `runProxying` starts: the resolver and the proxy of one configuration. A proxy
always has an endpoint. -/
structure Setup where
  proxy : Proxy.RedisSentinelProxy
  resolver : Resolver.RedisMasterResolver
  sorter : Resolver.Sorter
  served : ∃ endpoint, proxy.serves endpoint = true

private theorem serves_of_built {lookups : Net.Lookups} {abilities : Proxy.Abilities}
    {config : Config}
    {proxy : Proxy.RedisSentinelProxy}
    (built : Proxy.newRedisSentinelProxy lookups abilities config = .ok proxy) :
    ∃ endpoint, proxy.serves endpoint = true := by
  obtain ⟨_, _, built⟩ := Config.bind_eq_ok.mp built
  obtain ⟨_, _, built⟩ := Config.bind_eq_ok.mp built
  obtain ⟨_, _, built⟩ := Config.bind_eq_ok.mp built
  obtain ⟨localAddr, _, built⟩ := Config.bind_eq_ok.mp built
  obtain ⟨⟨replicaAddr, fallback⟩, _, built⟩ := Config.bind_eq_ok.mp built
  dsimp only at built
  split at built
  · cases built
  · rename_i configured
    obtain ⟨_, _, built⟩ := Config.bind_eq_ok.mp built
    cases built
    cases localAddr with
    | some addr => exact ⟨.master, rfl⟩
    | none =>
      cases replicaAddr with
      | some addr => exact ⟨.replica, rfl⟩
      | none => exact absurd rfl configured

/-- The first half of `runProxying`. -/
def Setup.build (lookups : Net.Lookups) (sorter : Resolver.Sorter) (config : Config) :
    Except Unready Setup :=
  match Resolver.newRedisMasterResolver config with
  | .error failure => .error (.resolver failure)
  | .ok resolver =>
    match built : Proxy.newRedisSentinelProxy lookups Proxy.redisMasterResolver config with
    | .error failure => .error (.proxy failure)
    | .ok proxy => .ok ⟨proxy, resolver, sorter, serves_of_built built⟩

/-- The configuration with an endpoint of each kind. -/
example : ((Config.load Proxy.bareHost (some Proxy.routerAndReplica) "").toOption.map fun config =>
    (Setup.build .silent Resolver.insertionSorter config).toOption.isSome) = some true := rfl

/-- What the process fails with. -/
inductive Cause where
  | resolve (fault : Resolver.Fault)
  | bind (endpoint : Proxy.Endpoint)
  deriving DecidableEq, Repr

/-- The two tasks of the process. -/
inductive Task where
  | updateMasterAddressLoop
  | run
  deriving DecidableEq, Repr

inductive Socket where
  | unbound
  | opened
  | closed
  deriving DecidableEq, Repr

/-- Where `Run` stands: the endpoints it has still to bind, after which it waits for its
goroutines; the endpoint it could not bind, with its deferred close ahead; or its result. -/
inductive Run where
  | binding (rest : List Proxy.Endpoint)
  | failing (endpoint : Proxy.Endpoint)
  | returned (failed : Option Proxy.Endpoint)
  deriving DecidableEq, Repr

/-- `watched` tells for which endpoints `closeListenerByContext` has not returned. -/
structure Process where
  resolver : Resolver.State
  server : Proxy.Server
  socket : Proxy.Endpoint → Socket
  watched : Proxy.Endpoint → Bool
  run : Run
  group : Group Task Cause
  signalled : Bool
  exit : Option (Option Cause)

namespace Process

inductive Action where
  | signal
  | resolve (action : Resolver.Action)
  | serve (action : Proxy.Action)
  | bind (success : Bool)
  | closeListeners
  | closeListenerByContext (endpoint : Proxy.Endpoint)
  | join
  | report (task : Task)
  | exit

def endpoints (proxy : Proxy.RedisSentinelProxy) : List Proxy.Endpoint :=
  [.master, .replica].filter proxy.serves

def start (setup : Setup) : Process where
  resolver := .init
  server := .start setup.proxy
  socket _ := .unbound
  watched := setup.proxy.serves
  run := .binding (endpoints setup.proxy)
  group := ⟨[.updateMasterAddressLoop, .run], none⟩
  signalled := false
  exit := none

def cancel (process : Process) : Process :=
  { process with
    resolver := { process.resolver with cancelled := true }
    server := { process.server with cancelled := true } }

def result (process : Process) : Task → Option (Option Cause)
  | .updateMasterAddressLoop =>
    match process.resolver.loop with
    | .returned outcome => some (outcome.map .resolve)
    | _ => none
  | .run =>
    match process.run with
    | .returned failed => some (failed.map .bind)
    | _ => none

/-- An accept loop runs on a listener, and accepts nothing on a closed one. -/
def permits (process : Process) : Proxy.Action → Bool
  | .cancel => false
  | .accept endpoint true => process.socket endpoint = .opened
  | .accept endpoint false => process.socket endpoint ≠ .unbound
  | .listen endpoint => process.socket endpoint ≠ .unbound
  | .decide endpoint => process.socket endpoint ≠ .unbound
  | .launch endpoint => process.socket endpoint ≠ .unbound
  | .move _ _ => true
  | .release _ => true

/-- The goroutines of an endpoint have returned, if they were ever started. -/
def settled (process : Process) (endpoint : Proxy.Endpoint) : Bool :=
  process.socket endpoint = .unbound ||
    (process.server.listener endpoint = .stopped && !process.watched endpoint)

/-- The deferred close of the listeners that are there already. -/
def closed (socket : Proxy.Endpoint → Socket) (endpoint : Proxy.Endpoint) : Socket :=
  if socket endpoint = .opened then .closed else socket endpoint

/-- A task has reported to the group, which cancels the context at its first error. -/
def conclude (process : Process) (group : Group Task Cause) : Process :=
  if group.failure.isSome then { process.cancel with group } else { process with group }

def act (setup : Setup) (process : Process) : Action → Option Process
  | .signal => some { process.cancel with signalled := true }
  | .resolve .cancel => none
  | .resolve action =>
    (process.resolver.step setup.resolver setup.sorter action).map fun resolver =>
      { process with resolver }
  | .serve action =>
    if process.permits action then
      (process.server.step action).map fun server => { process with server }
    else none
  | .bind success =>
    match process.run with
    | .binding (endpoint :: rest) =>
      if success then
        some { process with
          socket := Function.update process.socket endpoint .opened
          run := .binding rest }
      else some { process with run := .failing endpoint }
    | _ => none
  | .closeListeners =>
    match process.run with
    | .failing endpoint =>
      some { process with socket := closed process.socket, run := .returned (some endpoint) }
    | _ => none
  | .closeListenerByContext endpoint =>
    if process.server.cancelled && process.watched endpoint &&
        decide (process.socket endpoint ≠ .unbound) then
      some { process with
        socket := Function.update process.socket endpoint .closed
        watched := Function.update process.watched endpoint false }
    else none
  | .join =>
    match process.run with
    | .binding [] =>
      if process.settled .master && process.settled .replica then
        some { process with run := .returned none }
      else none
    | _ => none
  | .report task =>
    match process.result task with
    | none => none
    | some outcome => (process.group.finish task outcome).map process.conclude
  | .exit => process.group.wait.map fun outcome => { process with exit := some outcome }

/-- Nothing happens any more once the process has exited. -/
def step (setup : Setup) (process : Process) (action : Action) : Option Process :=
  if process.exit.isSome then none else process.act setup action

def machine (setup : Setup) : Machine Process Action := ⟨start setup, step setup⟩

inductive Stepped (setup : Setup) (process : Process) : Action → Process → Prop where
  | signal : Stepped setup process .signal { process.cancel with signalled := true }
  | resolve {action : Resolver.Action} {resolver : Resolver.State} (ordinary : action ≠ .cancel)
      (moved : process.resolver.step setup.resolver setup.sorter action = some resolver) :
      Stepped setup process (.resolve action) { process with resolver }
  | serve {action : Proxy.Action} {server : Proxy.Server}
      (permitted : process.permits action = true)
      (moved : process.server.step action = some server) :
      Stepped setup process (.serve action) { process with server }
  | bound {endpoint : Proxy.Endpoint} {rest : List Proxy.Endpoint}
      (binds : process.run = .binding (endpoint :: rest)) :
      Stepped setup process (.bind true)
        { process with
          socket := Function.update process.socket endpoint .opened
          run := .binding rest }
  | refused {endpoint : Proxy.Endpoint} {rest : List Proxy.Endpoint}
      (binds : process.run = .binding (endpoint :: rest)) :
      Stepped setup process (.bind false) { process with run := .failing endpoint }
  | failed {endpoint : Proxy.Endpoint} (fails : process.run = .failing endpoint) :
      Stepped setup process .closeListeners
        { process with socket := closed process.socket, run := .returned (some endpoint) }
  | told {endpoint : Proxy.Endpoint} (cancelled : process.server.cancelled = true)
      (watches : process.watched endpoint = true) (bound : process.socket endpoint ≠ .unbound) :
      Stepped setup process (.closeListenerByContext endpoint)
        { process with
          socket := Function.update process.socket endpoint .closed
          watched := Function.update process.watched endpoint false }
  | joined (waits : process.run = .binding [])
      (settled : ∀ endpoint, process.settled endpoint = true) :
      Stepped setup process .join { process with run := .returned none }
  | reported {task : Task} {outcome : Option Cause} {group : Group Task Cause}
      (returned : process.result task = some outcome)
      (finished : process.group.finish task outcome = some group) :
      Stepped setup process (.report task) (process.conclude group)
  | exited {outcome : Option Cause} (waited : process.group.wait = some outcome) :
      Stepped setup process .exit { process with exit := some outcome }

variable {setup : Setup} {process next : Process}

private theorem act_stepped {action : Action} (acted : process.act setup action = some next) :
    Stepped setup process action next := by
  cases action with
  | signal =>
    cases acted
    exact .signal
  | resolve action =>
    by_cases cancels : action = .cancel
    · subst cancels
      cases acted
    · rw [act] at acted
      · obtain ⟨resolver, moved, rfl⟩ := Option.map_eq_some_iff.mp acted
        exact .resolve cancels moved
      · exact cancels
  | serve action =>
    simp only [act] at acted
    split at acted
    · rename_i permitted
      obtain ⟨server, moved, rfl⟩ := Option.map_eq_some_iff.mp acted
      exact .serve permitted moved
    · cases acted
  | bind success =>
    simp only [act] at acted
    split at acted
    · rename_i endpoint rest binds
      cases success with
      | true =>
        cases acted
        exact .bound binds
      | false =>
        cases acted
        exact .refused binds
    · cases acted
  | closeListeners =>
    simp only [act] at acted
    split at acted
    · rename_i endpoint fails
      cases acted
      exact .failed fails
    · cases acted
  | closeListenerByContext endpoint =>
    simp only [act] at acted
    split at acted
    · rename_i able
      simp only [Bool.and_eq_true, decide_eq_true_eq] at able
      cases acted
      exact .told able.1.1 able.1.2 able.2
    · cases acted
  | join =>
    simp only [act] at acted
    split at acted
    · rename_i waits
      split at acted
      · rename_i both
        obtain ⟨master, replica⟩ := Bool.and_eq_true_iff.mp both
        cases acted
        refine .joined waits ?_
        intro endpoint
        cases endpoint with
        | master => exact master
        | replica => exact replica
      · cases acted
    · cases acted
  | report task =>
    simp only [act] at acted
    split at acted
    · cases acted
    · rename_i outcome returned
      obtain ⟨group, finished, rfl⟩ := Option.map_eq_some_iff.mp acted
      exact .reported returned finished
  | exit =>
    obtain ⟨outcome, waited, rfl⟩ := Option.map_eq_some_iff.mp acted
    exact .exited waited

theorem step_stepped {action : Action} (stepped : process.step setup action = some next) :
    process.exit = none ∧ Stepped setup process action next := by
  unfold step at stepped
  split at stepped
  · cases stepped
  · rename_i running
    exact ⟨by simpa using running, act_stepped stepped⟩

theorem ordinary_of_permits {action : Proxy.Action} (permitted : process.permits action = true) :
    action ≠ .cancel := by
  rintro rfl
  cases permitted

section Listeners

/-- The listeners of the process. -/
structure Serving (setup : Setup) (process : Process) : Prop where
  /-- Every endpoint is bound once. -/
  ahead : ∀ rest, process.run = .binding rest → rest.Nodup ∧
    ∀ endpoint, endpoint ∈ rest ↔
      setup.proxy.serves endpoint = true ∧ process.socket endpoint = .unbound
  failing : ∀ endpoint, process.run = .failing endpoint ∨ process.run = .returned (some endpoint) →
    setup.proxy.serves endpoint = true
  /-- Only endpoints that are served have listeners. -/
  unserved : ∀ endpoint, setup.proxy.serves endpoint = false →
    process.server.listener endpoint = .stopped ∧ process.socket endpoint = .unbound
  /-- An accept loop does not stop by itself. -/
  silent : ∀ endpoint, setup.proxy.serves endpoint = true →
    process.server.listener endpoint = .stopped → process.server.cancelled = true
  watched : ∀ endpoint, setup.proxy.serves endpoint = true →
    process.watched endpoint = false → process.socket endpoint = .closed
  shut : ∀ failed, process.run = .returned failed → ∀ endpoint, process.socket endpoint ≠ .opened
  joined : process.run = .returned none → ∀ endpoint, process.server.listener endpoint = .stopped

private theorem serving_start (setup : Setup) : Serving setup (start setup) := by
  refine ⟨?_, ?_, ?_, ?_, ?_, nofun, nofun⟩
  · intro rest binds
    cases binds
    refine ⟨List.Nodup.filter _ (by decide), ?_⟩
    intro endpoint
    cases endpoint <;> simp [endpoints, start]
  · rintro endpoint (fails | fails) <;> cases fails
  · intro endpoint absent
    exact ⟨by simp [start, Proxy.Server.start, absent], rfl⟩
  · intro endpoint present stopped
    simp [start, Proxy.Server.start, present] at stopped
  · intro endpoint present unwatched
    cases present.symm.trans unwatched

theorem Serving.same (serving : Serving setup process)
    (listener : next.server.listener = process.server.listener)
    (cancelled : process.server.cancelled = true → next.server.cancelled = true)
    (socket : next.socket = process.socket) (watched : next.watched = process.watched)
    (run : next.run = process.run) : Serving setup next := by
  obtain ⟨ahead, failing, unserved, silent, watches, shut, joined⟩ := serving
  refine ⟨?_, ?_, ?_, ?_, ?_, ?_, ?_⟩
  · rw [run, socket]
    exact ahead
  · rw [run]
    exact failing
  · rw [listener, socket]
    exact unserved
  · rw [listener]
    exact fun endpoint present stopped => cancelled (silent endpoint present stopped)
  · rw [watched, socket]
    exact watches
  · rw [run, socket]
    exact shut
  · rw [run, listener]
    exact joined

theorem Serving.turn {server : Proxy.Server} {action : Proxy.Action} {endpoint : Proxy.Endpoint}
    {listener : Proxy.Listener} (serving : Serving setup process)
    (turned : Proxy.Listener.Turns process.server.cancelled action
      (process.server.listener endpoint) listener)
    (listeners : server.listener = Function.update process.server.listener endpoint listener)
    (cancelled : server.cancelled = process.server.cancelled) :
    Serving setup { process with server } := by
  obtain ⟨ahead, failing, unserved, silent, watches, shut, joined⟩ := serving
  have running := turned.running
  refine ⟨ahead, failing, ?_, ?_, watches, shut, ?_⟩
  · intro other absent
    refine ⟨?_, (unserved other absent).2⟩
    have different : other ≠ endpoint := by
      rintro rfl
      exact running (unserved other absent).1
    simp only [listeners, Function.update_of_ne different]
    exact (unserved other absent).1
  · intro other present stopped
    simp only [listeners, cancelled] at stopped ⊢
    by_cases same : other = endpoint
    · subst same
      rw [Function.update_self] at stopped
      subst stopped
      exact turned.told
    · rw [Function.update_of_ne same] at stopped
      exact silent other present stopped
  · intro returned
    exact absurd (joined returned endpoint) running

theorem Serving.bound {endpoint : Proxy.Endpoint} {rest : List Proxy.Endpoint}
    (serving : Serving setup process) (binds : process.run = .binding (endpoint :: rest)) :
    Serving setup { process with
      socket := Function.update process.socket endpoint .opened
      run := .binding rest } := by
  obtain ⟨ahead, failing, unserved, silent, watches, shut, joined⟩ := serving
  obtain ⟨distinct, members⟩ := ahead _ binds
  obtain ⟨fresh, distinct⟩ := List.nodup_cons.mp distinct
  obtain ⟨present, unbound⟩ := (members endpoint).mp List.mem_cons_self
  refine ⟨?_, nofun, ?_, silent, ?_, nofun, nofun⟩
  · rintro _ ⟨⟩
    refine ⟨distinct, ?_⟩
    intro other
    by_cases same : other = endpoint
    · subst same
      simp [fresh]
    · dsimp only
      rw [Function.update_of_ne same, ← members other, List.mem_cons]
      simp [same]
  · intro other absent
    have different : other ≠ endpoint := by
      rintro rfl
      cases present.symm.trans absent
    dsimp only
    rw [Function.update_of_ne different]
    exact unserved other absent
  · intro other served unwatched
    have closed := watches other served unwatched
    have different : other ≠ endpoint := by
      rintro rfl
      cases unbound.symm.trans closed
    dsimp only
    rw [Function.update_of_ne different, closed]

theorem Serving.told {endpoint : Proxy.Endpoint} (serving : Serving setup process)
    (bound : process.socket endpoint ≠ .unbound) :
    Serving setup { process with
      socket := Function.update process.socket endpoint .closed
      watched := Function.update process.watched endpoint false } := by
  obtain ⟨ahead, failing, unserved, silent, watches, shut, joined⟩ := serving
  refine ⟨?_, failing, ?_, silent, ?_, ?_, joined⟩
  · intro rest binds
    obtain ⟨distinct, members⟩ := ahead rest binds
    refine ⟨distinct, ?_⟩
    intro other
    rw [members other]
    by_cases same : other = endpoint
    · subst same
      simp [bound]
    · dsimp only
      rw [Function.update_of_ne same]
  · intro other absent
    have different : other ≠ endpoint := by
      rintro rfl
      exact bound (unserved other absent).2
    dsimp only
    rw [Function.update_of_ne different]
    exact unserved other absent
  · intro other served unwatched
    by_cases same : other = endpoint
    · subst same
      exact Function.update_self ..
    · dsimp only at unwatched ⊢
      rw [Function.update_of_ne same] at unwatched ⊢
      exact watches other served unwatched
  · intro failed returned other
    by_cases same : other = endpoint
    · subst same
      simp
    · dsimp only
      rw [Function.update_of_ne same]
      exact shut failed returned other

private theorem closed_ne_opened (socket : Proxy.Endpoint → Socket) (endpoint : Proxy.Endpoint) :
    closed socket endpoint ≠ .opened := by
  unfold closed
  split
  · nofun
  · assumption

theorem Serving.failed {endpoint : Proxy.Endpoint} (serving : Serving setup process)
    (fails : process.run = .failing endpoint) :
    Serving setup { process with
      socket := closed process.socket, run := .returned (some endpoint) } := by
  obtain ⟨ahead, failing, unserved, silent, watches, shut, joined⟩ := serving
  refine ⟨nofun, ?_, ?_, silent, ?_, fun _ _ => closed_ne_opened _, nofun⟩
  · rintro other (fails' | fails')
    · cases fails'
    · cases fails'
      exact failing endpoint (.inl fails)
  · intro other absent
    obtain ⟨stopped, unbound⟩ := unserved other absent
    exact ⟨stopped, by simp [closed, unbound]⟩
  · intro other served unwatched
    simp [closed, watches other served unwatched]

theorem Serving.joins (serving : Serving setup process) (waits : process.run = .binding [])
    (settled : ∀ endpoint, process.settled endpoint = true) :
    Serving setup { process with run := .returned none } := by
  obtain ⟨ahead, failing, unserved, silent, watches, shut, joined⟩ := serving
  have done {endpoint : Proxy.Endpoint} (present : setup.proxy.serves endpoint = true) :
      process.server.listener endpoint = .stopped ∧ process.socket endpoint = .closed := by
    have bound : process.socket endpoint ≠ .unbound := by
      intro unbound
      exact List.not_mem_nil (((ahead [] waits).2 endpoint).mpr ⟨present, unbound⟩)
    have ended := settled endpoint
    simp only [Process.settled, bound, decide_false, Bool.false_or, Bool.and_eq_true,
      decide_eq_true_eq, Bool.not_eq_true'] at ended
    exact ⟨ended.1, watches endpoint present ended.2⟩
  refine ⟨nofun, ?_, unserved, silent, watches, ?_, ?_⟩
  · rintro other (fails | fails) <;> cases fails
  · intro failed returned endpoint
    cases present : setup.proxy.serves endpoint with
    | true => simp [(done present).2]
    | false => simp [(unserved endpoint present).2]
  · intro returned endpoint
    cases present : setup.proxy.serves endpoint with
    | true => exact (done present).1
    | false => exact (unserved endpoint present).1

private theorem cancel_conclude (process : Process) (group : Group Task Cause) :
    process.server.cancelled = true → (process.conclude group).server.cancelled = true := by
  intro cancelled
  unfold conclude
  split
  · rfl
  · exact cancelled

theorem Serving.step (serving : Serving setup process) {action : Action}
    (stepped : Stepped setup process action next) : Serving setup next := by
  cases stepped with
  | signal => exact serving.same rfl (fun _ => rfl) rfl rfl rfl
  | resolve => exact serving.same rfl id rfl rfl rfl
  | serve permitted moved =>
    cases Proxy.Server.step_hears (ordinary_of_permits permitted) moved with
    | turns place turned listeners cancelled => exact serving.turn turned listeners cancelled
    | bystands place listeners cancelled =>
      exact serving.same listeners (fun told => cancelled.trans told) rfl rfl rfl
  | bound binds => exact serving.bound binds
  | @refused endpoint rest binds =>
    have present := (((serving.ahead _ binds).2 endpoint).mp List.mem_cons_self).1
    refine ⟨nofun, ?_, serving.unserved, serving.silent, serving.watched, nofun, nofun⟩
    rintro other (fails | fails)
    · cases fails
      exact present
    · cases fails
  | failed fails => exact serving.failed fails
  | told cancelled watches bound => exact serving.told bound
  | joined waits settled => exact serving.joins waits settled
  | @reported task outcome group returned finished =>
    refine serving.same ?_ (cancel_conclude process group) ?_ ?_ ?_ <;>
      (unfold conclude; split <;> rfl)
  | exited => exact serving.same rfl id rfl rfl rfl

end Listeners

section Refinement

/-- In the process the resolver does what it does by itself. -/
theorem resolver_simulation (setup : Setup) :
    Simulation (machine setup) (Resolver.machine setup.resolver setup.sorter) Process.resolver := by
  refine ⟨rfl, ?_⟩
  intro process action next _ stepped
  cases (step_stepped stepped).2 with
  | signal => exact .inr ⟨.cancel, rfl⟩
  | resolve ordinary moved => exact .inr ⟨_, moved⟩
  | @reported task outcome group returned finished =>
    unfold conclude
    split
    · exact .inr ⟨.cancel, rfl⟩
    · exact .inl rfl
  | _ => exact .inl rfl

/-- In the process the server does what it does by itself. -/
theorem server_simulation (setup : Setup) :
    Simulation (machine setup) (Proxy.Server.machine setup.proxy) Process.server := by
  refine ⟨rfl, ?_⟩
  intro process action next _ stepped
  cases (step_stepped stepped).2 with
  | signal => exact .inr ⟨.cancel, rfl⟩
  | serve permitted moved => exact .inr ⟨_, moved⟩
  | @reported task outcome group returned finished =>
    unfold conclude
    split
    · exact .inr ⟨.cancel, rfl⟩
    · exact .inl rfl
  | _ => exact .inl rfl

end Refinement

section Blame

/-- The update loop has given up: with the fault that was one more than its retries. -/
structure GaveUp (setup : Setup) (fault : Resolver.Fault) (state : Resolver.State) : Prop where
  returned : state.loop = .returned (some fault)
  spent : ∃ past, Resolver.State.Past setup.resolver setup.sorter past state ∧
    (0 ≤ setup.resolver.retryOnMasterResolveFail →
      setup.resolver.retryOnMasterResolveFail < 2 ^ 63 - 1 →
      past.head? = some (some fault) ∧
        Resolver.failures past = setup.resolver.retryOnMasterResolveFail + 1)

variable {state : Resolver.State} {fault : Resolver.Fault}

private theorem past_of_reaches
    (reached : (Resolver.machine setup.resolver setup.sorter).Reaches (fun _ _ => True) state) :
    ∃ past, Resolver.State.Past setup.resolver setup.sorter past state := by
  induction reached with
  | start => exact ⟨[], .init⟩
  | step _ _ stepped ih =>
    obtain ⟨past, ran⟩ := ih
    exact ⟨_, ran.step stepped⟩

theorem GaveUp.of_returned
    (reached : (Resolver.machine setup.resolver setup.sorter).Reaches (fun _ _ => True) state)
    (uncancelled : state.cancelled = false) (returned : state.loop = .returned (some fault)) :
    GaveUp setup fault state := by
  obtain ⟨past, ran⟩ := past_of_reaches reached
  refine ⟨returned, past, ran, ?_⟩
  intro natural fits
  have standing := Resolver.standing_past ran uncancelled natural (.inl fits)
  rw [returned] at standing
  obtain ⟨_, spent, _, ⟨⟩, _, newest⟩ := standing
  exact ⟨newest, spent⟩

private theorem outcome?_returned {outcome : Option Resolver.Fault} (action : Resolver.Action)
    (returned : state.loop = .returned outcome) :
    state.outcome? setup.resolver setup.sorter action = none := by
  cases action with
  | work thread answer =>
    cases thread with
    | loop => simp [Resolver.State.outcome?, returned, Resolver.Loop.round?]
    | caller id => rfl
  | _ => rfl

theorem GaveUp.step {action : Resolver.Action} {next : Resolver.State}
    (gaveUp : GaveUp setup fault state)
    (stepped : state.step setup.resolver setup.sorter action = some next) :
    GaveUp setup fault next := by
  obtain ⟨returned, past, ran, spent⟩ := gaveUp
  have turn := (Resolver.step_turn stepped).1
  rw [returned] at turn
  have later := ran.step stepped
  rw [outcome?_returned action returned] at later
  exact ⟨turn.returned, past, later, spent⟩

end Blame

section Outcome

/-- Who has been told to stop, and why. -/
structure Accounted (setup : Setup) (process : Process) : Prop where
  agreed : process.server.cancelled = process.resolver.cancelled
  told : process.resolver.cancelled = true ↔
    process.signalled = true ∨ process.group.failure.isSome = true
  tells : process.group.Tells process.result
  exited : ∀ outcome, process.exit = some outcome → process.group.wait = some outcome
  blame : process.signalled = false → ∀ fault, process.group.failure = some (.resolve fault) →
    GaveUp setup fault process.resolver

theorem accounted_start (setup : Setup) : Accounted setup (start setup) := by
  refine ⟨rfl, by simp [start, Resolver.State.init], .start ?_, nofun, nofun⟩
  intro task
  cases task <;> decide

theorem Accounted.quiet (accounted : Accounted setup process)
    (resolver : next.resolver = process.resolver)
    (cancelled : next.server.cancelled = process.server.cancelled)
    (group : next.group = process.group) (signalled : next.signalled = process.signalled)
    (exit : next.exit = process.exit)
    (run : next.run = process.run ∨ ∀ failed, process.run ≠ .returned failed) :
    Accounted setup next := by
  obtain ⟨agreed, told, tells, exited, blame⟩ := accounted
  refine ⟨?_, ?_, ?_, ?_, ?_⟩
  · rw [cancelled, resolver, agreed]
  · rw [resolver, signalled, group, told]
  · rw [group]
    refine tells.mono ?_
    intro task outcome returned
    cases task with
    | updateMasterAddressLoop => simpa only [result, resolver] using returned
    | run =>
      rcases run with same | running
      · simpa only [result, same] using returned
      · simp only [result] at returned
        cases returned
  · rw [exit, group]
    exact exited
  · rw [signalled, group, resolver]
    exact blame

private theorem result_resolve {action : Resolver.Action} {resolver : Resolver.State}
    (moved : process.resolver.step setup.resolver setup.sorter action = some resolver) (task : Task)
    (outcome : Option Cause) (returned : process.result task = some outcome) :
    { process with resolver }.result task = some outcome := by
  cases task with
  | run => exact returned
  | updateMasterAddressLoop =>
    simp only [result] at returned
    split at returned
    · rename_i fault? stands
      have turn := (Resolver.step_turn moved).1
      rw [stands] at turn
      simp only [result, turn.returned]
      exact returned
    · cases returned

theorem Accounted.resolve {action : Resolver.Action} {resolver : Resolver.State}
    (accounted : Accounted setup process) (ordinary : action ≠ .cancel)
    (moved : process.resolver.step setup.resolver setup.sorter action = some resolver) :
    Accounted setup { process with resolver } := by
  obtain ⟨agreed, told, tells, exited, blame⟩ := accounted
  have same := (Resolver.step_turn moved).2.resolve_right ordinary
  refine ⟨agreed.trans same.symm, ?_, tells.mono (result_resolve moved), exited, ?_⟩
  · dsimp only
    rw [same, told]
  · intro unsignalled fault failed
    exact (blame unsignalled fault failed).step moved

private theorem result_resolves {task : Task} {fault : Resolver.Fault}
    (returned : process.result task = some (some (.resolve fault))) :
    process.resolver.loop = .returned (some fault) := by
  cases task with
  | updateMasterAddressLoop =>
    simp only [result] at returned
    split at returned
    · rename_i fault? stands
      rw [stands]
      simpa using returned
    · cases returned
  | run =>
    simp only [result] at returned
    split at returned <;> simp at returned

private theorem result_loop (returned : process.result .updateMasterAddressLoop = some none) :
    process.resolver.loop = .returned none := by
  simp only [result] at returned
  split at returned
  · rename_i fault? stands
    rw [stands]
    simpa using returned
  · cases returned

private theorem result_run {outcome : Option Cause}
    (returned : process.result .run = some outcome) :
    ∃ failed, process.run = .returned failed ∧ failed.map .bind = outcome := by
  simp only [result] at returned
  split at returned
  · rename_i failed stands
    exact ⟨failed, stands, Option.some.inj returned⟩
  · cases returned

private theorem result_binds {task : Task} {endpoint : Proxy.Endpoint}
    (returned : process.result task = some (some (.bind endpoint))) :
    process.run = .returned (some endpoint) := by
  cases task with
  | updateMasterAddressLoop =>
    simp only [result] at returned
    split at returned <;> simp at returned
  | run =>
    obtain ⟨failed, stands, same⟩ := result_run returned
    rw [stands]
    simpa using same

theorem Accounted.report {task : Task} {outcome : Option Cause} {group : Group Task Cause}
    (reached : (machine setup).Reaches (fun _ _ => True) process)
    (accounted : Accounted setup process) (running : process.exit = none)
    (returned : process.result task = some outcome)
    (finished : process.group.finish task outcome = some group) :
    Accounted setup (process.conclude group) := by
  obtain ⟨agreed, told, tells, -, blame⟩ := accounted
  obtain ⟨-, -, failure⟩ := Group.finish_eq_some finished
  have results : (process.conclude group).result = process.result := by
    unfold conclude
    split <;> rfl
  have still : (process.conclude group).group = group := by
    unfold conclude
    split <;> rfl
  refine ⟨?_, ?_, ?_, ?_, ?_⟩
  · unfold conclude
    split
    · rfl
    · exact agreed
  · unfold conclude
    split
    · rename_i failed
      simp [cancel, failed]
    · rename_i fine
      have both := Option.or_eq_none_iff.mp (failure.symm.trans (by simpa using fine))
      simpa [both.1, fine] using told
  · rw [still, results]
    exact tells.finish returned finished
  · have none : (process.conclude group).exit = none := by
      unfold conclude
      split <;> exact running
    intro outcome exited
    cases none.symm.trans exited
  · intro unsignalled fault failed
    rw [still, failure, Option.or_eq_some_iff] at failed
    have before : process.signalled = false := by
      rw [← unsignalled]
      unfold conclude
      split <;> rfl
    have gaveUp : GaveUp setup fault process.resolver := by
      rcases failed with earlier | ⟨fine, rfl⟩
      · exact blame before fault earlier
      · refine .of_returned ((resolver_simulation setup).reaches reached) ?_
          (result_resolves returned)
        rw [Bool.eq_false_iff, Ne, told, before, fine]
        simp
    unfold conclude
    split
    · exact @GaveUp.step _ _ _ .cancel _ gaveUp rfl
    · exact gaveUp

theorem Accounted.step (reached : (machine setup).Reaches (fun _ _ => True) process)
    (accounted : Accounted setup process) (running : process.exit = none) {action : Action}
    (stepped : Stepped setup process action next) : Accounted setup next := by
  cases stepped with
  | signal =>
    have tells : process.group.Tells { process.cancel with signalled := true }.result :=
      accounted.tells.mono fun task outcome returned => by cases task <;> exact returned
    refine ⟨rfl, by simp [cancel], tells, ?_, nofun⟩
    intro outcome exited
    cases running.symm.trans exited
  | resolve ordinary moved => exact accounted.resolve ordinary moved
  | serve permitted moved =>
    refine accounted.quiet rfl ?_ rfl rfl rfl (.inl rfl)
    cases Proxy.Server.step_hears (ordinary_of_permits permitted) moved with
    | turns _ _ _ cancelled => exact cancelled
    | bystands _ _ cancelled => exact cancelled
  | bound binds => exact accounted.quiet rfl rfl rfl rfl rfl (.inr (by simp [binds]))
  | refused binds => exact accounted.quiet rfl rfl rfl rfl rfl (.inr (by simp [binds]))
  | failed fails => exact accounted.quiet rfl rfl rfl rfl rfl (.inr (by simp [fails]))
  | told => exact accounted.quiet rfl rfl rfl rfl rfl (.inl rfl)
  | joined waits => exact accounted.quiet rfl rfl rfl rfl rfl (.inr (by simp [waits]))
  | reported returned finished => exact accounted.report reached running returned finished
  | exited waited =>
    refine ⟨accounted.agreed, accounted.told, accounted.tells, ?_, accounted.blame⟩
    intro outcome exited
    cases exited
    exact waited

theorem accounted_of_reaches (reached : (machine setup).Reaches (fun _ _ => True) process) :
    Accounted setup process := by
  refine reached.invariant (accounted_start setup) ?_
  intro before action after earlier accounted _ stepped
  obtain ⟨running, moved⟩ := step_stepped stepped
  exact accounted.step earlier running moved

theorem serving_of_reaches (reached : (machine setup).Reaches (fun _ _ => True) process) :
    Serving setup process :=
  reached.invariant (serving_start setup)
    fun _ _ _ _ serving _ stepped => serving.step (step_stepped stepped).2

def plainProxy : Proxy.RedisSentinelProxy where
  localAddr := some ⟨[], 9999, ""⟩
  tlsConf := none
  masterTLSConf := none
  idleTimeout := 0
  sem := none
  debug := false
  refresher := true
  replicaAddr := none
  replicaResolver := false
  replicaFallbackMaster := false
  router := false

def plainSetup : Setup := ⟨plainProxy, Resolver.tracker, Resolver.insertionSorter, ⟨.master, rfl⟩⟩

/-- The process starts, and a signal comes while it waits for clients and for its ticker. -/
def signalledRun : List Action :=
  [.bind true, .serve (.listen .master)] ++
    (Resolver.masterSteps .loop (Resolver.nodes [("10.0.0.1:6379", "master")]) "10.0.0.1" ++
      Resolver.replicaSteps .loop (Resolver.nodes []) []).map .resolve ++
    [.signal]

def stoppedRun : List Action :=
  [.resolve .leave, .closeListenerByContext .master, .serve (.accept .master false), .join,
    .report .updateMasterAddressLoop, .report .run, .exit]

def stoppedProcess : Process :=
  ((machine plainSetup).after (signalledRun ++ stoppedRun)).get (by decide +kernel)

private theorem stoppedProcess_reached :
    (machine plainSetup).Reaches (fun _ _ => True) stoppedProcess :=
  .after (Option.some_get _).symm

/-- When the process exits no listener is open. It exits without an error only after a signal
and when both tasks have returned; with an error and without a signal only if an endpoint
could not be bound, or if the update loop gave up after one failure more than its retries. -/
theorem exit_outcome (reached : (machine setup).Reaches (fun _ _ => True) process)
    {outcome : Option Cause} (exited : process.exit = some outcome) :
    (∀ endpoint, process.socket endpoint ≠ .opened) ∧
      (outcome = none → process.signalled = true ∧ process.resolver.loop = .returned none ∧
        ∀ endpoint, process.server.listener endpoint = .stopped) ∧
      (∀ cause, outcome = some cause → process.signalled = false →
        (∃ endpoint, cause = .bind endpoint ∧ setup.proxy.serves endpoint = true ∧
          process.run = .returned (some endpoint)) ∨
        ∃ fault, cause = .resolve fault ∧ GaveUp setup fault process.resolver) := by
  have accounted := accounted_of_reaches reached
  have serving := serving_of_reaches reached
  have waited := accounted.exited outcome exited
  refine ⟨?_, ?_, ?_⟩
  · obtain ⟨_, returned⟩ := accounted.tells.all waited .run
    obtain ⟨failed, stands, _⟩ := result_run returned
    exact serving.shut failed stands
  · rintro rfl
    obtain ⟨failed, stands, same⟩ := result_run (accounted.tells.quiet waited .run)
    cases failed with
    | some endpoint => cases same
    | none =>
      have stopped := serving.joined stands
      obtain ⟨endpoint, present⟩ := setup.served
      have cancelled := serving.silent endpoint present (stopped endpoint)
      rw [accounted.agreed, accounted.told, (Group.wait_eq_some.mp waited).2] at cancelled
      refine ⟨by simpa using cancelled, ?_, stopped⟩
      exact result_loop (accounted.tells.quiet waited .updateMasterAddressLoop)
  · rintro cause rfl unsignalled
    have failed := (Group.wait_eq_some.mp waited).2
    cases cause with
    | resolve fault => exact .inr ⟨fault, rfl, accounted.blame unsignalled fault failed⟩
    | bind endpoint =>
      obtain ⟨task, returned⟩ := accounted.tells.error _ failed
      have stands := result_binds returned
      exact .inl ⟨endpoint, rfl, serving.failing endpoint (.inr stands), stands⟩

theorem exit_outcome_stoppedProcess :
    stoppedProcess.exit = some none ∧ stoppedProcess.resolver.loop = .returned none := by
  have exited : stoppedProcess.exit = some none := by decide +kernel
  exact ⟨exited, ((exit_outcome stoppedProcess_reached exited).2.1 rfl).2.1⟩

end Outcome

end Process

end SentinelProxy
