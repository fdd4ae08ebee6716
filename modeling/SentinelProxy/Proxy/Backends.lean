import SentinelProxy.Proxy.Connect
import SentinelProxy.Resolver.Progress

/-! Sessions that connect to their backends while the resolver is at work: which nodes they
dial, and what a failed attempt waits for before the next one. -/

namespace SentinelProxy.Proxy

open SentinelProxy.Resolver SentinelProxy.Transition

def Dialler.question (dialler : Dialler) : Option Endpoint :=
  match dialler.stage with
  | .pick _ => some dialler.endpoint
  | .fallback _ => some .master
  | .pickReplica _ => some .replica
  | _ => none

/-- The resolver, and the sessions that connect by their number. -/
structure Backends where
  timed : Timed
  diallers : Nat → Option Dialler

namespace Backends

/-- What can happen next. `resolver` are steps of the resolver alone, all others are steps of
a session. -/
inductive Action where
  | resolver (action : Timed.Action)
  | connect (id : Nat) (endpoint : Endpoint)
  | ask (id : Nat)
  | dial (id : Nat) (success : Bool)
  | call (id : Nat)
  | resume (id : Nat)

def init : Backends where
  timed := .init
  diallers _ := none

/-- Readers and callers of the resolver are the sessions. -/
def ofSession : Timed.Action → Bool
  | .other (.call _) => true
  | .other .readMaster => true
  | .other .readReplica => true
  | _ => false

variable (proxy : RedisSentinelProxy) (resolver : RedisMasterResolver) (sorter : Sorter)

/-- A session takes a step while the resolver goes from one state to another. -/
def reply (backends : Backends) (id : Nat) (timed : Timed) (reply : Reply) : Option Backends :=
  match backends.diallers id with
  | none => none
  | some dialler =>
    (dialler.step proxy reply).map fun next =>
      { timed, diallers := Function.update backends.diallers id (some next) }

/-- A session is handed the address it asks for, once the initial resolve is over. -/
def ask (backends : Backends) (id : Nat) : Option Backends :=
  match (backends.diallers id).bind Dialler.question with
  | none => none
  | some .master =>
    (backends.timed.step resolver sorter (.other .readMaster)).bind fun timed =>
      backends.reply proxy id timed (.masterAddress backends.timed.state.store.masterAddr)
  | some .replica =>
    (backends.timed.step resolver sorter (.other .readReplica)).bind fun timed =>
      backends.reply proxy id timed (.replicaAddress backends.timed.state.store.replicaAddress.1)

def step (backends : Backends) : Action → Option Backends
  | .resolver action =>
    if ofSession action then none
    else (backends.timed.step resolver sorter action).map fun timed => { backends with timed }
  | .connect id endpoint =>
    match backends.diallers id with
    | none =>
      if proxy.serves endpoint then
        some { backends with
          diallers := Function.update backends.diallers id (some (.start endpoint)) }
      else none
    | some _ => none
  | .ask id => backends.ask proxy resolver sorter id
  | .dial id success => backends.reply proxy id backends.timed (.dialled success)
  | .call id =>
    (backends.timed.step resolver sorter (.other (.call id))).bind fun timed =>
      backends.reply proxy id timed .called
  | .resume id =>
    match backends.timed.state.callers id with
    | .idle => backends.reply proxy id backends.timed .returned
    | _ => none

def machine : Machine Backends Action := ⟨init, step proxy resolver sorter⟩

/-- What a step does to the resolver and to the one session that takes it. -/
inductive Stepped (backends : Backends) : Action → Backends → Prop where
  | resolver {action : Timed.Action} {timed : Timed} (alone : ofSession action = false)
      (moved : backends.timed.step resolver sorter action = some timed) :
      Stepped backends (.resolver action) { backends with timed }
  | connect {id : Nat} {endpoint : Endpoint} (fresh : backends.diallers id = none)
      (serves : proxy.serves endpoint = true) :
      Stepped backends (.connect id endpoint)
        { backends with diallers := Function.update backends.diallers id (some (.start endpoint)) }
  | readMaster {id : Nat} {dialler next : Dialler} {timed : Timed}
      (present : backends.diallers id = some dialler) (asks : dialler.question = some .master)
      (moved : backends.timed.step resolver sorter (.other .readMaster) = some timed)
      (advanced : dialler.step proxy (.masterAddress backends.timed.state.store.masterAddr) =
        some next) :
      Stepped backends (.ask id)
        { timed, diallers := Function.update backends.diallers id (some next) }
  | readReplica {id : Nat} {dialler next : Dialler} {timed : Timed}
      (present : backends.diallers id = some dialler) (asks : dialler.question = some .replica)
      (moved : backends.timed.step resolver sorter (.other .readReplica) = some timed)
      (advanced : dialler.step proxy
        (.replicaAddress backends.timed.state.store.replicaAddress.1) = some next) :
      Stepped backends (.ask id)
        { timed, diallers := Function.update backends.diallers id (some next) }
  | dial {id : Nat} {dialler next : Dialler} {success : Bool}
      (present : backends.diallers id = some dialler)
      (advanced : dialler.step proxy (.dialled success) = some next) :
      Stepped backends (.dial id success)
        { backends with diallers := Function.update backends.diallers id (some next) }
  | call {id : Nat} {dialler next : Dialler} {timed : Timed}
      (present : backends.diallers id = some dialler)
      (moved : backends.timed.step resolver sorter (.other (.call id)) = some timed)
      (advanced : dialler.step proxy .called = some next) :
      Stepped backends (.call id)
        { timed, diallers := Function.update backends.diallers id (some next) }
  | resume {id : Nat} {dialler next : Dialler} (present : backends.diallers id = some dialler)
      (idle : backends.timed.state.callers id = .idle)
      (advanced : dialler.step proxy .returned = some next) :
      Stepped backends (.resume id)
        { backends with diallers := Function.update backends.diallers id (some next) }

variable {proxy resolver sorter} {backends next : Backends}

private theorem reply_eq_some {id : Nat} {timed : Timed} {answer : Reply}
    (replied : backends.reply proxy id timed answer = some next) :
    ∃ dialler after, backends.diallers id = some dialler ∧
      dialler.step proxy answer = some after ∧
      next = { timed, diallers := Function.update backends.diallers id (some after) } := by
  unfold reply at replied
  split at replied
  · cases replied
  · rename_i dialler present
    obtain ⟨after, stepped, rfl⟩ := Option.map_eq_some_iff.mp replied
    exact ⟨dialler, after, present, stepped, rfl⟩

theorem step_stepped {action : Action}
    (stepped : backends.step proxy resolver sorter action = some next) :
    backends.Stepped proxy resolver sorter action next := by
  cases action with
  | resolver action =>
    simp only [step] at stepped
    split at stepped
    · cases stepped
    · rename_i alone
      obtain ⟨timed, moved, rfl⟩ := Option.map_eq_some_iff.mp stepped
      exact .resolver (Bool.eq_false_iff.mpr alone) moved
  | connect id endpoint =>
    simp only [step] at stepped
    split at stepped
    · rename_i fresh
      split at stepped
      · cases stepped
        exact .connect fresh ‹_›
      · cases stepped
    · cases stepped
  | ask id =>
    simp only [step, ask] at stepped
    split at stepped
    · cases stepped
    · rename_i asks
      obtain ⟨timed, moved, replied⟩ := Option.bind_eq_some_iff.mp stepped
      obtain ⟨dialler, after, present, advanced, rfl⟩ := reply_eq_some replied
      rw [present] at asks
      exact .readMaster present asks moved advanced
    · rename_i asks
      obtain ⟨timed, moved, replied⟩ := Option.bind_eq_some_iff.mp stepped
      obtain ⟨dialler, after, present, advanced, rfl⟩ := reply_eq_some replied
      rw [present] at asks
      exact .readReplica present asks moved advanced
  | dial id success =>
    obtain ⟨dialler, after, present, advanced, rfl⟩ := reply_eq_some stepped
    exact .dial present advanced
  | call id =>
    obtain ⟨timed, moved, replied⟩ := Option.bind_eq_some_iff.mp stepped
    obtain ⟨dialler, after, present, advanced, rfl⟩ := reply_eq_some replied
    exact .call present moved advanced
  | resume id =>
    simp only [step] at stepped
    split at stepped
    · rename_i idle
      obtain ⟨dialler, after, present, advanced, rfl⟩ := reply_eq_some stepped
      exact .resume present idle advanced
    · cases stepped

/-- To the resolver its sessions are callers and readers like any other. -/
theorem resolver_simulation :
    Simulation (machine proxy resolver sorter) (Timed.machine resolver sorter) Backends.timed := by
  refine ⟨rfl, ?_⟩
  intro backends action next _ stepped
  cases step_stepped stepped with
  | @resolver action _ _ moved => exact .inr ⟨action, moved⟩
  | connect => exact .inl rfl
  | readMaster _ _ moved => exact .inr ⟨.other .readMaster, moved⟩
  | readReplica _ _ moved => exact .inr ⟨.other .readReplica, moved⟩
  | dial => exact .inl rfl
  | @call id _ _ _ _ moved => exact .inr ⟨.other (.call id), moved⟩
  | resume => exact .inl rfl

theorem lookup_update {diallers : Nat → Option Dialler} {id other : Nat} {after found : Dialler}
    (present : Function.update diallers id (some after) other = some found) :
    other = id ∧ found = after ∨ other ≠ id ∧ diallers other = some found := by
  by_cases same : other = id
  · subst same
    rw [Function.update_self] at present
    exact .inl ⟨rfl, (Option.some.inj present).symm⟩
  · rw [Function.update_of_ne same] at present
    exact .inr ⟨same, present⟩

section Vouching

/-- What the resolver knows of an address before a session dials it: the node has given its
role, or no master was ever found. -/
def Vouches (log : List Event) (label : Label) (addr : String) : Prop :=
  match label with
  | .replica => ∃ round, Verified log round addr
  | _ =>
    (addr ≠ "" → ∃ round, RoleGiven log round addr "master") ∧
      (addr = "" → ∃ fault, .initialFinished (some fault) ∈ log)

/-- Which nodes an endpoint's sessions may dial. -/
def Permits (proxy : RedisSentinelProxy) (endpoint : Endpoint) : Label → Prop
  | .master => endpoint = .master
  | .replica => endpoint = .replica ∨ proxy.routes endpoint = true
  | .replicaFallback => endpoint = .replica ∧ proxy.replicaFallbackMaster = true

def target (dialler : Dialler) : Option (Label × String) :=
  match dialler.stage with
  | .dial _ label addr => some (label, addr)
  | .dialReplica addr => some (.replica, addr)
  | _ => none

/-- The invariant of a session: what it dials is vouched for. -/
structure Vouched (proxy : RedisSentinelProxy) (log : List Event) (dialler : Dialler) : Prop where
  accounted : dialler.Accounted proxy
  dialled : ∀ dial ∈ dialler.dials, dial.tls = proxy.masterTLSConf ∧
    Permits proxy dialler.endpoint dial.label ∧ Vouches log dial.label dial.addr
  pending : ∀ label addr, target dialler = some (label, addr) →
    Permits proxy dialler.endpoint label ∧ Vouches log label addr
  falling : ∀ refreshed, dialler.stage = .fallback refreshed →
    dialler.endpoint = .replica ∧ proxy.replicaFallbackMaster = true

variable {log longer : List Event} {dialler after : Dialler}

theorem Vouches.mono {label : Label} {addr : String} (vouches : Vouches log label addr)
    (grown : log ⊆ longer) : Vouches longer label addr := by
  have given (known : ∃ round, RoleGiven log round addr "master") :
      ∃ round, RoleGiven longer round addr "master" := by
    obtain ⟨round, role⟩ := known
    exact ⟨round, role.mono grown⟩
  have failed (known : ∃ fault, .initialFinished (some fault) ∈ log) :
      ∃ fault, .initialFinished (some fault) ∈ longer := by
    obtain ⟨fault, seen⟩ := known
    exact ⟨fault, grown seen⟩
  cases label with
  | master => exact ⟨fun set => given (vouches.1 set), fun unset => failed (vouches.2 unset)⟩
  | replicaFallback =>
    exact ⟨fun set => given (vouches.1 set), fun unset => failed (vouches.2 unset)⟩
  | replica =>
    obtain ⟨round, verified⟩ := vouches
    exact ⟨round, verified.mono grown⟩

theorem Vouched.mono (vouched : Vouched proxy log dialler) (grown : log ⊆ longer) :
    Vouched proxy longer dialler where
  accounted := vouched.accounted
  dialled dial member := by
    obtain ⟨tls, permits, vouches⟩ := vouched.dialled dial member
    exact ⟨tls, permits, vouches.mono grown⟩
  pending label addr aims := by
    obtain ⟨permits, vouches⟩ := vouched.pending label addr aims
    exact ⟨permits, vouches.mono grown⟩
  falling := vouched.falling

private theorem vouched_start (endpoint : Endpoint) : Vouched proxy log (.start endpoint) where
  accounted := Dialler.accounted_start endpoint
  dialled _ member := by cases member
  pending _ _ aims := by cases aims
  falling _ stands := by cases stands

theorem Vouched.dials (vouched : Vouched proxy log dialler) {label : Label} {addr : String}
    (aims : target dialler = some (label, addr)) :
    ∀ dial ∈ proxy.dialRedis label addr :: dialler.dials, dial.tls = proxy.masterTLSConf ∧
      Permits proxy dialler.endpoint dial.label ∧ Vouches log dial.label dial.addr := by
  intro dial member
  rcases List.mem_cons.mp member with rfl | earlier
  · exact ⟨rfl, vouched.pending label addr aims⟩
  · exact vouched.dialled dial earlier

theorem Vouched.settled (accounted : after.Accounted proxy)
    (dialled : ∀ dial ∈ after.dials, dial.tls = proxy.masterTLSConf ∧
      Permits proxy after.endpoint dial.label ∧ Vouches log dial.label dial.addr)
    (aimless : target after = none) (landed : ∀ refreshed, after.stage ≠ .fallback refreshed) :
    Vouched proxy log after where
  accounted := accounted
  dialled := dialled
  pending label addr aims := by cases aimless.symm.trans aims
  falling refreshed stands := absurd stands (landed refreshed)

theorem Vouched.refused {refreshed : Bool} {refusal : Refusal}
    (accounted : (dialler.refuse proxy refreshed refusal).Accounted proxy)
    (dialled : ∀ dial ∈ dialler.dials, dial.tls = proxy.masterTLSConf ∧
      Permits proxy dialler.endpoint dial.label ∧ Vouches log dial.label dial.addr) :
    Vouched proxy log (dialler.refuse proxy refreshed refusal) := by
  rcases @Dialler.refuse_stage proxy dialler refreshed refusal with stands | stands
  · exact .settled accounted dialled (by simp [target, stands]) (by simp [stands])
  · exact .settled accounted dialled (by simp [target, stands]) (by simp [stands])

theorem Vouched.connected {label : Label} {addr : String}
    (accounted : (dialler.connect proxy label addr).Accounted proxy)
    (dialled : ∀ dial ∈ dialler.dials, dial.tls = proxy.masterTLSConf ∧
      Permits proxy dialler.endpoint dial.label ∧ Vouches log dial.label dial.addr) :
    Vouched proxy log (dialler.connect proxy label addr) := by
  rcases @Dialler.connect_stage proxy dialler label addr with stands | stands
  · exact .settled accounted dialled (by simp [target, stands]) (by simp [stands])
  · exact .settled accounted dialled (by simp [target, stands]) (by simp [stands])

theorem Vouched.advance {answer : Reply} (vouched : Vouched proxy log dialler)
    (advanced : dialler.step proxy answer = some after)
    (master : ∀ addr, answer = .masterAddress addr → Vouches log .master addr)
    (replica : ∀ addr, answer = .replicaAddress (.address addr) → Vouches log .replica addr) :
    Vouched proxy log after := by
  have accounted := vouched.accounted.step advanced
  cases Dialler.step_advances advanced with
  | @pickMaster refreshed addr _ side =>
    refine ⟨accounted, vouched.dialled, ?_, nofun⟩
    rintro label host ⟨⟩
    exact ⟨side, master addr rfl⟩
  | @pickReplica refreshed addr _ side =>
    refine ⟨accounted, vouched.dialled, ?_, nofun⟩
    rintro label host ⟨⟩
    exact ⟨.inl side, replica addr rfl⟩
  | fallBack _ side fallback =>
    exact ⟨accounted, vouched.dialled, nofun, fun _ _ => ⟨side, fallback⟩⟩
  | noReplica => exact .refused accounted vouched.dialled
  | @pickFallback refreshed addr stands =>
    refine ⟨accounted, vouched.dialled, ?_, nofun⟩
    rintro label host ⟨⟩
    exact ⟨vouched.falling refreshed stands, master addr rfl⟩
  | @connect refreshed label addr stands =>
    have aims : target dialler = some (label, addr) := by simp [target, stands]
    exact .connected accounted (vouched.dials aims)
  | @miss refreshed label addr stands =>
    have aims : target dialler = some (label, addr) := by simp [target, stands]
    exact .refused accounted (vouched.dials aims)
  | call => exact ⟨accounted, vouched.dialled, nofun, nofun⟩
  | retry => exact ⟨accounted, vouched.dialled, nofun, nofun⟩
  | @findReplica refreshed addr stands =>
    have routed := vouched.accounted.routed (by rw [stands]; rfl)
    refine ⟨accounted, vouched.dialled, ?_, nofun⟩
    rintro label host ⟨⟩
    exact ⟨.inr routed, replica addr rfl⟩
  | goWithout => exact ⟨accounted, vouched.dialled, nofun, nofun⟩
  | lackReplica => exact ⟨accounted, vouched.dialled, nofun, nofun⟩
  | callReplica => exact ⟨accounted, vouched.dialled, nofun, nofun⟩
  | retryReplica => exact ⟨accounted, vouched.dialled, nofun, nofun⟩
  | @dialReplica addr success stands =>
    have aims : target dialler = some (.replica, addr) := by simp [target, stands]
    exact ⟨accounted, vouched.dials aims, nofun, nofun⟩

theorem sound_of_reaches
    (reached : (machine proxy resolver sorter).Reaches (fun _ _ => True) backends) :
    Sound backends.timed.state := by
  have timed := resolver_simulation.reaches reached
  have alone := reachable_of_reaches (Timed.simulation.reaches timed)
  exact State.Leads.invariant alone sound_init fun _ _ _ before _ stepped => before.step stepped

private theorem timed_grows {timed later : Timed} {action : Timed.Action}
    (stepped : timed.step resolver sorter action = some later) :
    timed.state.log ⊆ later.state.log ∧
      (timed.state.initialDone = true → later.state.initialDone = true) := by
  cases Timed.step_stepped stepped with
  | pass => exact ⟨List.Subset.refl _, id⟩
  | throttled _ _ moved => exact step_grows moved
  | began _ moved => exact step_grows moved
  | called moved => exact step_grows moved
  | other _ _ moved => exact step_grows moved

/-- Nothing is read before the initial resolve is over. -/
theorem read_ready {timed later : Timed} {action : Resolver.Action}
    (reads : action = .readMaster ∨ action = .readReplica)
    (stepped : timed.step resolver sorter (.other action) = some later) :
    timed.state.initialDone = true := by
  cases Timed.step_stepped stepped with
  | called => rcases reads with taken | taken <;> cases taken
  | other _ _ moved =>
    rcases reads with rfl | rfl
    · simp only [State.step] at moved
      split at moved
      · assumption
      · cases moved
    · simp only [State.step] at moved
      split at moved
      · assumption
      · cases moved

def AllVouched (proxy : RedisSentinelProxy) (backends : Backends) : Prop :=
  ∀ id dialler, backends.diallers id = some dialler →
    Vouched proxy backends.timed.state.log dialler

theorem AllVouched.update (all : AllVouched proxy backends) {id : Nat} {timed : Timed}
    (grown : backends.timed.state.log ⊆ timed.state.log)
    (vouched : Vouched proxy timed.state.log after) :
    AllVouched proxy { timed, diallers := Function.update backends.diallers id (some after) } := by
  intro other found present
  rcases lookup_update present with ⟨rfl, rfl⟩ | ⟨-, before⟩
  · exact vouched
  · exact (all other found before).mono grown

theorem AllVouched.step {action : Action} (all : AllVouched proxy backends)
    (sound : Sound backends.timed.state)
    (stepped : backends.step proxy resolver sorter action = some next) :
    AllVouched proxy next := by
  cases step_stepped stepped with
  | resolver _ moved =>
    intro id dialler present
    exact (all id dialler present).mono (timed_grows moved).1
  | connect => exact all.update (List.Subset.refl _) (vouched_start _)
  | @readMaster id dialler after timed present _ moved advanced =>
    have grown := (timed_grows moved).1
    have justified := sound.justified_master (read_ready (.inl rfl) moved)
    have vouches : Vouches backends.timed.state.log .master backends.timed.state.store.masterAddr :=
      ⟨justified.2.1, fun unset => (justified.2.2 unset).2⟩
    refine all.update grown (((all id dialler present).advance advanced ?_ nofun).mono grown)
    rintro addr ⟨⟩
    exact vouches
  | @readReplica id dialler after timed present _ moved advanced =>
    have grown := (timed_grows moved).1
    have justified := sound.justified_replica (read_ready (.inr rfl) moved)
    refine all.update grown (((all id dialler present).advance advanced nofun ?_).mono grown)
    intro addr handed
    obtain ⟨round, -, -, -, verified⟩ := justified.2 addr (Reply.replicaAddress.inj handed)
    exact ⟨round, verified⟩
  | @dial id dialler after success present advanced =>
    exact all.update (List.Subset.refl _) ((all id dialler present).advance advanced nofun nofun)
  | @call id dialler after timed present moved advanced =>
    have grown := (timed_grows moved).1
    exact all.update grown (((all id dialler present).advance advanced nofun nofun).mono grown)
  | @resume id dialler after present _ advanced =>
    exact all.update (List.Subset.refl _) ((all id dialler present).advance advanced nofun nofun)

def masterNode (addr : String) : Network := nodes [(addr ++ ":6379", "master")]

/-- A client comes, the master it is to be connected to is gone, and a refresh is under way. -/
def lostMaster : List Action :=
  (masterSteps .loop (masterNode "10.0.0.1") "10.0.0.1" ++
      replicaSteps .loop (nodes []) []).map (fun action => .resolver (.other action)) ++
    [.connect 0 .master, .ask 0, .dial 0 false, .resolver (.pass 2000000000), .call 0,
      .resolver (.acquire 0)]

def foundMaster : List Action :=
  (masterSteps (.caller 0) (masterNode "10.0.0.2") "10.0.0.2" ++
    replicaSteps (.caller 0) (nodes []) []).map fun action => .resolver (.other action)

def refreshedBackends : Backends :=
  ((machine Dialler.routingProxy tracker insertionSorter).after (lostMaster ++ foundMaster)).get
    (by decide +kernel)

theorem refreshedBackends_reached :
    (machine Dialler.routingProxy tracker insertionSorter).Reaches (fun _ _ => True)
      refreshedBackends :=
  .after (Option.some_get _).symm

/-- Whatever the sessions and the resolver do and in whatever order: a node is dialled with the
configured TLS setup only, from an endpoint that may dial its kind, and after it has given
the role it is dialled for. The address is empty only where the initial resolve gave up. -/
theorem dials_vouched
    (reached : (machine proxy resolver sorter).Reaches (fun _ _ => True) backends) {id : Nat}
    {dialler : Dialler} (present : backends.diallers id = some dialler) {dial : Dial}
    (dialled : dial ∈ dialler.dials) :
    dial.tls = proxy.masterTLSConf ∧ Permits proxy dialler.endpoint dial.label ∧
      Vouches backends.timed.state.log dial.label dial.addr := by
  have all : AllVouched proxy backends := reached.invariant (fun _ _ absent => by cases absent)
    fun _ _ _ earlier all _ stepped => all.step (sound_of_reaches earlier) stepped
  exact (all id dialler present).dialled dial dialled

theorem dials_vouched_failover : ∃ dialler, refreshedBackends.diallers 0 = some dialler ∧
    dialler.dials = [⟨.master, "10.0.0.1:6379", none⟩] ∧
    ∃ round, RoleGiven refreshedBackends.timed.state.log round "10.0.0.1:6379" "master" := by
  obtain ⟨dialler, present⟩ := Option.isSome_iff_exists.mp
    (show (refreshedBackends.diallers 0).isSome by decide +kernel)
  have dialled : (refreshedBackends.diallers 0).map Dialler.dials =
      some [⟨.master, "10.0.0.1:6379", none⟩] := by decide +kernel
  rw [present] at dialled
  have dials := Option.some.inj dialled
  have member : ⟨.master, "10.0.0.1:6379", none⟩ ∈ dialler.dials := by simp [dials]
  exact ⟨dialler, present, dials,
    (dials_vouched refreshedBackends_reached present member).2.2.1 (by decide)⟩

end Vouching

section Patience

/-- Stages in which a session is inside `RefreshAddresses`. -/
def waits : Stage → Bool
  | .refreshing => true
  | .refreshingReplica => true
  | _ => false

/-- A refresh that a caller may rely on is over. -/
def Refreshed (timed : Timed) (id : Nat) : Prop :=
  ∃ begun, timed.Over begun ∧ timed.called id - refreshThrottle < begun ∧ begun ≤ timed.now

/-- The invariant of sessions and the resolver: a session has asked it for an address before
it asks for a refresh, calls it only while waiting for one, and when its call has returned a
refresh is over. -/
structure Patient (backends : Backends) : Prop where
  ready : ∀ id dialler, backends.diallers id = some dialler → dialler.stage ≠ .pick false →
    backends.timed.state.initialDone = true
  idle : ∀ id, (∀ dialler, backends.diallers id = some dialler → waits dialler.stage = false) →
    backends.timed.state.callers id = .idle
  refreshed : ∀ id dialler, backends.diallers id = some dialler → waits dialler.stage = true →
    backends.timed.state.callers id = .idle → Refreshed backends.timed id

variable {dialler after : Dialler}

/-- A session is on its way after a step, and which steps begin and end a wait. -/
theorem step_waits {answer : Reply} (advanced : dialler.step proxy answer = some after) :
    waits dialler.stage = decide (answer = .returned) ∧
      waits after.stage = decide (answer = .called) ∧ after.stage ≠ .pick false := by
  have refused {dialler : Dialler} (refreshed : Bool) (refusal : Refusal) :
      waits (dialler.refuse proxy refreshed refusal).stage = false ∧
        (dialler.refuse proxy refreshed refusal).stage ≠ .pick false := by
    rcases @Dialler.refuse_stage proxy dialler refreshed refusal with stands | stands <;>
      simp [waits, stands]
  have connected {dialler : Dialler} (label : Label) (addr : String) :
      waits (dialler.connect proxy label addr).stage = false ∧
        (dialler.connect proxy label addr).stage ≠ .pick false := by
    rcases @Dialler.connect_stage proxy dialler label addr with stands | stands <;>
      simp [waits, stands]
  cases Dialler.step_advances advanced with
  | noReplica stands => exact ⟨by simp [waits, stands], refused _ _⟩
  | connect stands => exact ⟨by simp [waits, stands], connected _ _⟩
  | miss stands => exact ⟨by simp [waits, stands], refused _ _⟩
  | pickMaster stands => simp [waits, stands]
  | pickReplica stands => simp [waits, stands]
  | fallBack stands => simp [waits, stands]
  | pickFallback stands => simp [waits, stands]
  | call stands => simp [waits, stands]
  | retry stands => simp [waits, stands]
  | findReplica stands => simp [waits, stands]
  | goWithout stands => simp [waits, stands]
  | lackReplica stands => simp [waits, stands]
  | callReplica stands => simp [waits, stands]
  | retryReplica stands => simp [waits, stands]
  | dialReplica stands => simp [waits, stands]

theorem step_started {answer : Reply} (advanced : dialler.step proxy answer = some after)
    (master : ∀ addr, answer ≠ .masterAddress addr)
    (replica : ∀ picked, answer ≠ .replicaAddress picked) : dialler.stage ≠ .pick false := by
  cases Dialler.step_advances advanced with
  | pickMaster => exact absurd rfl (master _)
  | pickReplica => exact absurd rfl (replica _)
  | fallBack => exact absurd rfl (replica _)
  | noReplica => exact absurd rfl (replica _)
  | pickFallback => exact absurd rfl (master _)
  | findReplica => exact absurd rfl (replica _)
  | goWithout => exact absurd rfl (replica _)
  | lackReplica => exact absurd rfl (replica _)
  | connect stands => simp [stands]
  | miss stands => simp [stands]
  | call stands => simp [stands]
  | retry stands => simp [stands]
  | callReplica stands => simp [stands]
  | retryReplica stands => simp [stands]
  | dialReplica stands => simp [stands]

theorem Patient.idle_of (patient : Patient backends) {id : Nat}
    (present : backends.diallers id = some dialler) (still : waits dialler.stage = false) :
    backends.timed.state.callers id = .idle := by
  refine patient.idle id ?_
  intro found same
  rw [Option.some.inj (same.symm.trans present)]
  exact still

theorem Refreshed.step {timed later : Timed} {action : Timed.Action} {id : Nat}
    (refreshed : Refreshed timed id) (paced : Timed.Paced timed)
    (uncalled : ∀ id, action ≠ .other (.call id))
    (stepped : timed.step resolver sorter action = some later) : Refreshed later id := by
  obtain ⟨begun, complete, near, past⟩ := refreshed
  refine ⟨begun, complete.step paced stepped, ?_, ?_⟩
  · rw [Timed.called_kept uncalled stepped]
    exact near
  · have after := paced.step stepped
    exact after.begun begun (complete.step paced stepped).1

theorem Patient.timed (patient : Patient backends) (paced : Timed.Paced backends.timed)
    {timed : Timed} {action : Timed.Action} (uncalled : ∀ id, action ≠ .other (.call id))
    (stepped : backends.timed.step resolver sorter action = some timed) :
    Patient { backends with timed } where
  ready id dialler present started :=
    (timed_grows stepped).2 (patient.ready id dialler present started)
  idle id still := Timed.idle_kept uncalled stepped (patient.idle id still)
  refreshed id dialler present waiting idle := by
    by_cases before : backends.timed.state.callers id = .idle
    · exact (patient.refreshed id dialler present waiting before).step paced uncalled stepped
    · exact Timed.returned_over paced stepped before idle

theorem Patient.session (patient : Patient backends) {id : Nat}
    (idle : backends.timed.state.callers id = .idle) (still : waits after.stage = false)
    (ready : after.stage ≠ .pick false → backends.timed.state.initialDone = true) :
    Patient { backends with diallers := Function.update backends.diallers id (some after) } where
  ready other found present started := by
    rcases lookup_update present with ⟨rfl, rfl⟩ | ⟨-, before⟩
    · exact ready started
    · exact patient.ready other found before started
  idle other quiet := by
    by_cases same : other = id
    · rw [same]
      exact idle
    · refine patient.idle other fun found before => quiet found ?_
      exact (Function.update_of_ne same _ _).trans before
  refreshed other found present waiting := by
    rcases lookup_update present with ⟨rfl, rfl⟩ | ⟨-, before⟩
    · cases still.symm.trans waiting
    · exact patient.refreshed other found before waiting

theorem Patient.call (patient : Patient backends) (paced : Timed.Paced backends.timed) {id : Nat}
    {timed : Timed} (ready : backends.timed.state.initialDone = true)
    (stepped : backends.timed.step resolver sorter (.other (.call id)) = some timed)
    (waiting : waits after.stage = true) :
    Patient { timed, diallers := Function.update backends.diallers id (some after) } := by
  obtain ⟨-, callers, called⟩ := Timed.call_waits ready stepped
  have elsewhere {other : Nat} (different : other ≠ id) :
      timed.state.callers other = backends.timed.state.callers other := by
    rw [callers, Function.update_of_ne different]
  refine ⟨fun _ _ _ _ => (timed_grows stepped).2 ready, ?_, ?_⟩
  · intro other quiet
    by_cases same : other = id
    · subst same
      cases waiting.symm.trans (quiet after (by simp))
    · rw [elsewhere same]
      exact patient.idle other fun found before =>
        quiet found ((Function.update_of_ne same _ _).trans before)
  · intro other found present still idle
    rcases lookup_update present with ⟨rfl, rfl⟩ | ⟨different, before⟩
    · rw [callers, Function.update_self] at idle
      cases idle
    · rw [elsewhere different] at idle
      obtain ⟨begun, complete, near, past⟩ := patient.refreshed other found before still idle
      refine ⟨begun, complete.step paced stepped, ?_, ?_⟩
      · rw [called, Function.update_of_ne different]
        exact near
      · exact (paced.step stepped).begun begun (complete.step paced stepped).1

theorem Patient.step {action : Action} (patient : Patient backends)
    (paced : Timed.Paced backends.timed)
    (stepped : backends.step proxy resolver sorter action = some next) : Patient next := by
  cases step_stepped stepped with
  | resolver alone moved =>
    refine patient.timed paced ?_ moved
    rintro id rfl
    cases alone
  | connect fresh =>
    refine patient.session (patient.idle _ ?_) rfl (fun started => absurd rfl started)
    intro found present
    cases fresh.symm.trans present
  | @readMaster id dialler after timed present _ moved advanced =>
    have later := patient.timed paced (by simp) moved
    obtain ⟨still, waiting, -⟩ := step_waits advanced
    exact later.session (later.idle_of present still) waiting
      fun _ => (timed_grows moved).2 (read_ready (.inl rfl) moved)
  | @readReplica id dialler after timed present _ moved advanced =>
    have later := patient.timed paced (by simp) moved
    obtain ⟨still, waiting, -⟩ := step_waits advanced
    exact later.session (later.idle_of present still) waiting
      fun _ => (timed_grows moved).2 (read_ready (.inr rfl) moved)
  | @dial id dialler after success present advanced =>
    obtain ⟨still, waiting, -⟩ := step_waits advanced
    exact patient.session (patient.idle_of present still) waiting
      fun _ => patient.ready id dialler present (step_started advanced nofun nofun)
  | @call id dialler after timed present moved advanced =>
    obtain ⟨-, waiting, -⟩ := step_waits advanced
    exact patient.call paced (patient.ready id dialler present (step_started advanced nofun nofun))
      moved waiting
  | @resume id dialler after present idle advanced =>
    obtain ⟨-, waiting, -⟩ := step_waits advanced
    exact patient.session idle waiting
      fun _ => patient.ready id dialler present (step_started advanced nofun nofun)

private theorem patient_init : Patient init where
  ready _ _ present := by cases present
  idle _ _ := rfl
  refreshed _ _ present := by cases present

private theorem patient_of_reaches
    (reached : (machine proxy resolver sorter).Reaches (fun _ _ => True) backends) :
    Patient backends :=
  reached.invariant patient_init fun _ _ _ earlier patient _ stepped =>
    patient.step (Timed.paced_of_reaches (resolver_simulation.reaches earlier)) stepped

/-- A session whose attempt has failed makes the next one only when a forced refresh is over
that began after it asked for one, or less than the throttle before; the first address
it reads afterwards is read later than that. -/
theorem retry_fresh
    (reached : (machine proxy resolver sorter).Reaches (fun _ _ => True) backends) {id : Nat}
    (stepped : backends.step proxy resolver sorter (.resume id) = some next) :
    Refreshed backends.timed id := by
  have patient := patient_of_reaches reached
  cases step_stepped stepped with
  | @resume _ dialler after present idle advanced =>
    obtain ⟨waiting, -⟩ := step_waits advanced
    exact patient.refreshed id dialler present waiting idle

theorem retry_fresh_failover :
    (refreshedBackends.step Dialler.routingProxy tracker insertionSorter (.resume 0)).isSome ∧
      Refreshed refreshedBackends.timed 0 := by
  have resumes : (refreshedBackends.step Dialler.routingProxy tracker insertionSorter
      (.resume 0)).isSome := by decide +kernel
  obtain ⟨next, stepped⟩ := Option.isSome_iff_exists.mp resumes
  exact ⟨resumes, retry_fresh refreshedBackends_reached stepped⟩

/-- Callers that go on by themselves are a run of the whole. -/
theorem reaches_of_callersLead {answers : Nat → Resolver.Phase → Answer} {timed : Timed}
    (reached : (machine proxy resolver sorter).Reaches (fun _ _ => True) backends)
    (run : Timed.CallersLead resolver sorter answers backends.timed timed) :
    (machine proxy resolver sorter).Reaches (fun _ _ => True) { backends with timed } := by
  have alone {before after : Timed} {action : Timed.Action} (own : ofSession action = false)
      (stepped : before.step resolver sorter action = some after) :
      (machine proxy resolver sorter).step { backends with timed := before } (.resolver action) =
        some { backends with timed := after } := by
    simp [machine, step, own, stepped]
  induction run with
  | refl => exact reached
  | tail _ last ih =>
    cases last with
    | acquire id stepped => exact ih.step trivial (alone rfl stepped)
    | work _ stepped => exact ih.step trivial (alone rfl stepped)

/-- No session is left behind in `RefreshAddresses`: whatever Sentinel and the nodes answer, each
round in its own way, the callers by themselves come to where it goes on. -/
theorem retry_reached
    (reached : (machine proxy resolver sorter).Reaches (fun _ _ => True) backends) {id : Nat}
    (present : backends.diallers id = some dialler) (waiting : waits dialler.stage = true)
    {answers : Nat → Resolver.Phase → Answer}
    (suits : ∀ round (phase : Resolver.Phase), phase.Suits (answers round phase)) :
    ∃ timed, Timed.CallersLead resolver sorter answers backends.timed timed ∧
      (machine proxy resolver sorter).Reaches (fun _ _ => True) { backends with timed } ∧
      ({ backends with timed }.step proxy resolver sorter (.resume id)).isSome := by
  have paced := Timed.paced_of_reaches (resolver_simulation.reaches reached)
  obtain ⟨timed, run, idle⟩ := Timed.call_returns paced.exclusive suits id
  refine ⟨timed, run, reaches_of_callersLead reached run, ?_⟩
  simp only [step, idle, reply, present]
  cases stands : dialler.stage with
  | refreshing => simp [Dialler.step, stands]
  | refreshingReplica => simp [Dialler.step, stands]
  | _ => simp [waits, stands] at waiting

/-- Sentinel answers every other round, and no node does. -/
def intermittent (round : Nat) : Resolver.Phase → Answer
  | .query => .master (if round % 2 = 0 then .failed else .elements ["10.0.0.1", "6379"])
  | .probe _ _ => .network (nodes [])
  | .storeMaster _ _ => .quiet
  | .listReplicas => .replicas none
  | .examine _ [] => .quiet
  | .examine _ (_ :: _) => .network (nodes [])
  | .storeReplicas _ _ => .quiet

private theorem intermittent_suits (round : Nat) (phase : Resolver.Phase) :
    phase.Suits (intermittent round phase) := by
  unfold intermittent
  split <;> trivial

def waitingBackends : Backends :=
  ((machine Dialler.routingProxy tracker insertionSorter).after lostMaster).get (by decide +kernel)

theorem retry_reached_intermittent : ∃ timed,
    ({ waitingBackends with timed }.step Dialler.routingProxy tracker insertionSorter
      (.resume 0)).isSome := by
  obtain ⟨dialler, present⟩ := Option.isSome_iff_exists.mp
    (show (waitingBackends.diallers 0).isSome by decide +kernel)
  have stands : (waitingBackends.diallers 0).map Dialler.stage = some .refreshing := by
    decide +kernel
  rw [present] at stands
  obtain ⟨timed, -, -, resumes⟩ := retry_reached (.after (Option.some_get _).symm) present
    (by rw [Option.some.inj stands]; rfl) intermittent_suits
  exact ⟨timed, resumes⟩

end Patience

end Backends

end SentinelProxy.Proxy
