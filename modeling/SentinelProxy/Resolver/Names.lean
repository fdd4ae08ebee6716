import SentinelProxy.Resolver.Selection
import SentinelProxy.Resolver.System

/-! Node names are for the log only: whatever reverse lookups answer, the resolver takes the
same steps, stores the same addresses and hands out the same ones. -/

namespace SentinelProxy.Resolver

/-! Everything without its names. -/

def Network.blind (network : Network) : Network := { network with lookupPTR := fun _ => "" }

def Answer.blind : Answer → Answer
  | .network given => .network given.blind
  | answer => answer

def Action.blind : Action → Action
  | .work thread answer => .work thread answer.blind
  | action => action

def Replica.blind (replica : Replica) : Replica := { replica with name := "" }

def Store.blind (store : Store) : Store := { store with masterDisplay := "", replicaNames := [] }

def Phase.blind : Phase → Phase
  | .storeMaster addr _ => .storeMaster addr ""
  | .examine found rest => .examine (found.map Replica.blind) rest
  | .storeReplicas addrs _ => .storeReplicas addrs []
  | phase => phase

def Progress.blind : Progress → Progress
  | .busy phase => .busy phase.blind
  | .done outcome => .done outcome

def Round.blind (round : Round) : Round := { round with phase := round.phase.blind }

def Loop.blind : Loop → Loop
  | .initial errCount round => .initial errCount round.blind
  | .steady errCount round => .steady errCount round.blind
  | loop => loop

def Caller.blind : Caller → Caller
  | .resolving round => .resolving round.blind
  | caller => caller

def State.blind (state : State) : State :=
  { state with
    store := state.store.blind
    loop := state.loop.blind
    callers := fun id => (state.callers id).blind }

section Rounds

variable {resolver : RedisMasterResolver} {sorter : Sorter} {network : Network}

/-- The probe fails alike or finds the same address. -/
theorem probeMaster_blind (network : Network) (host port : String) :
    (∃ fault, probeMaster network.blind host port = .error fault ∧
      probeMaster network host port = .error fault) ∨
    ∃ addr blind name, probeMaster network.blind host port = .ok (addr, blind) ∧
      probeMaster network host port = .ok (addr, name) := by
  unfold probeMaster
  cases usable : usableTCPAddr network.toLookups host port with
  | error fault => exact .inl ⟨fault, by simp only [Network.blind, usable], rfl⟩
  | ok addr =>
    have roles : checkRole network.blind addr "master" = checkRole network addr "master" := rfl
    simp only [roles, show network.blind.toLookups = network.toLookups from rfl, usable]
    cases checkRole network addr "master" with
    | error fault => exact .inl ⟨_, rfl, rfl⟩
    | ok given => exact .inr ⟨_, _, _, rfl, rfl⟩

private theorem examine_blind (network : Network) (fields : Fields) :
    (examine network.blind fields).map Replica.blind =
      (examine network fields).map Replica.blind := by
  unfold examine
  split
  · rfl
  · have roles (addr : Net.TCPAddr) :
        checkRole network.blind addr "slave" = checkRole network addr "slave" := rfl
    simp only [roles, show network.blind.toLookups = network.toLookups from rfl]
    cases usableTCPAddr network.toLookups (fields.text "ip") (fields.text "port") with
    | error fault => rfl
    | ok addr =>
      dsimp only
      cases checkRole network addr "slave" <;> rfl

private theorem map_blind_addr (found : List Replica) :
    (found.map Replica.blind).map Replica.addr = found.map Replica.addr := by
  rw [List.map_map]
  rfl

/-- The order is that of the addresses alone. -/
theorem lists_blind (found : List Replica) :
    (sorter.lists (found.map Replica.blind)).1 = (sorter.lists found).1 := by
  refine sorted_unique (sorted_addrs _) (sorted_addrs _) ?_
  refine (perm_addrs _).trans ?_
  rw [map_blind_addr]
  exact (perm_addrs _).symm

@[simp] theorem Replica.blind_blind (replica : Replica) : replica.blind.blind = replica.blind := rfl

@[simp] theorem Phase.blind_blind (phase : Phase) : phase.blind.blind = phase.blind := by
  cases phase <;> simp [Phase.blind, Function.comp_def]

/-- A step of a round, with its names and without. -/
theorem step_blind (phase : Phase) (answer : Answer) (store : Store) :
    (phase.blind.step resolver sorter answer.blind store.blind).map
        (Prod.map Progress.blind Store.blind) =
      (phase.step resolver sorter answer store).map (Prod.map Progress.blind Store.blind) := by
  cases phase with
  | query =>
    cases answer with
    | master reply =>
      simp only [Phase.blind, Answer.blind, Phase.step]
      cases masterTarget reply <;> rfl
    | _ => rfl
  | probe host port =>
    cases answer with
    | network network =>
      simp only [Phase.blind, Answer.blind, Phase.step]
      rcases probeMaster_blind network host port with
        ⟨fault, first, second⟩ | ⟨addr, blind, name, first, second⟩
      · rw [first, second]
        rfl
      · rw [first, second]
        rfl
    | _ => rfl
  | storeMaster addr name =>
    cases answer with
    | quiet =>
      simp only [Phase.blind, Answer.blind, Phase.step]
      cases resolver.trackReplicas <;> rfl
    | _ => rfl
  | listReplicas =>
    cases answer with
    | replicas entries => cases entries <;> rfl
    | _ => rfl
  | examine found rest =>
    cases rest with
    | nil =>
      cases answer with
      | quiet =>
        simp [Phase.blind, Answer.blind, Phase.step, Progress.blind, lists_blind, Store.blind]
      | _ => rfl
    | cons fields rest =>
      cases answer with
      | network network =>
        have same := examine_blind network fields
        simp only [Phase.blind, Answer.blind, Phase.step, Option.map_some, Prod.map, Progress.blind,
          List.map_append, ← Option.toList_map, same, List.map_map]
        rfl
      | _ => rfl
  | storeReplicas addrs names =>
    cases answer with
    | quiet => rfl
    | _ => rfl

private theorem events_blind (phase : Phase) (answer : Answer) (round : Nat) :
    phase.blind.events sorter round answer.blind = phase.events sorter round answer := by
  have probes (network : Network) (host port : String) :
      probeEvents round network.blind host port = probeEvents round network host port := rfl
  cases phase with
  | probe host port =>
    cases answer with
    | network network =>
      simp only [Phase.blind, Answer.blind, Phase.events, probes]
      rcases probeMaster_blind network host port with
        ⟨fault, first, second⟩ | ⟨addr, blind, name, first, second⟩
      · rw [first, second]
      · rw [first, second]
    | _ => rfl
  | examine found rest =>
    cases rest with
    | nil =>
      cases answer with
      | quiet => simp [Phase.blind, Answer.blind, Phase.events, lists_blind]
      | _ => rfl
    | cons fields rest => cases answer <;> rfl
  | listReplicas =>
    cases answer with
    | replicas entries => cases entries <;> rfl
    | _ => rfl
  | _ => cases answer <;> rfl

end Rounds

section Runs

variable {resolver : RedisMasterResolver} {sorter : Sorter}

@[simp] theorem Round.blind_blind (round : Round) : round.blind.blind = round.blind := by
  simp [Round.blind]

@[simp] theorem Loop.blind_blind (loop : Loop) : loop.blind.blind = loop.blind := by
  cases loop <;> simp [Loop.blind]

@[simp] theorem Caller.blind_blind (caller : Caller) : caller.blind.blind = caller.blind := by
  cases caller <;> simp [Caller.blind]

@[simp] theorem Store.blind_blind (store : Store) : store.blind.blind = store.blind := rfl

@[simp] theorem State.blind_blind (state : State) : state.blind.blind = state.blind := by
  simp [State.blind]

@[simp] theorem Loop.blind_initial (errCount : Int64) (round : Round) :
    (Loop.initial errCount round).blind = .initial errCount round.blind := rfl

@[simp] theorem Loop.blind_steady (errCount : Int64) (round : Round) :
    (Loop.steady errCount round).blind = .steady errCount round.blind := rfl

@[simp] theorem Caller.blind_resolving (round : Round) :
    (Caller.resolving round).blind = .resolving round.blind := rfl

@[simp] theorem Caller.blind_idle : Caller.idle.blind = .idle := rfl

@[simp] theorem Caller.blind_waiting : Caller.waiting.blind = .waiting := rfl

private theorem active_blind (state : State) (thread : Thread) :
    state.blind.active thread = (state.active thread).map Round.blind := by
  cases thread with
  | loop =>
    show state.loop.blind.round? = state.loop.round?.map Round.blind
    cases state.loop <;> rfl
  | caller id =>
    show (state.callers id).blind.round? = (state.callers id).round?.map Round.blind
    cases state.callers id <;> rfl

private theorem update_blind (callers : Nat → Caller) (id : Nat) (caller : Caller) :
    (fun other => (Function.update callers id caller other).blind) =
      Function.update (fun other => (callers other).blind) id caller.blind := by
  funext other
  by_cases same : other = id
  · subst same
    simp
  · simp [Function.update_of_ne same]

private theorem resume_blind (state : State) (thread : Thread) (round : Round) :
    (state.resume thread round).blind = state.blind.resume thread round.blind := by
  cases thread with
  | loop =>
    have same : (state.loop.resume round).blind = state.loop.blind.resume round.blind := by
      cases state.loop <;> rfl
    simp only [State.blind, State.resume, same]
  | caller id => simp only [State.blind, State.resume, update_blind, Caller.blind_resolving]

private theorem enter_blind (errCount : Int64) (last : Option Fault) :
    (State.enter resolver errCount last).blind = State.enter resolver errCount last := by
  unfold State.enter
  split <;> rfl

private theorem loopDone_blind (state : State) (outcome : Option Fault) :
    (state.loopDone resolver outcome).blind = state.blind.loopDone resolver outcome := by
  cases stands : state.loop with
  | initial errCount round =>
    cases outcome with
    | none =>
      simp only [State.loopDone, State.blind, stands, Loop.blind_initial, State.finishInitial,
        enter_blind]
    | some fault =>
      simp only [State.loopDone, State.blind, stands, Loop.blind_initial]
      split
      · rfl
      · split <;> rfl
  | steady errCount round =>
    cases outcome with
    | none => simp only [State.loopDone, State.blind, stands, Loop.blind_steady, enter_blind]
    | some fault =>
      simp only [State.loopDone, State.blind, stands, Loop.blind_steady]
      split <;> rfl
  | _ =>
    simp only [State.loopDone, State.blind, stands]
    rfl

private theorem finish_blind (state : State) (thread : Thread) (outcome : Option Fault) :
    (state.finish resolver thread outcome).blind = state.blind.finish resolver thread outcome := by
  cases thread with
  | loop => exact loopDone_blind state outcome
  | caller id => simp only [State.blind, State.finish, update_blind, Caller.blind_idle]

/-- The end of a step: the round has come to its next phase or to its end. -/
def State.proceed (resolver : RedisMasterResolver) (state : State) (thread : Thread) (id : Nat)
    (events : List Event) (progress : Progress) (store : Store) : State :=
  let next := { state with store, log := events ++ state.log }
  match progress with
  | .busy phase => next.resume thread ⟨id, phase⟩
  | .done outcome => next.finish resolver thread outcome

private theorem work_eq {state : State} {thread : Thread} {round : Round}
    (running : state.active thread = some round) (answer : Answer) :
    state.work resolver sorter thread answer =
      (round.phase.step resolver sorter answer state.store).map fun reached =>
        state.proceed resolver thread round.id (round.phase.events sorter round.id answer) reached.1
          reached.2 := by
  simp only [State.work, running]
  cases round.phase.step resolver sorter answer state.store with
  | none => rfl
  | some reached =>
    obtain ⟨progress, store⟩ := reached
    cases progress <;> rfl

private theorem proceed_blind (state : State) (thread : Thread) (id : Nat) (events : List Event)
    (progress : Progress) (store : Store) :
    (state.proceed resolver thread id events progress store).blind =
      state.blind.proceed resolver thread id events progress.blind store.blind := by
  cases progress with
  | busy phase => exact resume_blind _ thread ⟨id, phase⟩
  | done outcome => exact finish_blind _ thread outcome

/-- A step of a round, where it belongs. -/
theorem work_blind (state : State) (thread : Thread) (answer : Answer) :
    (state.blind.work resolver sorter thread answer.blind).map State.blind =
      (state.work resolver sorter thread answer).map State.blind := by
  cases running : state.active thread with
  | none =>
    have idle := active_blind state thread
    rw [running] at idle
    simp only [State.work, running, idle, Option.map_none]
  | some round =>
    have runs := active_blind state thread
    rw [running] at runs
    rw [work_eq runs, work_eq running, Option.map_map, Option.map_map]
    have same := @step_blind resolver sorter round.phase answer state.store
    have events := @events_blind sorter round.phase answer round.id
    -- both ends depend on what the step has come to without its names only
    have ends (origin : State) (alike : origin.blind = state.blind) (events : List Event) :
        (State.blind ∘ fun reached : Progress × Store =>
          origin.proceed resolver thread round.id events reached.1 reached.2) =
        (fun reached => state.blind.proceed resolver thread round.id events reached.1 reached.2) ∘
          Prod.map Progress.blind Store.blind := by
      funext reached
      rw [Function.comp_apply, proceed_blind, alike]
      rfl
    have first := ends state.blind (State.blind_blind state)
      (round.phase.events sorter round.id answer)
    have second := ends state rfl (round.phase.events sorter round.id answer)
    simp only [Round.blind, events, first, second, ← Option.map_map]
    exact congrArg _ same

/-- All other steps do not touch names. -/
theorem timer_blind (state : State) :
    state.blind.timer resolver = (state.timer resolver).map State.blind := by
  unfold State.timer
  cases stands : state.loop with
  | backoff errCount wait fault =>
    simp only [State.blind, stands, Option.map_some, enter_blind]
    rfl
  | _ =>
    simp only [State.blind, stands]
    rfl

private theorem leave_blind (state : State) : state.blind.leave = state.leave.map State.blind := by
  unfold State.leave
  cases told : state.cancelled with
  | false => simp [State.blind, told]
  | true =>
    cases stands : state.loop <;> simp only [State.blind, stands, told, State.finishInitial] <;> rfl

private theorem call_blind (state : State) (id : Nat) :
    state.blind.call id = (state.call id).map State.blind := by
  unfold State.call
  cases stands : state.callers id with
  | idle =>
    cases ready : state.initialDone <;>
      simp [State.blind, stands, ready, update_blind]
  | _ => simp [State.blind, stands]

private theorem acquire_blind (state : State) (id : Nat) (throttled : Bool) :
    state.blind.acquire id throttled = (state.acquire id throttled).map State.blind := by
  unfold State.acquire
  cases stands : state.callers id with
  | waiting =>
    cases held : state.refreshLock with
    | some other => simp [State.blind, stands, held]
    | none =>
      cases throttled with
      | true => simp [State.blind, stands, held, update_blind]
      | false =>
        simp [State.blind, stands, held, update_blind]
        rfl
  | _ => simp [State.blind, stands]

private theorem replicaAddress_blind (store : Store) :
    store.blind.replicaAddress = (store.replicaAddress.1, store.replicaAddress.2.blind) := by
  unfold Store.replicaAddress
  by_cases none : store.replicaAddrs = []
  · simp [Store.blind, none]
  · simp [Store.blind, none]

/-- With names or without, the same step can be taken, and comes to the same but for names. -/
theorem state_step_blind (state : State) (action : Action) :
    (state.blind.step resolver sorter action.blind).map State.blind =
      (state.step resolver sorter action).map State.blind := by
  cases action with
  | work thread answer => exact work_blind state thread answer
  | timer => simp [State.step, Action.blind, timer_blind, Function.comp_def]
  | leave => simp [State.step, Action.blind, leave_blind, Function.comp_def]
  | cancel => simp [State.step, Action.blind, State.blind]
  | call id => simp [State.step, Action.blind, call_blind, Function.comp_def]
  | acquire id throttled => simp [State.step, Action.blind, acquire_blind, Function.comp_def]
  | readMaster =>
    cases ready : state.initialDone <;>
      simp [State.step, Action.blind, State.blind, ready, Store.blind]
  | readReplica =>
    cases ready : state.initialDone <;>
      simp [State.step, Action.blind, State.blind, ready, replicaAddress_blind]

private theorem step_alike {first second : State} (alike : first.blind = second.blind)
    {action other : Action} (same : action.blind = other.blind) :
    (first.step resolver sorter action).map State.blind =
      (second.step resolver sorter other).map State.blind := by
  rw [← state_step_blind, ← state_step_blind second, alike, same]

private theorem steps_alike {first second : State} (alike : first.blind = second.blind)
    {actions others : List Action}
    (same : actions.map Action.blind = others.map Action.blind) :
    (first.steps resolver sorter actions).map State.blind =
      (second.steps resolver sorter others).map State.blind := by
  induction actions generalizing first second others with
  | nil =>
    cases others with
    | nil => exact congrArg some alike
    | cons => cases same
  | cons action actions ih =>
    cases others with
    | nil => cases same
    | cons other others =>
      obtain ⟨here, later⟩ := List.cons.inj same
      have next := @step_alike resolver sorter _ _ alike _ _ here
      simp only [State.steps]
      cases one : first.step resolver sorter action with
      | none =>
        rw [one] at next
        rw [Option.map_eq_none_iff.mp next.symm]
        rfl
      | some after =>
        rw [one] at next
        obtain ⟨afterwards, two, also⟩ := Option.map_eq_some_iff.mp next.symm
        rw [two]
        exact ih also.symm later

/-- The answers of two runs differ in reverse lookups at most. -/
def NamedApart (actions others : List Action) : Prop :=
  actions.map Action.blind = others.map Action.blind

/-- Reverse lookups reach nothing but names: with other ones the same steps can be taken, the
same addresses are stored and handed out, and the loop counts, waits and returns alike. -/
theorem names_harmless {actions others : List Action} (named : NamedApart actions others)
    {state : State} (ran : State.init.steps resolver sorter actions = some state) :
    ∃ other, State.init.steps resolver sorter others = some other ∧ other.log = state.log ∧
      other.store.masterAddr = state.store.masterAddr ∧
      other.store.replicaAddrs = state.store.replicaAddrs ∧
      other.store.replicaIdx = state.store.replicaIdx ∧ other.loop.blind = state.loop.blind := by
  have same := @steps_alike resolver sorter State.init State.init rfl _ _ named
  rw [ran] at same
  obtain ⟨other, also, alike⟩ := Option.map_eq_some_iff.mp same.symm
  refine ⟨other, also, ?_, ?_, ?_, ?_, ?_⟩
  · exact congrArg (fun state => state.log) alike
  · exact congrArg (fun state => state.store.masterAddr) alike
  · exact congrArg (fun state => state.store.replicaAddrs) alike
  · exact congrArg (fun state => state.store.replicaIdx) alike
  · exact congrArg (fun state => state.loop) alike

/-- A network with a name for every address. -/
def namedNodes : Network :=
  { nodes [("10.0.0.1:6379", "master")] with lookupPTR := fun ip => "node-" ++ ip }

theorem names_harmless_namedNodes :
    ∃ other, State.init.steps tracker insertionSorter (masterSteps .loop namedNodes "10.0.0.1") =
        some other ∧ other.store.masterAddr = "10.0.0.1:6379" ∧
      other.store.masterDisplay = "node-10.0.0.1:6379 (10.0.0.1)" := by
  have plain : ((State.init.steps tracker insertionSorter
      (masterSteps .loop (nodes [("10.0.0.1:6379", "master")]) "10.0.0.1")).map
        fun state => state.store.masterAddr) = some "10.0.0.1:6379" := by decide +kernel
  have names : ((State.init.steps tracker insertionSorter
      (masterSteps .loop namedNodes "10.0.0.1")).map fun state => state.store.masterDisplay) =
        some "node-10.0.0.1:6379 (10.0.0.1)" := by decide +kernel
  obtain ⟨state, ran, addr⟩ := Option.map_eq_some_iff.mp plain
  have apart : NamedApart
      (masterSteps .loop (nodes [("10.0.0.1:6379", "master")]) "10.0.0.1")
      (masterSteps .loop namedNodes "10.0.0.1") := rfl
  obtain ⟨other, also, -, same, -⟩ := names_harmless apart ran
  rw [also] at names
  exact ⟨other, also, same.trans addr, Option.some.inj names⟩

end Runs

end SentinelProxy.Resolver
