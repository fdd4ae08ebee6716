import SentinelProxy.Resolver.System

/-! Which round the stored addresses come from, once all rounds have ended. -/

namespace SentinelProxy.Resolver

open SentinelProxy.Net

/-- The rounds whose query for the master was answered, latest first. -/
def answers (log : List Event) : List Nat :=
  log.filterMap fun
    | .answered round _ => some round
    | _ => none

def succeeded (log : List Event) (round : Nat) : Bool :=
  log.any fun
    | .masterResolved other _ => other == round
    | _ => false

/-- Of the rounds that resolved the master, the one whose query was answered last. -/
def latestSuccess (log : List Event) : Option Nat := (answers log).find? (succeeded log)

/-- The store holds what a round resolved. -/
structure ResultsOf (resolver : RedisMasterResolver) (log : List Event) (round : Nat)
    (store : Store) : Prop where
  master : ∃ addr, .masterResolved round addr ∈ log ∧ store.masterAddr = addr.string
  tracked : resolver.trackReplicas = true → .replicasResolved round store.replicaAddrs ∈ log
  untracked : resolver.trackReplicas = false → store.replicaAddrs = []

/-- The store holds the results of the latest success, or nothing if there is none. -/
def Settled (resolver : RedisMasterResolver) (log : List Event) (store : Store) : Prop :=
  match latestSuccess log with
  | none => store.masterAddr = "" ∧ store.replicaAddrs = []
  | some round => ResultsOf resolver log round store

def State.Quiescent (state : State) : Prop := ∀ thread, state.active thread = none

/-- A thread's round has its answer from Sentinel and has not ended. -/
def State.PastQuery (state : State) (thread : Thread) : Prop :=
  ∃ round, state.active thread = some round ∧ round.phase ≠ .query

/-- Queries for the master are answered only while no other round is past its query. -/
def Apart (state : State) : Action → Prop
  | .work thread (.master _) => ∀ other, other ≠ thread → ¬state.PastQuery other
  | _ => True

/-- A round that has stored its master and is about to replace the replicas. -/
structure Halfway (resolver : RedisMasterResolver) (log : List Event) (store : Store)
    (round : Nat) : Prop where
  tracking : resolver.trackReplicas = true
  latest : latestSuccess log = some round
  master : ∃ addr, .masterResolved round addr ∈ log ∧ store.masterAddr = addr.string

/-- What holds of a round in each of its phases while all others are at their query. -/
def Underway (resolver : RedisMasterResolver) (log : List Event) (store : Store) (round : Nat) :
    Phase → Prop
  | .query => True
  | .probe _ _ => Settled resolver log store ∧ (answers log).head? = some round
  | .storeMaster addr _ => latestSuccess log = some round ∧ .masterResolved round addr ∈ log
  | .listReplicas => Halfway resolver log store round
  | .examine _ _ => Halfway resolver log store round
  | .storeReplicas addrs _ =>
    Halfway resolver log store round ∧ .replicasResolved round addrs ∈ log

/-- The invariant of runs whose rounds stay apart. -/
structure Ordered (resolver : RedisMasterResolver) (state : State) : Prop where
  ids : ∀ thread round, state.active thread = some round → round.id < state.started
  distinct : ∀ first second before after, state.active first = some before →
    state.active second = some after → before.id = after.id → first = second
  known : ∀ round, succeeded state.log round = true → round < state.started
  fresh : ∀ thread round, state.active thread = some round → round.phase = .query →
    succeeded state.log round.id = false
  single : ∀ first second, state.PastQuery first → state.PastQuery second → first = second
  untracked : resolver.trackReplicas = false → state.store.replicaAddrs = []
  settled : (∀ thread, ¬state.PastQuery thread) → Settled resolver state.log state.store
  underway : ∀ thread round, state.active thread = some round →
    Underway resolver state.log state.store round.id round.phase

section Logs

variable {resolver : RedisMasterResolver} {log : List Event} {store : Store} {round : Nat}

def Event.neutral : Event → Bool
  | .answered _ _ => false
  | .masterResolved _ _ => false
  | _ => true

private theorem succeeded_iff :
    succeeded log round = true ↔ ∃ addr, .masterResolved round addr ∈ log := by
  constructor
  · intro found
    obtain ⟨event, member, hit⟩ := List.any_eq_true.mp found
    cases event with
    | masterResolved other addr =>
      obtain rfl : other = round := by simpa using hit
      exact ⟨addr, member⟩
    | _ => cases hit
  · rintro ⟨addr, member⟩
    exact List.any_eq_true.mpr ⟨_, member, by simp⟩

private theorem neutral_append {events : List Event} (log : List Event)
    (neutral : ∀ event ∈ events, event.neutral = true) :
    answers (events ++ log) = answers log ∧ succeeded (events ++ log) = succeeded log := by
  induction events with
  | nil => exact ⟨rfl, rfl⟩
  | cons event rest ih =>
    obtain ⟨answered, successes⟩ := ih fun later member =>
      neutral later (List.mem_cons_of_mem event member)
    have head := neutral event List.mem_cons_self
    cases event with
    | answered | masterResolved => cases head
    | _ => exact ⟨answered, successes⟩

private theorem latestSuccess_neutral {events : List Event} (log : List Event)
    (neutral : ∀ event ∈ events, event.neutral = true) :
    latestSuccess (events ++ log) = latestSuccess log := by
  obtain ⟨answered, successes⟩ := neutral_append log neutral
  simp only [latestSuccess, answered, successes]

theorem ResultsOf.mono {longer : List Event} (results : ResultsOf resolver log round store)
    (grown : log ⊆ longer) : ResultsOf resolver longer round store := by
  obtain ⟨addr, resolved, same⟩ := results.master
  exact ⟨⟨addr, grown resolved, same⟩, fun tracking => grown (results.tracked tracking),
    results.untracked⟩

theorem Settled.mono {longer : List Event} (settled : Settled resolver log store)
    (same : latestSuccess longer = latestSuccess log) (grown : log ⊆ longer) :
    Settled resolver longer store := by
  unfold Settled at settled ⊢
  rw [same]
  split at settled
  · exact settled
  · exact settled.mono grown

theorem Settled.congr {other : Store} (settled : Settled resolver log store)
    (master : other.masterAddr = store.masterAddr)
    (replicas : other.replicaAddrs = store.replicaAddrs) : Settled resolver log other := by
  unfold Settled at settled ⊢
  split at settled
  · exact ⟨master.trans settled.1, replicas.trans settled.2⟩
  · exact ⟨by rw [master]; exact settled.master, by rw [replicas]; exact settled.tracked,
      by rw [replicas]; exact settled.untracked⟩

theorem latestSuccess_answered {reply : MasterReply} (fresh : succeeded log round = false) :
    latestSuccess (.answered round reply :: log) = latestSuccess log := by
  have successes : succeeded (.answered round reply :: log) = succeeded log := by
    funext other
    simp [succeeded]
  simp only [latestSuccess, successes]
  simp [answers, fresh]

/-- The round answered last becomes the latest success when it resolves the master. -/
theorem latestSuccess_resolved {events : List Event} {addr : TCPAddr}
    (head : (answers log).head? = some round)
    (neutral : ∀ event ∈ events, event.neutral = true) :
    latestSuccess (.masterResolved round addr :: (events ++ log)) = some round := by
  have success : succeeded (.masterResolved round addr :: (events ++ log)) round = true :=
    succeeded_iff.mpr ⟨addr, List.mem_cons_self⟩
  obtain ⟨rest, answered⟩ : ∃ rest, answers log = round :: rest := by
    cases all : answers log with
    | nil => simp [all] at head
    | cons first rest =>
      obtain rfl : first = round := by simpa [all] using head
      exact ⟨rest, rfl⟩
  have same : answers (.masterResolved round addr :: (events ++ log)) = round :: rest := by
    rw [← answered, ← (neutral_append log neutral).1]
    rfl
  rw [latestSuccess, same]
  simp [success]

end Logs

section Steps

variable {resolver : RedisMasterResolver} {sorter : Sorter} {log : List Event} {round : Nat}
  {phase : Phase} {answer : Answer} {progress : Progress} {store next : Store}

theorem Halfway.append {events : List Event} {other : Store}
    (halfway : Halfway resolver log store round)
    (neutral : ∀ event ∈ events, event.neutral = true)
    (master : other.masterAddr = store.masterAddr) :
    Halfway resolver (events ++ log) other round := by
  obtain ⟨addr, resolved, same⟩ := halfway.master
  exact ⟨halfway.tracking, (latestSuccess_neutral log neutral).trans halfway.latest,
    addr, List.mem_append_right _ resolved, master.trans same⟩

theorem Underway.append {events : List Event} {other : Store}
    (underway : Underway resolver log store round phase)
    (neutral : ∀ event ∈ events, event.neutral = true)
    (master : other.masterAddr = store.masterAddr)
    (replicas : other.replicaAddrs = store.replicaAddrs) :
    Underway resolver (events ++ log) other round phase := by
  have grown : log ⊆ events ++ log := List.subset_append_right _ _
  have latest := latestSuccess_neutral log neutral
  cases phase with
  | query => trivial
  | probe host port =>
    refine ⟨(underway.1.mono latest grown).congr master replicas, ?_⟩
    rw [(neutral_append log neutral).1]
    exact underway.2
  | storeMaster addr name => exact ⟨latest.trans underway.1, grown underway.2⟩
  | listReplicas => exact Halfway.append underway neutral master
  | examine found rest => exact Halfway.append underway neutral master
  | storeReplicas addrs names =>
    exact ⟨underway.1.append neutral master, grown underway.2⟩

private theorem probeEvents_neutral {network : Network} {host port : String} :
    ∀ event ∈ probeEvents round network host port, event.neutral = true := by
  intro event member
  rcases mem_probeEvents member with ⟨addr, reply, rfl⟩ | ⟨addr, rfl⟩
  · rfl
  · rfl

theorem succeeded_events {other : Nat}
    (success : succeeded (phase.events sorter round answer ++ log) other = true) :
    succeeded log other = true ∨ other = round := by
  obtain ⟨addr, member⟩ := succeeded_iff.mp success
  rcases List.mem_append.mp member with fresh | old
  · right
    unfold Phase.events at fresh
    split at fresh
    case h_2 =>
      split at fresh
      · cases probeEvents_neutral _ fresh
      · rcases List.mem_cons.mp fresh with hit | fresh
        · cases hit
          rfl
        · cases probeEvents_neutral _ fresh
    case h_7 =>
      split at fresh
      · cases probeEvents_neutral _ fresh
      · cases fresh
    all_goals simp at fresh
  · exact .inl (succeeded_iff.mpr ⟨addr, old⟩)

theorem events_neutral (round : Nat)
    (moved : phase.Moves resolver sorter answer store progress next)
    (past : phase ≠ .query) (unresolved : ∀ addr name, progress ≠ .busy (.storeMaster addr name)) :
    ∀ event ∈ phase.events sorter round answer, event.neutral = true := by
  cases moved with
  | unanswered | answered => exact absurd rfl past
  | refused failed =>
    simp only [Phase.events, failed]
    exact probeEvents_neutral
  | verified probed => exact absurd rfl (unresolved _ _)
  | examined network =>
    intro event member
    simp only [Phase.events] at member
    split at member
    · exact probeEvents_neutral event member
    · cases member
  | _ => simp [Phase.events, Event.neutral]

/-- A step of a round that is past its query, or whose query is answered while the store
is settled, leads to the facts of its next phase. -/
theorem moves_underway {following : Phase}
    (moved : phase.Moves resolver sorter answer store (.busy following) next)
    (underway : Underway resolver log store round phase)
    (settled : phase = .query → Settled resolver log store)
    (fresh : phase = .query → succeeded log round = false) :
    Underway resolver (phase.events sorter round answer ++ log) next round following := by
  have grown : log ⊆ phase.events sorter round answer ++ log := List.subset_append_right _ _
  have neutral := events_neutral round moved
  cases moved with
  | answered target =>
    exact ⟨(settled rfl).mono (latestSuccess_answered (fresh rfl)) grown, rfl⟩
  | verified probed =>
    simp only [Phase.events, probed]
    exact ⟨latestSuccess_resolved underway.2 probeEvents_neutral, List.mem_cons_self⟩
  | stored tracking =>
    exact ⟨tracking, (latestSuccess_neutral log (neutral (by simp) (by simp))).trans underway.1,
      _, grown underway.2, rfl⟩
  | listed => exact Halfway.append underway (neutral (by simp) (by simp)) rfl
  | examined network => exact Halfway.append underway (neutral (by simp) (by simp)) rfl
  | unlisted =>
    exact ⟨Halfway.append underway (neutral (by simp) (by simp)) rfl, List.mem_cons_self⟩
  | gathered =>
    exact ⟨Halfway.append underway (neutral (by simp) (by simp)) rfl, List.mem_cons_self⟩

theorem moves_settled {outcome : Option Fault}
    (moved : phase.Moves resolver sorter answer store (.done outcome) next)
    (underway : Underway resolver log store round phase)
    (settled : phase = .query → Settled resolver log store)
    (fresh : phase = .query → succeeded log round = false)
    (untracked : resolver.trackReplicas = false → store.replicaAddrs = []) :
    Settled resolver (phase.events sorter round answer ++ log) next := by
  have grown : log ⊆ phase.events sorter round answer ++ log := List.subset_append_right _ _
  have neutral := events_neutral round moved
  cases moved with
  | unanswered failed => exact (settled rfl).mono (latestSuccess_answered (fresh rfl)) grown
  | refused failed =>
    exact underway.1.mono (latestSuccess_neutral log (neutral (by simp) (by simp))) grown
  | storedLast off =>
    have latest := (latestSuccess_neutral log (neutral (by simp) (by simp))).trans underway.1
    unfold Settled
    rw [latest]
    exact ⟨⟨_, grown underway.2, rfl⟩, fun on => by simp [off] at on, untracked⟩
  | replaced =>
    obtain ⟨halfway, resolved⟩ := underway
    obtain ⟨addr, master, same⟩ := halfway.master
    have latest := (latestSuccess_neutral log (neutral (by simp) (by simp))).trans halfway.latest
    unfold Settled
    rw [latest]
    exact ⟨⟨addr, grown master, same⟩, fun _ => grown resolved,
      fun off => by simp [halfway.tracking] at off⟩

end Steps

private theorem moves_past {resolver : RedisMasterResolver} {sorter : Sorter}
    {phase following : Phase}
    {answer : Answer} {store next : Store}
    (moved : phase.Moves resolver sorter answer store (.busy following) next) :
    following ≠ .query := by
  cases moved <;> simp

private theorem moves_untracked {resolver : RedisMasterResolver} {sorter : Sorter} {phase : Phase}
    {answer : Answer} {progress : Progress} {store next : Store} {log : List Event} {round : Nat}
    (moved : phase.Moves resolver sorter answer store progress next)
    (underway : Underway resolver log store round phase) (off : resolver.trackReplicas = false)
    (empty : store.replicaAddrs = []) : next.replicaAddrs = [] := by
  cases moved with
  | replaced => simp [underway.1.tracking] at off
  | _ => exact empty

section Invariant

variable {resolver : RedisMasterResolver} {sorter : Sorter} {state next : State}

private theorem ordered_init : Ordered resolver State.init where
  ids thread round running := by
    cases thread <;> cases running
    exact Nat.one_pos
  distinct first second before after one other same := by
    cases first <;> cases one
    cases second <;> cases other
    rfl
  known round success := by cases success
  fresh thread round running _ := rfl
  single first second past := by
    obtain ⟨round, running, past⟩ := past
    cases first <;> cases running
    exact absurd rfl past
  untracked _ := rfl
  settled _ := ⟨rfl, rfl⟩
  underway thread round running := by
    cases thread <;> cases running
    trivial

/-- Steps that leave the rounds and the addresses alone and record nothing about rounds. -/
theorem Ordered.still (ordered : Ordered resolver state) (events : List Event)
    (active : next.active = state.active) (started : next.started = state.started)
    (master : next.store.masterAddr = state.store.masterAddr)
    (replicas : next.store.replicaAddrs = state.store.replicaAddrs)
    (log : next.log = events ++ state.log) (neutral : ∀ event ∈ events, event.neutral = true) :
    Ordered resolver next := by
  have successes : succeeded next.log = succeeded state.log :=
    log ▸ (neutral_append state.log neutral).2
  have past : ∀ thread, next.PastQuery thread ↔ state.PastQuery thread := by
    intro thread
    rw [State.PastQuery, active, State.PastQuery]
  refine ⟨?_, ?_, ?_, ?_, ?_, ?_, ?_, ?_⟩
  · rw [active, started]
    exact ordered.ids
  · rw [active]
    exact ordered.distinct
  · rw [successes, started]
    exact ordered.known
  · rw [active, successes]
    exact ordered.fresh
  · simp only [past]
    exact ordered.single
  · rw [replicas]
    exact ordered.untracked
  · simp only [past]
    intro none?
    rw [log]
    exact ((ordered.settled none?).mono (latestSuccess_neutral state.log neutral)
      (List.subset_append_right _ _)).congr master replicas
  · intro thread round running
    rw [log]
    exact (ordered.underway thread round (active ▸ running)).append neutral master replicas

theorem Ordered.aside (ordered : Ordered resolver state) (active : next.active = state.active)
    (started : next.started = state.started) (step : Aside state next) :
    Ordered resolver next := by
  obtain ⟨master, replicas⟩ := step.addresses
  cases step with
  | quiet _ log => exact ordered.still [] active started master replicas log (by simp)
  | @gaveUp fault _ log =>
    exact ordered.still [.initialFinished (some fault)] active started master replicas log
      (by simp [Event.neutral])
  | readMaster _ _ log =>
    exact ordered.still [.masterRead _] active started master replicas log (by simp [Event.neutral])
  | readReplica _ _ log =>
    exact ordered.still [.replicaRead _] active started master replicas log
      (by simp [Event.neutral])

theorem Ordered.start {thread : Thread} (ordered : Ordered resolver state)
    (idle : state.active thread = none)
    (active : next.active = Function.update state.active thread (some ⟨state.started, .query⟩))
    (started : next.started = state.started + 1) (store : next.store = state.store)
    (log : next.log = state.log) : Ordered resolver next := by
  have before {other : Thread} {round : Round} (running : next.active other = some round) :
      (other = thread ∧ round = ⟨state.started, .query⟩) ∨ state.active other = some round := by
    rcases active_after_start active running with own | ⟨_, elsewhere⟩
    · exact .inl own
    · exact .inr elsewhere
  have past {other : Thread} (running : next.PastQuery other) : state.PastQuery other := by
    obtain ⟨round, running, past⟩ := running
    rcases before running with ⟨_, rfl⟩ | old
    · exact absurd rfl past
    · exact ⟨round, old, past⟩
  have still {other : Thread} (running : state.PastQuery other) : next.PastQuery other := by
    obtain ⟨round, running, past⟩ := running
    have different : other ≠ thread := by
      rintro rfl
      rw [idle] at running
      cases running
    exact ⟨round, by rw [active, Function.update_of_ne different, running], past⟩
  refine ⟨?_, ?_, ?_, ?_, ?_, ?_, ?_, ?_⟩
  · intro other round running
    rcases before running with ⟨_, rfl⟩ | old
    · exact started ▸ Nat.lt_succ_self _
    · exact started ▸ Nat.lt_succ_of_lt (ordered.ids other round old)
  · intro first second one two running follows same
    rcases before running with ⟨here, rfl⟩ | old <;> rcases before follows with ⟨there, rfl⟩ | older
    · exact here.trans there.symm
    · exact absurd same (Nat.ne_of_gt (ordered.ids second two older))
    · exact absurd same (Nat.ne_of_lt (ordered.ids first one old))
    · exact ordered.distinct first second one two old older same
  · intro round success
    exact started ▸ Nat.lt_succ_of_lt (ordered.known round (log ▸ success))
  · intro other round running query
    rw [log]
    rcases before running with ⟨_, rfl⟩ | old
    · cases success : succeeded state.log state.started with
      | false => rfl
      | true => exact absurd (ordered.known _ success) (Nat.lt_irrefl _)
    · exact ordered.fresh other round old query
  · intro first second one two
    exact ordered.single first second (past one) (past two)
  · rw [store]
    exact ordered.untracked
  · intro none?
    rw [log, store]
    exact ordered.settled fun other running => none? other (still running)
  · intro other round running
    rw [log, store]
    rcases before running with ⟨_, rfl⟩ | old
    · trivial
    · exact ordered.underway other round old

/-- A round that may take a step has every other round at its query. -/
theorem Ordered.others_waiting {thread other : Thread} {round older : Round}
    (ordered : Ordered resolver state) (running : state.active thread = some round)
    (apart : round.phase = .query → ∀ other, other ≠ thread → ¬state.PastQuery other)
    (different : other ≠ thread) (runs : state.active other = some older) :
    older.phase = .query := by
  by_contra past
  by_cases query : round.phase = .query
  · exact apart query other different ⟨older, runs, past⟩
  · exact different (ordered.single other thread ⟨older, runs, past⟩ ⟨round, running, query⟩)

theorem Ordered.settled_at_query {thread : Thread} {round : Round}
    (ordered : Ordered resolver state) (running : state.active thread = some round)
    (apart : round.phase = .query → ∀ other, other ≠ thread → ¬state.PastQuery other)
    (query : round.phase = .query) : Settled resolver state.log state.store := by
  refine ordered.settled ?_
  rintro other ⟨older, runs, past⟩
  by_cases same : other = thread
  · subst same
    obtain rfl := Option.some.inj (running.symm.trans runs)
    exact past query
  · exact past (ordered.others_waiting running apart same runs)

theorem Ordered.work {thread : Thread} {round : Round} {answer : Answer} {progress : Progress}
    (ordered : Ordered resolver state) (running : state.active thread = some round)
    (moved : round.phase.Moves resolver sorter answer state.store progress next.store)
    (active : next.active = Function.update state.active thread (progress.round? round.id))
    (started : next.started = state.started)
    (log : next.log = round.phase.events sorter round.id answer ++ state.log)
    (apart : round.phase = .query → ∀ other, other ≠ thread → ¬state.PastQuery other) :
    Ordered resolver next := by
  have others {other : Thread} {older : Round} (different : other ≠ thread)
      (runs : state.active other = some older) : older.phase = .query :=
    ordered.others_waiting running apart different runs
  have settled := ordered.settled_at_query running apart
  have underway := ordered.underway thread round running
  have inherited {other : Thread} {later : Round} (runs : next.active other = some later) :
      ∃ older, state.active other = some older ∧ older.id = later.id := by
    rcases active_after_work active runs with ⟨rfl, _, same⟩ | ⟨_, runs⟩
    · exact ⟨round, running, same.symm⟩
    · exact ⟨later, runs, rfl⟩
  refine ⟨?_, ?_, ?_, ?_, ?_, ?_, ?_, ?_⟩
  · intro other later runs
    obtain ⟨older, ran, same⟩ := inherited runs
    rw [← same, started]
    exact ordered.ids other older ran
  · intro first second one two runs follows same
    obtain ⟨older, ran, here⟩ := inherited runs
    obtain ⟨elder, followed, there⟩ := inherited follows
    exact ordered.distinct first second older elder ran followed (by rw [here, there, same])
  · intro other success
    rw [started]
    rcases succeeded_events (log ▸ success) with old | rfl
    · exact ordered.known other old
    · exact ordered.ids thread round running
  · intro other later runs query
    rcases active_after_work active runs with ⟨_, rfl, _⟩ | ⟨different, runs⟩
    · exact absurd query (moves_past moved)
    · cases success : succeeded next.log later.id with
      | false => rfl
      | true =>
        rcases succeeded_events (log ▸ success) with old | same
        · rw [ordered.fresh other later runs query] at old
          cases old
        · exact absurd (ordered.distinct other thread later round runs running same) different
  · have alone {other : Thread} (past : next.PastQuery other) : other = thread := by
      obtain ⟨later, runs, past⟩ := past
      rcases active_after_work active runs with ⟨same, _⟩ | ⟨different, runs⟩
      · exact same
      · exact absurd (others different runs) past
    intro first second one two
    exact (alone one).trans (alone two).symm
  · intro off
    exact moves_untracked moved underway off (ordered.untracked off)
  · intro none?
    rw [log]
    cases progress with
    | busy following =>
      refine absurd ⟨⟨round.id, following⟩, ?_, moves_past moved⟩ (none? thread)
      rw [active, Function.update_self]
      rfl
    | done outcome =>
      exact moves_settled moved underway settled (ordered.fresh thread round running)
        ordered.untracked
  · intro other later runs
    rcases active_after_work active runs with ⟨_, rfl, same⟩ | ⟨different, runs⟩
    · rw [log, same]
      exact moves_underway moved underway settled (ordered.fresh thread round running)
    · rw [others different runs]
      trivial

theorem Ordered.step {action : Action} (ordered : Ordered resolver state)
    (apart : Apart state action) (stepped : state.step resolver sorter action = some next) :
    Ordered resolver next := by
  cases step_effect stepped with
  | @work thread round answer progress taken running moved active started _ recorded =>
    subst taken
    have alone (query : round.phase = .query) :
        ∀ other, other ≠ thread → ¬state.PastQuery other := by
      cases answer with
      | master reply => exact apart
      | _ => rw [query] at moved; cases moved
    cases recorded with
    | plain log => exact ordered.work running moved active started log alone
    | @initial outcome _ log =>
      have worked : Ordered resolver { next with
          log := round.phase.events sorter round.id answer ++ state.log } :=
        ordered.work running moved active started rfl alone
      exact worked.still [.initialFinished outcome] rfl rfl rfl rfl log (by simp [Event.neutral])
  | start _ idle active started _ store _ log =>
    rcases log with same | ⟨id, _, logged⟩
    · exact ordered.start idle active started store same
    · have begun : Ordered resolver { next with log := state.log } :=
        ordered.start idle active started store rfl
      exact begun.still [.refreshing id] rfl rfl rfl rfl logged (by simp [Event.neutral])
  | aside _ active started _ step => exact ordered.aside active started step

/-- As long as rounds stay apart, all rounds ended means that the store holds the results
of the round whose query was answered last among those that resolved the master. -/
theorem settled_of_apart (reached : State.Reachable resolver sorter Apart state)
    (quiescent : state.Quiescent) : Settled resolver state.log state.store := by
  have ordered : Ordered resolver state := State.Leads.invariant reached ordered_init
    fun _ _ _ before apart stepped => before.step apart stepped
  refine ordered.settled ?_
  rintro thread ⟨round, running, _⟩
  rw [quiescent thread] at running
  cases running

end Invariant

section Scenarios

def beforeFailover : Network := nodes [("10.0.0.1:6379", "master"), ("10.0.0.2:6379", "slave")]

def afterFailover : Network := nodes [("10.0.0.2:6379", "master"), ("10.0.0.1:6379", "slave")]

def firstRound : List Action :=
  masterSteps .loop beforeFailover "10.0.0.1" ++ replicaSteps .loop beforeFailover ["10.0.0.2"]

def settledState : State :=
  (State.init.steps tracker insertionSorter firstRound).get (by decide +kernel)

theorem settledState_quiescent : settledState.Quiescent := by
  intro thread
  cases thread with
  | loop => decide +kernel
  | caller id => rfl

theorem apart_unasked {resolver : RedisMasterResolver} {sorter : Sorter} {actions : List Action}
    {first last : State} (reached : State.Reachable resolver sorter Apart first)
    (unasked : ∀ thread reply, .work thread (.master reply) ∉ actions)
    (ran : first.steps resolver sorter actions = some last) :
    State.Reachable resolver sorter Apart last := by
  refine reached.steps ran ?_
  intro done action rest state split _
  have member : action ∈ actions := by
    rw [split]
    simp
  cases action with
  | work thread answer =>
    cases answer with
    | master reply => exact absurd member (unasked thread reply)
    | _ => trivial
  | _ => trivial

theorem apart_round {resolver : RedisMasterResolver} {sorter : Sorter} {thread : Thread}
    {reply : MasterReply} {rest : List Action} {first last : State}
    (reached : State.Reachable resolver sorter Apart first)
    (apart : ∀ other, other ≠ thread → ¬first.PastQuery other)
    (unasked : ∀ thread reply, .work thread (.master reply) ∉ rest)
    (ran : first.steps resolver sorter (.work thread (.master reply) :: rest) = some last) :
    State.Reachable resolver sorter Apart last := by
  obtain ⟨next, answered, ran⟩ := Option.bind_eq_some_iff.mp ran
  exact apart_unasked (reached.tail ⟨.work thread (.master reply), apart, answered⟩) unasked ran

/-- The loop has begun its second round, and a refresh begins before Sentinel answers it. -/
def besideState : State :=
  (settledState.steps tracker insertionSorter [.timer, .call 0, .acquire 0 false]).get
    (by decide +kernel)

def refreshedState : State :=
  (besideState.steps tracker insertionSorter
    (masterSteps (.caller 0) beforeFailover "10.0.0.1" ++
      replicaSteps (.caller 0) beforeFailover ["10.0.0.2"])).get (by decide +kernel)

/-- Then the failover, of which the round of the loop is told. -/
def followedState : State :=
  (refreshedState.steps tracker insertionSorter
    (masterSteps .loop afterFailover "10.0.0.2" ++
      replicaSteps .loop afterFailover ["10.0.0.1"])).get (by decide +kernel)

private theorem followedState_apart :
    State.Reachable tracker insertionSorter Apart followedState := by
  have settled : State.Reachable tracker insertionSorter Apart settledState := by
    refine apart_round .refl ?_ (by simp [replicaSteps]) (Option.some_get _).symm
    rintro other different ⟨round, running, _⟩
    cases other with
    | loop => exact different rfl
    | caller id => cases running
  have beside : State.Reachable tracker insertionSorter Apart besideState :=
    apart_unasked settled (by simp) (Option.some_get _).symm
  have refreshed : State.Reachable tracker insertionSorter Apart refreshedState := by
    refine apart_round beside ?_ (by simp [replicaSteps]) (Option.some_get _).symm
    -- the loop's round waits for its own answer
    rintro other different ⟨round, running, past⟩
    match other with
    | .loop =>
      have waits : besideState.active .loop = some ⟨1, .query⟩ := by decide +kernel
      cases waits.symm.trans running
      exact past rfl
    | .caller 0 => exact different rfl
    | .caller (_ + 1) => cases running
  refine apart_round refreshed ?_ (by simp [replicaSteps]) (Option.some_get _).symm
  rintro other different ⟨round, running, _⟩
  match other with
  | .loop => exact different rfl
  | .caller 0 =>
    have ended : refreshedState.active (.caller 0) = none := by decide +kernel
    cases ended.symm.trans running
  | .caller (_ + 1) => cases running

/-- Two rounds of the loop and a refresh: the refresh begins last and is answered before the
loop, whose results are the ones that stay. -/
theorem settled_of_apart_followedState :
    latestSuccess followedState.log = some 1 ∧
      followedState.store.masterAddr = "10.0.0.2:6379" ∧
      followedState.store.replicaAddrs = ["10.0.0.1:6379"] ∧
      Settled tracker followedState.log followedState.store := by
  refine ⟨by decide +kernel, by decide +kernel, by decide +kernel,
    settled_of_apart followedState_apart ?_⟩
  intro thread
  match thread with
  | .loop => decide +kernel
  | .caller 0 => decide +kernel
  | .caller (_ + 1) => rfl

/-- A round of the loop is overtaken by a refresh: Sentinel answers the loop before the
failover and the caller after it, but the loop stores last. -/
def overtaken : State :=
  (State.init.steps tracker insertionSorter
    (firstRound ++ [.timer] ++ (masterSteps .loop beforeFailover "10.0.0.1").take 2 ++
      [.call 0, .acquire 0 false] ++ masterSteps (.caller 0) afterFailover "10.0.0.2" ++
      replicaSteps (.caller 0) afterFailover ["10.0.0.1"] ++
      (masterSteps .loop beforeFailover "10.0.0.1").drop 2 ++
      replicaSteps .loop afterFailover ["10.0.0.1"])).get (by decide +kernel)

/-- The overtaken round leaves its stale master behind. -/
theorem overtaken_stale :
    State.Reachable tracker insertionSorter (fun _ _ => True) overtaken ∧ overtaken.Quiescent ∧
      latestSuccess overtaken.log = some 2 ∧ overtaken.store.masterAddr = "10.0.0.1:6379" ∧
      ¬Settled tracker overtaken.log overtaken.store := by
  have latest : latestSuccess overtaken.log = some 2 := by decide +kernel
  have stale : overtaken.store.masterAddr = "10.0.0.1:6379" := by decide +kernel
  refine ⟨State.Reachable.steps .refl (Option.some_get _).symm (fun _ _ _ _ _ _ => trivial),
    ?_, latest, stale, ?_⟩
  · intro thread
    match thread with
    | .loop => decide +kernel
    | .caller 0 => decide +kernel
    | .caller (_ + 1) => rfl
  · intro settled
    unfold Settled at settled
    rw [latest] at settled
    obtain ⟨addr, resolved, same⟩ := settled.master
    have only : (overtaken.log.all fun
        | .masterResolved 2 addr => addr.string == "10.0.0.2:6379"
        | _ => true) = true := by decide +kernel
    have promoted : addr.string = "10.0.0.2:6379" := by
      simpa using List.all_eq_true.mp only _ resolved
    rw [stale, promoted] at same
    exact absurd same (by decide)

end Scenarios

end SentinelProxy.Resolver
