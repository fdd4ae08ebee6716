import SentinelProxy.Resolver.Freshness

/-! Whether one node can be handed out as master and as replica at the same moment, when
rounds run one after another and no node changes its role during a round. -/

namespace SentinelProxy.Resolver

open SentinelProxy.Net

/-- No round begins before the others have ended. -/
def OneByOne (resolver : RedisMasterResolver) (sorter : Sorter) (state : State)
    (action : Action) : Prop :=
  ∀ next, state.step resolver sorter action = some next →
    next.started = state.started ∨ state.Quiescent

/-- Within a round, each node answers role probes as `roles` says. -/
def StableRoles (roles : Nat → String → RoleReply) (state : State) : Action → Prop
  | .work thread (.network network) =>
    ∀ round, state.active thread = some round → network.role = roles round.id
  | _ => True

/-- No round stores a master that is still stored as a replica. -/
def Unpromoting (state : State) : Action → Prop
  | .work thread .quiet => ∀ round addr name, state.active thread = some round →
      round.phase = .storeMaster addr name → addr.string ∉ state.store.replicaAddrs
  | _ => True

/-- The runs in question: one round after another, roles fixed within each of them. -/
def Serial (resolver : RedisMasterResolver) (sorter : Sorter)
    (roles : Nat → String → RoleReply) (state : State) (action : Action) : Prop :=
  OneByOne resolver sorter state action ∧ StableRoles roles state action

/-- The stored master is no stored replica, so readers asking for either get different
nodes. -/
structure Separate (store : Store) : Prop where
  stored : store.masterAddr ∉ store.replicaAddrs
  read : ∀ addr, store.replicaAddress.1 = .address addr → addr ≠ store.masterAddr

private theorem separate_iff {store : Store} :
    Separate store ↔ store.masterAddr ∉ store.replicaAddrs := by
  constructor
  · intro separate
    exact separate.stored
  · intro stored
    refine ⟨stored, ?_⟩
    rintro addr picked rfl
    exact stored (replicaAddress_mem picked)

def HasRole (roles : String → RoleReply) (addr role : String) : Prop :=
  ∃ rest, roles addr = .elements (.text role :: rest)

/-- What a round knows in each of its phases about the roles of the nodes. -/
def RolesKnown (roles : String → RoleReply) (store : Store) : Phase → Prop
  | .query => True
  | .probe _ _ => True
  | .storeMaster addr _ => HasRole roles addr.string "master"
  | .listReplicas => HasRole roles store.masterAddr "master"
  | .examine found _ => HasRole roles store.masterAddr "master" ∧
      ∀ replica ∈ found, HasRole roles replica.addr "slave"
  | .storeReplicas addrs _ => HasRole roles store.masterAddr "master" ∧
      ∀ addr ∈ addrs, HasRole roles addr "slave"

/-- The invariant of serial runs without promotions. -/
structure Steady (roles : Nat → String → RoleReply) (state : State) : Prop where
  alone : ∀ first second one two, state.active first = some one →
    state.active second = some two → first = second
  separate : state.store.masterAddr ∉ state.store.replicaAddrs
  known : ∀ thread round, state.active thread = some round →
    RolesKnown (roles round.id) state.store round.phase

theorem HasRole.unique {roles : String → RoleReply} {addr first second : String}
    (one : HasRole roles addr first) (two : HasRole roles addr second) : first = second := by
  obtain ⟨_, given⟩ := one
  obtain ⟨_, answered⟩ := two
  rw [given] at answered
  cases answered
  rfl

theorem RolesKnown.congr {roles : String → RoleReply} {store other : Store} {phase : Phase}
    (known : RolesKnown roles store phase) (master : other.masterAddr = store.masterAddr) :
    RolesKnown roles other phase := by
  cases phase <;> simp_all [RolesKnown]

section Steps

variable {resolver : RedisMasterResolver} {sorter : Sorter} {roles : String → RoleReply}
  {phase : Phase} {answer : Answer} {progress : Progress} {store next : Store}

theorem moves_known {following : Phase}
    (moved : phase.Moves resolver sorter answer store (.busy following) next)
    (stable : ∀ network, answer = .network network → network.role = roles)
    (known : RolesKnown roles store phase) : RolesKnown roles next following := by
  cases moved with
  | answered target => trivial
  | verified probed =>
    obtain ⟨_, passed, _⟩ := probeMaster_ok probed
    obtain ⟨rest, given⟩ := checkRole_ok passed
    exact ⟨rest, by rw [← stable _ rfl, given]⟩
  | stored tracking => exact known
  | unlisted => exact ⟨known, by simp⟩
  | listed => exact ⟨known, by simp⟩
  | @examined found fields rest _ network =>
    refine ⟨known.1, ?_⟩
    intro replica member
    rcases List.mem_append.mp member with old | fresh
    · exact known.2 replica old
    · obtain ⟨_, addr, _, passed, same⟩ := examine_some
        (show examine network fields = some replica by simpa using fresh)
      obtain ⟨rest, given⟩ := checkRole_ok passed
      exact ⟨rest, by rw [← stable _ rfl, same, given]⟩
  | gathered =>
    refine ⟨known.1, ?_⟩
    intro addr member
    obtain ⟨replica, found, rfl⟩ := Sorter.mem_addrs.mp member
    exact known.2 replica found

private theorem moves_storeMaster {addr : TCPAddr} {name : String}
    (moved : (Phase.storeMaster addr name).Moves resolver sorter answer store progress next) :
    answer = .quiet ∧ next = store.setMasterAddress addr name := by
  cases moved <;> exact ⟨rfl, rfl⟩

/-- Only the step that stores a master can bring the two together. -/
theorem moves_separate (moved : phase.Moves resolver sorter answer store progress next)
    (known : RolesKnown roles store phase) (separate : store.masterAddr ∉ store.replicaAddrs)
    (unpromoting : ∀ addr name, phase = .storeMaster addr name →
      addr.string ∉ store.replicaAddrs) : next.masterAddr ∉ next.replicaAddrs := by
  cases moved with
  | stored => exact unpromoting _ _ rfl
  | storedLast => exact unpromoting _ _ rfl
  | replaced =>
    intro member
    have clash := known.1.unique (known.2 _ member)
    exact absurd clash (by decide)
  | _ => exact separate

end Steps

section Invariant

variable {resolver : RedisMasterResolver} {sorter : Sorter} {roles : Nat → String → RoleReply}
  {state next : State} {action : Action}

private theorem steady_init : Steady roles State.init where
  alone first second one two running runs := by
    cases first <;> cases running
    cases second <;> cases runs
    rfl
  separate := List.not_mem_nil
  known thread round running := by
    cases thread <;> cases running
    trivial

theorem Steady.work {thread : Thread} {round : Round} {answer : Answer} {progress : Progress}
    (steady : Steady roles state) (running : state.active thread = some round)
    (moved : round.phase.Moves resolver sorter answer state.store progress next.store)
    (active : next.active = Function.update state.active thread (progress.round? round.id))
    (stable : ∀ network, answer = .network network → network.role = roles round.id)
    (unpromoting : ∀ addr name, round.phase = .storeMaster addr name →
      addr.string ∉ state.store.replicaAddrs) : Steady roles next := by
  have known := steady.known thread round running
  have only {other : Thread} {later : Round} (runs : next.active other = some later) :
      other = thread ∧ progress = .busy later.phase ∧ later.id = round.id := by
    rcases active_after_work active runs with own | ⟨different, elsewhere⟩
    · exact own
    · exact absurd (steady.alone other thread later round elsewhere running) different
  refine ⟨?_, moves_separate moved known steady.separate unpromoting, ?_⟩
  · intro first second one two runs follows
    exact (only runs).1.trans (only follows).1.symm
  · intro other later runs
    obtain ⟨_, rfl, same⟩ := only runs
    rw [same]
    exact moves_known moved stable known

theorem Steady.start {thread : Thread} (steady : Steady roles state) (quiescent : state.Quiescent)
    (active : next.active = Function.update state.active thread (some ⟨state.started, .query⟩))
    (store : next.store = state.store) : Steady roles next := by
  have only {other : Thread} {later : Round} (runs : next.active other = some later) :
      other = thread ∧ later = ⟨state.started, .query⟩ := by
    rcases active_after_start active runs with own | ⟨_, elsewhere⟩
    · exact own
    · rw [quiescent other] at elsewhere
      cases elsewhere
  refine ⟨?_, store ▸ steady.separate, ?_⟩
  · intro first second one two runs follows
    exact (only runs).1.trans (only follows).1.symm
  · intro other later runs
    rw [(only runs).2]
    trivial

theorem Steady.step (steady : Steady roles state)
    (serial : Serial resolver sorter roles state action)
    (unpromoting : Unpromoting state action)
    (stepped : state.step resolver sorter action = some next) : Steady roles next := by
  cases step_effect stepped with
  | @work thread round answer progress taken running moved active =>
    subst taken
    refine steady.work running moved active ?_ ?_
    · rintro network rfl
      exact serial.2 round running
    · intro addr name phase
      rw [phase] at moved
      obtain ⟨rfl, _⟩ := moves_storeMaster moved
      exact unpromoting round addr name running phase
  | start _ _ active started _ store =>
    have quiescent := (serial.1 next stepped).resolve_left (by omega)
    exact steady.start quiescent active store
  | aside _ active _ _ step =>
    obtain ⟨master, replicas⟩ := step.addresses
    refine ⟨?_, ?_, ?_⟩
    · rw [active]
      exact steady.alone
    · rw [master, replicas]
      exact steady.separate
    · intro thread round running
      exact (steady.known thread round (active ▸ running)).congr master

theorem promoting_step (promoting : ¬Unpromoting state action)
    (stepped : state.step resolver sorter action = some next) :
    next.store.masterAddr ∈ next.store.replicaAddrs := by
  cases action with
  | work thread answer =>
    cases answer with
    | quiet =>
      simp only [Unpromoting, not_forall, not_not] at promoting
      obtain ⟨round, addr, name, running, phase, member⟩ := promoting
      cases step_effect stepped with
      | work taken runs moved =>
        cases taken
        obtain rfl := Option.some.inj (running.symm.trans runs)
        rw [phase] at moved
        rw [(moves_storeMaster moved).2]
        exact member
      | start taken => exact absurd rfl (taken thread .quiet)
      | aside taken => exact absurd rfl (taken thread .quiet)
    | _ => exact absurd trivial promoting
  | _ => exact absurd trivial promoting

/-- Between rounds and at every moment of a round, master and replicas are separate as
long as no round has stored a master that was still stored as a replica; the step that
does so is what brings them together. -/
theorem separate_of_unpromoting (reached : State.Reachable resolver sorter (fun state action =>
      Serial resolver sorter roles state action ∧ Unpromoting state action) state) :
    Separate state.store ∧ ∀ action next, Serial resolver sorter roles state action →
      state.step resolver sorter action = some next →
      (Separate next.store ↔ Unpromoting state action) := by
  have steady : Steady roles state := State.Leads.invariant reached steady_init
    fun _ _ _ before allowed stepped => before.step allowed.1 allowed.2 stepped
  refine ⟨separate_iff.mpr steady.separate, ?_⟩
  intro action next serial stepped
  constructor
  · intro separate
    by_contra promoting
    exact separate.stored (promoting_step promoting stepped)
  · intro unpromoting
    exact separate_iff.mpr (steady.step serial unpromoting stepped).separate

end Invariant

section Scenarios

variable {resolver : RedisMasterResolver} {sorter : Sorter} {roles : Nat → String → RoleReply}

private theorem oneByOne_work (state : State) (thread : Thread) (answer : Answer) :
    OneByOne resolver sorter state (.work thread answer) := by
  intro next stepped
  cases step_effect stepped with
  | work _ _ _ _ started => exact .inl started
  | start taken => exact absurd rfl (taken thread answer)
  | aside taken => exact absurd rfl (taken thread answer)

theorem serial_own {network : Network} {actions : List Action} {first : State} {round : Round}
    (own : ∀ action ∈ actions, ∃ answer, action = .work .loop answer ∧
      ∀ other, answer = .network other → other = network)
    (running : first.active .loop = some round) (given : network.role = roles round.id) :
    ∀ done action rest state, actions = done ++ action :: rest →
      first.steps resolver sorter done = some state →
      Serial resolver sorter roles state action := by
  intro done action rest state split ran
  obtain ⟨answer, rfl, same⟩ := own action (by rw [split]; simp)
  have earlier : ∀ action ∈ done, ∃ answer, action = .work .loop answer := by
    intro action member
    obtain ⟨answer, taken, _⟩ := own action (by rw [split]; exact List.mem_append_left _ member)
    exact ⟨answer, taken⟩
  refine ⟨oneByOne_work state .loop answer, ?_⟩
  cases answer with
  | network other =>
    intro later runs
    rw [same other rfl, steps_round earlier ran running runs]
    exact given
  | _ => trivial

def failoverRoles : Nat → String → RoleReply
  | 0 => beforeFailover.role
  | _ + 1 => afterFailover.role

/-- Every step of a run that can be taken passes a check of the state before it. -/
def audit (resolver : RedisMasterResolver) (sorter : Sorter) (check : State → Action → Bool) :
    State → List Action → Bool
  | _, [] => true
  | state, action :: rest =>
    check state action &&
      match state.step resolver sorter action with
      | none => true
      | some next => audit resolver sorter check next rest

private theorem audit_prefix {check : State → Action → Bool} {first state : State}
    {done rest : List Action} {action : Action}
    (passed : audit resolver sorter check first (done ++ action :: rest) = true)
    (ran : first.steps resolver sorter done = some state) : check state action = true := by
  induction done generalizing first with
  | nil =>
    cases ran
    exact (Bool.and_eq_true_iff.mp passed).1
  | cons earlier done ih =>
    obtain ⟨next, moved, ran⟩ := Option.bind_eq_some_iff.mp ran
    have later := (Bool.and_eq_true_iff.mp passed).2
    rw [moved] at later
    exact ih later ran

def promotes (state : State) : Action → Bool
  | .work thread .quiet =>
    match state.active thread with
    | some ⟨_, .storeMaster addr _⟩ => addr.string ∈ state.store.replicaAddrs
    | _ => false
  | _ => false

private theorem unpromoting_of_promotes {state : State} {action : Action}
    (harmless : promotes state action = false) : Unpromoting state action := by
  cases action with
  | work thread answer =>
    cases answer with
    | quiet =>
      intro round addr name running stores
      obtain ⟨id, phase⟩ := round
      cases stores
      simpa [promotes, running] using harmless
    | _ => trivial
  | _ => trivial

theorem unpromoting_round {network : Network} {actions : List Action} {first last : State}
    {round : Round}
    (reached : State.Reachable resolver sorter (fun state action =>
      Serial resolver sorter roles state action ∧ Unpromoting state action) first)
    (own : ∀ action ∈ actions, ∃ answer, action = .work .loop answer ∧
      ∀ other, answer = .network other → other = network)
    (running : first.active .loop = some round) (given : network.role = roles round.id)
    (audited : audit resolver sorter (fun state action => !promotes state action) first actions =
      true)
    (ran : first.steps resolver sorter actions = some last) :
    State.Reachable resolver sorter (fun state action =>
      Serial resolver sorter roles state action ∧ Unpromoting state action) last := by
  refine reached.steps ran ?_
  intro done action rest state split passed
  refine ⟨serial_own own running given done action rest state split passed, ?_⟩
  have harmless := audit_prefix (split ▸ audited) passed
  exact unpromoting_of_promotes (by simpa using harmless)

def tickedState : State :=
  (settledState.step tracker insertionSorter .timer).get (by decide +kernel)

/-- The failover has made a third node the master, which is no replica yet. -/
def thirdMaster : Network :=
  nodes [("10.0.0.3:6379", "master"), ("10.0.0.1:6379", "slave"), ("10.0.0.2:6379", "slave")]

def thirdRoles : Nat → String → RoleReply
  | 0 => beforeFailover.role
  | _ + 1 => thirdMaster.role

/-- The second round has stored it next to the replica of the first. -/
def thirdState : State :=
  (tickedState.steps tracker insertionSorter (masterSteps .loop thirdMaster "10.0.0.3")).get
    (by decide +kernel)

theorem separate_of_unpromoting_thirdState :
    thirdState.store.masterAddr = "10.0.0.3:6379" ∧
      thirdState.store.replicaAddrs = ["10.0.0.2:6379"] ∧ Separate thirdState.store := by
  have settled : State.Reachable tracker insertionSorter (fun state action =>
      Serial tracker insertionSorter thirdRoles state action ∧ Unpromoting state action)
      settledState := by
    refine @unpromoting_round _ _ _ beforeFailover firstRound _ _ _ .refl ?_
      (show State.init.active .loop = some ⟨0, .query⟩ from rfl) rfl (by decide +kernel)
      (Option.some_get _).symm
    simp [firstRound, masterSteps, replicaSteps, eq_comm]
  have ticked : State.Reachable tracker insertionSorter (fun state action =>
      Serial tracker insertionSorter thirdRoles state action ∧ Unpromoting state action)
      tickedState :=
    settled.tail ⟨.timer, ⟨⟨fun _ _ => .inr settledState_quiescent, trivial⟩, trivial⟩,
      (Option.some_get _).symm⟩
  have stored : State.Reachable tracker insertionSorter (fun state action =>
      Serial tracker insertionSorter thirdRoles state action ∧ Unpromoting state action)
      thirdState := by
    refine @unpromoting_round _ _ _ thirdMaster (masterSteps .loop thirdMaster "10.0.0.3") _ _ _
      ticked ?_ (show tickedState.active .loop = some ⟨1, .query⟩ by decide +kernel) rfl
      (by decide +kernel) (Option.some_get _).symm
    simp [masterSteps, eq_comm]
  exact ⟨by decide +kernel, by decide +kernel, (separate_of_unpromoting stored).1⟩

/-- The second round has stored the replica that the failover made master. -/
def promotedState : State :=
  (tickedState.steps tracker insertionSorter (masterSteps .loop afterFailover "10.0.0.2")).get
    (by decide +kernel)

/-- After a failover the new master is handed out as a replica, too, until the round that
stored it has replaced the replicas. -/
theorem promotedState_both :
    State.Reachable tracker insertionSorter (Serial tracker insertionSorter failoverRoles)
        promotedState ∧ promotedState.initialDone = true ∧
      promotedState.store.masterAddr = "10.0.0.2:6379" ∧
      promotedState.store.replicaAddress.1 = .address "10.0.0.2:6379" ∧
      ¬Separate promotedState.store := by
  have firstOwn : ∀ action ∈ firstRound, ∃ answer, action = .work .loop answer ∧
      ∀ other, answer = .network other → other = beforeFailover := by
    simp [firstRound, masterSteps, replicaSteps, eq_comm]
  have settled : State.Reachable tracker insertionSorter
      (Serial tracker insertionSorter failoverRoles) settledState :=
    State.Reachable.steps .refl (Option.some_get _).symm
      (serial_own firstOwn (show State.init.active .loop = some ⟨0, .query⟩ from rfl) rfl)
  have ticked : State.Reachable tracker insertionSorter
      (Serial tracker insertionSorter failoverRoles) tickedState :=
    settled.tail ⟨.timer, ⟨fun _ _ => .inr settledState_quiescent, trivial⟩,
      (Option.some_get _).symm⟩
  have secondOwn : ∀ action ∈ masterSteps .loop afterFailover "10.0.0.2",
      ∃ answer, action = .work .loop answer ∧
        ∀ other, answer = .network other → other = afterFailover := by
    simp [masterSteps, eq_comm]
  have master : promotedState.store.masterAddr = "10.0.0.2:6379" := by decide +kernel
  have replica : promotedState.store.replicaAddress.1 = .address "10.0.0.2:6379" := by
    decide +kernel
  refine ⟨ticked.steps (Option.some_get _).symm (serial_own secondOwn
    (show tickedState.active .loop = some ⟨1, .query⟩ by decide +kernel) rfl),
    by decide +kernel, master, replica, ?_⟩
  intro separate
  exact separate.read _ replica master.symm

end Scenarios

end SentinelProxy.Resolver
