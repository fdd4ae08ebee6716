import SentinelProxy.Counting.Spacing
import SentinelProxy.Transition.Machine
import SentinelProxy.Resolver.Verified

/-! Refreshes against the clock. Whether a caller of `RefreshAddresses` is throttled is no
longer a choice of the run but follows from the time of the last refresh. -/

namespace SentinelProxy.Resolver

open SentinelProxy.Counting SentinelProxy.Transition

def machine (resolver : RedisMasterResolver) (sorter : Sorter) : Machine State Action :=
  ⟨State.init, State.step resolver sorter⟩

theorem reachable_of_reaches {resolver : RedisMasterResolver} {sorter : Sorter} {state : State}
    (reached : (machine resolver sorter).Reaches (fun _ _ => True) state) :
    State.Reachable resolver sorter (fun _ _ => True) state := by
  induction reached with
  | start => exact .refl
  | step earlier permitted stepped ih => exact ih.tail ⟨_, permitted, stepped⟩

section Callers

/-- What a step does to the callers of `RefreshAddresses` and to the lock they share. -/
inductive Calls (state next : State) : Action → Prop where
  | untouched {action : Action} (uncalled : ∀ id, action ≠ .call id)
      (callers : next.callers = state.callers) (lock : next.refreshLock = state.refreshLock) :
      Calls state next action
  | dismissed {id : Nat} (idle : state.callers id = .idle) (callers : next.callers = state.callers)
      (lock : next.refreshLock = state.refreshLock) : Calls state next (.call id)
  | called {id : Nat} (idle : state.callers id = .idle) (ready : state.initialDone = true)
      (callers : next.callers = Function.update state.callers id .waiting)
      (lock : next.refreshLock = state.refreshLock) : Calls state next (.call id)
  | throttled {id : Nat} (waits : state.callers id = .waiting) (free : state.refreshLock = none)
      (callers : next.callers = Function.update state.callers id .idle)
      (lock : next.refreshLock = none) : Calls state next (.acquire id true)
  | began {id : Nat} {round : Round} (waits : state.callers id = .waiting)
      (free : state.refreshLock = none)
      (callers : next.callers = Function.update state.callers id (.resolving round))
      (lock : next.refreshLock = some id) : Calls state next (.acquire id false)
  | resumed {id : Nat} {before after : Round} {answer : Answer}
      (runs : state.callers id = .resolving before)
      (callers : next.callers = Function.update state.callers id (.resolving after))
      (lock : next.refreshLock = state.refreshLock) : Calls state next (.work (.caller id) answer)
  | ended {id : Nat} {before : Round} {answer : Answer}
      (runs : state.callers id = .resolving before)
      (callers : next.callers = Function.update state.callers id .idle)
      (lock : next.refreshLock = none) : Calls state next (.work (.caller id) answer)

variable {resolver : RedisMasterResolver} {sorter : Sorter} {state next : State}

private theorem loopDone_calls (outcome : Option Fault) :
    (state.loopDone resolver outcome).callers = state.callers ∧
      (state.loopDone resolver outcome).refreshLock = state.refreshLock := by
  unfold State.loopDone
  split
  · exact ⟨rfl, rfl⟩
  · split
    · exact ⟨rfl, rfl⟩
    · split
      · exact ⟨rfl, rfl⟩
      · exact ⟨rfl, rfl⟩
  · exact ⟨rfl, rfl⟩
  · split
    · exact ⟨rfl, rfl⟩
    · exact ⟨rfl, rfl⟩
  · exact ⟨rfl, rfl⟩

theorem Caller.resolves {caller : Caller} {round : Round} (running : caller.round? = some round) :
    caller = .resolving round := by
  cases caller with
  | resolving other =>
    cases running
    rfl
  | _ => cases running

private theorem work_calls {thread : Thread} {answer : Answer}
    (worked : state.work resolver sorter thread answer = some next) :
    Calls state next (.work thread answer) := by
  unfold State.work at worked
  split at worked
  · cases worked
  · rename_i round running
    split at worked
    · cases worked
    · rename_i progress store stepped
      cases thread with
      | loop =>
        cases progress with
        | busy phase =>
          cases worked
          exact .untouched nofun rfl rfl
        | done outcome =>
          cases worked
          obtain ⟨callers, lock⟩ := @loopDone_calls resolver { state with
            store, log := round.phase.events sorter round.id answer ++ state.log } outcome
          exact .untouched nofun callers lock
      | caller id =>
        have runs := Caller.resolves running
        cases progress with
        | busy phase =>
          cases worked
          exact .resumed runs rfl rfl
        | done outcome =>
          cases worked
          exact .ended runs rfl rfl

private theorem step_calls {action : Action}
    (stepped : state.step resolver sorter action = some next) :
    Calls state next action := by
  cases action with
  | work thread answer => exact work_calls stepped
  | timer =>
    simp only [State.step, State.timer] at stepped
    split at stepped <;> cases stepped <;> exact .untouched (by simp) rfl rfl
  | leave =>
    simp only [State.step, State.leave] at stepped
    split at stepped
    · cases stepped
    · split at stepped <;> cases stepped <;> exact .untouched (by simp) rfl rfl
  | cancel =>
    cases stepped
    exact .untouched (by simp) rfl rfl
  | call id =>
    simp only [State.step, State.call] at stepped
    split at stepped
    · rename_i idle
      split at stepped
      · rename_i ready
        cases stepped
        exact .called idle ready rfl rfl
      · cases stepped
        exact .dismissed idle rfl rfl
    · cases stepped
  | acquire id throttled =>
    simp only [State.step, State.acquire] at stepped
    split at stepped
    · rename_i waits free
      cases throttled with
      | true =>
        cases stepped
        exact .throttled waits free rfl free
      | false =>
        cases stepped
        exact .began waits free rfl rfl
    · cases stepped
  | readMaster =>
    simp only [State.step] at stepped
    split at stepped <;> cases stepped
    exact .untouched (by simp) rfl rfl
  | readReplica =>
    simp only [State.step] at stepped
    split at stepped <;> cases stepped
    exact .untouched (by simp) rfl rfl

/-- The lock is held by the one caller that is resolving, if there is one. -/
def State.Exclusive (state : State) : Prop :=
  ∀ id, (∃ round, state.callers id = .resolving round) ↔ state.refreshLock = some id

private theorem exclusive_init : State.init.Exclusive := by
  intro id
  constructor
  · rintro ⟨round, runs⟩
    cases runs
  · intro held
    cases held

theorem State.Exclusive.bystander {id : Nat} {caller : Caller} (exclusive : state.Exclusive)
    (before : ∀ round, state.callers id ≠ .resolving round)
    (after : ∀ round, caller ≠ .resolving round)
    (callers : next.callers = Function.update state.callers id caller)
    (lock : next.refreshLock = state.refreshLock) : next.Exclusive := by
  intro other
  rw [callers, lock, ← exclusive other]
  by_cases same : other = id
  · subst same
    simp [before, after]
  · rw [Function.update_of_ne same]

theorem State.Exclusive.step {action : Action} (exclusive : state.Exclusive)
    (stepped : state.step resolver sorter action = some next) : next.Exclusive := by
  cases step_calls stepped with
  | untouched _ callers lock =>
    intro id
    rw [callers, lock]
    exact exclusive id
  | dismissed _ callers lock =>
    intro id
    rw [callers, lock]
    exact exclusive id
  | called idle _ callers lock =>
    exact exclusive.bystander (by simp [idle]) (by simp) callers lock
  | throttled waits free callers lock =>
    exact exclusive.bystander (by simp [waits]) (by simp) callers (lock.trans free.symm)
  | @began id round waits free callers lock =>
    intro other
    rw [callers, lock]
    by_cases same : other = id
    · subst same
      simp
    · have unheld := exclusive other
      rw [free] at unheld
      rw [Function.update_of_ne same, unheld]
      simp [Ne.symm same]
  | @resumed id before after _ runs callers lock =>
    intro other
    rw [callers, lock, ← exclusive other]
    by_cases same : other = id
    · subst same
      simp [runs]
    · rw [Function.update_of_ne same]
  | @ended id before _ runs callers lock =>
    have held := (exclusive id).mp ⟨before, runs⟩
    intro other
    rw [callers, lock]
    by_cases same : other = id
    · subst same
      simp
    · have elsewhere := exclusive other
      rw [held] at elsewhere
      rw [Function.update_of_ne same, elsewhere]
      simp [Ne.symm same]

/-- How a call comes to its end. -/
inductive Returns (state next : State) (id : Nat) : Action → Prop where
  | throttled (lock : next.refreshLock = none) : Returns state next id (.acquire id true)
  | ended {round : Round} {answer : Answer} (runs : state.callers id = .resolving round)
      (lock : next.refreshLock = none) : Returns state next id (.work (.caller id) answer)

private theorem step_returns {action : Action} {id : Nat}
    (stepped : state.step resolver sorter action = some next) (busy : state.callers id ≠ .idle)
    (returned : next.callers id = .idle) : Returns state next id action := by
  have own {other : Nat} {caller : Caller}
      (callers : next.callers = Function.update state.callers other caller) :
      other = id ∧ caller = .idle := by
    rw [callers] at returned
    by_cases same : id = other
    · subst same
      exact ⟨rfl, by rwa [Function.update_self] at returned⟩
    · rw [Function.update_of_ne same] at returned
      exact absurd returned busy
  cases step_calls stepped with
  | untouched _ callers => exact absurd (callers ▸ returned) busy
  | dismissed _ callers => exact absurd (callers ▸ returned) busy
  | called _ _ callers => cases (own callers).2
  | throttled _ _ callers lock =>
    obtain ⟨rfl, -⟩ := own callers
    exact .throttled lock
  | began _ _ callers => cases (own callers).2
  | resumed _ callers => cases (own callers).2
  | ended runs callers lock =>
    obtain ⟨rfl, -⟩ := own callers
    exact .ended runs lock

theorem step_lock {action : Action} (stepped : state.step resolver sorter action = some next)
    (unlocked : ∀ id, action ≠ .acquire id false) :
    next.refreshLock = state.refreshLock ∨ next.refreshLock = none := by
  cases step_calls stepped with
  | untouched _ _ lock => exact .inl lock
  | dismissed _ _ lock => exact .inl lock
  | called _ _ _ lock => exact .inl lock
  | throttled _ _ _ lock => exact .inr lock
  | began => exact absurd rfl (unlocked _)
  | resumed _ _ lock => exact .inl lock
  | ended _ _ lock => exact .inr lock

end Callers

section Recording

variable {resolver : RedisMasterResolver} {sorter : Sorter} {state next : State}

def refreshCount (log : List Event) : Nat :=
  log.countP fun
    | .refreshing _ => true
    | _ => false

private theorem refreshCount_append {events : List Event} (log : List Event)
    (own : ∀ event ∈ events, event.ofRound = true) :
    refreshCount (events ++ log) = refreshCount log := by
  induction events with
  | nil => rfl
  | cons event events ih =>
    have rest := ih fun later member => own later (List.mem_cons_of_mem event member)
    have head := own event List.mem_cons_self
    cases event with
    | refreshing caller => cases head
    | _ => exact rest

theorem Recorded.refreshCount {events : List Event} {progress : Progress}
    (recorded : Recorded state next events progress)
    (own : ∀ event ∈ events, event.ofRound = true) :
    Resolver.refreshCount next.log = Resolver.refreshCount state.log := by
  cases recorded with
  | plain log => rw [log, refreshCount_append _ own]
  | initial _ log =>
    rw [log]
    exact refreshCount_append state.log own

/-- Only a caller that gets past the throttle is on record. -/
theorem step_refreshCount {action : Action} (unlocked : ∀ id, action ≠ .acquire id false)
    (stepped : state.step resolver sorter action = some next) :
    refreshCount next.log = refreshCount state.log := by
  cases action with
  | work thread answer =>
    cases step_effect stepped with
    | work _ _ _ _ _ _ recorded => exact recorded.refreshCount events_ofRound
    | start taken => exact absurd rfl (taken thread answer)
    | aside taken => exact absurd rfl (taken thread answer)
  | timer =>
    simp only [State.step, State.timer] at stepped
    split at stepped <;> cases stepped <;> rfl
  | leave =>
    simp only [State.step, State.leave] at stepped
    split at stepped
    · cases stepped
    · split at stepped <;> cases stepped <;> rfl
  | cancel =>
    cases stepped
    rfl
  | call id =>
    simp only [State.step, State.call] at stepped
    split at stepped
    · split at stepped <;> cases stepped <;> rfl
    · cases stepped
  | acquire id throttled =>
    cases throttled with
    | false => exact absurd rfl (unlocked id)
    | true =>
      simp only [State.step, State.acquire] at stepped
      split at stepped <;> cases stepped
      rfl
  | readMaster =>
    simp only [State.step] at stepped
    split at stepped <;> cases stepped
    rfl
  | readReplica =>
    simp only [State.step] at stepped
    split at stepped <;> cases stepped
    rfl

/-- Nothing is struck from the log, and the initial resolve does not begin again. -/
theorem step_grows {action : Action} (stepped : state.step resolver sorter action = some next) :
    state.log ⊆ next.log ∧ (state.initialDone = true → next.initialDone = true) := by
  cases step_effect stepped with
  | work _ _ _ _ _ _ recorded =>
    cases recorded with
    | plain log initial => exact ⟨log ▸ List.subset_append_right _ _, fun done => initial ▸ done⟩
    | initial _ log initial =>
      refine ⟨?_, fun _ => initial⟩
      rw [log]
      exact List.subset_cons_of_subset _ (List.subset_append_right _ _)
  | start _ _ _ _ _ _ initial log =>
    refine ⟨?_, fun done => initial ▸ done⟩
    rcases log with same | ⟨id, -, longer⟩
    · rw [same]
      exact List.Subset.refl _
    · rw [longer]
      exact List.subset_cons_self _ _
  | aside _ _ _ _ aside =>
    cases aside with
    | quiet _ log initial => exact ⟨log ▸ List.Subset.refl _, fun done => initial ▸ done⟩
    | gaveUp _ log initial => exact ⟨log ▸ List.subset_cons_self _ _, fun _ => initial⟩
    | readMaster _ _ log initial => exact ⟨log ▸ List.subset_cons_self _ _, fun _ => initial⟩
    | readReplica _ _ log initial => exact ⟨log ▸ List.subset_cons_self _ _, fun _ => initial⟩

private theorem acquire_refreshCount {id : Nat}
    (stepped : state.step resolver sorter (.acquire id false) = some next) :
    refreshCount next.log = refreshCount state.log + 1 := by
  simp only [State.step, State.acquire] at stepped
  split at stepped <;> cases stepped
  exact List.countP_cons_of_pos rfl

end Recording

/-- Least time between two refreshes, in nanoseconds. -/
def refreshThrottle : Int := 1000000000

/-- The resolver with a clock. `refreshes` are the moments at which refreshes began, the
latest first, and `called` the moment of each caller's last call. -/
structure Timed where
  now : Int
  lastRefresh : Option Int
  state : State
  refreshes : List Int
  called : Nat → Int

namespace Timed

inductive Action where
  | pass (duration : Nat)
  | acquire (caller : Nat)
  | other (action : Resolver.Action)

def init : Timed where
  now := 0
  lastRefresh := none
  state := State.init
  refreshes := []
  called _ := 0

/-- The zero time of a resolver that has never refreshed lies far back. -/
def throttled (timed : Timed) : Bool :=
  match timed.lastRefresh with
  | none => false
  | some last => timed.now - last < refreshThrottle

/-- A caller that has got the lock looks at the clock. -/
def acquire (timed : Timed) (id : Nat) : Option Timed :=
  match timed.state.acquire id timed.throttled with
  | none => none
  | some state =>
    if timed.throttled then some { timed with state }
    else
      some { timed with
        state
        lastRefresh := some timed.now
        refreshes := timed.now :: timed.refreshes }

variable (resolver : RedisMasterResolver) (sorter : Sorter)

def step (timed : Timed) : Action → Option Timed
  | .pass duration => some { timed with now := timed.now + duration }
  | .acquire id => timed.acquire id
  | .other (.acquire _ _) => none
  | .other (.call id) =>
    (timed.state.call id).map fun state =>
      { timed with state, called := Function.update timed.called id timed.now }
  | .other action => (timed.state.step resolver sorter action).map fun state => { timed with state }

def machine : Machine Timed Action := ⟨init, step resolver sorter⟩

variable {resolver sorter} {timed next : Timed}

/-- What a step does, apart from letting time pass. -/
inductive Stepped (resolver : RedisMasterResolver) (sorter : Sorter) (timed : Timed) :
    Action → Timed → Prop where
  | pass (duration : Nat) :
      Stepped resolver sorter timed (.pass duration) { timed with now := timed.now + duration }
  | throttled {id : Nat} {state : State} {last : Int} (recent : timed.lastRefresh = some last)
      (soon : timed.now - last < refreshThrottle)
      (stepped : timed.state.step resolver sorter (.acquire id true) = some state) :
      Stepped resolver sorter timed (.acquire id) { timed with state }
  | began {id : Nat} {state : State}
      (late : ∀ last, timed.lastRefresh = some last → last + refreshThrottle ≤ timed.now)
      (stepped : timed.state.step resolver sorter (.acquire id false) = some state) :
      Stepped resolver sorter timed (.acquire id)
        { timed with
          state, lastRefresh := some timed.now, refreshes := timed.now :: timed.refreshes }
  | called {id : Nat} {state : State}
      (stepped : timed.state.step resolver sorter (.call id) = some state) :
      Stepped resolver sorter timed (.other (.call id))
        { timed with state, called := Function.update timed.called id timed.now }
  | other {action : Resolver.Action} {state : State}
      (uncalled : ∀ id, action ≠ .call id)
      (unlocked : ∀ id throttled, action ≠ .acquire id throttled)
      (stepped : timed.state.step resolver sorter action = some state) :
      Stepped resolver sorter timed (.other action) { timed with state }

private theorem throttled_true (soon : timed.throttled = true) :
    ∃ last, timed.lastRefresh = some last ∧ timed.now - last < refreshThrottle := by
  unfold throttled at soon
  split at soon
  · cases soon
  · rename_i last recent
    exact ⟨last, recent, of_decide_eq_true soon⟩

private theorem throttled_false (late : timed.throttled = false) {last : Int}
    (recent : timed.lastRefresh = some last) : last + refreshThrottle ≤ timed.now := by
  simp only [throttled, recent, decide_eq_false_iff_not] at late
  omega

private theorem acquire_stepped {id : Nat} (acquired : timed.acquire id = some next) :
    Stepped resolver sorter timed (.acquire id) next := by
  unfold acquire at acquired
  split at acquired
  · cases acquired
  · rename_i state stepped
    cases soon : timed.throttled with
    | true =>
      rw [soon] at stepped acquired
      cases acquired
      obtain ⟨last, recent, near⟩ := throttled_true soon
      exact .throttled recent near stepped
    | false =>
      rw [soon] at stepped acquired
      cases acquired
      exact .began (fun _ => throttled_false soon) stepped

theorem step_stepped {action : Action} (stepped : timed.step resolver sorter action = some next) :
    Stepped resolver sorter timed action next := by
  cases action with
  | pass duration =>
    cases stepped
    exact .pass duration
  | acquire id => exact acquire_stepped stepped
  | other action =>
    cases action with
    | acquire id throttled => cases stepped
    | call id =>
      obtain ⟨state, called, rfl⟩ := Option.map_eq_some_iff.mp stepped
      exact .called called
    | cancel =>
      cases stepped
      exact .other nofun nofun rfl
    | _ =>
      obtain ⟨state, moved, rfl⟩ := Option.map_eq_some_iff.mp stepped
      exact .other nofun nofun moved

/-- Without its clock a timed run is a run of the resolver. -/
theorem simulation :
    Simulation (machine resolver sorter) (Resolver.machine resolver sorter) Timed.state := by
  refine ⟨rfl, ?_⟩
  intro timed action next _ stepped
  cases step_stepped stepped with
  | pass => exact .inl rfl
  | throttled _ _ moved => exact .inr ⟨.acquire _ true, moved⟩
  | began _ moved => exact .inr ⟨.acquire _ false, moved⟩
  | called moved => exact .inr ⟨.call _, moved⟩
  | @other action _ _ _ moved => exact .inr ⟨action, moved⟩

section Pace

/-- The invariant of timed runs: refreshes keep their distance and exclude each other, and
a caller that resolves has begun the latest of them after its call. -/
structure Paced (timed : Timed) : Prop where
  last : timed.lastRefresh = timed.refreshes.head?
  spaced : Spaced refreshThrottle timed.refreshes
  recorded : timed.refreshes.length = refreshCount timed.state.log
  past : ∀ id, timed.called id ≤ timed.now
  begun : ∀ time ∈ timed.refreshes, time ≤ timed.now
  exclusive : timed.state.Exclusive
  own : ∀ id round, timed.state.callers id = .resolving round →
    ∃ begun, timed.refreshes.head? = some begun ∧ timed.called id ≤ begun

private theorem paced_init : Paced init where
  last := rfl
  spaced := .nil _
  recorded := rfl
  past _ := le_rfl
  begun := by simp [init]
  exclusive := exclusive_init
  own id round runs := by cases runs

/-- Steps that begin no refresh. -/
theorem Paced.quiet (paced : Paced timed) (last : next.lastRefresh = timed.lastRefresh)
    (refreshes : next.refreshes = timed.refreshes) (called : next.called = timed.called)
    (now : timed.now ≤ next.now)
    (recorded : refreshCount next.state.log = refreshCount timed.state.log)
    (exclusive : next.state.Exclusive)
    (runs : ∀ id round, next.state.callers id = .resolving round →
      ∃ before, timed.state.callers id = .resolving before) : Paced next where
  last := by rw [last, refreshes, paced.last]
  spaced := refreshes ▸ paced.spaced
  recorded := by rw [refreshes, recorded, paced.recorded]
  past id := by
    rw [called]
    exact (paced.past id).trans now
  begun time member := by
    rw [refreshes] at member
    exact (paced.begun time member).trans now
  exclusive := exclusive
  own id round resolves := by
    obtain ⟨before, resolved⟩ := runs id round resolves
    rw [refreshes, called]
    exact paced.own id before resolved

/-- Whoever resolves after a step that starts no refresh has resolved before it. -/
theorem resolving_before {state after : State} {action : Resolver.Action}
    (unlocked : ∀ id, action ≠ .acquire id false)
    (stepped : state.step resolver sorter action = some after) {id : Nat} {round : Round}
    (runs : after.callers id = .resolving round) :
    ∃ before, state.callers id = .resolving before := by
  have updated {other : Nat} {caller : Caller} (idle : ∀ round, caller ≠ .resolving round)
      (callers : after.callers = Function.update state.callers other caller) :
      ∃ before, state.callers id = .resolving before := by
    rw [callers] at runs
    by_cases same : id = other
    · subst same
      rw [Function.update_self] at runs
      exact absurd runs (idle round)
    · rw [Function.update_of_ne same] at runs
      exact ⟨round, runs⟩
  cases step_calls stepped with
  | untouched _ callers => exact ⟨round, callers ▸ runs⟩
  | dismissed _ callers => exact ⟨round, callers ▸ runs⟩
  | called _ _ callers => exact updated (by simp) callers
  | throttled _ _ callers => exact updated (by simp) callers
  | began => exact absurd rfl (unlocked _)
  | @resumed other before _ _ resolves callers =>
    by_cases same : id = other
    · subst same
      exact ⟨before, resolves⟩
    · rw [callers, Function.update_of_ne same] at runs
      exact ⟨round, runs⟩
  | ended _ callers => exact updated (by simp) callers

theorem Paced.step {action : Action} (paced : Paced timed)
    (stepped : timed.step resolver sorter action = some next) : Paced next := by
  cases step_stepped stepped with
  | pass duration =>
    exact paced.quiet rfl rfl rfl (by simp) rfl paced.exclusive fun id round runs => ⟨round, runs⟩
  | throttled _ _ moved =>
    exact paced.quiet rfl rfl rfl le_rfl (step_refreshCount (by simp) moved)
      (paced.exclusive.step moved) fun _ _ => resolving_before (by simp) moved
  | @began id state late moved =>
    refine ⟨rfl, ?_, ?_, paced.past, ?_, paced.exclusive.step moved, ?_⟩
    · refine paced.spaced.cons (by decide) ?_
      intro last latest
      exact late last (paced.last.trans latest)
    · rw [acquire_refreshCount moved, ← paced.recorded]
      rfl
    · intro time member
      rcases List.mem_cons.mp member with rfl | earlier
      · exact le_rfl
      · exact paced.begun time earlier
    · intro other round runs
      exact ⟨timed.now, rfl, paced.past other⟩
  | @called id state moved =>
    refine ⟨paced.last, paced.spaced, ?_, ?_, paced.begun, paced.exclusive.step moved, ?_⟩
    · rw [step_refreshCount (by simp) moved]
      exact paced.recorded
    · intro other
      by_cases same : other = id
      · subst same
        exact (Function.update_self other timed.now timed.called).le
      · simpa only [Function.update_of_ne same] using paced.past other
    · intro other round runs
      obtain ⟨before, resolved⟩ := resolving_before (by simp) moved runs
      have different : other ≠ id := by
        rintro rfl
        cases step_calls moved with
        | untouched uncalled => exact absurd rfl (uncalled other)
        | dismissed idle => cases idle.symm.trans resolved
        | called idle => cases idle.symm.trans resolved
      simpa only [Function.update_of_ne different] using paced.own other before resolved
  | other _ unlocked moved =>
    exact paced.quiet rfl rfl rfl le_rfl (step_refreshCount (fun id => unlocked id false) moved)
      (paced.exclusive.step moved) fun _ _ => resolving_before (fun id => unlocked id false) moved

theorem paced_of_reaches (reached : (machine resolver sorter).Reaches (fun _ _ => True) timed) :
    Paced timed :=
  reached.invariant paced_init fun _ _ _ _ paced _ stepped => paced.step stepped

/-- The initial resolve, a refresh that fails, and a second call shortly after it. -/
def askedTwice : Timed :=
  ((machine tracker insertionSorter).after
    ((masterSteps .loop (nodes [("10.0.0.1:6379", "master")]) "10.0.0.1" ++
        replicaSteps .loop (nodes []) []).map .other ++
      [.pass 5000000000, .other (.call 7), .acquire 7, .other (.work (.caller 7) (.master .nil)),
        .pass 300000000, .other (.call 7)])).get (by decide +kernel)

private theorem askedTwice_reached :
    (machine tracker insertionSorter).Reaches (fun _ _ => True) askedTwice :=
  .after (Option.some_get _).symm

/-- Refreshes never overlap, however many callers ask for one, and no window of time sees
more of them begin than the throttle allows. -/
theorem refresh_rate (reached : (machine resolver sorter).Reaches (fun _ _ => True) timed)
    {first last : Int} (within : first ≤ last) :
    (∀ one other, ((timed.state.callers one).round?).isSome →
        ((timed.state.callers other).round?).isSome → one = other) ∧
      timed.refreshes.length = refreshCount timed.state.log ∧
      ((timed.refreshes.filter fun begun => first ≤ begun ∧ begun ≤ last).length : Int) ≤
        (last - first) / refreshThrottle + 1 := by
  have paced := paced_of_reaches reached
  refine ⟨?_, paced.recorded, paced.spaced.window (by decide) within⟩
  intro one other first second
  have holds {id : Nat} (runs : ((timed.state.callers id).round?).isSome) :
      timed.state.refreshLock = some id := by
    obtain ⟨round, running⟩ := Option.isSome_iff_exists.mp runs
    exact (paced.exclusive id).mp ⟨round, Caller.resolves running⟩
  exact Option.some.inj ((holds first).symm.trans (holds second))

theorem refresh_rate_askedTwice :
    askedTwice.refreshes.length = refreshCount askedTwice.state.log ∧
      ((askedTwice.refreshes.filter fun begun =>
        0 ≤ begun ∧ begun ≤ 5300000000).length : Int) ≤ 6 := by
  obtain ⟨-, recorded, fits⟩ :=
    @refresh_rate _ _ _ askedTwice_reached 0 5300000000 (by decide)
  exact ⟨recorded, fits⟩

/-- The refresh that began at this moment has come to its end. -/
def Over (timed : Timed) (begun : Int) : Prop :=
  begun ∈ timed.refreshes ∧
    (timed.state.refreshLock = none ∨ timed.refreshes.head? ≠ some begun)

theorem Over.quiet {begun : Int} (past : timed.Over begun)
    (refreshes : next.refreshes = timed.refreshes)
    (lock : next.state.refreshLock = timed.state.refreshLock ∨ next.state.refreshLock = none) :
    next.Over begun := by
  refine ⟨refreshes ▸ past.1, ?_⟩
  rw [refreshes]
  rcases lock with same | free
  · rw [same]
    exact past.2
  · exact .inl free

theorem Over.step {action : Action} {begun : Int} (past : timed.Over begun) (paced : Paced timed)
    (stepped : timed.step resolver sorter action = some next) : next.Over begun := by
  have after := paced.step stepped
  cases step_stepped stepped with
  | pass => exact past.quiet rfl (.inl rfl)
  | throttled _ _ moved => exact past.quiet rfl (step_lock moved (by simp))
  | began _ moved =>
    refine ⟨List.mem_cons_of_mem _ past.1, .inr ?_⟩
    have far := (List.pairwise_cons.mp after.spaced).1 begun past.1
    have positive : 0 < refreshThrottle := by decide
    simp only [List.head?_cons, ne_eq, Option.some.injEq]
    omega
  | called moved => exact past.quiet rfl (step_lock moved (by simp))
  | other _ unlocked moved => exact past.quiet rfl (step_lock moved fun id => unlocked id false)

/-- A call returns only when a refresh is over that began after the call, or shortly
before it. -/
theorem returned_over (paced : Paced timed) {action : Action}
    (stepped : timed.step resolver sorter action = some next) {id : Nat}
    (busy : timed.state.callers id ≠ .idle) (returned : next.state.callers id = .idle) :
    ∃ begun, next.Over begun ∧ next.called id - refreshThrottle < begun ∧ begun ≤ next.now := by
  -- Either the throttle sent the call back, and then the last refresh is recent, or the
  -- call has made its own.
  cases step_stepped stepped with
  | pass => exact absurd returned busy
  | @throttled caller state last recent soon moved =>
    cases step_returns moved busy returned with
    | throttled lock =>
      have latest := List.mem_of_mem_head? (paced.last.symm.trans recent)
      have near : timed.called id - refreshThrottle < last := by
        have asked := paced.past id
        omega
      exact ⟨last, ⟨latest, .inl lock⟩, near, paced.begun last latest⟩
  | began _ moved => cases step_returns moved busy returned
  | called moved => cases step_returns moved busy returned
  | other _ unlocked moved =>
    cases step_returns moved busy returned with
    | throttled lock => exact absurd rfl (unlocked id true)
    | ended runs lock =>
      obtain ⟨begun, latest, after⟩ := paced.own id _ runs
      have near : timed.called id - refreshThrottle < begun := by
        have positive : 0 < refreshThrottle := by decide
        omega
      have seen := List.mem_of_mem_head? latest
      exact ⟨begun, ⟨seen, .inl lock⟩, near, paced.begun begun seen⟩

/-- Without a new call an idle caller stays idle. -/
theorem idle_kept {action : Action} (uncalled : ∀ id, action ≠ .other (.call id))
    (stepped : timed.step resolver sorter action = some next) {id : Nat}
    (idle : timed.state.callers id = .idle) : next.state.callers id = .idle := by
  have other {state : State} {action : Resolver.Action} (uncalled : ∀ id, action ≠ .call id)
      (moved : timed.state.step resolver sorter action = some state) :
      state.callers id = .idle := by
    have apart {other : Nat} {caller : Caller} (busy : timed.state.callers other = caller)
        (active : caller ≠ .idle) : id ≠ other := by
      rintro rfl
      exact active (busy.symm.trans idle)
    cases step_calls moved with
    | untouched _ callers => rw [callers, idle]
    | dismissed _ callers => rw [callers, idle]
    | called => exact absurd rfl (uncalled _)
    | throttled waits _ callers => rw [callers, Function.update_of_ne (apart waits nofun), idle]
    | began waits _ callers => rw [callers, Function.update_of_ne (apart waits nofun), idle]
    | resumed runs callers => rw [callers, Function.update_of_ne (apart runs nofun), idle]
    | ended runs callers => rw [callers, Function.update_of_ne (apart runs nofun), idle]
  cases step_stepped stepped with
  | pass => exact idle
  | throttled _ _ moved => exact other (by simp) moved
  | began _ moved => exact other (by simp) moved
  | called => exact absurd rfl (uncalled _)
  | other quiet _ moved => exact other quiet moved

theorem called_kept {action : Action} (uncalled : ∀ id, action ≠ .other (.call id))
    (stepped : timed.step resolver sorter action = some next) : next.called = timed.called := by
  cases step_stepped stepped with
  | called => exact absurd rfl (uncalled _)
  | _ => rfl

/-- After the initial resolve a call waits for the lock. -/
theorem call_waits {id : Nat} (ready : timed.state.initialDone = true)
    (stepped : timed.step resolver sorter (.other (.call id)) = some next) :
    timed.state.callers id = .idle ∧
      next.state.callers = Function.update timed.state.callers id .waiting ∧
      next.called = Function.update timed.called id timed.now := by
  cases step_stepped stepped with
  | called moved =>
    simp only [State.step, State.call, ready, if_true] at moved
    split at moved
    · cases moved
      exact ⟨‹_›, rfl, rfl⟩
    · cases moved
  | other uncalled => exact absurd rfl (uncalled id)

end Pace

end Timed

end SentinelProxy.Resolver
