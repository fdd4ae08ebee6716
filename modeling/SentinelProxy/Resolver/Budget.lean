import Mathlib.Tactic.IntervalCases
import SentinelProxy.Resolver.Attempts

/-! The retry budget: which failures count, when the loops go on, and how long they wait. -/

namespace SentinelProxy.Resolver

/-- Failures since the last success; an outcome that is not ready neither counts nor
resets the count. -/
def failures : List (Option Fault) → Nat
  | [] => 0
  | none :: _ => 0
  | some fault :: past => if fault.notReady then failures past else failures past + 1

def delay (past : List (Option Fault)) : Int :=
  match past with
  | some fault :: _ =>
    if fault.notReady then sentinelNotReadyBackoff.toInt
    else min (2 ^ (failures past - 1)) 30 * second.toInt
  | _ => 0

def Loop.wait? : Loop → Option Int64
  | .initialWait _ wait _ => some wait
  | .backoff _ wait _ => some wait
  | _ => none

/-- The limit is below the largest number, or the counter never gets that far. -/
def Fits (limit : Int) (past : List (Option Fault)) : Prop :=
  limit < 2 ^ 63 - 1 ∨ ∀ earlier, earlier <:+ past → failures earlier < 2 ^ 63

section Backoff

private theorem ofInt_toInt_eq {count : Int64} {value : Int} (same : count.toInt = value) :
    count = Int64.ofInt value := by
  rw [← same, Int64.ofInt_toInt]

/-- The pause after a counted failure, with no overflow for any count. -/
theorem resolveFailureBackoff_toInt {errCount : Int64} {count : Nat} (positive : 0 < count)
    (same : errCount.toInt = count) :
    (resolveFailureBackoff errCount).toInt = min (2 ^ (count - 1)) 30 * second.toInt := by
  by_cases small : count ≤ 5
  · obtain rfl := ofInt_toInt_eq same
    interval_cases count <;> rfl
  · have doubled : 2 ^ 5 ≤ 2 ^ (count - 1) := Nat.pow_le_pow_right (by decide) (by omega)
    have large : 30 ≤ (2 : Int) ^ (count - 1) := by exact_mod_cast Nat.le_trans (by decide) doubled
    have above : (5 : Int64) < errCount := by
      rw [Int64.lt_iff_toInt_lt, same, show (5 : Int64).toInt = 5 from rfl]
      omega
    have counted : ¬errCount < 1 := by
      rw [Int64.lt_iff_toInt_lt, same, show (1 : Int64).toInt = 1 from rfl]
      omega
    rw [min_eq_right large, resolveFailureBackoff, if_neg counted, if_pos above]
    rfl

private theorem toInt_succ {errCount : Int64} {count : Nat} (same : errCount.toInt = count)
    (fits : count + 1 < 2 ^ 63) : (errCount + 1).toInt = (count + 1 : Nat) := by
  rw [Int64.toInt_add, same, show (1 : Int64).toInt = 1 from rfl,
    Int.bmod_eq_of_le (by omega) (by omega)]
  rfl

private theorem toInt_succ_le (errCount : Int64) : (errCount + 1).toInt ≤ errCount.toInt + 1 := by
  rw [Int64.toInt_add, show (1 : Int64).toInt = 1 from rfl]
  have low := errCount.le_toInt
  have high := errCount.toInt_lt
  by_cases last : errCount.toInt + 1 < 2 ^ 63
  · rw [Int.bmod_eq_of_le (by omega) (by omega)]
  · rw [show errCount.toInt + 1 = 2 ^ 63 by omega]
    decide

end Backoff

/-- The newest outcome is this fault, and the pause is the one it calls for. -/
def Paused (past : List (Option Fault)) (wait : Int64) (fault : Fault) : Prop :=
  past.head? = some (some fault) ∧ wait.toInt = delay past

/-- What the outcomes so far say about where an uncancelled loop stands. -/
def Standing (limit : Int) (past : List (Option Fault)) (done : Bool) : Loop → Prop
  | .initial errCount _ =>
    (done = false ∧ none ∉ past) ∧ errCount.toInt = failures past ∧ failures past ≤ limit
  | .initialWait errCount wait fault =>
    (done = false ∧ none ∉ past) ∧ errCount.toInt = failures past ∧ failures past ≤ limit ∧
      Paused past wait fault
  | .tick errCount =>
    (done = true ∧ none ∈ past) ∧ errCount.toInt = failures past ∧ failures past ≤ limit
  | .steady errCount _ =>
    (done = true ∧ none ∈ past) ∧ errCount.toInt = failures past ∧ failures past ≤ limit
  | .backoff errCount wait fault =>
    (done = true ∧ none ∈ past) ∧ errCount.toInt = failures past ∧ failures past ≤ limit + 1 ∧
      (fault.notReady = true → failures past ≤ limit) ∧ Paused past wait fault
  | .returned outcome =>
    done = true ∧ failures past = limit + 1 ∧
      ∃ fault, outcome = some fault ∧ fault.notReady = false ∧ past.head? = some (some fault)

section Standing

variable {resolver : RedisMasterResolver} {sorter : Sorter} {past : List (Option Fault)}
  {limit : Int} {fault : Fault}

private theorem failures_transient (transient : fault.notReady = true) :
    failures (some fault :: past) = failures past := by
  simp [failures, transient]

private theorem failures_counted (counted : fault.notReady = false) :
    failures (some fault :: past) = failures past + 1 := by
  simp [failures, counted]

private theorem delay_transient (transient : fault.notReady = true) :
    delay (some fault :: past) = sentinelNotReadyBackoff.toInt := by
  simp [delay, transient]

private theorem delay_counted (counted : fault.notReady = false) :
    delay (some fault :: past) = min (2 ^ failures past) 30 * second.toInt := by
  simp [delay, counted, failures]

theorem Fits.earlier {outcomes : List (Option Fault)} (fits : Fits limit (outcomes ++ past)) :
    Fits limit past := by
  rcases fits with below | bounded
  · exact .inl below
  · exact .inr fun earlier suffix => bounded earlier (suffix.trans (List.suffix_append _ _))

theorem Fits.next (fits : Fits limit (some fault :: past)) (counted : fault.notReady = false)
    (left : failures past ≤ limit) : failures past + 1 < 2 ^ 63 := by
  rcases fits with below | bounded
  · omega
  · rw [← failures_counted counted]
    exact bounded _ (List.suffix_refl _)

theorem paused_transient {errCount : Int64} (transient : fault.notReady = true)
    (same : errCount.toInt = failures past) :
    errCount.toInt = failures (some fault :: past) ∧
      Paused (some fault :: past) sentinelNotReadyBackoff fault := by
  rw [failures_transient transient]
  exact ⟨same, rfl, (delay_transient transient).symm⟩

theorem paused_counted {errCount : Int64} (counted : fault.notReady = false)
    (same : errCount.toInt = failures past) (fits : failures past + 1 < 2 ^ 63) :
    (errCount + 1).toInt = failures (some fault :: past) ∧
      Paused (some fault :: past) (resolveFailureBackoff (errCount + 1)) fault := by
  have next := toInt_succ same fits
  rw [failures_counted counted]
  refine ⟨next, rfl, ?_⟩
  rw [resolveFailureBackoff_toInt (Nat.succ_pos _) next, delay_counted counted]
  rfl

theorem enter_success (natural : 0 ≤ resolver.retryOnMasterResolveFail) (last : Option Fault) :
    State.enter resolver 0 last = .tick 0 := by
  rw [State.enter, if_pos (by simpa using natural)]

private theorem standing_success (natural : 0 ≤ resolver.retryOnMasterResolveFail)
    (last : Option Fault) :
    Standing resolver.retryOnMasterResolveFail (none :: past) true
      (State.enter resolver 0 last) := by
  rw [enter_success natural]
  exact ⟨⟨rfl, List.mem_cons_self⟩, rfl, by simpa [failures] using natural⟩

theorem standing_backoff {errCount wait : Int64} {done : Bool}
    (standing : Standing resolver.retryOnMasterResolveFail past done
      (.backoff errCount wait fault)) :
    Standing resolver.retryOnMasterResolveFail past done
      (State.enter resolver errCount (some fault)) := by
  obtain ⟨phase, same, bound, transient, paused⟩ := standing
  rw [State.enter, same]
  split
  · rename_i left
    exact ⟨phase, same, left⟩
  · rename_i spent
    refine ⟨phase.1, by omega, fault, rfl, ?_, paused.1⟩
    by_contra ready
    exact spent (transient (by simpa using ready))

/-- Each turn of an uncancelled loop keeps to the budget. -/
theorem Standing.turn {loop next : Loop} {done over? : Bool} {outcome? : Option (Option Fault)}
    (standing : Standing resolver.retryOnMasterResolveFail past done loop)
    (turn : Turn resolver false loop done outcome? next over?)
    (natural : 0 ≤ resolver.retryOnMasterResolveFail)
    (fits : Fits resolver.retryOnMasterResolveFail (outcome?.toList ++ past)) :
    Standing resolver.retryOnMasterResolveFail (outcome?.toList ++ past) over? next := by
  cases turn with
  | same => exact standing
  | initialGoes => exact standing
  | initialOk => exact standing_success natural none
  | initialNotReady transient =>
    obtain ⟨⟨running, unresolved⟩, same, left⟩ := standing
    obtain ⟨count, paused⟩ := paused_transient transient same
    refine ⟨⟨running, by simpa using unresolved⟩, count, ?_, paused⟩
    simpa [failures, transient] using left
  | initialGivesUp counted spent =>
    obtain ⟨_, same, left⟩ := standing
    obtain ⟨count, _⟩ := paused_counted counted same (fits.next counted left)
    refine ⟨rfl, ?_, _, rfl, counted, rfl⟩
    simp only [Option.toList_some, List.singleton_append]
    rw [count] at spent
    rw [failures_counted counted] at spent ⊢
    omega
  | initialFails counted remaining =>
    obtain ⟨⟨running, unresolved⟩, same, left⟩ := standing
    obtain ⟨count, paused⟩ := paused_counted counted same (fits.next counted left)
    exact ⟨⟨running, by simpa using unresolved⟩, count, count ▸ remaining, paused⟩
  | initialRetries =>
    obtain ⟨phase, same, left, _⟩ := standing
    exact ⟨phase, same, left⟩
  | initialLeaves told => cases told
  | ticks => exact standing
  | tickLeaves told => cases told
  | steadyGoes => exact standing
  | steadyOk =>
    obtain ⟨⟨rfl, _⟩, _⟩ := standing
    exact standing_success natural none
  | @steadyNotReady _ _ fault _ transient =>
    obtain ⟨⟨finished, resolved⟩, same, left⟩ := standing
    obtain ⟨count, paused⟩ := paused_transient transient same
    have remaining : (failures (some fault :: past) : Int) ≤ resolver.retryOnMasterResolveFail := by
      rwa [failures_transient transient]
    refine ⟨⟨finished, List.mem_cons_of_mem _ resolved⟩, count, ?_, fun _ => remaining, paused⟩
    exact remaining.trans (by omega)
  | steadyFails counted =>
    obtain ⟨⟨finished, resolved⟩, same, left⟩ := standing
    obtain ⟨count, paused⟩ := paused_counted counted same (fits.next counted left)
    refine ⟨⟨finished, List.mem_cons_of_mem _ resolved⟩, count, ?_, ?_, paused⟩
    · simp only [Option.toList_some, List.singleton_append, failures_counted counted]
      omega
    · intro transient
      rw [counted] at transient
      cases transient
  | backsOff => exact standing_backoff standing
  | backoffLeaves told => cases told

theorem standing_past {state : State} (ran : State.Past resolver sorter past state)
    (uncancelled : state.cancelled = false) (natural : 0 ≤ resolver.retryOnMasterResolveFail)
    (fits : Fits resolver.retryOnMasterResolveFail past) :
    Standing resolver.retryOnMasterResolveFail past state.initialDone state.loop := by
  induction ran with
  | init => exact ⟨⟨rfl, List.not_mem_nil⟩, rfl, natural⟩
  | step _ stepped ih =>
    have before := uncancelled_before stepped uncancelled
    obtain ⟨turn, _⟩ := step_turn stepped
    rw [before] at turn
    exact (ih before fits.earlier).turn turn natural fits

end Standing

def Loop.Spent (limit : Int) : Loop → Prop
  | .backoff errCount _ _ => limit < errCount.toInt
  | .returned _ => True
  | _ => False

/-- The state of an uncancelled run, read off the outcomes of the loop's rounds. -/
structure ExactBudget (resolver : RedisMasterResolver) (sorter : Sorter)
    (past : List (Option Fault)) (state : State) : Prop where
  /-- Within the budget, time alone brings the next attempt. -/
  further : failures past ≤ resolver.retryOnMasterResolveFail →
    ∃ next, State.Leads resolver sorter (fun _ action => action = .timer) state next ∧
      next.loop.round?.isSome
  /-- Past the budget there is none, whatever happens. -/
  none_further : resolver.retryOnMasterResolveFail < failures past →
    ∀ next, State.Leads resolver sorter (fun _ _ => True) state next → next.loop.round? = none
  /-- Past the budget, time alone brings the error. -/
  exhausted : resolver.retryOnMasterResolveFail < failures past →
    ∃ next fault, State.Leads resolver sorter (fun _ action => action = .timer) state next ∧
      next.loop = .returned (some fault)
  /-- The initial resolve ends with the first success or the failure past the budget. -/
  initial : state.initialDone = true ↔
    none ∈ past ∨ resolver.retryOnMasterResolveFail < failures past
  /-- What is returned is the failure that used up the budget. -/
  error : ∀ outcome, state.loop = .returned outcome → ∃ fault rest, outcome = some fault ∧
    fault.notReady = false ∧ past = some fault :: rest ∧
    failures past = resolver.retryOnMasterResolveFail + 1
  /-- A pause is as long as the newest outcome calls for. -/
  pause : ∀ wait, state.loop.wait? = some wait → wait.toInt = delay past
  /-- A success is followed by the ticker alone, anything else by a pause unless the
  initial resolve gives up. -/
  paused : ∀ action next outcome, state.step resolver sorter action = some next →
    state.outcome? resolver sorter action = some outcome →
    (outcome = none → next.loop = .tick 0) ∧
    ∀ fault, outcome = some fault → next.loop.wait?.isSome ∨
      next.loop = .returned (some fault) ∧
        resolver.retryOnMasterResolveFail < failures (outcome :: past)

section Exact

variable {resolver : RedisMasterResolver} {sorter : Sorter} {past : List (Option Fault)}
  {state : State} {limit : Int}

theorem Loop.Spent.turn {loop next : Loop} {cancelled done over? : Bool}
    {outcome? : Option (Option Fault)} (spent : loop.Spent resolver.retryOnMasterResolveFail)
    (turn : Turn resolver cancelled loop done outcome? next over?) :
    next.Spent resolver.retryOnMasterResolveFail := by
  cases turn with
  | same => exact spent
  | backsOff =>
    rw [State.enter, if_neg (not_le.mpr spent)]
    trivial
  | backoffLeaves => trivial
  | _ => exact spent.elim

theorem Loop.Spent.idle {loop : Loop} (spent : loop.Spent limit) : loop.round? = none := by
  cases loop with
  | backoff => rfl
  | returned => rfl
  | _ => exact spent.elim

theorem Standing.spent {loop : Loop} {done : Bool} (standing : Standing limit past done loop)
    (beyond : limit < failures past) : loop.Spent limit := by
  cases loop with
  | backoff errCount wait fault =>
    obtain ⟨_, same, _⟩ := standing
    rw [Loop.Spent, same]
    exact beyond
  | returned outcome => trivial
  | initial errCount round =>
    obtain ⟨_, _, left⟩ := standing
    omega
  | initialWait errCount wait fault =>
    obtain ⟨_, _, left, _⟩ := standing
    omega
  | tick errCount =>
    obtain ⟨_, _, left⟩ := standing
    omega
  | steady errCount round =>
    obtain ⟨_, _, left⟩ := standing
    omega

theorem ticked {errCount : Int64} (waits : state.loop = .tick errCount) :
    ∃ next, State.Leads resolver sorter (fun _ action => action = .timer) state next ∧
      next.loop.round?.isSome := by
  refine ⟨{ state with
    loop := .steady errCount ⟨state.started, .query⟩, started := state.started + 1 }, ?_, rfl⟩
  exact .single ⟨.timer, rfl, by simp [State.step, State.timer, waits]⟩

theorem retried {errCount wait : Int64} {fault : Fault}
    (waits : state.loop = .initialWait errCount wait fault) :
    ∃ next, State.Leads resolver sorter (fun _ action => action = .timer) state next ∧
      next.loop.round?.isSome := by
  refine ⟨{ state with
    loop := .initial errCount ⟨state.started, .query⟩, started := state.started + 1 }, ?_, rfl⟩
  exact .single ⟨.timer, rfl, by simp [State.step, State.timer, waits]⟩

theorem backedOff {errCount wait : Int64} {fault : Fault}
    (waits : state.loop = .backoff errCount wait fault) :
    State.Leads resolver sorter (fun _ action => action = .timer) state
      { state with loop := State.enter resolver errCount (some fault) } :=
  .single ⟨.timer, rfl, by simp [State.step, State.timer, waits]⟩

theorem tickedAgain {errCount wait : Int64} {fault : Fault}
    (waits : state.loop = .backoff errCount wait fault)
    (left : errCount.toInt ≤ resolver.retryOnMasterResolveFail) :
    ∃ next, State.Leads resolver sorter (fun _ action => action = .timer) state next ∧
      next.loop.round?.isSome := by
  have again : State.enter resolver errCount (some fault) = .tick errCount := if_pos left
  obtain ⟨next, leads, attempt⟩ := @ticked resolver sorter
    { state with loop := State.enter resolver errCount (some fault) } errCount again
  exact ⟨next, (backedOff waits).trans leads, attempt⟩

theorem Standing.further {done : Bool}
    (standing : Standing resolver.retryOnMasterResolveFail past done state.loop)
    (left : failures past ≤ resolver.retryOnMasterResolveFail) :
    ∃ next, State.Leads resolver sorter (fun _ action => action = .timer) state next ∧
      next.loop.round?.isSome := by
  cases loop : state.loop with
  | initial errCount round => exact ⟨state, .refl, by rw [loop]; rfl⟩
  | steady errCount round => exact ⟨state, .refl, by rw [loop]; rfl⟩
  | tick errCount => exact ticked loop
  | initialWait errCount wait fault => exact retried loop
  | backoff errCount wait fault =>
    rw [loop] at standing
    obtain ⟨_, same, _⟩ := standing
    exact tickedAgain loop (by rwa [same])
  | returned outcome =>
    rw [loop] at standing
    obtain ⟨_, spent, _⟩ := standing
    omega

theorem Standing.exhausted {done : Bool}
    (standing : Standing resolver.retryOnMasterResolveFail past done state.loop)
    (beyond : resolver.retryOnMasterResolveFail < failures past) :
    ∃ next fault, State.Leads resolver sorter (fun _ action => action = .timer) state next ∧
      next.loop = .returned (some fault) := by
  have spent := standing.spent beyond
  cases loop : state.loop with
  | backoff errCount wait fault =>
    rw [loop] at spent
    refine ⟨_, fault, backedOff loop, ?_⟩
    exact if_neg (not_le.mpr spent)
  | returned outcome =>
    rw [loop] at standing
    obtain ⟨_, _, fault, rfl, _⟩ := standing
    exact ⟨state, fault, .refl, loop⟩
  | _ =>
    rw [loop] at spent
    exact spent.elim

theorem Standing.initial {loop : Loop} {done : Bool} (standing : Standing limit past done loop) :
    done = true ↔ none ∈ past ∨ limit < failures past := by
  cases loop with
  | initial errCount round =>
    obtain ⟨⟨rfl, unresolved⟩, _, left⟩ := standing
    simp [unresolved, left]
  | initialWait errCount wait fault =>
    obtain ⟨⟨rfl, unresolved⟩, _, left, _⟩ := standing
    simp [unresolved, left]
  | tick errCount =>
    obtain ⟨⟨rfl, resolved⟩, _⟩ := standing
    simp [resolved]
  | steady errCount round =>
    obtain ⟨⟨rfl, resolved⟩, _⟩ := standing
    simp [resolved]
  | backoff errCount wait fault =>
    obtain ⟨⟨rfl, resolved⟩, _⟩ := standing
    simp [resolved]
  | returned outcome =>
    obtain ⟨rfl, spent, _⟩ := standing
    simp only [true_iff]
    exact .inr (by omega)

theorem Standing.paused {loop next : Loop} {cancelled done over? : Bool} {outcome : Option Fault}
    (standing : Standing resolver.retryOnMasterResolveFail past done loop)
    (natural : 0 ≤ resolver.retryOnMasterResolveFail)
    (turn : Turn resolver cancelled loop done (some outcome) next over?) :
    (outcome = none → next = .tick 0) ∧
    ∀ fault, outcome = some fault → next.wait?.isSome ∨
      next = .returned (some fault) ∧
        resolver.retryOnMasterResolveFail < failures (outcome :: past) := by
  cases turn with
  | initialOk => exact ⟨fun _ => enter_success natural none, nofun⟩
  | steadyOk => exact ⟨fun _ => enter_success natural none, nofun⟩
  | initialGivesUp counted spent =>
    refine ⟨nofun, ?_⟩
    rintro fault ⟨rfl⟩
    obtain ⟨_, same, _⟩ := standing
    have bound := toInt_succ_le ‹Int64›
    rw [failures_counted counted]
    exact .inr ⟨rfl, by omega⟩
  | initialNotReady => exact ⟨nofun, fun _ _ => .inl rfl⟩
  | initialFails => exact ⟨nofun, fun _ _ => .inl rfl⟩
  | steadyNotReady => exact ⟨nofun, fun _ _ => .inl rfl⟩
  | steadyFails => exact ⟨nofun, fun _ _ => .inl rfl⟩

/-- Both loops keep to the retry budget exactly, along every run that is not cancelled. -/
theorem budget_exact (ran : State.Past resolver sorter past state)
    (uncancelled : state.cancelled = false) (natural : 0 ≤ resolver.retryOnMasterResolveFail)
    (fits : Fits resolver.retryOnMasterResolveFail past) :
    ExactBudget resolver sorter past state := by
  have standing := standing_past ran uncancelled natural fits
  refine ⟨standing.further, ?_, standing.exhausted, standing.initial, ?_, ?_, ?_⟩
  · intro beyond next leads
    have spent := @State.Leads.invariant _ _ _
      (fun state => state.loop.Spent resolver.retryOnMasterResolveFail) _ _ leads
      (standing.spent beyond) fun _ _ _ spent _ stepped => spent.turn (step_turn stepped).1
    exact spent.idle
  · intro outcome loop
    rw [loop] at standing
    obtain ⟨_, spent, fault, same, counted, newest⟩ := standing
    obtain ⟨rest, shape⟩ := List.head?_eq_some_iff.mp newest
    exact ⟨fault, rest, same, counted, shape, spent⟩
  · intro wait waits
    cases loop : state.loop with
    | initialWait errCount pause fault =>
      rw [loop] at standing waits
      obtain ⟨_, _, _, paused⟩ := standing
      cases waits
      exact paused.2
    | backoff errCount pause fault =>
      rw [loop] at standing waits
      obtain ⟨_, _, _, _, paused⟩ := standing
      cases waits
      exact paused.2
    | _ =>
      rw [loop] at waits
      cases waits
  · intro action next outcome stepped ended
    obtain ⟨turn, _⟩ := step_turn stepped
    rw [ended] at turn
    exact standing.paused natural turn

end Exact

section Scenarios

def failedState : State :=
  (State.init.step tracker insertionSorter (.work .loop (.master .nil))).get (by decide +kernel)

theorem budget_exact_failedState :
    failedState.loop = .initialWait 1 1000000000 .unknownMaster ∧
      ExactBudget tracker insertionSorter [some .unknownMaster] failedState := by
  have ran : State.Past tracker insertionSorter [some .unknownMaster] failedState :=
    @State.Past.step _ _ _ _ _ (.work .loop (.master .nil)) .init (Option.some_get _).symm
  exact ⟨by decide +kernel, budget_exact ran (by decide +kernel) (by decide) (.inl (by decide))⟩

/-- The largest limit a resolver can be given. -/
def patient : RedisMasterResolver := { tracker with retryOnMasterResolveFail := 2 ^ 63 - 1 }

/-- No counter value is above the largest limit, so there is always one more attempt. -/
theorem patient_attempts (count : Nat) :
    ∃ past state, State.Past patient insertionSorter past state ∧ state.cancelled = false ∧
      failures past = count ∧ none ∉ past ∧ state.initialDone = false ∧
      ∃ errCount id, state.loop = .initial errCount ⟨id, .query⟩ := by
  induction count with
  | zero => exact ⟨[], .init, .init, rfl, rfl, List.not_mem_nil, rfl, 0, 0, rfl⟩
  | succ count ih =>
    obtain ⟨past, state, ran, uncancelled, counted, unresolved, running, errCount, id, loop⟩ := ih
    have left : ¬patient.retryOnMasterResolveFail < (errCount + 1).toInt := by
      have bound := (errCount + 1).toInt_lt
      simp only [patient]
      omega
    have failed : state.step patient insertionSorter (.work .loop (.master .nil)) =
        some { state with
          loop := .initialWait (errCount + 1) (resolveFailureBackoff (errCount + 1)) .unknownMaster
          log := .answered id .nil :: state.log } := by
      simp [State.step, State.work, State.active, loop, Loop.round?, Phase.step, masterTarget,
        State.finish, State.loopDone, Fault.notReady, left, Phase.events, -Int64.toInt_add]
    have ended : state.outcome? patient insertionSorter (.work .loop (.master .nil)) =
        some (some .unknownMaster) := by
      simp [State.outcome?, loop, Loop.round?, Phase.step, masterTarget]
    have waited := State.Past.step ran failed
    rw [ended] at waited
    have again := @State.Past.step _ _ _ _ _ .timer waited rfl
    refine ⟨_, _, again, uncancelled, ?_, ?_, running, errCount + 1, _, rfl⟩
    · simp [State.outcome?, failures, Fault.notReady, counted]
    · simp [State.outcome?, unresolved]

/-- With the largest limit the counter wraps around, and the initial resolve outlives its
budget. -/
theorem patient_unbounded :
    ∃ past state, State.Past patient insertionSorter past state ∧ state.cancelled = false ∧
      patient.retryOnMasterResolveFail < failures past ∧ none ∉ past ∧
      state.initialDone = false ∧ state.loop.round?.isSome := by
  obtain ⟨past, state, ran, uncancelled, counted, unresolved, running, _, _, loop⟩ :=
    patient_attempts (2 ^ 63)
  refine ⟨past, state, ran, uncancelled, ?_, unresolved, running, by rw [loop]; rfl⟩
  rw [counted]
  decide

end Scenarios

end SentinelProxy.Resolver
