import SentinelProxy.Resolver.System

/-! The update loop on its own: every turn it can take, and the outcomes of the rounds it
has run so far. -/

namespace SentinelProxy.Resolver

/-- The outcome of the loop's round, where a step ends it. -/
def State.outcome? (resolver : RedisMasterResolver) (sorter : Sorter) (state : State) :
    Action → Option (Option Fault)
  | .work .loop answer =>
    match state.loop.round? with
    | none => none
    | some round =>
      match round.phase.step resolver sorter answer state.store with
      | some (.done outcome, _) => some outcome
      | _ => none
  | _ => none

/-- The steps the loop takes itself. -/
def Action.ofLoop : Action → Bool
  | .work .loop _ => true
  | .timer => true
  | .leave => true
  | _ => false

/-- The outcomes of the loop's rounds along a run, newest first. -/
inductive State.Past (resolver : RedisMasterResolver) (sorter : Sorter) :
    List (Option Fault) → State → Prop where
  | init : State.Past resolver sorter [] State.init
  | step {past : List (Option Fault)} {state next : State} {action : Action}
      (before : State.Past resolver sorter past state)
      (stepped : state.step resolver sorter action = some next) :
      State.Past resolver sorter ((state.outcome? resolver sorter action).toList ++ past) next

/-- The turns of the loop: where it stands and whether the initial resolve is over, before
and after a step, and the outcome of the round that the step ends. -/
inductive Turn (resolver : RedisMasterResolver) (cancelled : Bool) :
    Loop → Bool → Option (Option Fault) → Loop → Bool → Prop where
  | same {loop : Loop} {done : Bool} : Turn resolver cancelled loop done none loop done
  | initialGoes {errCount : Int64} {round later : Round} {done : Bool} :
      Turn resolver cancelled (.initial errCount round) done none (.initial errCount later) done
  | initialOk {errCount : Int64} {round : Round} {done : Bool} :
      Turn resolver cancelled (.initial errCount round) done (some none)
        (State.enter resolver 0 none) true
  | initialNotReady {errCount : Int64} {round : Round} {fault : Fault} {done : Bool}
      (transient : fault.notReady = true) :
      Turn resolver cancelled (.initial errCount round) done (some (some fault))
        (.initialWait errCount sentinelNotReadyBackoff fault) done
  | initialGivesUp {errCount : Int64} {round : Round} {fault : Fault} {done : Bool}
      (counted : fault.notReady = false)
      (spent : resolver.retryOnMasterResolveFail < (errCount + 1).toInt) :
      Turn resolver cancelled (.initial errCount round) done (some (some fault))
        (.returned (some fault)) true
  | initialFails {errCount : Int64} {round : Round} {fault : Fault} {done : Bool}
      (counted : fault.notReady = false)
      (left : (errCount + 1).toInt ≤ resolver.retryOnMasterResolveFail) :
      Turn resolver cancelled (.initial errCount round) done (some (some fault))
        (.initialWait (errCount + 1) (resolveFailureBackoff (errCount + 1)) fault) done
  | initialRetries {errCount wait : Int64} {fault : Fault} {round : Round} {done : Bool} :
      Turn resolver cancelled (.initialWait errCount wait fault) done none
        (.initial errCount round) done
  | initialLeaves {errCount wait : Int64} {fault : Fault} {done : Bool}
      (told : cancelled = true) :
      Turn resolver cancelled (.initialWait errCount wait fault) done none
        (.returned (some fault)) true
  | ticks {errCount : Int64} {round : Round} {done : Bool} :
      Turn resolver cancelled (.tick errCount) done none (.steady errCount round) done
  | tickLeaves {errCount : Int64} {done : Bool} (told : cancelled = true) :
      Turn resolver cancelled (.tick errCount) done none (.returned none) done
  | steadyGoes {errCount : Int64} {round later : Round} {done : Bool} :
      Turn resolver cancelled (.steady errCount round) done none (.steady errCount later) done
  | steadyOk {errCount : Int64} {round : Round} {done : Bool} :
      Turn resolver cancelled (.steady errCount round) done (some none)
        (State.enter resolver 0 none) done
  | steadyNotReady {errCount : Int64} {round : Round} {fault : Fault} {done : Bool}
      (transient : fault.notReady = true) :
      Turn resolver cancelled (.steady errCount round) done (some (some fault))
        (.backoff errCount sentinelNotReadyBackoff fault) done
  | steadyFails {errCount : Int64} {round : Round} {fault : Fault} {done : Bool}
      (counted : fault.notReady = false) :
      Turn resolver cancelled (.steady errCount round) done (some (some fault))
        (.backoff (errCount + 1) (resolveFailureBackoff (errCount + 1)) fault) done
  | backsOff {errCount wait : Int64} {fault : Fault} {done : Bool} :
      Turn resolver cancelled (.backoff errCount wait fault) done none
        (State.enter resolver errCount (some fault)) done
  | backoffLeaves {errCount wait : Int64} {fault : Fault} {done : Bool}
      (told : cancelled = true) :
      Turn resolver cancelled (.backoff errCount wait fault) done none (.returned none) done

section Turns

variable {resolver : RedisMasterResolver} {sorter : Sorter} {state next : State}

theorem loopDone_turn {round : Round} (outcome : Option Fault) (cancelled : Bool)
    (running : state.loop.round? = some round) :
    Turn resolver cancelled state.loop state.initialDone (some outcome)
      (state.loopDone resolver outcome).loop (state.loopDone resolver outcome).initialDone := by
  rcases Loop.running running with ⟨errCount, initial⟩ | ⟨errCount, steady⟩
  · cases outcome with
    | none =>
      simp only [State.loopDone, initial]
      exact .initialOk
    | some fault =>
      simp only [State.loopDone, initial]
      cases transient : fault.notReady with
      | true => exact .initialNotReady transient
      | false =>
        simp only [Bool.false_eq_true, if_false]
        split
        · rename_i spent
          exact .initialGivesUp transient spent
        · rename_i left
          exact .initialFails transient (not_lt.mp left)
  · cases outcome with
    | none =>
      simp only [State.loopDone, steady]
      exact .steadyOk
    | some fault =>
      simp only [State.loopDone, steady]
      cases transient : fault.notReady with
      | true => exact .steadyNotReady transient
      | false => exact .steadyFails transient

private theorem loopDone_cancelled (outcome : Option Fault) :
    (state.loopDone resolver outcome).cancelled = state.cancelled := by
  unfold State.loopDone
  split
  · rfl
  · split
    · rfl
    · split
      · rfl
      · rfl
  · rfl
  · split
    · rfl
    · rfl
  · rfl

private theorem resume_turn {round : Round} (later : Round) (cancelled : Bool)
    (running : state.loop.round? = some round) :
    Turn resolver cancelled state.loop state.initialDone none (state.loop.resume later)
      state.initialDone := by
  rcases Loop.running running with ⟨errCount, initial⟩ | ⟨errCount, steady⟩
  · rw [initial]
    exact .initialGoes
  · rw [steady]
    exact .steadyGoes

theorem work_turn {answer : Answer}
    (worked : state.work resolver sorter .loop answer = some next) :
    Turn resolver state.cancelled state.loop state.initialDone
      (state.outcome? resolver sorter (.work .loop answer)) next.loop next.initialDone ∧
      next.cancelled = state.cancelled := by
  unfold State.work at worked
  split at worked
  · cases worked
  · rename_i round running
    rw [State.active] at running
    split at worked
    · cases worked
    · rename_i progress store stepped
      simp only [State.outcome?, running, stepped]
      cases progress with
      | busy phase =>
        cases worked
        exact ⟨resume_turn _ _ running, rfl⟩
      | done outcome =>
        cases worked
        have turn := @loopDone_turn resolver { state with
          store, log := round.phase.events sorter round.id answer ++ state.log } round outcome
          state.cancelled running
        exact ⟨turn, loopDone_cancelled outcome⟩

private theorem timer_turn (fired : state.timer resolver = some next) :
    Turn resolver state.cancelled state.loop state.initialDone none next.loop next.initialDone ∧
      next.cancelled = state.cancelled := by
  unfold State.timer at fired
  split at fired
  case h_1 waits =>
    cases fired
    rw [waits]
    exact ⟨.initialRetries, rfl⟩
  case h_2 waits =>
    cases fired
    rw [waits]
    exact ⟨.ticks, rfl⟩
  case h_3 waits =>
    cases fired
    rw [waits]
    exact ⟨.backsOff, rfl⟩
  case h_4 => cases fired

private theorem leave_turn (left : state.leave = some next) :
    Turn resolver state.cancelled state.loop state.initialDone none next.loop next.initialDone ∧
      next.cancelled = state.cancelled := by
  unfold State.leave at left
  split at left
  · cases left
  · rename_i told
    replace told : state.cancelled = true := by simpa using told
    split at left
    case h_1 waits =>
      cases left
      rw [waits]
      exact ⟨.initialLeaves told, rfl⟩
    case h_2 waits =>
      cases left
      rw [waits]
      exact ⟨.tickLeaves told, rfl⟩
    case h_3 waits =>
      cases left
      rw [waits]
      exact ⟨.backoffLeaves told, rfl⟩
    case h_4 => cases left

/-- The steps of others leave the loop and the cancellation alone, which is itself one of
them. -/
theorem step_others {action : Action} (stepped : state.step resolver sorter action = some next)
    (other : action.ofLoop = false) :
    next.loop = state.loop ∧ next.initialDone = state.initialDone ∧
      (next.cancelled = state.cancelled ∨ action = .cancel) := by
  cases action with
  | timer => cases other
  | leave => cases other
  | cancel =>
    cases stepped
    exact ⟨rfl, rfl, .inr rfl⟩
  | work thread answer =>
    cases thread with
    | loop => cases other
    | caller id =>
      simp only [State.step, State.work] at stepped
      split at stepped
      · cases stepped
      · split at stepped
        · cases stepped
        · split at stepped
          · cases stepped
            exact ⟨rfl, rfl, .inl rfl⟩
          · cases stepped
            exact ⟨rfl, rfl, .inl rfl⟩
  | call id =>
    simp only [State.step, State.call] at stepped
    split at stepped
    · split at stepped
      · cases stepped
        exact ⟨rfl, rfl, .inl rfl⟩
      · cases stepped
        exact ⟨rfl, rfl, .inl rfl⟩
    · cases stepped
  | acquire id throttled =>
    simp only [State.step, State.acquire] at stepped
    split at stepped
    · split at stepped
      · cases stepped
        exact ⟨rfl, rfl, .inl rfl⟩
      · cases stepped
        exact ⟨rfl, rfl, .inl rfl⟩
    · cases stepped
  | readMaster =>
    simp only [State.step] at stepped
    split at stepped
    · cases stepped
      exact ⟨rfl, rfl, .inl rfl⟩
    · cases stepped
  | readReplica =>
    simp only [State.step] at stepped
    split at stepped
    · cases stepped
      exact ⟨rfl, rfl, .inl rfl⟩
    · cases stepped

private theorem outcome?_others {action : Action} (other : action.ofLoop = false) :
    state.outcome? resolver sorter action = none := by
  cases action with
  | work thread answer =>
    cases thread with
    | loop => cases other
    | caller id => rfl
  | _ => rfl

/-- Every step is a turn of the loop, and none but the cancellation cancels. -/
theorem step_turn {action : Action} (stepped : state.step resolver sorter action = some next) :
    Turn resolver state.cancelled state.loop state.initialDone
      (state.outcome? resolver sorter action) next.loop next.initialDone ∧
      (next.cancelled = state.cancelled ∨ action = .cancel) := by
  cases own : action.ofLoop with
  | false =>
    obtain ⟨loop, initial, cancelled⟩ := step_others stepped own
    rw [outcome?_others own, loop, initial]
    exact ⟨.same, cancelled⟩
  | true =>
    cases action with
    | work thread answer =>
      cases thread with
      | caller id => cases own
      | loop =>
        obtain ⟨turn, cancelled⟩ := work_turn stepped
        exact ⟨turn, .inl cancelled⟩
    | timer =>
      obtain ⟨turn, cancelled⟩ := timer_turn stepped
      exact ⟨turn, .inl cancelled⟩
    | leave =>
      obtain ⟨turn, cancelled⟩ := leave_turn stepped
      exact ⟨turn, .inl cancelled⟩
    | _ => cases own

theorem Turn.returned {cancelled done after : Bool} {outcome : Option Fault}
    {outcome? : Option (Option Fault)} {last : Loop}
    (turn : Turn resolver cancelled (.returned outcome) done outcome? last after) :
    last = .returned outcome := by
  cases turn
  rfl

theorem uncancelled_before {action : Action}
    (stepped : state.step resolver sorter action = some next)
    (uncancelled : next.cancelled = false) : state.cancelled = false := by
  rcases (step_turn stepped).2 with same | rfl
  · rw [← same, uncancelled]
  · cases stepped
    cases uncancelled

end Turns

end SentinelProxy.Resolver
