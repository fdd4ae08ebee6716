import SentinelProxy.Resolver.Budget
import SentinelProxy.Transition.Machine

/-! How the update loop returns: quietly when it was told to stop while it had retries left,
with an error when it gives up, and where the two get mixed up. -/

namespace SentinelProxy.Resolver

open Transition

/-- The loop waits between two rounds that follow the initial resolve. -/
def Loop.between : Loop → Bool
  | .tick _ => true
  | .backoff _ _ _ => true
  | _ => false

/-- The points where the loop returns, with what it returns there. -/
inductive Stops (resolver : RedisMasterResolver) (sorter : Sorter) (state : State) :
    Action → Option Fault → Prop where
  | unasked {answer : Answer}
      (succeeded : state.outcome? resolver sorter (.work .loop answer) = some none)
      (negative : resolver.retryOnMasterResolveFail < 0) :
      Stops resolver sorter state (.work .loop answer) none
  | gaveUp {answer : Answer} {errCount : Int64} {round : Round} {fault : Fault}
      (initial : state.loop = .initial errCount round)
      (failed : state.outcome? resolver sorter (.work .loop answer) = some (some fault))
      (counted : fault.notReady = false)
      (spent : resolver.retryOnMasterResolveFail < (errCount + 1).toInt) :
      Stops resolver sorter state (.work .loop answer) (some fault)
  | abandoned {errCount wait : Int64} {fault : Fault} (told : state.cancelled = true)
      (waits : state.loop = .initialWait errCount wait fault) :
      Stops resolver sorter state .leave (some fault)
  | left (told : state.cancelled = true) (waits : state.loop.between = true) :
      Stops resolver sorter state .leave none
  | exhausted {errCount wait : Int64} {fault : Fault}
      (waits : state.loop = .backoff errCount wait fault)
      (spent : resolver.retryOnMasterResolveFail < errCount.toInt) :
      Stops resolver sorter state .timer (some fault)

def Loop.stopped : Loop → Bool
  | .returned _ => true
  | _ => false

def Loop.errCount : Loop → Int64
  | .initial errCount _ => errCount
  | .initialWait errCount _ _ => errCount
  | .tick errCount => errCount
  | .steady errCount _ => errCount
  | .backoff errCount _ _ => errCount
  | .returned _ => 0

/-- A round's outcome is the counted failure that takes the count past the limit. -/
def Loop.exhausts (limit : Int) (loop : Loop) : Option (Option Fault) → Bool
  | some (some fault) => !fault.notReady && decide (limit < (loop.errCount + 1).toInt)
  | _ => false

/-- The resolver together with two things its past decides: whether the retry budget has been
exhausted, and whether the context was cancelled before that. -/
structure Watched where
  state : State
  spent : Bool
  told : Bool

/-- A step of the resolver, with the record kept up to date until the loop returns. -/
def Watched.step (resolver : RedisMasterResolver) (sorter : Sorter) (watched : Watched)
    (action : Action) : Option Watched :=
  (watched.state.step resolver sorter action).map fun next =>
    { state := next
      spent := watched.spent || watched.state.loop.exhausts resolver.retryOnMasterResolveFail
        (watched.state.outcome? resolver sorter action)
      told := if watched.spent || watched.state.loop.stopped then watched.told
        else next.cancelled }

def watch (resolver : RedisMasterResolver) (sorter : Sorter) : Machine Watched Action where
  start := ⟨State.init, false, false⟩
  step := Watched.step resolver sorter

/-- The steps where the loop stops quietly without having been told to in time, or with an
error although it was. -/
inductive Mismatch (resolver : RedisMasterResolver) (sorter : Sorter) (watched : Watched) :
    Action → Prop where
  | unasked {answer : Answer} (untold : watched.state.cancelled = false)
      (negative : resolver.retryOnMasterResolveFail < 0)
      (succeeded : watched.state.outcome? resolver sorter (.work .loop answer) = some none) :
      Mismatch resolver sorter watched (.work .loop answer)
  | gaveUp {answer : Answer} {errCount : Int64} {round : Round} {fault : Fault}
      (told : watched.state.cancelled = true)
      (initial : watched.state.loop = .initial errCount round)
      (spent : resolver.retryOnMasterResolveFail < (errCount + 1).toInt)
      (failed : watched.state.outcome? resolver sorter (.work .loop answer) = some (some fault))
      (counted : fault.notReady = false) : Mismatch resolver sorter watched (.work .loop answer)
  | abandoned {errCount wait : Int64} {fault : Fault} (told : watched.state.cancelled = true)
      (waits : watched.state.loop = .initialWait errCount wait fault) :
      Mismatch resolver sorter watched .leave
  | exhausted {errCount wait : Int64} {fault : Fault} (told : watched.told = true)
      (waits : watched.state.loop = .backoff errCount wait fault)
      (spent : resolver.retryOnMasterResolveFail < errCount.toInt) :
      Mismatch resolver sorter watched .timer
  | toldLate {errCount wait : Int64} {fault : Fault} (late : watched.told = false)
      (cancelled : watched.state.cancelled = true)
      (waits : watched.state.loop = .backoff errCount wait fault)
      (spent : resolver.retryOnMasterResolveFail < errCount.toInt) :
      Mismatch resolver sorter watched .leave

section Returns

variable {resolver : RedisMasterResolver} {sorter : Sorter} {state next : State}
  {action : Action} {outcome : Option Fault}

private theorem enter_returned {errCount : Int64} {last : Option Fault}
    (stops : State.enter resolver errCount last = .returned outcome) :
    resolver.retryOnMasterResolveFail < errCount.toInt ∧ outcome = last := by
  unfold State.enter at stops
  split at stops
  · cases stops
  · rename_i spent
    cases stops
    exact ⟨not_le.mp spent, rfl⟩

private theorem enter_negative (negative : resolver.retryOnMasterResolveFail < 0)
    (last : Option Fault) :
    State.enter resolver 0 last = .returned last :=
  if_neg (not_le.mpr negative)

private theorem work_running {answer : Answer}
    (worked : state.work resolver sorter .loop answer = some next) :
    ∃ round, state.loop.round? = some round := by
  unfold State.work at worked
  split at worked
  · cases worked
  · rename_i round running
    exact ⟨round, running⟩

theorem work_stops {answer : Answer}
    (worked : state.work resolver sorter .loop answer = some next)
    (stops : next.loop = .returned outcome) :
    Stops resolver sorter state (.work .loop answer) outcome := by
  obtain ⟨round, running⟩ := work_running worked
  obtain ⟨turn, _⟩ := work_turn worked
  generalize ended : state.outcome? resolver sorter (.work .loop answer) = outcome? at turn
  generalize before : state.loop = loop at turn running
  generalize next.loop = final, state.initialDone = done, next.initialDone = after at turn stops
  cases turn with
  | same =>
    rw [stops] at running
    cases running
  | initialOk =>
    obtain ⟨negative, rfl⟩ := enter_returned stops
    exact .unasked ended negative
  | steadyOk =>
    obtain ⟨negative, rfl⟩ := enter_returned stops
    exact .unasked ended negative
  | initialGivesUp counted spent =>
    cases stops
    exact .gaveUp before ended counted spent
  | initialGoes => cases stops
  | initialNotReady => cases stops
  | initialFails => cases stops
  | steadyGoes => cases stops
  | steadyNotReady => cases stops
  | steadyFails => cases stops
  | _ => cases running

private theorem timer_stops (fired : state.timer resolver = some next)
    (stops : next.loop = .returned outcome) : Stops resolver sorter state .timer outcome := by
  unfold State.timer at fired
  split at fired
  case h_1 waits =>
    cases fired
    cases stops
  case h_2 waits =>
    cases fired
    cases stops
  case h_3 waits =>
    cases fired
    obtain ⟨spent, rfl⟩ := enter_returned stops
    exact .exhausted waits spent
  case h_4 => cases fired

private theorem leave_stops (left : state.leave = some next)
    (stops : next.loop = .returned outcome) :
    Stops resolver sorter state .leave outcome := by
  unfold State.leave at left
  split at left
  · cases left
  · rename_i told
    replace told : state.cancelled = true := by simpa using told
    split at left
    case h_1 waits =>
      cases left
      cases stops
      exact .abandoned told waits
    case h_2 waits =>
      cases left
      cases stops
      exact .left told (by rw [waits]; rfl)
    case h_3 waits =>
      cases left
      cases stops
      exact .left told (by rw [waits]; rfl)
    case h_4 => cases left

theorem stops_of_returned (stepped : state.step resolver sorter action = some next)
    (running : state.loop.stopped = false)
    (stops : next.loop = .returned outcome) : Stops resolver sorter state action outcome := by
  cases own : action.ofLoop with
  | false =>
    rw [← (step_others stepped own).1, stops] at running
    cases running
  | true =>
    cases action with
    | work thread answer =>
      cases thread with
      | loop => exact work_stops stepped stops
      | caller id => cases own
    | timer => exact timer_stops stepped stops
    | leave => exact leave_stops stepped stops
    | _ => cases own

theorem Loop.stopped_iff {loop : Loop} :
    loop.stopped = true ↔ ∃ outcome, loop = .returned outcome := by
  cases loop <;> simp [Loop.stopped]

theorem between_spent {loop : Loop} {limit : Int} (waits : loop.between = true)
    (spent : loop.Spent limit) : ∃ errCount wait fault, loop = .backoff errCount wait fault := by
  cases loop with
  | backoff errCount wait fault => exact ⟨errCount, wait, fault, rfl⟩
  | tick => exact spent.elim
  | _ => cases waits

private theorem returned_of_stops (stepped : state.step resolver sorter action = some next)
    (stops : Stops resolver sorter state action outcome) : next.loop = .returned outcome := by
  obtain ⟨turn, _⟩ := step_turn stepped
  cases stops with
  | unasked succeeded negative =>
    rw [succeeded] at turn
    generalize state.loop = loop, state.initialDone = done, next.loop = final,
      next.initialDone = after at turn
    cases turn with
    | initialOk => exact enter_negative negative none
    | steadyOk => exact enter_negative negative none
  | gaveUp initial failed counted spent =>
    rw [failed, initial] at turn
    generalize state.initialDone = done, next.loop = final, next.initialDone = after at turn
    cases turn with
    | initialNotReady transient =>
      rw [counted] at transient
      cases transient
    | initialGivesUp => rfl
    | initialFails _ left => exact absurd spent (not_lt.mpr left)
  | abandoned told waits =>
    simp only [State.step, State.leave, told, waits] at stepped
    cases stepped
    rfl
  | left told waits =>
    simp only [State.step, State.leave, told] at stepped
    cases loop : state.loop with
    | tick errCount =>
      rw [loop] at stepped
      cases stepped
      rfl
    | backoff errCount wait fault =>
      rw [loop] at stepped
      cases stepped
      rfl
    | _ =>
      rw [loop] at waits
      cases waits
  | exhausted waits spent =>
    simp only [State.step, State.timer, waits] at stepped
    cases stepped
    exact if_neg (not_le.mpr spent)

end Returns

/-- A round of the steady state starts within the budget only. -/
def Loop.Within (limit : Int) : Loop → Prop
  | .tick errCount => errCount.toInt ≤ limit
  | .steady errCount _ => errCount.toInt ≤ limit
  | _ => True

/-- What the record says about a loop that runs. -/
structure Watched.Kept (limit : Int) (watched : Watched) : Prop where
  within : watched.state.loop.Within limit
  spent : watched.state.loop.stopped = false →
    (watched.spent = true ↔ watched.state.loop.Spent limit)
  told : watched.state.loop.stopped = false → watched.spent = false →
    watched.told = watched.state.cancelled
  cancelled : watched.told = true → watched.state.cancelled = true

section Record

variable {resolver : RedisMasterResolver} {sorter : Sorter} {watched next : Watched}
  {action : Action}

private theorem enter_within (errCount : Int64) (last : Option Fault) :
    (State.enter resolver errCount last).Within resolver.retryOnMasterResolveFail := by
  unfold State.enter
  split
  · assumption
  · trivial

private theorem enter_unspent {errCount : Int64} {last : Option Fault}
    (runs : (State.enter resolver errCount last).stopped = false) :
    errCount.toInt ≤ resolver.retryOnMasterResolveFail ∧
      ¬(State.enter resolver errCount last).Spent resolver.retryOnMasterResolveFail := by
  unfold State.enter at runs ⊢
  split at runs
  · rename_i left
    rw [if_pos left]
    exact ⟨left, id⟩
  · cases runs

theorem Turn.within {loop next : Loop} {cancelled done over? : Bool}
    {outcome? : Option (Option Fault)}
    (turn : Turn resolver cancelled loop done outcome? next over?)
    (within : loop.Within resolver.retryOnMasterResolveFail) :
    next.Within resolver.retryOnMasterResolveFail := by
  cases turn with
  | same => exact within
  | ticks => exact within
  | steadyGoes => exact within
  | initialOk => exact enter_within 0 none
  | steadyOk => exact enter_within 0 none
  | backsOff => exact enter_within _ _
  | _ => trivial

/-- A loop that runs on is past its budget if it was, or if the turn exhausts it. -/
theorem Turn.spent {loop next : Loop} {cancelled done over? : Bool}
    {outcome? : Option (Option Fault)}
    (turn : Turn resolver cancelled loop done outcome? next over?)
    (within : loop.Within resolver.retryOnMasterResolveFail) (runs : next.stopped = false) :
    next.Spent resolver.retryOnMasterResolveFail ↔
      loop.Spent resolver.retryOnMasterResolveFail ∨
        loop.exhausts resolver.retryOnMasterResolveFail outcome? = true := by
  cases turn with
  | same => simp [Loop.exhausts]
  | initialOk => exact iff_of_false (enter_unspent runs).2 (by simp [Loop.Spent, Loop.exhausts])
  | steadyOk => exact iff_of_false (enter_unspent runs).2 (by simp [Loop.Spent, Loop.exhausts])
  | initialNotReady transient => simp [Loop.Spent, Loop.exhausts, transient]
  | initialFails counted left =>
    simp only [Loop.Spent, Loop.exhausts, Loop.errCount, not_lt.mpr left]
    simp
  | steadyNotReady transient =>
    have left : ¬resolver.retryOnMasterResolveFail < Int64.toInt _ := not_lt.mpr within
    simp [Loop.Spent, Loop.exhausts, transient, left]
  | steadyFails counted => simp [Loop.Spent, Loop.exhausts, Loop.errCount, counted]
  | backsOff =>
    obtain ⟨left, unspent⟩ := enter_unspent runs
    exact iff_of_false unspent (by simp [Loop.Spent, Loop.exhausts, left])
  | initialGivesUp => cases runs
  | initialLeaves => cases runs
  | tickLeaves => cases runs
  | backoffLeaves => cases runs
  | _ => simp [Loop.Spent, Loop.exhausts]

theorem Turn.ran {loop next : Loop} {cancelled done over? : Bool}
    {outcome? : Option (Option Fault)}
    (turn : Turn resolver cancelled loop done outcome? next over?)
    (runs : next.stopped = false) : loop.stopped = false := by
  cases loop with
  | returned outcome =>
    rw [turn.returned] at runs
    cases runs
  | _ => rfl

theorem cancelled_after {state next : State}
    (stepped : state.step resolver sorter action = some next)
    (cancelled : state.cancelled = true) : next.cancelled = true := by
  by_contra uncancelled
  rw [uncancelled_before stepped (by simpa using uncancelled)] at cancelled
  cases cancelled

theorem Watched.Kept.step (kept : watched.Kept resolver.retryOnMasterResolveFail)
    (stepped : watched.step resolver sorter action = some next) :
    next.Kept resolver.retryOnMasterResolveFail := by
  obtain ⟨after, moved, rfl⟩ := Option.map_eq_some_iff.mp stepped
  obtain ⟨turn, _⟩ := step_turn moved
  refine ⟨turn.within kept.within, ?_, ?_, ?_⟩
  · intro runs
    dsimp only
    rw [turn.spent kept.within runs, Bool.or_eq_true, kept.spent (turn.ran runs)]
  · intro runs unspent
    obtain ⟨before, _⟩ := Bool.or_eq_false_iff.mp unspent
    simp [before, turn.ran runs]
  · intro told
    dsimp only at told ⊢
    split at told
    · exact cancelled_after moved (kept.cancelled told)
    · exact told

private theorem watched_kept {allowed : Watched → Action → Prop}
    (reached : (watch resolver sorter).Reaches allowed watched) :
    watched.Kept resolver.retryOnMasterResolveFail :=
  reached.invariant ⟨trivial, by simp [watch, State.init, Loop.Spent], fun _ _ => rfl, nofun⟩
    fun _ _ _ _ kept _ stepped => kept.step stepped

theorem told_unspent (kept : watched.Kept resolver.retryOnMasterResolveFail)
    (stepped : watched.step resolver sorter action = some next)
    (running : watched.state.loop.stopped = false)
    (unspent : ¬watched.state.loop.Spent resolver.retryOnMasterResolveFail) :
    next.told = next.state.cancelled := by
  obtain ⟨after, moved, rfl⟩ := Option.map_eq_some_iff.mp stepped
  have left : watched.spent = false := by
    rwa [← kept.spent running, Bool.not_eq_true] at unspent
  simp [left, running]

theorem told_spent (kept : watched.Kept resolver.retryOnMasterResolveFail)
    (stepped : watched.step resolver sorter action = some next)
    (running : watched.state.loop.stopped = false)
    (spent : watched.state.loop.Spent resolver.retryOnMasterResolveFail) :
    next.told = watched.told := by
  obtain ⟨after, moved, rfl⟩ := Option.map_eq_some_iff.mp stepped
  simp [(kept.spent running).mpr spent]

private theorem cancelled_kept {state next : State}
    (stepped : state.step resolver sorter action = some next)
    (own : action.ofLoop = true) : next.cancelled = state.cancelled := by
  rcases (step_turn stepped).2 with same | rfl
  · exact same
  · cases own

private theorem outcome_unspent {outcome : Option Fault} {limit : Int}
    (ended : watched.state.outcome? resolver sorter action = some outcome) :
    ¬watched.state.loop.Spent limit := by
  intro spent
  unfold State.outcome? at ended
  split at ended
  · rw [spent.idle] at ended
    cases ended
  · cases ended

/-- The outcome fits the record at every return but those. -/
theorem mismatch_iff (kept : watched.Kept resolver.retryOnMasterResolveFail)
    (running : watched.state.loop.stopped = false)
    (stepped : watched.step resolver sorter action = some next) :
    (∀ outcome, next.state.loop = .returned outcome → (outcome = none ↔ next.told = true)) ↔
      ¬Mismatch resolver sorter watched action := by
  obtain ⟨after, moved, same⟩ := Option.map_eq_some_iff.mp stepped
  have state : next.state = after := by rw [← same]
  rw [state]
  -- Before the budget is exhausted the record is the cancellation the step finds.
  have found (own : action.ofLoop = true)
      (unspent : ¬watched.state.loop.Spent resolver.retryOnMasterResolveFail) :
      next.told = watched.state.cancelled := by
    rw [told_unspent kept stepped running unspent, state, cancelled_kept moved own]
  have recorded {errCount wait : Int64} {fault : Fault}
      (waits : watched.state.loop = .backoff errCount wait fault)
      (spent : resolver.retryOnMasterResolveFail < errCount.toInt) :
      next.told = watched.told :=
    told_spent kept stepped running (by rw [waits]; exact spent)
  constructor
  · intro fits mismatch
    cases mismatch with
    | unasked untold negative succeeded =>
      have told := (fits none (returned_of_stops moved (.unasked succeeded negative))).mp rfl
      rw [found rfl (outcome_unspent succeeded), untold] at told
      cases told
    | gaveUp told initial spent failed counted =>
      have quiet := (fits _ (returned_of_stops moved (.gaveUp initial failed counted spent))).mpr
        ((found rfl (outcome_unspent failed)).trans told)
      cases quiet
    | abandoned told waits =>
      have quiet := (fits _ (returned_of_stops moved (.abandoned told waits))).mpr
        ((found rfl (by rw [waits]; exact id)).trans told)
      cases quiet
    | exhausted told waits spent =>
      have quiet := (fits _ (returned_of_stops moved (.exhausted waits spent))).mpr
        ((recorded waits spent).trans told)
      cases quiet
    | toldLate late cancelled waits spent =>
      have told := (fits _ (returned_of_stops moved (.left cancelled (by rw [waits]; rfl)))).mp rfl
      rw [recorded waits spent, late] at told
      cases told
  · intro matched outcome stops
    cases stops_of_returned moved running stops with
    | unasked succeeded negative =>
      refine iff_of_true rfl ?_
      rw [found rfl (outcome_unspent succeeded)]
      by_contra untold
      exact matched (.unasked (by simpa using untold) negative succeeded)
    | gaveUp initial failed counted spent =>
      refine iff_of_false (by simp) ?_
      rw [found rfl (outcome_unspent failed)]
      exact fun told => matched (.gaveUp told initial spent failed counted)
    | abandoned told waits => exact absurd (.abandoned told waits) matched
    | left cancelled waits =>
      refine iff_of_true rfl ?_
      by_cases spent : watched.state.loop.Spent resolver.retryOnMasterResolveFail
      · obtain ⟨errCount, wait, fault, backoff⟩ := between_spent waits spent
        rw [backoff] at spent
        rw [recorded backoff spent]
        by_contra late
        exact matched (.toldLate (by simpa using late) cancelled backoff spent)
      · rw [found rfl spent]
        exact cancelled
    | exhausted waits spent =>
      refine iff_of_false (by simp) ?_
      rw [recorded waits spent]
      exact fun told => matched (.exhausted told waits spent)

/-- As long as the loop runs, nothing has been mixed up. -/
theorem matched_of_running (reached : (watch resolver sorter).Reaches (fun _ _ => True) watched)
    (running : watched.state.loop.stopped = false) :
    (watch resolver sorter).Reaches
      (fun watched action => ¬Mismatch resolver sorter watched action) watched := by
  induction reached with
  | start => exact .start
  | step earlier _ stepped ih =>
    obtain ⟨after, moved, rfl⟩ := Option.map_eq_some_iff.mp stepped
    have before := (step_turn moved).1.ran running
    refine .step (ih before) ((mismatch_iff (watched_kept earlier) before stepped).mp ?_) stepped
    intro outcome stops
    dsimp only at running stops
    rw [stops] at running
    cases running

/-- Without a mismatch, a loop that has returned did so as the record says. -/
theorem returned_as_told
    (reached : (watch resolver sorter).Reaches
      (fun watched action => ¬Mismatch resolver sorter watched action) watched)
    (outcome : Option Fault) (stopped : watched.state.loop = .returned outcome) :
    outcome = none ↔ watched.told = true := by
  induction reached with
  | start => cases stopped
  | @step before next action earlier matched stepped ih =>
    cases running : before.state.loop.stopped with
    | false =>
      exact (mismatch_iff (watched_kept earlier) running stepped).mpr matched outcome stopped
    | true =>
      obtain ⟨after, moved, rfl⟩ := Option.map_eq_some_iff.mp stepped
      obtain ⟨turn, _⟩ := step_turn moved
      obtain ⟨last, returned⟩ := Loop.stopped_iff.mp running
      rw [returned] at turn
      cases turn.returned.symm.trans stopped
      simpa [running] using ih returned

end Record

section Runs

variable {resolver : RedisMasterResolver} {sorter : Sorter} {state : State}

/-- A loop that has not stopped quietly goes on with time alone, if only to its error. -/
theorem goes_on (running : state.loop ≠ .returned none) :
    ∃ next, State.Leads resolver sorter (fun _ action => action = .timer) state next ∧
      (next.loop.round?.isSome ∨ ∃ fault, next.loop = .returned (some fault)) := by
  cases loop : state.loop with
  | initial errCount round => exact ⟨state, .refl, .inl (by rw [loop]; rfl)⟩
  | steady errCount round => exact ⟨state, .refl, .inl (by rw [loop]; rfl)⟩
  | initialWait errCount wait fault =>
    obtain ⟨next, leads, attempt⟩ := retried loop
    exact ⟨next, leads, .inl attempt⟩
  | tick errCount =>
    obtain ⟨next, leads, attempt⟩ := ticked loop
    exact ⟨next, leads, .inl attempt⟩
  | backoff errCount wait fault =>
    by_cases left : errCount.toInt ≤ resolver.retryOnMasterResolveFail
    · obtain ⟨next, leads, attempt⟩ := tickedAgain loop left
      exact ⟨next, leads, .inl attempt⟩
    · exact ⟨_, backedOff loop, .inr ⟨fault, if_neg left⟩⟩
  | returned outcome =>
    cases outcome with
    | none => exact absurd loop running
    | some fault => exact ⟨state, .refl, .inr ⟨fault, loop⟩⟩

theorem leaves (cancelled : state.cancelled = true) (waits : state.loop.between = true) :
    ∃ next, state.step resolver sorter .leave = some next := by
  cases loop : state.loop with
  | tick errCount => exact ⟨_, by simp [State.step, State.leave, cancelled, loop]; rfl⟩
  | backoff errCount wait fault =>
    exact ⟨_, by simp [State.step, State.leave, cancelled, loop]; rfl⟩
  | _ =>
    rw [loop] at waits
    cases waits

/-- Which steps make the loop's result disagree with whether it was told to stop before its
retry budget was exhausted. Without them the two agree along every run: a loop that nobody
has cancelled tries again or fails, and one that was told in time can leave quietly wherever
it waits between rounds. -/
theorem stops_as_told (resolver : RedisMasterResolver) (sorter : Sorter) :
    (∀ watched, (watch resolver sorter).Reaches (fun _ _ => True) watched →
      watched.state.loop.stopped = false →
      ∀ action next, watched.step resolver sorter action = some next →
        ((∀ outcome, next.state.loop = .returned outcome →
            (outcome = none ↔ next.told = true)) ↔
          ¬Mismatch resolver sorter watched action)) ∧
    ∀ watched, (watch resolver sorter).Reaches
        (fun watched action => ¬Mismatch resolver sorter watched action) watched →
      (∀ outcome, watched.state.loop = .returned outcome →
        (outcome = none ↔ watched.told = true)) ∧
      (watched.state.cancelled = false →
        ∃ next, State.Leads resolver sorter (fun _ action => action = .timer) watched.state next ∧
          (next.loop.round?.isSome ∨ ∃ fault, next.loop = .returned (some fault))) ∧
      (watched.told = true → watched.state.loop.between = true →
        ¬Mismatch resolver sorter watched .leave ∧
          ∃ next, watched.step resolver sorter .leave = some next ∧
            next.state.loop = .returned none) := by
  refine ⟨fun _ reached running _ _ => mismatch_iff (watched_kept reached) running, ?_⟩
  intro watched reached
  have kept := watched_kept reached
  refine ⟨returned_as_told reached, ?_, ?_⟩
  · intro uncancelled
    refine goes_on ?_
    intro quiet
    rw [kept.cancelled ((returned_as_told reached none quiet).mp rfl)] at uncancelled
    cases uncancelled
  · intro told waits
    refine ⟨?_, ?_⟩
    · intro mismatch
      cases mismatch with
      | abandoned _ early =>
        rw [early] at waits
        cases waits
      | toldLate late =>
        rw [told] at late
        cases late
    · obtain ⟨next, moved⟩ := leaves (kept.cancelled told) waits
      refine ⟨_, by rw [Watched.step, moved]; rfl, ?_⟩
      exact returned_of_stops moved (.left (kept.cancelled told) waits)

end Runs

section Scenarios

def strict : RedisMasterResolver :=
  { tracker with retryOnMasterResolveFail := 0, trackReplicas := false }

def resolved : List Action :=
  masterSteps .loop (nodes [("10.0.0.1:6379", "master")]) "10.0.0.1"

/-- The cancellation reaches a loop that waits for its ticker. -/
def signalledState : Watched :=
  ((watch strict insertionSorter).after (resolved ++ [.cancel])).get (by decide +kernel)

def unresolvedState : Watched :=
  ((watch tracker insertionSorter).after [.work .loop (.master .nil)]).get (by decide +kernel)

theorem stops_as_told_signalledState :
    unresolvedState.state.loop = .initialWait 1 1000000000 .unknownMaster ∧
      (∃ next, State.Leads tracker insertionSorter (fun _ action => action = .timer)
          unresolvedState.state next ∧
        (next.loop.round?.isSome ∨ ∃ fault, next.loop = .returned (some fault))) ∧
      signalledState.state.store.masterAddr = "10.0.0.1:6379" ∧
      ¬Mismatch strict insertionSorter signalledState .leave ∧
      ∃ next, signalledState.step strict insertionSorter .leave = some next ∧
        next.state.loop = .returned none := by
  have failed : (watch tracker insertionSorter).Reaches (fun _ _ => True) unresolvedState :=
    Machine.Reaches.after (Option.some_get _).symm
  have told : (watch strict insertionSorter).Reaches (fun _ _ => True) signalledState :=
    Machine.Reaches.after (Option.some_get _).symm
  obtain ⟨_, goesOn, _⟩ := (stops_as_told tracker insertionSorter).2 _
    (matched_of_running failed (by decide +kernel))
  obtain ⟨_, _, leaves⟩ := (stops_as_told strict insertionSorter).2 _
    (matched_of_running told (by decide +kernel))
  exact ⟨by decide +kernel, goesOn (by decide +kernel), by decide +kernel,
    leaves (by decide +kernel) (by decide +kernel)⟩

def hasty : RedisMasterResolver := { strict with retryOnMasterResolveFail := -1 }

/-- Its initial resolve has succeeded. -/
def silentState : Watched :=
  ((watch hasty insertionSorter).after resolved).get (by decide +kernel)

/-- A shutdown during the initial resolve. -/
def interruptedState : Watched :=
  ((watch tracker insertionSorter).after [.work .loop (.master .nil), .cancel, .leave]).get
    (by decide +kernel)

/-- A shutdown during the pause after the failure that exhausted the budget. -/
def excusedState : Watched :=
  ((watch strict insertionSorter).after
    (resolved ++ [.timer, .work .loop (.master .nil), .cancel, .leave])).get (by decide +kernel)

/-- A negative limit stops the loop silently, with a master it will never look at again; a
shutdown during the initial resolve is reported as a failure; a shutdown after the last
retry hides one. -/
theorem silentState_interruptedState :
    (watch hasty insertionSorter).Reaches (fun _ _ => True) silentState ∧
      silentState.told = false ∧ silentState.state.cancelled = false ∧
      silentState.state.loop = .returned none ∧
      silentState.state.store.masterAddr = "10.0.0.1:6379" ∧
      (watch tracker insertionSorter).Reaches (fun _ _ => True) interruptedState ∧
      interruptedState.told = true ∧ interruptedState.spent = false ∧
      interruptedState.state.loop = .returned (some .unknownMaster) ∧
      (watch strict insertionSorter).Reaches (fun _ _ => True) excusedState ∧
      excusedState.told = false ∧ excusedState.spent = true ∧
      excusedState.state.loop = .returned none :=
  ⟨Machine.Reaches.after (Option.some_get _).symm, by decide +kernel, by decide +kernel,
    by decide +kernel, by decide +kernel,
    Machine.Reaches.after (Option.some_get _).symm, by decide +kernel, by decide +kernel,
    by decide +kernel,
    Machine.Reaches.after (Option.some_get _).symm, by decide +kernel, by decide +kernel,
    by decide +kernel⟩

end Scenarios

end SentinelProxy.Resolver
