import SentinelProxy.Process.Lifecycle
import SentinelProxy.Resolver.Progress
import SentinelProxy.Transition.Driven

/-! The process comes down: once it has been signalled, or one of its tasks has failed, it
exits, whatever its sessions and their peers do meanwhile. -/

namespace SentinelProxy

open SentinelProxy.Transition

namespace Resolver

/-- How far the loop is from its return if it starts no further round. -/
def Loop.rank : Loop → Nat ×ₗ Nat
  | .initial _ round => round.phase.rank
  | .steady _ round => round.phase.rank
  | .returned _ => toLex (0, 0)
  | _ => toLex (0, 1)

variable {resolver : RedisMasterResolver} {sorter : Sorter} {state next : State}

theorem Loop.returned_lt_pause (outcome : Option Fault) :
    (Loop.returned outcome).rank < toLex (0, 1) := by
  simp [rank, Prod.Lex.toLex_lt_toLex]

theorem Phase.pause_lt_rank (phase : Phase) : toLex (0, 1) < phase.rank := by
  cases phase <;> simp [rank, Prod.Lex.toLex_lt_toLex]

theorem Loop.rank_round {loop : Loop} {round : Round} (runs : loop.round? = some round) :
    loop.rank = round.phase.rank := by
  cases loop <;> cases runs <;> rfl

theorem Loop.rank_resume {loop : Loop} {round : Round} (runs : loop.round? = some round)
    (later : Round) : (loop.resume later).rank = later.phase.rank := by
  cases loop <;> cases runs <;> rfl

private theorem enter_rank_le (errCount : Int64) (last : Option Fault) :
    (State.enter resolver errCount last).rank ≤ toLex (0, 1) := by
  unfold State.enter
  split
  · exact le_rfl
  · exact (Loop.returned_lt_pause last).le

theorem Turn.rank_le {cancelled done after : Bool} {loop next : Loop} {outcome : Option Fault}
    (turn : Turn resolver cancelled loop done (some outcome) next after) :
    next.rank ≤ toLex (0, 1) := by
  cases turn with
  | initialOk => exact enter_rank_le _ _
  | steadyOk => exact enter_rank_le _ _
  | initialGivesUp => exact (Loop.returned_lt_pause _).le
  | _ => exact le_rfl

/-- The loop's round goes on towards its end. -/
theorem work_rank_lt {answer : Answer}
    (worked : state.work resolver sorter .loop answer = some next) :
    next.loop.rank < state.loop.rank := by
  unfold State.work at worked
  split at worked
  · cases worked
  · rename_i round runs
    change state.loop.round? = some round at runs
    rw [Loop.rank_round runs]
    split at worked
    · cases worked
    · rename_i progress store stepped
      cases progress with
      | busy phase =>
        cases worked
        simp only [State.resume, Loop.rank_resume runs]
        exact (Phase.step_moves stepped).rank_lt
      | done outcome =>
        cases worked
        simp only [State.finish]
        have turn := @loopDone_turn resolver
          { state with store, log := round.phase.events sorter round.id answer ++ state.log } round
          outcome state.cancelled runs
        exact turn.rank_le.trans_lt round.phase.pause_lt_rank

private theorem leave_rank_lt (left : state.leave = some next) :
    next.loop.rank < state.loop.rank := by
  unfold State.leave at left
  split at left
  · cases left
  · split at left
    · rename_i stands
      cases left
      rw [stands]
      exact Loop.returned_lt_pause _
    · rename_i stands
      cases left
      rw [stands]
      exact Loop.returned_lt_pause _
    · rename_i stands
      cases left
      rw [stands]
      exact Loop.returned_lt_pause _
    · cases left

/-- A round waits for some answer. -/
theorem Phase.exists_suits (phase : Phase) : ∃ answer, phase.Suits answer := by
  cases phase with
  | query => exact ⟨.master .nil, trivial⟩
  | probe host port => exact ⟨.network (nodes []), trivial⟩
  | storeMaster addr name => exact ⟨.quiet, trivial⟩
  | listReplicas => exact ⟨.replicas none, trivial⟩
  | examine found rest =>
    cases rest with
    | nil => exact ⟨.quiet, trivial⟩
    | cons fields rest => exact ⟨.network (nodes []), trivial⟩
  | storeReplicas addrs names => exact ⟨.quiet, trivial⟩

/-- A loop that has been told to stop goes on with its round or leaves. -/
theorem loop_able (told : state.cancelled = true)
    (running : ∀ outcome, state.loop ≠ .returned outcome) :
    ∃ action next, (action = .leave ∨ ∃ answer, action = .work .loop answer) ∧
      state.step resolver sorter action = some next := by
  have works {round : Round} (runs : state.loop.round? = some round) :
      ∃ action next, (action = .leave ∨ ∃ answer, action = .work .loop answer) ∧
        state.step resolver sorter action = some next := by
    obtain ⟨answer, suits⟩ := round.phase.exists_suits
    obtain ⟨next, stepped⟩ := @work_able resolver sorter state round answer .loop runs suits
    exact ⟨.work .loop answer, next, .inr ⟨answer, rfl⟩, stepped⟩
  have leaves {left : State} (left : state.leave = some left) :
      ∃ action next, (action = .leave ∨ ∃ answer, action = .work .loop answer) ∧
        state.step resolver sorter action = some next :=
    ⟨.leave, _, .inl rfl, left⟩
  cases stands : state.loop with
  | initial errCount round => exact works (by rw [stands]; rfl)
  | steady errCount round => exact works (by rw [stands]; rfl)
  | initialWait errCount wait fault => exact leaves (by simp [State.leave, told, stands]; rfl)
  | tick errCount => exact leaves (by simp [State.leave, told, stands]; rfl)
  | backoff errCount wait fault => exact leaves (by simp [State.leave, told, stands]; rfl)
  | returned outcome => exact absurd stands (running outcome)

end Resolver

/-- The steps that `Run` has before it, apart from its goroutines'. -/
def Run.left : Run → Nat
  | .binding rest => rest.length + 2
  | .failing _ => 1
  | .returned _ => 0

namespace Process

/-- The steps of the process's own goroutines. A loop that has been told to stop starts no
further round. -/
def Own (_ : Process) : Action → Prop
  | .signal => False
  | .resolve (.work .loop _) => True
  | .resolve .leave => True
  | .resolve _ => False
  | .serve action => action.endpoint?.isSome = true
  | _ => True

/-- What sessions, their callers and readers, and whoever sends signals do. -/
def Aside (_ : Process) : Action → Prop
  | .signal => True
  | .resolve action => action.ofLoop = false
  | .serve action => action.endpoint? = none
  | _ => False

/-- Own steps that wait for nobody: nothing needs to be accepted any more. -/
def Willing (process : Process) : Action → Prop
  | .serve (.accept endpoint success) => success = false ∧ process.socket endpoint = .closed
  | action => process.Own action

/-- How many turns an accept loop has before it once its context is cancelled. -/
def turnsLeft : Proxy.Listener → Nat
  | .accepting => 4
  | .deciding _ => 3
  | .launching _ => 2
  | .looping => 1
  | .stopped => 0

/-- The steps ahead, apart from those of the update loop. -/
def stepsLeft (process : Process) : Nat :=
  turnsLeft (process.server.listener .master) + turnsLeft (process.server.listener .replica) +
    (process.watched .master).toNat + (process.watched .replica).toNat + process.run.left +
    process.group.running.length + process.exit.isNone.toNat

def left (process : Process) : Nat ×ₗ (Nat ×ₗ Nat) :=
  toLex (process.stepsLeft, process.resolver.loop.rank)

variable {setup : Setup} {process next : Process}

private theorem turnsLeft_lt {action : Proxy.Action} {before after : Proxy.Listener}
    (turned : Proxy.Listener.Turns true action before after) :
    turnsLeft after < turnsLeft before := by
  cases turned with
  | listens untold => cases untold
  | errs untold => cases untold
  | _ => simp [turnsLeft]

/-- A change of one endpoint lowers the sum over both. -/
theorem sum_update_lt {ι : Type} (weight : ι → Nat) (values : Proxy.Endpoint → ι)
    (endpoint : Proxy.Endpoint) {value : ι} (less : weight value < weight (values endpoint)) :
    weight (Function.update values endpoint value .master) +
        weight (Function.update values endpoint value .replica) <
      weight (values .master) + weight (values .replica) := by
  cases endpoint <;> simp <;> omega

private theorem left_lt_of_steps (less : next.stepsLeft < process.stepsLeft) :
    next.left < process.left :=
  Prod.Lex.toLex_lt_toLex.mpr (.inl less)

private theorem left_lt_of_rank (same : next.stepsLeft = process.stepsLeft)
    (less : next.resolver.loop.rank < process.resolver.loop.rank) : next.left < process.left :=
  Prod.Lex.toLex_lt_toLex.mpr (.inr ⟨same, less⟩)

private theorem left_eq (steps : next.stepsLeft = process.stepsLeft)
    (loop : next.resolver.loop = process.resolver.loop) : next.left = process.left := by
  rw [left, left, steps, loop]

private theorem conclude_fields (process : Process) (group : Group Task Cause) :
    (process.conclude group).group = group ∧
      (process.conclude group).server.listener = process.server.listener ∧
      (process.conclude group).watched = process.watched ∧
      (process.conclude group).run = process.run ∧
      (process.conclude group).exit = process.exit := by
  unfold conclude
  split <;> exact ⟨rfl, rfl, rfl, rfl, rfl⟩

/-- Every own step of a process that was told to stop brings its exit closer. -/
theorem own_left_lt (told : process.server.cancelled = true) (running : process.exit = none)
    {action : Action} (own : process.Own action) (stepped : Stepped setup process action next) :
    next.left < process.left := by
  cases stepped with
  | signal => exact own.elim
  | @resolve action resolver ordinary moved =>
    refine left_lt_of_rank rfl ?_
    cases action with
    | work thread answer =>
      cases thread with
      | loop => exact Resolver.work_rank_lt moved
      | caller id => exact own.elim
    | leave => exact Resolver.leave_rank_lt moved
    | _ => exact own.elim
  | serve permitted moved =>
    cases Proxy.Server.step_hears (ordinary_of_permits permitted) moved with
    | bystands place =>
      rw [Own, place] at own
      cases own
    | @turns endpoint listener place turned listeners cancelled =>
      rw [told] at turned
      have less := sum_update_lt turnsLeft process.server.listener endpoint (turnsLeft_lt turned)
      refine left_lt_of_steps ?_
      simp only [stepsLeft, listeners]
      omega
  | bound binds =>
    refine left_lt_of_steps ?_
    simp only [stepsLeft, binds, Run.left, List.length_cons]
    omega
  | refused binds =>
    refine left_lt_of_steps ?_
    simp only [stepsLeft, binds, Run.left, List.length_cons]
    omega
  | failed fails =>
    refine left_lt_of_steps ?_
    simp only [stepsLeft, fails, Run.left]
    omega
  | @told endpoint cancelled watches bound =>
    have less := sum_update_lt Bool.toNat process.watched endpoint
      (show false.toNat < (process.watched endpoint).toNat by rw [watches]; decide)
    refine left_lt_of_steps ?_
    simp only [stepsLeft]
    omega
  | joined waits =>
    refine left_lt_of_steps ?_
    simp only [stepsLeft, waits, Run.left, List.length_nil]
    omega
  | @reported task outcome group returned finished =>
    obtain ⟨groups, listener, watched, run, exit⟩ := conclude_fields process group
    have less := Group.running_finish_lt finished
    refine left_lt_of_steps ?_
    simp only [stepsLeft, groups, listener, watched, run, exit]
    omega
  | exited waited =>
    refine left_lt_of_steps ?_
    simp only [stepsLeft, running, Option.isNone_none, Option.isNone_some, Bool.toNat_true,
      Bool.toNat_false]
    omega

private theorem aside_left_eq {action : Action} (aside : process.Aside action)
    (stepped : Stepped setup process action next) : next.left = process.left := by
  cases stepped with
  | signal => rfl
  | resolve ordinary moved => exact left_eq rfl (Resolver.step_others moved aside).1
  | serve permitted moved =>
    cases Proxy.Server.step_hears (ordinary_of_permits permitted) moved with
    | turns place =>
      rw [Aside, place] at aside
      cases aside
    | bystands place listeners cancelled =>
      refine left_eq ?_ rfl
      simp only [stepsLeft, listeners]
  | _ => exact aside.elim

private theorem cancelled_step {action : Action} (told : process.resolver.cancelled = true)
    (stepped : Stepped setup process action next) : next.resolver.cancelled = true := by
  cases stepped with
  | signal => rfl
  | resolve ordinary moved => exact ((Resolver.step_turn moved).2.resolve_right ordinary).trans told
  | @reported task outcome group returned finished =>
    unfold conclude
    split
    · rfl
    · exact told
  | _ => exact told

private theorem step_eq_act (running : process.exit = none) (action : Action) :
    process.step setup action = process.act setup action :=
  if_neg (by simp [running])

/-- An own step that can be taken. -/
def Able (setup : Setup) (process : Process) : Prop :=
  ∃ action next, process.Willing action ∧ process.step setup action = some next

private theorem loop_able (told : process.resolver.cancelled = true) (running : process.exit = none)
    (busy : process.result .updateMasterAddressLoop = none) : process.Able setup := by
  have looping (outcome : Option Resolver.Fault) : process.resolver.loop ≠ .returned outcome := by
    intro returned
    simp [result, returned] at busy
  obtain ⟨action, resolver, own, moved⟩ :=
    @Resolver.loop_able setup.resolver setup.sorter _ told looping
  refine ⟨.resolve action, { process with resolver }, ?_, ?_⟩
  · rcases own with rfl | ⟨answer, rfl⟩ <;> trivial
  · rcases own with rfl | ⟨answer, rfl⟩ <;>
      simp only [step_eq_act running, act, moved, Option.map_some]

private theorem report_able {task : Task} {outcome : Option Cause} (running : process.exit = none)
    (returned : process.result task = some outcome) (waits : task ∈ process.group.running) :
    process.Able setup := by
  refine ⟨.report task, ?_⟩
  rw [step_eq_act running]
  simp only [act, returned, Group.finish, if_pos waits, Option.map_some]
  exact ⟨_, trivial, rfl⟩

private theorem serve_able (action : Proxy.Action) (running : process.exit = none)
    (permitted : process.permits action = true) (willing : process.Willing (.serve action))
    (moves : (process.server.step action).isSome = true) : process.Able setup := by
  obtain ⟨server, moved⟩ := Option.isSome_iff_exists.mp moves
  refine ⟨.serve action, { process with server }, willing, ?_⟩
  rw [step_eq_act running, act, if_pos permitted, moved, Option.map_some]

/-- The goroutines of an endpoint come to their end. -/
theorem endpoint_able (serving : Serving setup process) (told : process.server.cancelled = true)
    (running : process.exit = none) {endpoint : Proxy.Endpoint}
    (unsettled : process.settled endpoint = false) : process.Able setup := by
  simp only [settled, Bool.or_eq_false_iff, decide_eq_false_iff_not] at unsettled
  obtain ⟨bound, goes⟩ := unsettled
  have listens : decide (process.socket endpoint ≠ .unbound) = true := decide_eq_true bound
  have present : setup.proxy.serves endpoint = true := by
    cases serves : setup.proxy.serves endpoint with
    | true => rfl
    | false => exact absurd (serving.unserved endpoint serves).2 bound
  cases watches : process.watched endpoint with
  | true =>
    refine ⟨.closeListenerByContext endpoint, ?_⟩
    rw [step_eq_act running]
    simp only [act, told, watches, listens]
    exact ⟨_, trivial, rfl⟩
  | false =>
    have closed := serving.watched endpoint present watches
    cases stands : process.server.listener endpoint with
    | looping =>
      exact serve_able (.listen endpoint) running listens rfl (by simp [Proxy.Server.step, stands])
    | accepting =>
      exact serve_able (.accept endpoint false) running listens ⟨rfl, closed⟩
        (by simp [Proxy.Server.step, stands])
    | deciding conn =>
      exact serve_able (.decide endpoint) running listens rfl (by simp [Proxy.Server.step, stands])
    | launching conn =>
      exact serve_able (.launch endpoint) running listens rfl (by simp [Proxy.Server.step, stands])
    | stopped => simp [stands, watches] at goes

private theorem run_able (serving : Serving setup process) (told : process.server.cancelled = true)
    (running : process.exit = none) (busy : process.result .run = none) :
    process.Able setup := by
  cases stands : process.run with
  | returned failed => simp [result, stands] at busy
  | failing endpoint =>
    refine ⟨.closeListeners, ?_⟩
    rw [step_eq_act running]
    simp only [act, stands]
    exact ⟨_, trivial, rfl⟩
  | binding rest =>
    cases rest with
    | cons endpoint rest =>
      refine ⟨.bind true, ?_⟩
      rw [step_eq_act running]
      simp only [act, stands]
      exact ⟨_, trivial, rfl⟩
    | nil =>
      cases master : process.settled .master with
      | false => exact endpoint_able serving told running master
      | true =>
        cases replica : process.settled .replica with
        | false => exact endpoint_able serving told running replica
        | true =>
          refine ⟨.join, ?_⟩
          rw [step_eq_act running]
          simp only [act, stands, master, replica]
          exact ⟨_, trivial, rfl⟩

/-- A process that was told to stop is never stuck. -/
theorem able (reached : (machine setup).Reaches (fun _ _ => True) process)
    (told : process.resolver.cancelled = true) (running : process.exit = none) :
    process.Able setup := by
  have accounted := accounted_of_reaches reached
  have serving := serving_of_reaches reached
  cases loop : process.result .updateMasterAddressLoop with
  | none => exact loop_able told running loop
  | some outcome =>
    cases run : process.result .run with
    | none => exact run_able serving (accounted.agreed.trans told) running run
    | some failed =>
      by_cases waits : ∃ task, task ∈ process.group.running
      · obtain ⟨task, waits⟩ := waits
        cases task with
        | updateMasterAddressLoop => exact report_able running loop waits
        | run => exact report_able running run waits
      · have empty : process.group.running = [] :=
          List.eq_nil_iff_forall_not_mem.mpr fun task member => waits ⟨task, member⟩
        refine ⟨.exit, ?_⟩
        rw [step_eq_act running]
        simp only [act, Group.wait, empty]
        exact ⟨_, trivial, rfl⟩

/-- A signal brings the process down, and so does the first error of a task, whatever sessions,
their callers and their clients do meanwhile. -/
theorem exit_driven (reached : (machine setup).Reaches (fun _ _ => True) process)
    (told : process.signalled = true ∨ process.group.failure.isSome = true) :
    (machine setup).Driven Own Aside Willing (fun process => process.exit.isSome = true)
      process := by
  refine @Machine.Driven.of_measure _ _ _ _ _
    (fun process => (machine setup).Reaches (fun _ _ => True) process ∧
      process.resolver.cancelled = true) _ _ _ _ _ left ?_ ?_ ?_ _
    ⟨reached, (accounted_of_reaches reached).told.mpr told⟩
  · intro before action after holds own stepped
    obtain ⟨running, moved⟩ := step_stepped stepped
    have agreed := (accounted_of_reaches holds.1).agreed
    exact .inr ⟨⟨holds.1.step trivial stepped, cancelled_step holds.2 moved⟩,
      own_left_lt (agreed.trans holds.2) running own moved⟩
  · intro before action after holds aside stepped
    obtain ⟨running, moved⟩ := step_stepped stepped
    exact ⟨⟨holds.1.step trivial stepped, cancelled_step holds.2 moved⟩,
      (aside_left_eq aside moved).le⟩
  · intro before holds running
    exact able holds.1 holds.2 (by simpa using running)

/-- The process that has just been signalled. -/
def signalledProcess : Process :=
  ((machine plainSetup).after signalledRun).get (by decide +kernel)

theorem exit_driven_signalledProcess :
    signalledProcess.exit = none ∧
      (machine plainSetup).Driven Own Aside Willing (fun process => process.exit.isSome = true)
        signalledProcess :=
  ⟨by decide +kernel, exit_driven (.after (Option.some_get _).symm) (.inl (by decide +kernel))⟩

end Process

end SentinelProxy
