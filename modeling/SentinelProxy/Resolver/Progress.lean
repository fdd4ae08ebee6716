import Mathlib.Data.Prod.Lex
import Mathlib.Order.WellFounded
import SentinelProxy.Resolver.Throttle

/-! Refreshes come to an end: a round takes finitely many steps whatever it is answered, and
so every caller of `RefreshAddresses` gets its turn. -/

namespace SentinelProxy.Resolver

namespace Phase

def Suits : Phase → Answer → Prop
  | .query, .master _ => True
  | .probe _ _, .network _ => True
  | .storeMaster _ _, .quiet => True
  | .listReplicas, .replicas _ => True
  | .examine _ [], .quiet => True
  | .examine _ (_ :: _), .network _ => True
  | .storeReplicas _ _, .quiet => True
  | _, _ => False

/-- How far a round is from its end. The list of replicas is not known before it has come. -/
def rank : Phase → Nat ×ₗ Nat
  | .query => toLex (6, 0)
  | .probe _ _ => toLex (5, 0)
  | .storeMaster _ _ => toLex (4, 0)
  | .listReplicas => toLex (3, 0)
  | .examine _ rest => toLex (2, rest.length)
  | .storeReplicas _ _ => toLex (1, 0)

variable {resolver : RedisMasterResolver} {sorter : Sorter} {phase following : Phase}
  {answer : Answer} {store next : Store}

private theorem step_of_suits (suits : phase.Suits answer) (store : Store) :
    ∃ progress after, phase.step resolver sorter answer store = some (progress, after) := by
  unfold Suits at suits
  split at suits
  · simp only [step]
    split <;> exact ⟨_, _, rfl⟩
  · simp only [step]
    split <;> exact ⟨_, _, rfl⟩
  · exact ⟨_, _, rfl⟩
  · rename_i entries
    cases entries <;> exact ⟨_, _, rfl⟩
  · exact ⟨_, _, rfl⟩
  · exact ⟨_, _, rfl⟩
  · exact ⟨_, _, rfl⟩
  · cases suits

theorem Moves.rank_lt (moved : phase.Moves resolver sorter answer store (.busy following) next) :
    following.rank < phase.rank := by
  cases moved <;> simp [rank, Prod.Lex.toLex_lt_toLex]

end Phase

section Callers

variable {resolver : RedisMasterResolver} {sorter : Sorter} {state : State} {id : Nat}
  {round : Round} {answer : Answer}

/-- A round goes on with every answer its phase waits for. -/
theorem work_able {thread : Thread} (runs : state.active thread = some round)
    (suits : round.phase.Suits answer) :
    ∃ next, state.step resolver sorter (.work thread answer) = some next := by
  obtain ⟨progress, store, stepped⟩ :=
    @Phase.step_of_suits resolver sorter _ _ suits state.store
  simp only [State.step, State.work, runs, stepped]
  cases progress <;> exact ⟨_, rfl⟩

private theorem work_busy {following : Phase} {store : Store}
    (runs : state.callers id = .resolving round)
    (stepped : round.phase.step resolver sorter answer state.store =
      some (.busy following, store)) :
    ∃ next, state.step resolver sorter (.work (.caller id) answer) = some next ∧
      next.callers = Function.update state.callers id (.resolving ⟨round.id, following⟩) := by
  simp only [State.step, State.work, State.active, runs, Caller.round?, stepped]
  exact ⟨_, rfl, rfl⟩

private theorem work_done {outcome : Option Fault} {store : Store}
    (runs : state.callers id = .resolving round)
    (stepped : round.phase.step resolver sorter answer state.store =
      some (.done outcome, store)) :
    ∃ next, state.step resolver sorter (.work (.caller id) answer) = some next ∧
      next.callers = Function.update state.callers id .idle ∧ next.refreshLock = none := by
  simp only [State.step, State.work, State.active, runs, Caller.round?, stepped]
  exact ⟨_, rfl, rfl, rfl⟩

end Callers

namespace Timed

variable {resolver : RedisMasterResolver} {sorter : Sorter} {answers : Nat → Phase → Answer}
  {timed next : Timed} {id : Nat}

/-- A step of a caller. Every round gets its own answers, and no phase of a round comes twice. -/
inductive CallerStep (resolver : RedisMasterResolver) (sorter : Sorter)
    (answers : Nat → Phase → Answer) (timed next : Timed) : Prop where
  | acquire (id : Nat) (stepped : timed.step resolver sorter (.acquire id) = some next)
  | work {id : Nat} {round : Round} (runs : timed.state.callers id = .resolving round)
      (stepped : timed.step resolver sorter
        (.other (.work (.caller id) (answers round.id round.phase))) = some next)

def CallersLead (resolver : RedisMasterResolver) (sorter : Sorter)
    (answers : Nat → Phase → Answer) : Timed → Timed → Prop :=
  Relation.ReflTransGen (CallerStep resolver sorter answers)

theorem CallerStep.ofWork {round : Round} {state : State}
    (runs : timed.state.callers id = .resolving round)
    (stepped : timed.state.step resolver sorter
        (.work (.caller id) (answers round.id round.phase)) =
      some state) : CallerStep resolver sorter answers timed { timed with state } := by
  refine .work runs ?_
  rw [Timed.step, stepped, Option.map_some]
  all_goals nofun

/-- The call that holds the lock returns, and nothing happens to the others meanwhile. -/
theorem resolving_returns (suits : ∀ round (phase : Phase), phase.Suits (answers round phase))
    {round : Round} (runs : timed.state.callers id = .resolving round) :
    ∃ next, CallersLead resolver sorter answers timed next ∧ next.state.refreshLock = none ∧
      next.state.callers = Function.update timed.state.callers id .idle := by
  -- By induction on the distance of the round from its end.
  generalize distance : round.phase.rank = rank
  induction rank using WellFoundedLT.induction generalizing timed round with
  | ind rank ih =>
    subst distance
    obtain ⟨progress, store, stepped⟩ :=
      @Phase.step_of_suits resolver sorter _ _ (suits round.id round.phase) timed.state.store
    cases progress with
    | busy following =>
      obtain ⟨state, taken, callers⟩ := work_busy runs stepped
      have resolves : state.callers id = .resolving ⟨round.id, following⟩ := by
        rw [callers, Function.update_self]
      obtain ⟨next, rest, free, after⟩ :=
        @ih _ (Phase.step_moves stepped).rank_lt { timed with state } _ resolves rfl
      refine ⟨next, .head (.ofWork runs taken) rest, free, ?_⟩
      rw [after, callers, Function.update_idem]
    | done outcome =>
      obtain ⟨state, taken, callers, free⟩ := work_done runs stepped
      exact ⟨{ timed with state }, .single (.ofWork runs taken), free, callers⟩

theorem acquire_free (waits : timed.state.callers id = .waiting)
    (free : timed.state.refreshLock = none) :
    ∃ next, timed.step resolver sorter (.acquire id) = some next ∧
      (next.state.callers id = .idle ∨ ∃ round, next.state.callers id = .resolving round) := by
  simp only [Timed.step, Timed.acquire, State.acquire, waits, free]
  cases timed.throttled with
  | true => exact ⟨_, rfl, .inl (by simp)⟩
  | false => exact ⟨_, rfl, .inr ⟨⟨timed.state.started, .query⟩, by simp⟩⟩

/-- Whoever calls `RefreshAddresses` gets to its end, whatever Sentinel and the nodes answer:
the call that holds the lock ends, and then its own. -/
theorem call_returns (exclusive : timed.state.Exclusive)
    (suits : ∀ round (phase : Phase), phase.Suits (answers round phase)) (id : Nat) :
    ∃ next, CallersLead resolver sorter answers timed next ∧ next.state.callers id = .idle := by
  have resolving {timed : Timed} {round : Round}
      (runs : timed.state.callers id = .resolving round) :
      ∃ next, CallersLead resolver sorter answers timed next ∧ next.state.callers id = .idle := by
    obtain ⟨next, run, -, callers⟩ := resolving_returns suits runs
    exact ⟨next, run, by rw [callers, Function.update_self]⟩
  have waiting {timed : Timed} (waits : timed.state.callers id = .waiting)
      (free : timed.state.refreshLock = none) :
      ∃ next, CallersLead resolver sorter answers timed next ∧ next.state.callers id = .idle := by
    obtain ⟨middle, stepped, idle | ⟨round, runs⟩⟩ :=
      @acquire_free resolver sorter timed id waits free
    · exact ⟨middle, .single (.acquire id stepped), idle⟩
    · obtain ⟨next, rest, idle⟩ := resolving runs
      exact ⟨next, .head (.acquire id stepped) rest, idle⟩
  cases stands : timed.state.callers id with
  | idle => exact ⟨timed, .refl, stands⟩
  | resolving round => exact resolving stands
  | waiting =>
    cases held : timed.state.refreshLock with
    | none => exact waiting stands held
    | some other =>
      obtain ⟨round, runs⟩ := (exclusive other).mpr held
      obtain ⟨middle, first, free, callers⟩ :=
        @resolving_returns resolver sorter answers timed other suits round runs
      have different : id ≠ other := by
        rintro rfl
        cases stands.symm.trans runs
      have waits : middle.state.callers id = .waiting := by
        rw [callers, Function.update_of_ne different, stands]
      obtain ⟨next, rest, idle⟩ := waiting waits free
      exact ⟨next, first.trans rest, idle⟩

end Timed

end SentinelProxy.Resolver
