import SentinelProxy.Resolver.Attempts
import SentinelProxy.Resolver.Freshness
import SentinelProxy.Resolver.Progress
import SentinelProxy.Transition.Driven

/-! After a failover: from the moment at which Sentinel and the servers agree on a master, the
update loop leads to its address, and the address stays. -/

namespace SentinelProxy.Resolver

open SentinelProxy.Net SentinelProxy.Transition

/-- What the network agrees on: the master that Sentinel names, and the address at which it
answers as a master. -/
structure Agreement where
  host : String
  port : String
  addr : TCPAddr
  name : String
  reply : MasterReply
  network : Network
  target : masterTarget reply = .ok (host, port)
  probed : probeMaster network host port = .ok (addr, name)

namespace Agreement

variable (agreed : Agreement)

/-- Sentinel names the agreed master, and a probe of it finds it. Everything else may be
answered in any way. -/
def Suits : Phase → Answer → Prop
  | .query, .master reply => masterTarget reply = .ok (agreed.host, agreed.port)
  | .probe host port, .network network => host = agreed.host → port = agreed.port →
    ∃ name, probeMaster network host port = .ok (agreed.addr, name)
  | _, _ => True

def Holds (state : State) : Action → Prop
  | .work thread answer =>
    ∀ round, state.active thread = some round → agreed.Suits round.phase answer
  | _ => True

/-- The round has been told of another master, and is going to store it. -/
def stale : Phase → Bool
  | .probe host port => !(host = agreed.host && port = agreed.port)
  | .storeMaster addr _ => addr ≠ agreed.addr
  | _ => false

/-- The agreed master is stored, and nobody is about to store another one. -/
structure Settled (state : State) : Prop where
  stored : state.store.masterAddr = agreed.addr.string
  fresh : ∀ thread round, state.active thread = some round → agreed.stale round.phase = false

variable {agreed : Agreement} {resolver : RedisMasterResolver} {sorter : Sorter}
  {state next : State} {action : Action}

section Rounds

variable {phase following : Phase} {answer : Answer} {store after : Store} {progress : Progress}

theorem fresh_moves (fresh : agreed.stale phase = false) (suits : agreed.Suits phase answer)
    (moved : phase.Moves resolver sorter answer store (.busy following) after) :
    agreed.stale following = false := by
  cases moved with
  | answered target =>
    cases suits.symm.trans target
    simp [stale]
  | verified probed =>
    simp only [stale, Bool.not_eq_false', Bool.and_eq_true, decide_eq_true_eq] at fresh
    obtain ⟨name, found⟩ := suits fresh.1 fresh.2
    cases found.symm.trans probed
    simp [stale]
  | _ => rfl

private theorem fresh_store {addr : TCPAddr} {name : String}
    (fresh : agreed.stale (.storeMaster addr name) = false) : addr = agreed.addr := by
  simpa [stale] using fresh

private theorem stored_moves (fresh : agreed.stale phase = false)
    (stored : store.masterAddr = agreed.addr.string)
    (moved : phase.Moves resolver sorter answer store progress after) :
    after.masterAddr = agreed.addr.string := by
  cases moved with
  | stored => exact congrArg TCPAddr.string (fresh_store fresh)
  | storedLast => exact congrArg TCPAddr.string (fresh_store fresh)
  | _ => exact stored

end Rounds

theorem fresh_step {thread : Thread} (holds : agreed.Holds state action)
    (stepped : state.step resolver sorter action = some next)
    (fresh : ∀ round, state.active thread = some round → agreed.stale round.phase = false) :
    ∀ round, next.active thread = some round → agreed.stale round.phase = false := by
  intro later runs
  cases step_effect stepped with
  | @work worker round answer progress taken running moved active =>
    rcases active_after_work active runs with ⟨rfl, rfl, _⟩ | ⟨_, before⟩
    · subst taken
      exact fresh_moves (fresh round running) (holds round running) moved
    · exact fresh later before
  | start _ _ active =>
    rcases active_after_start active runs with ⟨rfl, rfl⟩ | ⟨_, before⟩
    · rfl
    · exact fresh later before
  | aside _ active =>
    rw [active] at runs
    exact fresh later runs

theorem Settled.step (settled : agreed.Settled state) (holds : agreed.Holds state action)
    (stepped : state.step resolver sorter action = some next) : agreed.Settled next where
  stored := by
    cases step_effect stepped with
    | work taken running moved =>
      exact stored_moves (settled.fresh _ _ running) settled.stored moved
    | start _ _ _ _ _ store =>
      rw [store]
      exact settled.stored
    | aside _ _ _ _ aside =>
      rw [aside.addresses.1]
      exact settled.stored
  fresh thread := fresh_step holds stepped (settled.fresh thread)

section Recovery

/-- The round is going to store the agreed master, if it is answered as agreed. -/
def leads : Phase → Bool
  | .query => true
  | .probe host port => host = agreed.host && port = agreed.port
  | .storeMaster addr _ => addr = agreed.addr
  | _ => false

/-- How far the loop is from storing the agreed master: in a round that leads there, between
two rounds, or in one that has to end first. -/
def course (agreed : Agreement) : Loop → Nat ×ₗ (Nat ×ₗ Nat)
  | .initial _ round | .steady _ round =>
    toLex (if agreed.leads round.phase then 0 else 2, round.phase.rank)
  | .backoff _ _ _ => toLex (1, toLex (1, 0))
  | .tick _ | .initialWait _ _ _ => toLex (1, toLex (0, 0))
  | .returned _ => toLex (0, toLex (0, 0))

def Own (agreed : Agreement) (state : State) (action : Action) : Prop :=
  action.ofLoop = true ∧ agreed.Holds state action

def Aside (agreed : Agreement) (state : State) (action : Action) : Prop :=
  action.ofLoop = false ∧ agreed.Holds state action

/-- No refresh is about to store another master. -/
def Waived (agreed : Agreement) (state : State) : Prop :=
  ∀ id round, state.active (.caller id) = some round → agreed.stale round.phase = false

/-- The agreed master is settled, unless the loop has given up or was told to stop. -/
def Recovered (agreed : Agreement) (state : State) : Prop :=
  agreed.Settled state ∨ ∃ outcome, state.loop = .returned outcome

private theorem course_round {loop : Loop} {round : Round} (runs : loop.round? = some round) :
    agreed.course loop = toLex (if agreed.leads round.phase then 0 else 2, round.phase.rank) := by
  cases loop <;> cases runs <;> rfl

private theorem enter_course_le (errCount : Int64) (last : Option Fault) :
    agreed.course (State.enter resolver errCount last) ≤ toLex (1, toLex (0, 0)) := by
  unfold State.enter
  split
  · exact le_rfl
  · exact (Prod.Lex.toLex_lt_toLex.mpr (.inl Nat.zero_lt_one)).le

private theorem turn_course_lt {cancelled done after : Bool} {loop later : Loop}
    {outcome : Option Fault}
    (turn : Turn resolver cancelled loop done (some outcome) later after) (rank : Nat ×ₗ Nat) :
    agreed.course later < toLex (2, rank) := by
  have pause {first : Nat} (less : first < 2) (rest : Nat ×ₗ Nat) :
      toLex (first, rest) < toLex (2, rank) := Prod.Lex.toLex_lt_toLex.mpr (.inl less)
  cases turn with
  | initialOk => exact (enter_course_le _ _).trans_lt (pause (by decide) _)
  | steadyOk => exact (enter_course_le _ _).trans_lt (pause (by decide) _)
  | _ => exact pause (by decide) _

private theorem leads_fresh {phase : Phase} (leads : agreed.leads phase = true) :
    agreed.stale phase = false := by
  cases phase <;> simp_all [Agreement.leads, stale]

theorem leads_moves {phase : Phase} {answer : Answer} {store after : Store} {progress : Progress}
    (leads : agreed.leads phase = true) (suits : agreed.Suits phase answer)
    (moved : phase.Moves resolver sorter answer store progress after) :
    after.masterAddr = agreed.addr.string ∨
      ∃ following, progress = .busy following ∧ agreed.leads following = true := by
  cases moved with
  | unanswered failed => cases suits.symm.trans failed
  | answered target =>
    cases suits.symm.trans target
    exact .inr ⟨_, rfl, by simp [Agreement.leads]⟩
  | refused failed =>
    simp only [Agreement.leads, Bool.and_eq_true, decide_eq_true_eq] at leads
    obtain ⟨name, found⟩ := suits leads.1 leads.2
    cases found.symm.trans failed
  | verified probed =>
    simp only [Agreement.leads, Bool.and_eq_true, decide_eq_true_eq] at leads
    obtain ⟨name, found⟩ := suits leads.1 leads.2
    cases found.symm.trans probed
    exact .inr ⟨_, rfl, by simp [Agreement.leads]⟩
  | stored => exact .inl (congrArg TCPAddr.string (fresh_store (leads_fresh leads)))
  | storedLast => exact .inl (congrArg TCPAddr.string (fresh_store (leads_fresh leads)))
  | _ => cases leads

private theorem work_recovers {answer : Answer} (waived : agreed.Waived state)
    (holds : agreed.Holds state (.work .loop answer))
    (worked : state.work resolver sorter .loop answer = some next) :
    agreed.Recovered next ∨ agreed.course next.loop < agreed.course state.loop := by
  have stepped : state.step resolver sorter (.work .loop answer) = some next := worked
  cases step_effect stepped with
  | start taken => exact absurd rfl (taken _ _)
  | aside taken => exact absurd rfl (taken _ _)
  | @work thread round given progress taken running moved active =>
    cases taken
    have runs : state.loop.round? = some round := running
    have after : next.loop.round? = progress.round? round.id :=
      (congrFun active .loop).trans (Function.update_self ..)
    rw [course_round runs]
    by_cases leads : agreed.leads round.phase = true
    · rcases leads_moves leads (holds round running) moved with stored | ⟨following, rfl, onward⟩
      · refine .inl (.inl ⟨stored, fun thread => fresh_step holds stepped ?_⟩)
        cases thread with
        | caller id => exact waived id
        | loop =>
          intro current same
          cases running.symm.trans same
          exact leads_fresh leads
      · rw [course_round after, if_pos leads, if_pos onward]
        exact .inr (Prod.Lex.toLex_lt_toLex.mpr (.inr ⟨rfl, moved.rank_lt⟩))
    · rw [if_neg leads]
      cases progress with
      | done outcome =>
        have turn := (work_turn worked).1
        simp only [State.outcome?, runs, Phase.moves_step moved] at turn
        exact .inr (turn_course_lt turn _)
      | busy following =>
        rw [course_round after]
        by_cases onward : agreed.leads following = true
        · rw [if_pos onward]
          exact .inr (Prod.Lex.toLex_lt_toLex.mpr (.inl Nat.zero_lt_two))
        · rw [if_neg onward]
          exact .inr (Prod.Lex.toLex_lt_toLex.mpr (.inr ⟨rfl, moved.rank_lt⟩))

private theorem timer_course_lt (fired : state.timer resolver = some next) :
    agreed.course next.loop < agreed.course state.loop := by
  unfold State.timer at fired
  split at fired
  · rename_i waits
    cases fired
    rw [waits]
    exact Prod.Lex.toLex_lt_toLex.mpr (.inl Nat.zero_lt_one)
  · rename_i waits
    cases fired
    rw [waits]
    exact Prod.Lex.toLex_lt_toLex.mpr (.inl Nat.zero_lt_one)
  · rename_i waits
    cases fired
    rw [waits]
    refine (enter_course_le _ _).trans_lt (Prod.Lex.toLex_lt_toLex.mpr (.inr ⟨rfl, ?_⟩))
    exact Prod.Lex.toLex_lt_toLex.mpr (.inl Nat.zero_lt_one)
  · cases fired

private theorem leave_returned (left : state.leave = some next) :
    ∃ outcome, next.loop = .returned outcome := by
  unfold State.leave at left
  split at left
  · cases left
  · split at left
    · cases left
      exact ⟨_, rfl⟩
    · cases left
      exact ⟨_, rfl⟩
    · cases left
      exact ⟨_, rfl⟩
    · cases left

private theorem own_recovers (waived : agreed.Waived state) (own : agreed.Own state action)
    (stepped : state.step resolver sorter action = some next) :
    agreed.Recovered next ∨
      agreed.Waived next ∧ agreed.course next.loop < agreed.course state.loop := by
  obtain ⟨ofLoop, holds⟩ := own
  have kept : agreed.Waived next := fun id => fresh_step holds stepped (waived id)
  cases action with
  | work thread answer =>
    cases thread with
    | caller id => cases ofLoop
    | loop => exact (work_recovers waived holds stepped).imp_right fun less => ⟨kept, less⟩
  | timer => exact .inr ⟨kept, timer_course_lt stepped⟩
  | leave => exact .inl (.inr (leave_returned stepped))
  | _ => cases ofLoop

theorem exists_suits (agreed : Agreement) (phase : Phase) :
    ∃ answer, phase.Suits answer ∧ agreed.Suits phase answer := by
  cases phase with
  | query => exact ⟨.master agreed.reply, trivial, agreed.target⟩
  | probe host port =>
    refine ⟨.network agreed.network, trivial, ?_⟩
    rintro rfl rfl
    exact ⟨agreed.name, agreed.probed⟩
  | storeMaster addr name => exact ⟨.quiet, trivial, trivial⟩
  | listReplicas => exact ⟨.replicas none, trivial, trivial⟩
  | examine found rest =>
    cases rest with
    | nil => exact ⟨.quiet, trivial, trivial⟩
    | cons fields rest => exact ⟨.network agreed.network, trivial, trivial⟩
  | storeReplicas addrs names => exact ⟨.quiet, trivial, trivial⟩

theorem own_able (running : ∀ outcome, state.loop ≠ .returned outcome) :
    ∃ action next, agreed.Own state action ∧ state.step resolver sorter action = some next := by
  have works {round : Round} (runs : state.loop.round? = some round) :
      ∃ action next, agreed.Own state action ∧ state.step resolver sorter action = some next := by
    obtain ⟨answer, suits, agrees⟩ := agreed.exists_suits round.phase
    obtain ⟨next, stepped⟩ := @work_able resolver sorter state round answer .loop runs suits
    have own : agreed.Own state (.work .loop answer) := by
      refine ⟨rfl, fun current same => ?_⟩
      cases runs.symm.trans same
      exact agrees
    exact ⟨.work .loop answer, next, own, stepped⟩
  have fires {later : State} (fired : state.timer resolver = some later) :
      ∃ action next, agreed.Own state action ∧ state.step resolver sorter action = some next :=
    ⟨.timer, later, ⟨rfl, trivial⟩, fired⟩
  cases stands : state.loop with
  | initial errCount round => exact works (by rw [stands]; rfl)
  | steady errCount round => exact works (by rw [stands]; rfl)
  | initialWait errCount wait fault => exact fires (by simp only [State.timer, stands]; rfl)
  | tick errCount => exact fires (by simp only [State.timer, stands]; rfl)
  | backoff errCount wait fault => exact fires (by simp only [State.timer, stands]; rfl)
  | returned outcome => exact absurd stands (running outcome)

/-- After a failover the loop comes to store the new master, unless it stops: each of its steps
brings it closer, and no refresh that runs beside it takes it back. -/
theorem failover_recovers (waived : agreed.Waived state) :
    (machine resolver sorter).Driven agreed.Own agreed.Aside agreed.Own agreed.Recovered state := by
  refine Machine.Driven.of_measure (fun state => agreed.course state.loop) ?_ ?_ ?_ waived
  · intro before action after holding own stepped
    exact own_recovers holding own stepped
  · intro before action after holding aside stepped
    refine ⟨fun id => fresh_step aside.2 stepped (holding id), ?_⟩
    rw [(step_others stepped aside.1).1]
  · intro middle holding pending
    exact own_able fun outcome stopped => pending (.inr ⟨outcome, stopped⟩)

end Recovery

section Reads

/-- The reads of the master among some events give the agreed one. -/
def ReadsAgreed (agreed : Agreement) (events : List Event) : Prop :=
  ∀ addr, .masterRead addr ∈ events → addr = agreed.addr.string

private theorem readsAgreed_nil : agreed.ReadsAgreed [] :=
  fun _ member => absurd member List.not_mem_nil

theorem ReadsAgreed.cons {event : Event} {events : List Event}
    (event_ok : ∀ addr, .masterRead addr = event → addr = agreed.addr.string)
    (reads : agreed.ReadsAgreed events) : agreed.ReadsAgreed (event :: events) := by
  intro addr member
  rcases List.mem_cons.mp member with first | rest
  · exact event_ok addr first
  · exact reads addr rest

theorem ReadsAgreed.append {first second : List Event} (reads : agreed.ReadsAgreed first)
    (later : agreed.ReadsAgreed second) : agreed.ReadsAgreed (first ++ second) := by
  intro addr member
  rcases List.mem_append.mp member with left | right
  · exact reads addr left
  · exact later addr right

private theorem readsAgreed_round {phase : Phase} {round : Nat} {answer : Answer} :
    agreed.ReadsAgreed (phase.events sorter round answer) := by
  intro addr member
  cases events_ofRound _ member

theorem Settled.log (settled : agreed.Settled state)
    (stepped : state.step resolver sorter action = some next) :
    ∃ newer, next.log = newer ++ state.log ∧ agreed.ReadsAgreed newer := by
  cases step_effect stepped with
  | work _ _ _ _ _ _ recorded =>
    cases recorded with
    | plain log => exact ⟨_, log, readsAgreed_round⟩
    | initial _ log => exact ⟨_ :: _, log, readsAgreed_round.cons (by simp)⟩
  | start _ _ _ _ _ _ _ log =>
    rcases log with same | ⟨id, _, logged⟩
    · exact ⟨[], same, readsAgreed_nil⟩
    · exact ⟨[_], logged, readsAgreed_nil.cons (by simp)⟩
  | aside _ _ _ _ aside =>
    cases aside with
    | quiet _ log => exact ⟨[], log, readsAgreed_nil⟩
    | gaveUp _ log => exact ⟨[_], log, readsAgreed_nil.cons (by simp)⟩
    | readReplica _ _ log => exact ⟨[_], log, readsAgreed_nil.cons (by simp)⟩
    | readMaster _ _ log =>
      refine ⟨[_], log, readsAgreed_nil.cons ?_⟩
      intro addr read
      cases read
      exact settled.stored

/-- Once the new master is settled it stays, whoever refreshes and in whatever order, and
everybody who asks for the master gets its address. -/
theorem failover_settles {before : State} (settled : agreed.Settled before)
    (run : State.Leads resolver sorter agreed.Holds before state) :
    agreed.Settled state ∧
      ∃ newer, state.log = newer ++ before.log ∧
        ∀ addr, .masterRead addr ∈ newer → addr = agreed.addr.string := by
  refine @State.Leads.invariant _ _ _ (fun last => agreed.Settled last ∧
    ∃ newer, last.log = newer ++ before.log ∧ agreed.ReadsAgreed newer) _ _ run ?_ ?_
  · exact ⟨settled, [], rfl, readsAgreed_nil⟩
  · rintro middle next action ⟨still, newer, log, reads⟩ holds stepped
    obtain ⟨latest, logged, read⟩ := still.log stepped
    refine ⟨still.step holds stepped, latest ++ newer, ?_, read.append reads⟩
    rw [logged, log, List.append_assoc]

end Reads

/-- The replica of the first round has been promoted. -/
def promoted : Agreement where
  host := "10.0.0.2"
  port := "6379"
  addr := ⟨mapped [10, 0, 0, 2], 6379, ""⟩
  name := "10.0.0.2:6379"
  reply := .elements ["10.0.0.2", "6379"]
  network := afterFailover
  target := rfl
  probed := by rfl

theorem failover_recovers_promoted :
    settledState.store.masterAddr = "10.0.0.1:6379" ∧ promoted.addr.string = "10.0.0.2:6379" ∧
      (machine tracker insertionSorter).Driven promoted.Own promoted.Aside promoted.Own
        promoted.Recovered settledState := by
  refine ⟨by decide +kernel, by decide +kernel, failover_recovers ?_⟩
  intro id round runs
  cases (settledState_quiescent (.caller id)).symm.trans runs

def promotedState : State :=
  (settledState.steps tracker insertionSorter
    (.timer :: masterSteps .loop afterFailover "10.0.0.2")).get (by decide +kernel)

private theorem promotedState_settled : promoted.Settled promotedState where
  stored := by decide +kernel
  fresh thread round runs := by
    cases thread with
    | loop =>
      cases runs
      decide +kernel
    | caller id => cases runs

theorem failover_settles_promoted :
    ∃ state, promotedState.step tracker insertionSorter .readMaster = some state ∧
      state.log.head? = some (.masterRead "10.0.0.2:6379") ∧ promoted.Settled state := by
  have read : ((promotedState.step tracker insertionSorter .readMaster).map
      fun state => state.log.head?) = some (some (.masterRead "10.0.0.2:6379")) := by
    decide +kernel
  obtain ⟨state, stepped, head⟩ := Option.map_eq_some_iff.mp read
  exact ⟨state, stepped, head,
    (failover_settles promotedState_settled (.single ⟨.readMaster, trivial, stepped⟩)).1⟩

end Agreement

end SentinelProxy.Resolver
