import SentinelProxy.Proxy.Backends
import SentinelProxy.Resolver.Failover

/-! Clients after a failover: once the new master is settled, no session picks the old one. -/

namespace SentinelProxy.Proxy

open SentinelProxy.Resolver SentinelProxy.Transition

namespace Backends

variable {agreed : Agreement} {proxy : RedisSentinelProxy} {resolver : RedisMasterResolver}
  {sorter : Sorter} {before backends next : Backends} {action : Action}

/-- The step of the resolver alone that a step of the clocked one is. -/
def untimed : Timed.Action → Option Resolver.Action
  | .other action => some action
  | _ => none

/-- What the resolver is answered is as agreed. Sessions may do anything. -/
def Holds (agreed : Agreement) (backends : Backends) : Action → Prop
  | .resolver action => ∀ alone, untimed action = some alone →
    agreed.Holds backends.timed.state alone
  | _ => True

/-- A node that was dialled before, or picked before. -/
def Earlier (before : Backends) (id : Nat) (label : Label) (addr : String) : Prop :=
  ∃ dialler, before.diallers id = some dialler ∧
    ((∃ dial ∈ dialler.dials, dial.label = label ∧ dial.addr = addr) ∨
      target dialler = some (label, addr))

/-- The node is the agreed master, or a replica, or is left over from before. -/
def Current (agreed : Agreement) (before : Backends) (id : Nat) (label : Label) (addr : String) :
    Prop :=
  label = .replica ∨ addr = agreed.addr.string ∨ Earlier before id label addr

/-- Everything a session has dialled or is about to dial is current. -/
structure Follows (agreed : Agreement) (before : Backends) (id : Nat) (dialler : Dialler) :
    Prop where
  dialled : ∀ dial ∈ dialler.dials, Current agreed before id dial.label dial.addr
  pending : ∀ label addr, target dialler = some (label, addr) →
    Current agreed before id label addr

variable {id : Nat} {dialler after : Dialler}

private theorem follows_before (present : before.diallers id = some dialler) :
    Follows agreed before id dialler where
  dialled dial member := .inr (.inr ⟨dialler, present, .inl ⟨dial, member, rfl, rfl⟩⟩)
  pending _ _ aims := .inr (.inr ⟨dialler, present, .inr aims⟩)

private theorem follows_start (endpoint : Endpoint) :
    Follows agreed before id (.start endpoint) where
  dialled _ member := by cases member
  pending _ _ aims := by cases aims

theorem Follows.dials (follows : Follows agreed before id dialler) {label : Label}
    {addr : String} (aims : target dialler = some (label, addr)) :
    ∀ dial ∈ proxy.dialRedis label addr :: dialler.dials,
      Current agreed before id dial.label dial.addr := by
  intro dial member
  rcases List.mem_cons.mp member with rfl | earlier
  · exact follows.pending label addr aims
  · exact follows.dialled dial earlier

theorem Follows.settled
    (dialled : ∀ dial ∈ after.dials, Current agreed before id dial.label dial.addr)
    (aimless : target after = none) : Follows agreed before id after where
  dialled := dialled
  pending _ _ aims := by cases aimless.symm.trans aims

private theorem refuse_aimless (refreshed : Bool) (refusal : Refusal) :
    target (dialler.refuse proxy refreshed refusal) = none := by
  rcases @Dialler.refuse_stage proxy dialler refreshed refusal with stands | stands
  · simp [target, stands]
  · simp [target, stands]

private theorem connect_aimless (label : Label) (addr : String) :
    target (dialler.connect proxy label addr) = none := by
  rcases @Dialler.connect_stage proxy dialler label addr with stands | stands
  · simp [target, stands]
  · simp [target, stands]

theorem Follows.advance {answer : Reply} (follows : Follows agreed before id dialler)
    (advanced : dialler.step proxy answer = some after)
    (master : ∀ addr, answer = .masterAddress addr → addr = agreed.addr.string) :
    Follows agreed before id after := by
  cases Dialler.step_advances advanced with
  | @pickMaster refreshed addr =>
    refine ⟨follows.dialled, ?_⟩
    rintro label host ⟨⟩
    exact .inr (.inl (master addr rfl))
  | pickReplica =>
    refine ⟨follows.dialled, ?_⟩
    rintro label host ⟨⟩
    exact .inl rfl
  | @pickFallback refreshed addr =>
    refine ⟨follows.dialled, ?_⟩
    rintro label host ⟨⟩
    exact .inr (.inl (master addr rfl))
  | findReplica =>
    refine ⟨follows.dialled, ?_⟩
    rintro label host ⟨⟩
    exact .inl rfl
  | noReplica => exact .settled follows.dialled (refuse_aimless _ _)
  | @connect refreshed label addr stands =>
    have aims : target dialler = some (label, addr) := by simp [target, stands]
    exact .settled (follows.dials aims) (connect_aimless _ _)
  | @miss refreshed label addr stands =>
    have aims : target dialler = some (label, addr) := by simp [target, stands]
    exact .settled (follows.dials aims) (refuse_aimless _ _)
  | @dialReplica addr success stands =>
    have aims : target dialler = some (.replica, addr) := by simp [target, stands]
    exact .settled (follows.dials aims) rfl
  | fallBack => exact .settled follows.dialled rfl
  | call => exact .settled follows.dialled rfl
  | retry => exact .settled follows.dialled rfl
  | goWithout => exact .settled follows.dialled rfl
  | lackReplica => exact .settled follows.dialled rfl
  | callReplica => exact .settled follows.dialled rfl
  | retryReplica => exact .settled follows.dialled rfl

/-- The invariant after a failover. -/
structure Recovered (agreed : Agreement) (before backends : Backends) : Prop where
  settled : agreed.Settled backends.timed.state
  follows : ∀ id dialler, backends.diallers id = some dialler → Follows agreed before id dialler

private theorem timed_settled {timed later : Timed} {action : Timed.Action}
    (settled : agreed.Settled timed.state)
    (holds : ∀ alone, untimed action = some alone → agreed.Holds timed.state alone)
    (stepped : timed.step resolver sorter action = some later) :
    agreed.Settled later.state := by
  cases Timed.step_stepped stepped with
  | pass => exact settled
  | throttled _ _ moved => exact Agreement.Settled.step settled (by trivial) moved
  | began _ moved => exact Agreement.Settled.step settled (by trivial) moved
  | called moved => exact Agreement.Settled.step settled (by trivial) moved
  | other _ _ moved => exact settled.step (holds _ rfl) moved

theorem Recovered.update (recovered : Recovered agreed before backends) {timed : Timed}
    (settled : agreed.Settled timed.state) (follows : Follows agreed before id after) :
    Recovered agreed before
      { timed, diallers := Function.update backends.diallers id (some after) } where
  settled := settled
  follows other found present := by
    rcases lookup_update present with ⟨rfl, rfl⟩ | ⟨-, earlier⟩
    · exact follows
    · exact recovered.follows other found earlier

theorem Recovered.step (recovered : Recovered agreed before backends)
    (holds : Holds agreed backends action)
    (stepped : backends.step proxy resolver sorter action = some next) :
    Recovered agreed before next := by
  have aside {step : Resolver.Action} {later : Timed}
      (free : agreed.Holds backends.timed.state step)
      (moved : backends.timed.step resolver sorter (.other step) = some later) :
      agreed.Settled later.state := by
    refine timed_settled recovered.settled ?_ moved
    rintro alone ⟨⟩
    exact free
  cases step_stepped stepped with
  | resolver _ moved =>
    exact ⟨timed_settled recovered.settled holds moved, recovered.follows⟩
  | connect => exact recovered.update recovered.settled (follows_start _)
  | @readMaster id dialler after timed present _ moved advanced =>
    refine recovered.update (aside (by trivial) moved) ?_
    refine (recovered.follows id dialler present).advance advanced ?_
    rintro addr ⟨⟩
    exact recovered.settled.stored
  | @readReplica id dialler after timed present _ moved advanced =>
    refine recovered.update (aside (by trivial) moved) ?_
    exact (recovered.follows id dialler present).advance advanced (by simp)
  | @dial id dialler after success present advanced =>
    refine recovered.update recovered.settled ?_
    exact (recovered.follows id dialler present).advance advanced (by simp)
  | @call id dialler after timed present moved advanced =>
    refine recovered.update (aside (by trivial) moved) ?_
    exact (recovered.follows id dialler present).advance advanced (by simp)
  | @resume id dialler after present _ advanced =>
    refine recovered.update recovered.settled ?_
    exact (recovered.follows id dialler present).advance advanced (by simp)

/-- From the moment at which the new master is settled, and for as long as Sentinel and the
servers agree on it, a session that dials a master dials this one; what else it dials it had
picked before that moment. -/
theorem failover_dials (settled : agreed.Settled before.timed.state)
    (reached : Machine.Reaches ⟨before, step proxy resolver sorter⟩ (Holds agreed) backends)
    (present : backends.diallers id = some dialler) {dial : Dial} (dialled : dial ∈ dialler.dials)
    (master : dial.label ≠ .replica) :
    dial.addr = agreed.addr.string ∨ Earlier before id dial.label dial.addr := by
  have recovered : Recovered agreed before backends :=
    reached.invariant ⟨settled, fun _ _ => follows_before⟩
      fun _ _ _ _ recovered holds stepped => recovered.step holds stepped
  exact ((recovered.follows id dialler present).dialled dial dialled).resolve_left master

/-- Without the lock no refresh is under way. -/
theorem callers_idle
    (reached : (machine proxy resolver sorter).Reaches (fun _ _ => True) backends)
    (free : backends.timed.state.refreshLock = none) :
    backends.timed.state.active (.caller id) = none := by
  have exclusive := (Timed.paced_of_reaches (resolver_simulation.reaches reached)).exclusive
  cases stands : backends.timed.state.callers id with
  | resolving round =>
    cases free.symm.trans ((exclusive id).mp ⟨round, stands⟩)
  | _ => simp [State.active, stands, Caller.round?]

/-- The client whose master was lost has not yet come back from its refresh. -/
theorem refreshedBackends_settled :
    Agreement.promoted.Settled refreshedBackends.timed.state where
  stored := by decide +kernel
  fresh thread round runs := by
    have idle : refreshedBackends.timed.state.active thread = none := by
      cases thread with
      | loop => decide +kernel
      | caller id => exact callers_idle refreshedBackends_reached (by decide +kernel)
    cases idle.symm.trans runs

def reconnected : Backends :=
  ([Action.resume 0, .ask 0, .dial 0 true].foldlM
    (step Dialler.routingProxy tracker insertionSorter) refreshedBackends).get (by decide +kernel)

theorem failover_dials_reconnected : ∃ dialler, reconnected.diallers 0 = some dialler ∧
    ∃ dial ∈ dialler.dials, dial.addr = "10.0.0.2:6379" ∧
      (dial.addr = Agreement.promoted.addr.string ∨
        Earlier refreshedBackends 0 dial.label dial.addr) := by
  have dialled : (reconnected.diallers 0).map Dialler.dials =
      some [⟨.master, "10.0.0.2:6379", none⟩, ⟨.master, "10.0.0.1:6379", none⟩] := by
    decide +kernel
  obtain ⟨dialler, present, dials⟩ := Option.map_eq_some_iff.mp dialled
  have member : ⟨.master, "10.0.0.2:6379", none⟩ ∈ dialler.dials := by simp [dials]
  have reached : Machine.Reaches
      ⟨refreshedBackends, step Dialler.routingProxy tracker insertionSorter⟩
      (Holds Agreement.promoted) reconnected := by
    refine Machine.Reaches.foldlM [.resume 0, .ask 0, .dial 0 true] .start ?_
      (Option.some_get _).symm
    intro action taken state
    simp only [List.mem_cons, List.not_mem_nil, or_false] at taken
    rcases taken with rfl | rfl | rfl <;> trivial
  exact ⟨dialler, present, _, member, rfl,
    failover_dials refreshedBackends_settled reached present member (by decide)⟩

end Backends

end SentinelProxy.Proxy
