import Mathlib.Logic.Relation
import SentinelProxy.Routing.Replies

/-! The state of the two backend connections of a session: what state commands do
to it when each backend decides for itself. -/

namespace SentinelProxy.Routing

open SentinelProxy.Stream SentinelProxy.Text SentinelProxy.Resp

/-- Whether the reply at the front of a byte string is an error, behind the
attribute sections and push messages that precede it. -/
def rejects (bytes : Bytes) : Bool :=
  match found : nextLine bytes with
  | none => false
  | some (kind, text, rest) =>
    match demand kind text with
    | some (.before count) =>
      match skipped : references count rest with
      | none => false
      | some middle => rejects middle
    | _ => kind == 45 || kind == 33
termination_by bytes.length
decreasing_by
  have shorter := nextLine_shorter found
  have bound := references_length skipped
  omega

def Link.accepts (link : Link) : Bool := !rejects link.replies.unread

/-- A session together with the states of its two backend connections. -/
structure Tracked (State : Type) where
  session : Session
  master : State
  replica : State

/-- A backend's connection state changes when it accepts a state command. -/
def applied (effect : Bytes → State → State) (command : Command) (link : Link) (state : State) :
    State :=
  if listed stateCommands command.name && link.accepts then effect command.raw state else state

/-- One turn of the session, with what it does to the connection states; `none`
when the session is over. -/
def Tracked.turn (effect : Bytes → State → State) (tracked : Tracked State) :
    Option (Tracked State) :=
  match readCommand tracked.session.clientR, tracked.session.turn with
  | (.ok command, _), .again after =>
    some
      { session := after
        master := applied effect command tracked.session.master tracked.master
        replica :=
          match tracked.session.replica with
          | none => tracked.replica
          | some link => applied effect command link tracked.replica }
  | _, _ => none

def Session.next (session : Session) : Option Command :=
  match readCommand session.clientR with
  | (.ok command, _) => some command
  | (.error _, _) => none

def Session.readsReplica (session : Session) : Prop :=
  ∃ command, session.next = some command ∧
    route session.replica.isSome command.name = .replica

/-- Should the next command be a state command, the two backends answer it alike:
both with an error or neither. -/
def Session.AnsweredAlike (session : Session) : Prop :=
  ∀ command link, session.next = some command → listed stateCommands command.name = true →
    session.replica = some link → session.master.accepts = link.accepts

def AlikeRun (effect : Bytes → State → State) : Tracked State → Tracked State → Prop :=
  Relation.ReflTransGen fun tracked after =>
    tracked.session.AnsweredAlike ∧ tracked.turn effect = some after

theorem Tracked.turn_some {effect : Bytes → State → State} {tracked after : Tracked State}
    (turned : tracked.turn effect = some after) :
    ∃ command, tracked.session.next = some command ∧
      tracked.session.turn = .again after.session ∧
      after.master = applied effect command tracked.session.master tracked.master ∧
      ∀ link, tracked.session.replica = some link →
        after.replica = applied effect command link tracked.replica := by
  unfold Tracked.turn at turned
  split at turned
  · rename_i command clientR next read again
    cases turned
    refine ⟨command, by simp [Session.next, read], again, rfl, ?_⟩
    intro link healthy
    simp only [healthy]
  · cases turned

theorem Tracked.turn_equal {effect : Bytes → State → State} {tracked after : Tracked State}
    (alike : tracked.session.AnsweredAlike) (turned : tracked.turn effect = some after)
    (equal : tracked.session.replica.isSome = true → tracked.master = tracked.replica) :
    after.session.replica.isSome = true → after.master = after.replica := by
  intro present
  obtain ⟨command, next, again, master, replica⟩ := Tracked.turn_some turned
  obtain ⟨_, _, _, served⟩ := turn_again.mp again
  have same : after.session.replica.isSome = tracked.session.replica.isSome := served.hasReplica
  rw [same] at present
  obtain ⟨link, healthy⟩ := Option.isSome_iff_exists.mp present
  rw [master, replica link healthy, equal present]
  by_cases state : listed stateCommands command.name = true
  · rw [applied, applied, alike command link next state healthy]
  · simp [applied, state]

theorem AlikeRun.equal {effect : Bytes → State → State} {start tracked : Tracked State}
    (equal : start.master = start.replica) (run : AlikeRun effect start tracked) :
    tracked.session.replica.isSome = true → tracked.master = tracked.replica := by
  induction run with
  | refl => exact fun _ => equal
  | tail _ step ih => exact Tracked.turn_equal step.1 step.2 ih

theorem Tracked.turn_failed {effect : Bytes → State → State} {tracked : Tracked State}
    (read : readCommand tracked.session.clientR = (.ok command, clientR))
    (state : listed stateCommands command.name = true)
    (failed : ({ tracked.session with clientR }.stateCommand command.raw).1 ≠ none) :
    tracked.turn effect = none := by
  have routed : route tracked.session.replica.isSome command.name = .both :=
    route_both.mpr ⟨(stateCommands_disjoint state).1, (stateCommands_disjoint state).2, state⟩
  cases turned : tracked.turn effect with
  | none => rfl
  | some after =>
    obtain ⟨_, _, again, _⟩ := Tracked.turn_some turned
    have acted :
        ({ tracked.session with clientR } : Session).act command = .again after.session := by
      rw [← again, Session.turn, read]
    rw [show ({ tracked.session with clientR } : Session).act command = _ from act_both routed,
      proceed_again] at acted
    exact absurd (Option.map_eq_none_iff.mp acted.1) failed

/-- Wherever state commands are answered alike by both backends, a read is only
ever forwarded to the replica while the two connections are in the same state; and
a state command that fails half-way is followed by no read at all. -/
theorem inSync_of_alike {State : Type} (effect : Bytes → State → State)
    (start tracked : Tracked State) (equal : start.master = start.replica)
    (run : AlikeRun effect start tracked) :
    (tracked.session.readsReplica → tracked.master = tracked.replica) ∧
      ∀ command clientR, readCommand tracked.session.clientR = (.ok command, clientR) →
        listed stateCommands command.name = true →
        ({ tracked.session with clientR }.stateCommand command.raw).1 ≠ none →
        tracked.turn effect = none := by
  refine ⟨?_, fun command clientR read state failed => Tracked.turn_failed read state failed⟩
  rintro ⟨command, _, routed⟩
  exact run.equal equal (route_replica.mp routed).2.2.2.1

def selectThenGet (replicaReplies : String) : Session :=
  openSession ⟨[], none⟩ (newReader [selectText.bytes ++ getText.bytes])
    ⟨⟨[], none⟩, newReader [bytesOf "+OK\r\n"]⟩
    (some ⟨⟨[], none⟩, newReader [bytesOf replicaReplies]⟩)

def selectEffect (raw : Bytes) (database : Nat) : Nat :=
  if raw = selectText.bytes then 1 else database

def selectedByBoth : Tracked Nat :=
  (Tracked.turn selectEffect ⟨selectThenGet "+OK\r\n$-1\r\n", 0, 0⟩).get (by decide +kernel)

theorem inSync_selectedByBoth :
    selectedByBoth.session.readsReplica ∧ selectedByBoth.master = selectedByBoth.replica := by
  have step : Tracked.turn selectEffect ⟨selectThenGet "+OK\r\n$-1\r\n", 0, 0⟩ =
      some selectedByBoth :=
    (Option.some_get _).symm
  have reads : selectedByBoth.session.readsReplica :=
    ⟨commandOf getText, by decide +kernel, by decide +kernel⟩
  have alike : (selectThenGet "+OK\r\n$-1\r\n").AnsweredAlike := by
    rintro command link _ _ ⟨⟩
    decide +kernel
  exact ⟨reads, (inSync_of_alike selectEffect _ _ rfl (.single ⟨alike, step⟩)).1 reads⟩

def selectedByMaster : Tracked Nat :=
  (Tracked.turn selectEffect
    ⟨selectThenGet "-ERR DB index is out of range\r\n$-1\r\n", 0, 0⟩).get (by decide +kernel)

theorem selectedByMaster_outOfSync :
    Tracked.turn selectEffect ⟨selectThenGet "-ERR DB index is out of range\r\n$-1\r\n", 0, 0⟩ =
        some selectedByMaster ∧
      selectedByMaster.session.readsReplica ∧
      selectedByMaster.master = 1 ∧ selectedByMaster.replica = 0 :=
  ⟨(Option.some_get _).symm, ⟨commandOf getText, by decide +kernel, by decide +kernel⟩,
    by decide +kernel, by decide +kernel⟩

end SentinelProxy.Routing
