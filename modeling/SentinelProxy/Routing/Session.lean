import SentinelProxy.Resp.Copy
import SentinelProxy.Routing.Tables

/-! A routed session: the loop that reads client commands, forwards each to its
backends and relays the replies. -/

namespace SentinelProxy.Routing

open SentinelProxy.Stream SentinelProxy.Resp

/-- A backend connection: what it has been sent, and the reader of its replies. -/
structure Link where
  sent : Writer
  replies : Reader

/-- A session. There is no replica when none was healthy at the start, and after
the session was pinned; `closed` is the replica connection that pinning closed. -/
structure Session where
  client : Writer
  clientR : Reader
  master : Link
  replica : Option Link
  closed : Option Link
  reads : Nat
  writes : Nat

/-- How an exchange with a backend fails. -/
inductive Fault where
  | forwarding (error : Error)
  | relaying (error : Error)
  deriving DecidableEq, Repr

/-- Why a session is over. A pinned session also tells whether its two pipes came
to the end of their streams. -/
inductive Closing where
  | finished
  | malformed (error : Error)
  | failed (name : Bytes) (fault : Fault)
  | refused
  | pinned (upstream downstream : Bool)
  deriving DecidableEq, Repr

inductive Turn where
  | again (session : Session)
  | quit (closing : Closing) (session : Session)

def Link.send (link : Link) (raw : Bytes) : Bool × Link :=
  ((link.sent.write raw).1, { link with sent := (link.sent.write raw).2 })

/-- Relay one reply of the backend to a writer. -/
def Link.relay (link : Link) (writer : Writer) : Option Error × Writer × Link :=
  match copyRESP writer link.replies with
  | (failure, after, replies) => (failure, after, { link with replies })

/-- Forward a command to a backend and relay its reply to the client. -/
def exchange (client : Writer) (raw : Bytes) (link : Link) : Option Fault × Writer × Link :=
  match link.send raw with
  | (false, link) => (some (.forwarding .write), client, link)
  | (true, link) =>
    match link.relay client with
    | (some failure, client, link) => (some (.relaying failure), client, link)
    | (none, client, link) => (none, client, link)

def sendReplica (raw : Bytes) : Option Link → Bool × Option Link
  | none => (true, none)
  | some link => ((link.send raw).1, some (link.send raw).2)

/-- The reply of the replica to a state command goes nowhere. -/
def discardReply : Option Link → Option Error × Option Link
  | none => (none, none)
  | some link =>
    match link.relay ⟨[], none⟩ with
    | (failure, _, link) => (failure, some link)

/-- Forward a state command to both backends, relay the master's reply and discard
the replica's. -/
def Session.stateCommand (session : Session) (raw : Bytes) : Option Error × Session :=
  match session.master.send raw with
  | (false, master) => (some .write, { session with master })
  | (true, master) =>
    match sendReplica raw session.replica with
    | (false, replica) => (some .write, { session with master, replica })
    | (true, replica) =>
      match master.relay session.client with
      | (some failure, client, master) =>
        (some failure, { session with client, master, replica })
      | (none, client, master) =>
        match discardReply replica with
        | (failure, replica) => (failure, { session with client, master, replica })

/-- The two directions of a pinned session, each to the end of its stream. -/
def Session.pipe (session : Session) : Closing × Session :=
  match copyAll session.client session.master.replies with
  | (downstream, client, replies) =>
    match copyAll session.master.sent session.clientR with
    | (upstream, sent, clientR) =>
      (.pinned upstream downstream, { session with client, clientR, master := ⟨sent, replies⟩ })

/-- Drop the replica, forward the pinning command if there is one, and become a
plain pipe. -/
def Session.pin (session : Session) (raw : Option Bytes) : Closing × Session :=
  let session := { session with replica := none, closed := session.replica }
  match raw with
  | none => session.pipe
  | some raw =>
    match session.master.send raw with
    | (false, master) => (.refused, { session with master })
    | (true, master) => { session with master }.pipe

def proceed (name : Bytes) (session : Session) : Option Fault → Turn
  | none => .again session
  | some fault => .quit (.failed name fault) session

/-- What a turn does with the command it has read. -/
def Session.act (session : Session) (command : Command) : Turn :=
  if command.name = [] then .again session
  else if listed pinCommands command.name then
    match session.pin (some command.raw) with
    | (closing, after) => .quit closing after
  else if listed stateCommands command.name then
    match session.stateCommand command.raw with
    | (failure, after) => proceed command.name after (failure.map .forwarding)
  else
    match session.replica, getDirection command.name with
    | some link, .read =>
      match exchange session.client command.raw link with
      | (fault, client, link) =>
        proceed command.name
          { session with client, replica := some link, reads := session.reads + 1 } fault
    | _, _ =>
      match exchange session.client command.raw session.master with
      | (fault, client, master) =>
        proceed command.name { session with client, master, writes := session.writes + 1 } fault

def Session.turn (session : Session) : Turn :=
  match readCommand session.clientR with
  | (.error .inlineCommand, clientR) =>
    match { session with clientR }.pin none with
    | (closing, after) => .quit closing after
  | (.error .eof, clientR) => .quit .finished { session with clientR }
  | (.error failure, clientR) => .quit (.malformed failure) { session with clientR }
  | (.ok command, clientR) => { session with clientR }.act command

/-- What a turn that goes on has done with its command. -/
inductive Served (session : Session) (command : Command) : Session → Prop where
  | dropped (routed : route session.replica.isSome command.name = .dropped) :
      Served session command session
  | both (routed : route session.replica.isSome command.name = .both)
      (forwarded : session.master.send command.raw = (true, master))
      (copied : sendReplica command.raw session.replica = (true, replica))
      (relayed : master.relay session.client = (none, client, answered))
      (discarded : discardReply replica = (none, silenced)) :
      Served session command { session with client, master := answered, replica := silenced }
  | replica (routed : route session.replica.isSome command.name = .replica)
      (present : session.replica = some link)
      (exchanged : exchange session.client command.raw link = (none, client, answered)) :
      Served session command
        { session with client, replica := some answered, reads := session.reads + 1 }
  | master (routed : route session.replica.isSome command.name = .master)
      (exchanged : exchange session.client command.raw session.master = (none, client, answered)) :
      Served session command
        { session with client, master := answered, writes := session.writes + 1 }

theorem proceed_again {name : Bytes} {session after : Session} {fault : Option Fault} :
    proceed name session fault = .again after ↔ fault = none ∧ after = session := by
  cases fault with
  | none => simp [proceed, eq_comm]
  | some fault => simp [proceed]

theorem stateCommand_again {session after : Session} {raw : Bytes} :
    session.stateCommand raw = (none, after) ↔
      ∃ master replica client answered silenced,
        session.master.send raw = (true, master) ∧
        sendReplica raw session.replica = (true, replica) ∧
        master.relay session.client = (none, client, answered) ∧
        discardReply replica = (none, silenced) ∧
        after = { session with client, master := answered, replica := silenced } := by
  constructor
  · intro success
    unfold Session.stateCommand at success
    split at success
    · simp at success
    · rename_i master forwarded
      split at success
      · simp at success
      · rename_i replica copied
        split at success
        · simp at success
        · rename_i client answered relayed
          split at success
          rename_i failure silenced discarded
          simp only [Prod.mk.injEq] at success
          obtain ⟨rfl, rfl⟩ := success
          exact ⟨_, _, _, _, _, forwarded, copied, relayed, discarded, rfl⟩
  · rintro ⟨master, replica, client, answered, silenced, forwarded, copied, relayed, discarded, rfl⟩
    simp [Session.stateCommand, forwarded, copied, relayed, discarded]

theorem act_dropped {session : Session} {command : Command}
    (routed : route session.replica.isSome command.name = .dropped) :
    session.act command = .again session :=
  if_pos (route_dropped.mp routed)

theorem act_pin {session : Session} {command : Command}
    (routed : route session.replica.isSome command.name = .pin) :
    session.act command =
      .quit (session.pin (some command.raw)).1 (session.pin (some command.raw)).2 := by
  obtain ⟨present, pin⟩ := route_pin.mp routed
  rw [Session.act, if_neg present, if_pos pin]

theorem act_both {session : Session} {command : Command}
    (routed : route session.replica.isSome command.name = .both) :
    session.act command =
      proceed command.name (session.stateCommand command.raw).2
        ((session.stateCommand command.raw).1.map .forwarding) := by
  obtain ⟨present, pin, state⟩ := route_both.mp routed
  simp [Session.act, present, pin, state]

theorem act_replica {session : Session} {command : Command} {link : Link}
    (routed : route session.replica.isSome command.name = .replica)
    (healthy : session.replica = some link) :
    session.act command =
      proceed command.name
        { session with
          client := (exchange session.client command.raw link).2.1
          replica := some (exchange session.client command.raw link).2.2
          reads := session.reads + 1 }
        (exchange session.client command.raw link).1 := by
  obtain ⟨present, pin, state, _, direction⟩ := route_replica.mp routed
  simp [Session.act, present, pin, state, healthy, direction]

theorem act_master {session : Session} {command : Command}
    (routed : route session.replica.isSome command.name = .master) :
    session.act command =
      proceed command.name
        { session with
          client := (exchange session.client command.raw session.master).2.1
          master := (exchange session.client command.raw session.master).2.2
          writes := session.writes + 1 }
        (exchange session.client command.raw session.master).1 := by
  obtain ⟨present, pin, state, elsewhere⟩ := route_master.mp routed
  simp only [Session.act, present, pin, state]
  cases healthy : session.replica with
  | none => rfl
  | some link =>
    cases direction : getDirection command.name with
    | read => exact absurd ⟨by simp [healthy], direction⟩ elsewhere
    | write => rfl

theorem act_again {session after : Session} {command : Command} :
    session.act command = .again after ↔ Served session command after := by
  constructor
  · intro again
    cases routed : route session.replica.isSome command.name with
    | dropped =>
      rw [act_dropped routed] at again
      cases again
      exact .dropped routed
    | pin =>
      rw [act_pin routed] at again
      cases again
    | both =>
      rw [act_both routed, proceed_again] at again
      obtain ⟨success, rfl⟩ := again
      have done : session.stateCommand command.raw =
          (none, (session.stateCommand command.raw).2) :=
        Prod.ext (Option.map_eq_none_iff.mp success) rfl
      obtain ⟨_, _, _, _, _, forwarded, copied, relayed, discarded, same⟩ :=
        stateCommand_again.mp done
      rw [same]
      exact .both routed forwarded copied relayed discarded
    | replica =>
      obtain ⟨link, healthy⟩ := Option.isSome_iff_exists.mp (route_replica.mp routed).2.2.2.1
      rw [act_replica routed healthy, proceed_again] at again
      obtain ⟨success, rfl⟩ := again
      exact .replica routed healthy (Prod.ext success rfl)
    | master =>
      rw [act_master routed, proceed_again] at again
      obtain ⟨success, rfl⟩ := again
      exact .master routed (Prod.ext success rfl)
  · intro served
    cases served with
    | dropped routed => exact act_dropped routed
    | both routed forwarded copied relayed discarded =>
      rw [act_both routed, stateCommand_again.mpr
        ⟨_, _, _, _, _, forwarded, copied, relayed, discarded, rfl⟩]
      rfl
    | replica routed healthy exchanged =>
      rw [act_replica routed healthy, exchanged]
      rfl
    | master routed exchanged =>
      rw [act_master routed, exchanged]
      rfl

theorem Served.clientR (served : Served session command after) :
    after.clientR = session.clientR := by
  cases served <;> rfl

theorem Served.closed (served : Served session command after) :
    after.closed = session.closed := by
  cases served <;> rfl

theorem turn_again {session after : Session} :
    session.turn = .again after ↔
      ∃ command clientR, readCommand session.clientR = (.ok command, clientR) ∧
        Served { session with clientR } command after := by
  constructor
  · intro again
    unfold Session.turn at again
    split at again
    · cases again
    · cases again
    · cases again
    · rename_i command clientR success
      exact ⟨command, clientR, success, act_again.mp again⟩
  · rintro ⟨command, clientR, success, served⟩
    rw [Session.turn, success]
    exact act_again.mpr served

/-- What the last turn of a session has done. -/
inductive Ended (session : Session) : Closing → Session → Prop where
  | finished (read : readCommand session.clientR = (.error .eof, clientR)) :
      Ended session .finished { session with clientR }
  | malformed {failure : Error} (read : readCommand session.clientR = (.error failure, clientR))
      (ordinary : failure ≠ .inlineCommand) :
      Ended session (.malformed failure) { session with clientR }
  | inline (read : readCommand session.clientR = (.error .inlineCommand, clientR))
      (pinned : { session with clientR }.pin none = (closing, after)) :
      Ended session closing after
  | pin (read : readCommand session.clientR = (.ok command, clientR))
      (routed : route session.replica.isSome command.name = .pin)
      (pinned : { session with clientR }.pin (some command.raw) = (closing, after)) :
      Ended session closing after
  | failed (read : readCommand session.clientR = (.ok command, clientR)) (fault : Fault)
      (after : Session) :
      Ended session (.failed command.name fault) after

private theorem proceed_quit {name : Bytes} {session after : Session} {fault : Option Fault}
    (quit : proceed name session fault = .quit closing after) :
    ∃ fault, closing = .failed name fault := by
  cases fault with
  | none => cases quit
  | some fault =>
    cases quit
    exact ⟨fault, rfl⟩

/-- A command ends the session by pinning it or by failing. -/
theorem act_quit {session after : Session} {command : Command}
    (quit : session.act command = .quit closing after) :
    (route session.replica.isSome command.name = .pin ∧
        session.pin (some command.raw) = (closing, after)) ∨
      ∃ fault, closing = .failed command.name fault := by
  cases routed : route session.replica.isSome command.name with
  | dropped =>
    rw [act_dropped routed] at quit
    cases quit
  | pin =>
    rw [act_pin routed] at quit
    cases quit
    exact .inl ⟨rfl, rfl⟩
  | both =>
    rw [act_both routed] at quit
    exact .inr (proceed_quit quit)
  | replica =>
    obtain ⟨link, healthy⟩ := Option.isSome_iff_exists.mp (route_replica.mp routed).2.2.2.1
    rw [act_replica routed healthy] at quit
    exact .inr (proceed_quit quit)
  | master =>
    rw [act_master routed] at quit
    exact .inr (proceed_quit quit)

theorem turn_quit {session after : Session} (quit : session.turn = .quit closing after) :
    Ended session closing after := by
  unfold Session.turn at quit
  split at quit
  · rename_i clientR read
    cases quit
    exact .inline read rfl
  · rename_i clientR read
    cases quit
    exact .finished read
  · rename_i failure clientR ordinary _ read
    cases quit
    exact .malformed read ordinary
  · rename_i command clientR read
    rcases act_quit quit with ⟨routed, pinned⟩ | ⟨fault, rfl⟩
    · exact .pin read routed pinned
    · exact .failed read fault after

theorem turn_pin {session : Session} {command : Command} {clientR : Reader}
    (read : readCommand session.clientR = (.ok command, clientR))
    (routed : route session.replica.isSome command.name = .pin) :
    session.turn = .quit ({ session with clientR }.pin (some command.raw)).1
      ({ session with clientR }.pin (some command.raw)).2 := by
  rw [Session.turn, read]
  exact act_pin routed

theorem turn_inline {session : Session} {clientR : Reader}
    (read : readCommand session.clientR = (.error .inlineCommand, clientR)) :
    session.turn = .quit ({ session with clientR }.pin none).1
      ({ session with clientR }.pin none).2 := by
  rw [Session.turn, read]

private theorem turn_shorter {session after : Session} (again : session.turn = .again after) :
    after.clientR.unread.length < session.clientR.unread.length := by
  obtain ⟨command, clientR, success, served⟩ := turn_again.mp again
  rw [served.clientR]
  exact readCommand_consumes success

def Session.run (session : Session) : Closing × Session :=
  match progress : session.turn with
  | .quit closing after => (closing, after)
  | .again after => after.run
termination_by session.clientR.unread.length
decreasing_by exact turn_shorter progress

/-- The session after so many turns, if it is still running then. -/
def Session.turns : Nat → Session → Option Session
  | 0, session => some session
  | count + 1, session =>
    match session.turn with
    | .quit _ _ => none
    | .again after => after.turns count

theorem run_again {session after : Session} (again : session.turn = .again after) :
    session.run = after.run := by
  rw [Session.run]
  split
  · rename_i same
    rw [again] at same
    cases same
  · rename_i same
    rw [again] at same
    cases same
    rfl

theorem run_quit {session after : Session} (quit : session.turn = .quit closing after) :
    session.run = (closing, after) := by
  rw [Session.run]
  split
  · rename_i same
    rw [quit] at same
    cases same
    rfl
  · rename_i same
    rw [quit] at same
    cases same

theorem Link.send_ok {link after : Link} {raw : Bytes} (success : link.send raw = (true, after)) :
    after.sent.out = link.sent.out ++ raw ∧ after.replies = link.replies := by
  simp only [Link.send, Prod.mk.injEq] at success
  obtain ⟨accepted, rfl⟩ := success
  exact ⟨Writer.write_ok (Prod.ext accepted rfl), rfl⟩

theorem Link.relay_sent {link after : Link} {writer answered : Writer} {outcome : Option Error}
    (relayed : link.relay writer = (outcome, answered, after)) : after.sent = link.sent := by
  simp only [Link.relay, Prod.mk.injEq] at relayed
  obtain ⟨_, _, rfl⟩ := relayed
  rfl

theorem exchange_ok {client answered : Writer} {raw : Bytes} {link after : Link} :
    exchange client raw link = (none, answered, after) ↔
      ∃ middle, link.send raw = (true, middle) ∧
        middle.relay client = (none, answered, after) := by
  constructor
  · intro success
    unfold exchange at success
    split at success
    · simp at success
    · rename_i middle forwarded
      split at success
      · simp at success
      · rename_i relayed
        cases success
        exact ⟨middle, forwarded, relayed⟩
  · rintro ⟨middle, forwarded, relayed⟩
    simp [exchange, forwarded, relayed]

theorem exchange_sent {client answered : Writer} {raw : Bytes} {link after : Link}
    (success : exchange client raw link = (none, answered, after)) :
    after.sent.out = link.sent.out ++ raw := by
  obtain ⟨middle, forwarded, relayed⟩ := exchange_ok.mp success
  rw [Link.relay_sent relayed, (Link.send_ok forwarded).1]

theorem sendReplica_ok {raw : Bytes} {replica after : Option Link}
    (success : sendReplica raw replica = (true, after)) :
    after.map (·.sent.out) = replica.map (·.sent.out ++ raw) := by
  cases replica with
  | none =>
    cases success
    rfl
  | some link =>
    simp only [sendReplica, Prod.mk.injEq] at success
    obtain ⟨accepted, rfl⟩ := success
    simp [(Link.send_ok (Prod.ext accepted rfl)).1]

theorem discardReply_sent {replica after : Option Link} {outcome : Option Error}
    (discarded : discardReply replica = (outcome, after)) :
    after.map (·.sent.out) = replica.map (·.sent.out) := by
  cases replica with
  | none =>
    cases discarded
    rfl
  | some link =>
    simp only [discardReply, Prod.mk.injEq] at discarded
    obtain ⟨_, rfl⟩ := discarded
    rfl

/-- The pipes of a pinned session; the upstream one carries everything the client
sends from then on, the bytes already buffered included. -/
theorem pipe_upstream {session after : Session}
    (piped : session.pipe = (.pinned true downstream, after)) :
    after.master.sent.out = session.master.sent.out ++ session.clientR.unread ∧
      after.replica = session.replica ∧ after.closed = session.closed := by
  simp only [Session.pipe, Prod.mk.injEq, Closing.pinned.injEq] at piped
  obtain ⟨⟨upstream, _⟩, rfl⟩ := piped
  exact ⟨(copyAll_ok (Prod.ext upstream rfl)).1, rfl, rfl⟩

end SentinelProxy.Routing
