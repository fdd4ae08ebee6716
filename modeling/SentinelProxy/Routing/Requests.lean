import SentinelProxy.Routing.Session

/-! The request side of a routed session: what each backend is sent, as a partition
of the client's byte stream. -/

namespace SentinelProxy.Routing

open SentinelProxy.Stream SentinelProxy.Text SentinelProxy.Resp

/-- A session as it is opened, on fresh or already buffered connections. -/
def openSession (client : Writer) (clientR : Reader) (master : Link) (replica : Option Link) :
    Session :=
  ⟨client, clientR, master, replica, none, 0, 0⟩

/-- The session forwarded and relayed everything it set out to: it ended with the
client's stream, at a malformed command, or as a pipe that drained the client. -/
def Closing.relayed : Closing → Bool
  | .finished => true
  | .malformed _ => true
  | .failed _ _ => false
  | .refused => false
  | .pinned upstream _ => upstream

def pinning (command : Command) : Bool := listed pinCommands command.name

/-- In the read table, and neither a state nor a pin command. -/
def readRouted (command : Command) : Bool :=
  listed readOnlyCommands command.name && !listed stateCommands command.name && !pinning command

/-- Neither dropped nor read-routed to a replica. -/
def forMaster (hasReplica : Bool) (command : Command) : Bool :=
  !command.name.isEmpty && !(hasReplica && readRouted command)

def forReplica (command : Command) : Bool :=
  listed stateCommands command.name || readRouted command

/-- What the replica has been sent, whether its connection is still open or not. -/
def Session.replicaSent (session : Session) : Option Bytes :=
  (session.replica.or session.closed).map (·.sent.out)

theorem stateCommands_disjoint {name : Bytes} (state : listed stateCommands name = true) :
    name ≠ [] ∧ listed pinCommands name = false := by
  have table : ∀ entry ∈ stateCommands, bytesOf entry ≠ [] ∧
      listed pinCommands (bytesOf entry) = false := by
    decide +kernel
  obtain ⟨entry, member, rfl⟩ := listed_iff.mp state
  exact table entry member

private theorem readOnlyCommands_nonempty : listed readOnlyCommands [] = false := by
  decide +kernel

theorem name_upper (text : CommandText) : ∃ payload, text.name = toUpper payload := by
  unfold CommandText.name
  cases text.arguments with
  | nil => exact ⟨[], rfl⟩
  | cons argument others => exact ⟨argument.payload, rfl⟩

theorem readCommand_name {reader after : Reader} {command : Command}
    (success : readCommand reader = (.ok command, after)) :
    ∃ payload, command.name = toUpper payload := by
  obtain ⟨text, _, nameIs, _⟩ := readCommand_sound success
  rw [nameIs]
  exact name_upper text

private theorem forMaster_route {command : Command}
    (upper : ∃ payload, command.name = toUpper payload)
    (hasReplica : Bool) :
    forMaster hasReplica command = true ↔ route hasReplica command.name = .pin ∨
      route hasReplica command.name = .both ∨ route hasReplica command.name = .master := by
  obtain ⟨payload, same⟩ := upper
  have direction := getDirection_toUpper payload
  rw [← same] at direction
  simp only [route_pin, route_both, route_master, direction, forMaster, readRouted, pinning,
    Bool.and_eq_true, Bool.not_eq_true', List.isEmpty_eq_false_iff]
  have disjoint := @stateCommands_disjoint command.name
  grind

private theorem forReplica_route {command : Command}
    (upper : ∃ payload, command.name = toUpper payload) :
    forReplica command = true ↔
      route true command.name = .both ∨ route true command.name = .replica := by
  obtain ⟨payload, same⟩ := upper
  have direction := getDirection_toUpper payload
  rw [← same] at direction
  simp only [route_both, route_replica, direction, forReplica, readRouted, pinning]
  have disjoint := @stateCommands_disjoint command.name
  have empty := readOnlyCommands_nonempty
  grind

section Routes

variable {hasReplica : Bool} {command : Command}

theorem route_dropped_for (upper : ∃ payload, command.name = toUpper payload)
    (routed : route hasReplica command.name = .dropped) :
    ¬ forMaster hasReplica command = true ∧ ¬ forReplica command = true := by
  constructor
  · simp [forMaster_route upper, routed]
  · rw [forReplica_route upper]
    simp [route, route_dropped.mp routed]

theorem route_both_for (upper : ∃ payload, command.name = toUpper payload)
    (routed : route hasReplica command.name = .both) :
    forMaster hasReplica command = true ∧ forReplica command = true := by
  constructor
  · simp [forMaster_route upper, routed]
  · rw [forReplica_route upper]
    exact .inl (route_both.mpr (route_both.mp routed))

theorem route_replica_for (upper : ∃ payload, command.name = toUpper payload)
    (routed : route hasReplica command.name = .replica) :
    ¬ forMaster hasReplica command = true ∧ forReplica command = true := by
  constructor
  · simp [forMaster_route upper, routed]
  · obtain rfl : hasReplica = true := (route_replica.mp routed).2.2.2.1
    exact (forReplica_route upper).mpr (.inr routed)

/-- A session that has a replica keeps from it what it routes to the master. -/
theorem route_master_for (upper : ∃ payload, command.name = toUpper payload)
    (routed : route hasReplica command.name = .master) :
    forMaster hasReplica command = true ∧ (hasReplica = true → ¬ forReplica command = true) := by
  constructor
  · simp [forMaster_route upper, routed]
  · rintro rfl
    simp [forReplica_route upper, routed]

end Routes

/-- What a served command adds to the stream of each backend. -/
theorem Served.requests (served : Served session command after)
    (upper : ∃ payload, command.name = toUpper payload) :
    after.master.sent.out = session.master.sent.out ++
        (if forMaster session.replica.isSome command then command.raw else []) ∧
      after.replica.map (·.sent.out) = session.replica.map
        (·.sent.out ++ if forReplica command then command.raw else []) := by
  cases served with
  | dropped routed =>
    obtain ⟨notMaster, notReplica⟩ := route_dropped_for upper routed
    simp [notMaster, notReplica]
  | both routed forwarded copied relayed discarded =>
    obtain ⟨toMaster, toReplica⟩ := route_both_for upper routed
    rw [if_pos toMaster, if_pos toReplica]
    refine ⟨?_, ?_⟩
    · rw [Link.relay_sent relayed, (Link.send_ok forwarded).1]
    · rw [discardReply_sent discarded, sendReplica_ok copied]
  | replica routed healthy exchanged =>
    obtain ⟨notMaster, toReplica⟩ := route_replica_for upper routed
    rw [if_neg notMaster, if_pos toReplica, healthy]
    simp [exchange_sent exchanged]
  | master routed exchanged =>
    obtain ⟨toMaster, notReplica⟩ := route_master_for upper routed
    rw [if_pos toMaster]
    refine ⟨exchange_sent exchanged, ?_⟩
    cases healthy : session.replica with
    | none => rfl
    | some link =>
      rw [healthy] at notReplica
      simp [notReplica rfl]

theorem Served.hasReplica (served : Served session command after) :
    after.replica.isSome = session.replica.isSome := by
  cases served with
  | dropped routed => rfl
  | both routed forwarded copied relayed discarded =>
    have sent := (discardReply_sent discarded).trans (sendReplica_ok copied)
    have same := congrArg Option.isSome sent
    simpa using same
  | replica routed healthy exchanged => simp [healthy]
  | master routed exchanged => rfl

/-- The stream of the client against what the session made of it: the commands it
read, the rest of the stream, and whether that rest was piped to the master. -/
structure Partition (session after : Session) (commands : List Command) (tail : Bytes)
    (piped : Bool) : Prop where
  stream : session.clientR.unread = commands.flatMap Command.raw ++ tail
  master : after.master.sent.out = session.master.sent.out ++
    ((commands.filter (forMaster session.replica.isSome)).flatMap Command.raw ++
      if piped then tail else [])
  replica : after.replicaSent = session.replica.map
    (·.sent.out ++ (commands.filter forReplica).flatMap Command.raw)

theorem Partition.cons {session middle after : Session} {command : Command} {clientR : Reader}
    (read : readCommand session.clientR = (.ok command, clientR))
    (served : Served { session with clientR } command middle)
    (rest : Partition middle after commands tail piped) :
    Partition session after (command :: commands) tail piped := by
  obtain ⟨text, _, _, consumed⟩ := readCommand_sound read
  obtain ⟨toMaster, toReplica⟩ := served.requests (readCommand_name read)
  have same := served.hasReplica
  have left : middle.clientR = clientR := served.clientR
  simp only at toMaster toReplica same
  constructor
  · rw [consumed, ← left, rest.stream, List.flatMap_cons, List.append_assoc]
  · rw [rest.master, toMaster, same, List.filter_cons]
    split <;> simp
  · have step := congrArg (Option.map (· ++ (commands.filter forReplica).flatMap Command.raw))
      toReplica
    simp only [Option.map_map, Function.comp_def] at step
    rw [rest.replica, step, List.filter_cons]
    split <;> simp

/-- A session that never forwarded what is left of the stream. -/
theorem Partition.stopped {session : Session} (clientR : Reader) (fresh : session.closed = none) :
    Partition session { session with clientR } [] session.clientR.unread false := by
  constructor
  · simp
  · simp
  · simp [Session.replicaSent, fresh]

private theorem pipe_relayed {session after : Session} (piped : session.pipe = (closing, after))
    (relayed : closing.relayed = true) :
    after.master.sent.out = session.master.sent.out ++ session.clientR.unread ∧
      after.replica = session.replica ∧ after.closed = session.closed := by
  have shape : ∃ upstream downstream, closing = .pinned upstream downstream :=
    ⟨_, _, (congrArg Prod.fst piped).symm⟩
  obtain ⟨upstream, downstream, rfl⟩ := shape
  obtain rfl : upstream = true := relayed
  exact pipe_upstream piped

/-- A pinned session: the pinning command and everything behind it go to the
master, and the replica is left as it was. -/
theorem pin_relayed {session after : Session} {raw : Option Bytes}
    (pinned : session.pin raw = (closing, after)) (relayed : closing.relayed = true) :
    after.master.sent.out =
        session.master.sent.out ++ (raw.getD [] ++ session.clientR.unread) ∧
      after.replicaSent = session.replica.map (·.sent.out) := by
  cases raw with
  | none =>
    obtain ⟨upstream, noReplica, closed⟩ := pipe_relayed pinned relayed
    exact ⟨upstream, by simp [Session.replicaSent, noReplica, closed]⟩
  | some raw =>
    simp only [Session.pin] at pinned
    split at pinned
    · cases pinned
      cases relayed
    · rename_i master forwarded
      obtain ⟨upstream, noReplica, closed⟩ := pipe_relayed pinned relayed
      refine ⟨?_, by simp [Session.replicaSent, noReplica, closed]⟩
      rw [upstream, (Link.send_ok forwarded).1, List.append_assoc]
      rfl

/-- After the last command the rest of the stream is piped to the master exactly
when the session was pinned or met an inline command. -/
def pipes : Option Error → Bool
  | none => true
  | some .inlineCommand => true
  | some _ => false

private theorem pipes_ordinary {failure : Error} (ordinary : failure ≠ .inlineCommand) :
    pipes (some failure) = false := by
  cases failure <;> first | rfl | exact absurd rfl ordinary

private theorem pinned_requests {command : Command}
    (upper : ∃ payload, command.name = toUpper payload)
    {hasReplica : Bool} (routed : route hasReplica command.name = .pin) :
    forMaster hasReplica command = true ∧ forReplica command = false := by
  refine ⟨(forMaster_route upper hasReplica).mpr (.inl routed), Bool.eq_false_iff.mpr ?_⟩
  have pin : route true command.name = .pin := route_pin.mpr (route_pin.mp routed)
  rw [Ne, forReplica_route upper, pin]
  simp

theorem Served.ordinary (served : Served session command after) : pinning command = false := by
  apply Bool.eq_false_iff.mpr
  intro pin
  have routed : route session.replica.isSome command.name = .pin :=
    route_pin.mpr ⟨pinCommands_named pin, pin⟩
  cases served with
  | dropped other => cases other.symm.trans routed
  | both other => cases other.symm.trans routed
  | replica other => cases other.symm.trans routed
  | master other => cases other.symm.trans routed

theorem Ended.partition (ended : Ended session closing after) (fresh : session.closed = none)
    (relayed : closing.relayed = true) :
    ∃ tail, Partition session after (readCommands pinning session.clientR).1 tail
      (pipes (readCommands pinning session.clientR).2.1) := by
  cases ended with
  | finished read =>
    rw [readCommands_error read]
    exact ⟨_, .stopped _ fresh⟩
  | malformed read ordinary =>
    rw [readCommands_error read, pipes_ordinary ordinary]
    exact ⟨_, .stopped _ fresh⟩
  | inline read pinned =>
    obtain ⟨unread, _⟩ := readCommand_inline read
    obtain ⟨upstream, replica⟩ := pin_relayed pinned relayed
    rw [readCommands_error read]
    refine ⟨session.clientR.unread, by simp, ?_, ?_⟩
    · simpa [pipes, unread] using upstream
    · simpa using replica
  | pin read routed pinned =>
    obtain ⟨_, _, _, consumed⟩ := readCommand_sound read
    obtain ⟨toMaster, notReplica⟩ := pinned_requests (readCommand_name read) routed
    obtain ⟨upstream, replica⟩ := pin_relayed pinned relayed
    rw [readCommands_ok read, if_pos (show pinning _ = true from (route_pin.mp routed).2)]
    refine ⟨_, by simpa using consumed, ?_, ?_⟩
    · simpa [pipes, toMaster] using upstream
    · simpa [notReplica] using replica
  | failed read fault => cases relayed

private theorem run_partition (session : Session) (fresh : session.closed = none)
    (relayed : session.run.1.relayed = true) :
    ∃ tail, Partition session session.run.2 (readCommands pinning session.clientR).1 tail
      (pipes (readCommands pinning session.clientR).2.1) := by
  fun_induction Session.run session with
  | case1 session closing after quit => exact (turn_quit quit).partition fresh relayed
  | case2 session after again ih =>
    obtain ⟨command, clientR, read, served⟩ := turn_again.mp again
    obtain ⟨tail, rest⟩ := ih (by rw [served.closed]; exact fresh) relayed
    have left : after.clientR = clientR := served.clientR
    rw [readCommands_ok read, served.ordinary]
    rw [left] at rest
    exact ⟨tail, .cons read served rest⟩

/-- Requests are partitioned, in order and in whole commands: of the commands read
from the client the master gets those that are neither dropped nor read-routed, the
replica the state commands and the read-routed ones, and from the first pin or
inline command on the rest of the stream goes to the master byte for byte. A
malformed or truncated command reaches no backend. -/
theorem run_requests (client : Writer) (clientR : Reader) (master : Link)
    (replica : Option Link)
    (relayed : (openSession client clientR master replica).run.1.relayed = true) :
    ∃ tail,
      Partition (openSession client clientR master replica)
        (openSession client clientR master replica).run.2 (readCommands pinning clientR).1 tail
        (pipes (readCommands pinning clientR).2.1) ∧
      (∀ command ∈ (readCommands pinning clientR).1, ∃ text : CommandText,
        command.raw = text.bytes ∧ command.name = text.name) ∧
      Stop pinning (readCommands pinning clientR).1 (readCommands pinning clientR).2.1 tail := by
  obtain ⟨tail, parts⟩ := run_partition (openSession client clientR master replica) rfl relayed
  obtain ⟨rest, stream, grammar, halt⟩ := readCommands_sound pinning clientR
  obtain rfl : rest = tail := List.append_cancel_left (stream.symm.trans parts.stream)
  exact ⟨rest, parts, grammar, halt⟩

/-- A read, a state command, a pin command and a rest, all in one delivery. -/
def pinnedStream : Bytes :=
  bytesOf ("*2\r\n$3\r\nGET\r\n$1\r\nk\r\n*2\r\n$6\r\nselect\r\n$1\r\n1\r\n" ++
    "*1\r\n$5\r\nMULTI\r\n*1\r\n$4\r\nEXEC\r\n")

theorem run_requests_pinned :
    ∃ tail,
      Partition
        (openSession ⟨[], none⟩ (newReader [pinnedStream])
          ⟨⟨[], none⟩, newReader [bytesOf "+OK\r\n+OK\r\n"]⟩
          (some ⟨⟨[], none⟩, newReader [bytesOf "$-1\r\n+OK\r\n"]⟩))
        (openSession ⟨[], none⟩ (newReader [pinnedStream])
          ⟨⟨[], none⟩, newReader [bytesOf "+OK\r\n+OK\r\n"]⟩
          (some ⟨⟨[], none⟩, newReader [bytesOf "$-1\r\n+OK\r\n"]⟩)).run.2
        (readCommands pinning (newReader [pinnedStream])).1 tail
        (pipes (readCommands pinning (newReader [pinnedStream])).2.1) ∧
      (∀ command ∈ (readCommands pinning (newReader [pinnedStream])).1, ∃ text : CommandText,
        command.raw = text.bytes ∧ command.name = text.name) ∧
      Stop pinning (readCommands pinning (newReader [pinnedStream])).1
        (readCommands pinning (newReader [pinnedStream])).2.1 tail :=
  run_requests _ _ _ _ (by decide +kernel)

end SentinelProxy.Routing
