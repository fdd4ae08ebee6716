import SentinelProxy.Routing.Requests

/-! The reply side of a routed session: which reply the client gets for which
command, and where the reply streams stand in between. -/

namespace SentinelProxy.Routing

open SentinelProxy.Stream SentinelProxy.Text SentinelProxy.Resp

/-- A backend that answers every command with exactly one reply; the answer may
depend on everything it was sent before. -/
structure Backend where
  answer : List Bytes → Bytes → Bytes
  whole : ∀ before raw, WholeReply (answer before raw)

def Backend.replies (backend : Backend) (before : List Bytes) : List Bytes → Bytes
  | [] => []
  | raw :: raws => backend.answer before raw ++ backend.replies (before ++ [raw]) raws

/-- The commands the master is sent, of a list of commands. -/
def masterShare (hasReplica : Bool) (commands : List Command) : List Bytes :=
  (commands.filter (forMaster hasReplica)).map Command.raw

def replicaShare (commands : List Command) : List Bytes :=
  (commands.filter forReplica).map Command.raw

/-- What the client gets for a command that follows the given ones: the reply of
the backend the command belongs to, the master's for a state command, and nothing
for a command without a name. -/
def segment (masterB replicaB : Backend) (hasReplica : Bool) (before : List Command)
    (command : Command) : Bytes :=
  if command.name = [] then []
  else if hasReplica && readRouted command then
    replicaB.answer (replicaShare before) command.raw
  else masterB.answer (masterShare hasReplica before) command.raw

def segments (masterB replicaB : Backend) (hasReplica : Bool) (before : List Command) :
    List Command → Bytes
  | [] => []
  | command :: commands =>
    segment masterB replicaB hasReplica before command ++
      segments masterB replicaB hasReplica (before ++ [command]) commands

/-- A connection to a backend that has answered `before`, will answer `pending`,
and sends `tail` after that; the replies to come are all that is unread. -/
structure Answering (backend : Backend) (before pending : List Bytes) (tail : Bytes)
    (link : Link) : Prop where
  writable : link.sent.room = none
  stream : link.replies.unread = backend.replies before pending ++ tail

/-- A session that has dealt with the commands `before` and whose backends are
ready for `pending`. -/
structure Ready (masterB replicaB : Backend) (masterTail replicaTail : Bytes)
    (before pending : List Command) (session : Session) : Prop where
  client : session.client.room = none
  master : Answering masterB (masterShare session.replica.isSome before)
    (masterShare session.replica.isSome pending) masterTail session.master
  replica : ∀ link, session.replica = some link →
    Answering replicaB (replicaShare before) (replicaShare pending) replicaTail link

theorem Answering.send (answering : Answering backend before pending tail link) (raw : Bytes) :
    ∃ after, link.send raw = (true, after) ∧ Answering backend before pending tail after := by
  refine ⟨⟨⟨link.sent.out ++ raw, none⟩, link.replies⟩, ?_, rfl, answering.stream⟩
  rw [Link.send, Writer.write_unbounded answering.writable]

/-- The next reply is relayed as a whole, and nothing else is. -/
theorem Answering.relay (answering : Answering backend before (raw :: pending) tail link)
    {writer : Writer} (unbounded : writer.room = none) :
    ∃ after, link.relay writer = (none, ⟨writer.out ++ backend.answer before raw, none⟩, after) ∧
      Answering backend (before ++ [raw]) pending tail after := by
  have stream := answering.stream
  rw [Backend.replies, List.append_assoc] at stream
  obtain ⟨replies, copied, left⟩ := copyRESP_segment (backend.whole before raw) unbounded stream
  exact ⟨{ link with replies }, by rw [Link.relay, copied], answering.writable, left⟩

theorem Answering.exchange (answering : Answering backend before (raw :: pending) tail link)
    {client : Writer} (unbounded : client.room = none) :
    ∃ after, exchange client raw link =
        (none, ⟨client.out ++ backend.answer before raw, none⟩, after) ∧
      Answering backend (before ++ [raw]) pending tail after := by
  obtain ⟨middle, forwarded, ready⟩ := answering.send raw
  obtain ⟨after, relayed, left⟩ := ready.relay unbounded
  exact ⟨after, exchange_ok.mpr ⟨middle, forwarded, relayed⟩, left⟩

private theorem masterShare_cons (hasReplica : Bool) (command : Command) (commands : List Command) :
    masterShare hasReplica (command :: commands) =
      (if forMaster hasReplica command then [command.raw] else []) ++
        masterShare hasReplica commands := by
  simp only [masterShare, List.filter_cons]
  split <;> simp

private theorem masterShare_append (hasReplica : Bool) (before after : List Command) :
    masterShare hasReplica (before ++ after) =
      masterShare hasReplica before ++ masterShare hasReplica after := by
  simp [masterShare]

private theorem replicaShare_cons (command : Command) (commands : List Command) :
    replicaShare (command :: commands) =
      (if forReplica command then [command.raw] else []) ++ replicaShare commands := by
  simp only [replicaShare, List.filter_cons]
  split <;> simp

private theorem replicaShare_append (before after : List Command) :
    replicaShare (before ++ after) = replicaShare before ++ replicaShare after := by
  simp [replicaShare]

section Step

variable {masterB replicaB : Backend} {masterTail replicaTail : Bytes}
  {before pending : List Command} {command : Command} {session : Session}

/-- The master is not sent the command: its stream stays where it is. -/
theorem Ready.master_idle
    (ready : Ready masterB replicaB masterTail replicaTail before (command :: pending) session)
    (notMaster : ¬ forMaster session.replica.isSome command = true) :
    Answering masterB (masterShare session.replica.isSome (before ++ [command]))
      (masterShare session.replica.isSome pending) masterTail session.master := by
  have master := ready.master
  rw [masterShare_cons, if_neg notMaster] at master
  rw [masterShare_append, masterShare_cons, if_neg notMaster]
  simpa [masterShare] using master

/-- The master is sent the command: its stream stands at the reply to it. -/
theorem Ready.master_next
    (ready : Ready masterB replicaB masterTail replicaTail before (command :: pending) session)
    (toMaster : forMaster session.replica.isSome command = true) :
    Answering masterB (masterShare session.replica.isSome before)
      (command.raw :: masterShare session.replica.isSome pending) masterTail session.master := by
  have master := ready.master
  rwa [masterShare_cons, if_pos toMaster] at master

private theorem masterShare_next {hasReplica : Bool}
    (toMaster : forMaster hasReplica command = true) :
    masterShare hasReplica (before ++ [command]) =
      masterShare hasReplica before ++ [command.raw] := by
  rw [masterShare_append, masterShare_cons, if_pos toMaster]
  rfl

theorem Ready.replica_idle
    (ready : Ready masterB replicaB masterTail replicaTail before (command :: pending) session)
    (notReplica : ¬ forReplica command = true) (link : Link)
    (healthy : session.replica = some link) :
    Answering replicaB (replicaShare (before ++ [command])) (replicaShare pending) replicaTail
      link := by
  have replica := ready.replica link healthy
  rw [replicaShare_cons, if_neg notReplica] at replica
  rw [replicaShare_append, replicaShare_cons, if_neg notReplica]
  simpa [replicaShare] using replica

theorem Ready.replica_next
    (ready : Ready masterB replicaB masterTail replicaTail before (command :: pending) session)
    (toReplica : forReplica command = true) (link : Link) (healthy : session.replica = some link) :
    Answering replicaB (replicaShare before) (command.raw :: replicaShare pending) replicaTail
      link := by
  have replica := ready.replica link healthy
  rwa [replicaShare_cons, if_pos toReplica] at replica

private theorem replicaShare_next (toReplica : forReplica command = true) :
    replicaShare (before ++ [command]) = replicaShare before ++ [command.raw] := by
  rw [replicaShare_append, replicaShare_cons, if_pos toReplica]
  rfl

private theorem segment_master {hasReplica : Bool}
    (toMaster : forMaster hasReplica command = true) :
    segment masterB replicaB hasReplica before command =
      masterB.answer (masterShare hasReplica before) command.raw := by
  simp only [forMaster, Bool.and_eq_true, Bool.not_eq_true', List.isEmpty_eq_false_iff] at toMaster
  obtain ⟨named, elsewhere⟩ := toMaster
  simp [segment, named, elsewhere]

private theorem segment_replica {hasReplica : Bool} (named : command.name ≠ [])
    (notMaster : ¬ forMaster hasReplica command = true) :
    segment masterB replicaB hasReplica before command =
      replicaB.answer (replicaShare before) command.raw := by
  have elsewhere : (hasReplica && readRouted command) = true := by
    simpa [forMaster, named] using notMaster
  simp [segment, named, elsewhere]

/-- The replica's part in a state command: it is sent the command, and its reply
goes nowhere. -/
theorem Ready.discard
    (ready : Ready masterB replicaB masterTail replicaTail before (command :: pending) session)
    (toReplica : forReplica command = true) :
    ∃ replica silenced, sendReplica command.raw session.replica = (true, replica) ∧
      discardReply replica = (none, silenced) ∧
      silenced.isSome = session.replica.isSome ∧
      ∀ link, silenced = some link →
        Answering replicaB (replicaShare (before ++ [command])) (replicaShare pending)
          replicaTail link := by
  cases healthy : session.replica with
  | none => exact ⟨none, none, rfl, rfl, rfl, by simp⟩
  | some link =>
    have answering := ready.replica_next toReplica link healthy
    obtain ⟨middle, forwarded, waiting⟩ := answering.send command.raw
    obtain ⟨after, relayed, left⟩ := waiting.relay (show (⟨[], none⟩ : Writer).room = none from rfl)
    refine ⟨some middle, some after, ?_, ?_, rfl, ?_⟩
    · simp [sendReplica, forwarded]
    · simp [discardReply, relayed]
    · intro final same
      cases same
      rwa [replicaShare_next toReplica]

/-- One command: it is served, the client gets exactly the reply that belongs to
it, and both reply streams stand where the next replies begin. -/
theorem Ready.step
    (ready : Ready masterB replicaB masterTail replicaTail before (command :: pending) session)
    (upper : ∃ payload, command.name = toUpper payload) (ordinary : pinning command = false) :
    ∃ after, Served session command after ∧
      Ready masterB replicaB masterTail replicaTail (before ++ [command]) pending after ∧
      after.client.out = session.client.out ++
        segment masterB replicaB session.replica.isSome before command := by
  cases routed : route session.replica.isSome command.name with
  | dropped =>
    obtain ⟨notMaster, notReplica⟩ := route_dropped_for upper routed
    exact ⟨session, .dropped routed,
      ⟨ready.client, ready.master_idle notMaster, ready.replica_idle notReplica⟩,
      by simp [segment, route_dropped.mp routed]⟩
  | pin => cases ordinary.symm.trans (route_pin.mp routed).2
  | both =>
    obtain ⟨toMaster, toReplica⟩ := route_both_for upper routed
    obtain ⟨middle, forwarded, waiting⟩ := (ready.master_next toMaster).send command.raw
    obtain ⟨answered, relayed, left⟩ := waiting.relay ready.client
    obtain ⟨replica, silenced, copied, discarded, same, next⟩ := ready.discard toReplica
    refine ⟨_, .both routed forwarded copied relayed discarded, ⟨rfl, ?_, next⟩, ?_⟩
    · simp only [same, masterShare_next toMaster]
      exact left
    · rw [segment_master toMaster]
  | replica =>
    obtain ⟨notMaster, toReplica⟩ := route_replica_for upper routed
    obtain ⟨link, healthy⟩ := Option.isSome_iff_exists.mp (route_replica.mp routed).2.2.2.1
    obtain ⟨answered, exchanged, left⟩ :=
      (ready.replica_next toReplica link healthy).exchange ready.client
    refine ⟨_, .replica routed healthy exchanged, ⟨rfl, ?_, ?_⟩, ?_⟩
    · simpa [healthy] using ready.master_idle notMaster
    · intro final same
      cases same
      rwa [replicaShare_next toReplica]
    · rw [segment_replica (route_replica.mp routed).1 notMaster]
  | master =>
    obtain ⟨toMaster, notReplica⟩ := route_master_for upper routed
    obtain ⟨answered, exchanged, left⟩ := (ready.master_next toMaster).exchange ready.client
    refine ⟨_, .master routed exchanged, ⟨rfl, ?_, ?_⟩, ?_⟩
    · simp only [masterShare_next toMaster]
      exact left
    · intro link healthy
      exact ready.replica_idle (notReplica (Option.isSome_of_eq_some healthy)) link healthy
    · rw [segment_master toMaster]

end Step

def commandOf (text : CommandText) : Command := ⟨text.name, text.bytes⟩

/-- What a session has done once it has dealt with the given commands. -/
structure Progress (masterB replicaB : Backend) (masterTail replicaTail : Bytes)
    (before commands pending : List Command) (tail : Bytes) (session after : Session) : Prop where
  ready : Ready masterB replicaB masterTail replicaTail (before ++ commands) pending after
  client : after.client.out = session.client.out ++
    segments masterB replicaB session.replica.isSome before commands
  unread : after.clientR.unread = tail
  hasReplica : after.replica.isSome = session.replica.isSome

/-- The session keeps running over every sequence of ordinary commands. -/
theorem turns_ready {masterB replicaB : Backend} {masterTail replicaTail tail : Bytes}
    (texts : List CommandText) {before pending : List Command} {session : Session}
    (ready : Ready masterB replicaB masterTail replicaTail before
      (texts.map commandOf ++ pending) session)
    (stream : session.clientR.unread = texts.flatMap CommandText.bytes ++ tail)
    (ordinary : ∀ text ∈ texts, listed pinCommands text.name = false) :
    ∃ after, session.turns texts.length = some after ∧
      Progress masterB replicaB masterTail replicaTail before (texts.map commandOf) pending tail
        session after := by
  induction texts generalizing before session with
  | nil => exact ⟨session, rfl, by simpa using ready, by simp [segments], by simpa using stream,
      rfl⟩
  | cons text texts ih =>
    rw [List.flatMap_cons, List.append_assoc] at stream
    obtain ⟨clientR, read, unread⟩ := readCommand_complete text stream
    have fresh : Ready masterB replicaB masterTail replicaTail before
        (commandOf text :: (texts.map commandOf ++ pending)) { session with clientR } :=
      ⟨ready.client, ready.master, ready.replica⟩
    obtain ⟨middle, served, next, sent⟩ :=
      fresh.step (name_upper text) (ordinary text (by simp))
    have again := turn_again.mpr ⟨commandOf text, clientR, read, served⟩
    have left : middle.clientR.unread = texts.flatMap CommandText.bytes ++ tail := by
      rw [served.clientR]
      exact unread
    obtain ⟨after, turns, progress⟩ :=
      ih next left (fun other member => ordinary other (by simp [member]))
    have same : middle.replica.isSome = session.replica.isSome := served.hasReplica
    refine ⟨after, ?_, ?_, ?_, progress.unread, progress.hasReplica.trans same⟩
    · simp only [List.length_cons, Session.turns, again]
      exact turns
    · simpa using progress.ready
    · rw [progress.client, sent, same]
      simp [segments]

private theorem run_turns {session after : Session} (turns : session.turns count = some after) :
    session.run = after.run := by
  induction count generalizing session with
  | zero =>
    cases turns
    rfl
  | succ count ih =>
    simp only [Session.turns] at turns
    split at turns
    · cases turns
    · rename_i middle again
      rw [run_again again]
      exact ih turns

/-- What ends the routed part of a session: the end of the client's stream, a pin
command, or a byte that starts no command. -/
inductive Ending where
  | finished
  | pin (text : CommandText) (pinned : listed pinCommands text.name = true) (rest : Bytes)
  | inline (byte : UInt8) (other : byte ≠ 42) (rest : Bytes)

def Ending.bytes : Ending → Bytes
  | .finished => []
  | .pin text _ rest => text.bytes ++ rest
  | .inline byte _ rest => byte :: rest

def Ending.pins : Ending → Bool
  | .finished => false
  | .pin _ _ _ => true
  | .inline _ _ _ => true

/-- Once pinned, the client gets everything the master still sends, the bytes the
proxy had already buffered included. -/
theorem pin_downstream (session : Session) (client : session.client.room = none)
    (master : session.master.sent.room = none) (raw : Option Bytes) :
    (session.pin raw).2.client.out = session.client.out ++ session.master.replies.unread := by
  obtain ⟨replies, downstream⟩ := copyAll_unbounded client session.master.replies
  cases raw with
  | none => simp [Session.pin, Session.pipe, downstream]
  | some raw =>
    simp [Session.pin, Link.send, Writer.write_unbounded master, Session.pipe, downstream]

theorem Ready.ending {masterB replicaB : Backend} {masterTail replicaTail : Bytes}
    {before : List Command} {session : Session}
    (ready : Ready masterB replicaB masterTail replicaTail before [] session) (ending : Ending)
    (unread : session.clientR.unread = ending.bytes) :
    session.run.2.client.out =
      session.client.out ++ (if ending.pins then masterTail else []) := by
  have tail : session.master.replies.unread = masterTail := ready.master.stream
  cases ending with
  | finished =>
    obtain ⟨clientR, read⟩ := readCommand_empty unread
    have quit : session.turn = .quit .finished { session with clientR } := by
      rw [Session.turn, read]
    rw [run_quit quit]
    simp [Ending.pins]
  | pin text pinned rest =>
    obtain ⟨clientR, read, _⟩ := readCommand_complete text unread
    have routed : route session.replica.isSome text.name = .pin :=
      route_pin.mpr ⟨pinCommands_named pinned, pinned⟩
    rw [run_quit (turn_pin read routed)]
    refine (pin_downstream { session with clientR } ready.client ready.master.writable _).trans ?_
    simp [Ending.pins, tail]
  | inline byte other rest =>
    have first : session.clientR.unread.head? = some byte := by
      rw [unread]
      rfl
    obtain ⟨clientR, read⟩ := readCommand_other first other
    rw [run_quit (turn_inline read)]
    refine (pin_downstream { session with clientR } ready.client ready.master.writable _).trans ?_
    simp [Ending.pins, tail]

/-- Reply correspondence. Over any sequence of ordinary commands the client gets
the replies of the chosen backends, one behind the other; after each command both
backends stand exactly at their next reply; and once the session is pinned the
client gets the rest of the master's stream. -/
theorem run_replies (masterB replicaB : Backend) (masterTail replicaTail : Bytes)
    (texts : List CommandText) (ending : Ending) (client : Writer) (clientR : Reader)
    (master : Link) (replica : Option Link)
    (ordinary : ∀ text ∈ texts, listed pinCommands text.name = false)
    (stream : clientR.unread = texts.flatMap CommandText.bytes ++ ending.bytes)
    (ready : Ready masterB replicaB masterTail replicaTail [] (texts.map commandOf)
      (openSession client clientR master replica)) :
    (openSession client clientR master replica).run.2.client.out =
        client.out ++ (segments masterB replicaB replica.isSome [] (texts.map commandOf) ++
          if ending.pins then masterTail else []) ∧
      ∀ first rest, texts = first ++ rest → ∃ session,
        (openSession client clientR master replica).turns first.length = some session ∧
        session.client.out = client.out ++
          segments masterB replicaB replica.isSome [] (first.map commandOf) ∧
        session.replica.isSome = replica.isSome ∧
        Ready masterB replicaB masterTail replicaTail (first.map commandOf) (rest.map commandOf)
          session := by
  constructor
  · rw [← List.append_nil (texts.map commandOf)] at ready
    obtain ⟨session, turns, progress⟩ := turns_ready texts ready stream ordinary
    have tail := progress.ready.ending ending progress.unread
    rw [run_turns turns, tail, progress.client]
    simp [openSession]
  · rintro first rest rfl
    rw [List.map_append] at ready
    rw [List.flatMap_append, List.append_assoc] at stream
    obtain ⟨session, turns, progress⟩ := turns_ready first ready stream
      (fun text member => ordinary text (by simp [member]))
    exact ⟨session, turns, progress.client, progress.hasReplica, by simpa using progress.ready⟩

/-- `SELECT 1` as clients send it. -/
def selectText : CommandText where
  countText := bytesOf "2"
  count := 2
  arguments :=
    [⟨bytesOf "6", bytesOf "SELECT", (13, 10), by decide +kernel, by decide +kernel,
        by decide +kernel⟩,
      ⟨bytesOf "1", bytesOf "1", (13, 10), by decide +kernel, by decide +kernel,
        by decide +kernel⟩]
  parsed := by decide +kernel
  bounded := by decide
  fits := by decide +kernel
  complete := by decide

def getText : CommandText where
  countText := bytesOf "2"
  count := 2
  arguments :=
    [⟨bytesOf "3", bytesOf "get", (13, 10), by decide +kernel, by decide +kernel,
        by decide +kernel⟩,
      ⟨bytesOf "1", bytesOf "k", (13, 10), by decide +kernel, by decide +kernel,
        by decide +kernel⟩]
  parsed := by decide +kernel
  bounded := by decide
  fits := by decide +kernel
  complete := by decide

def okBackend : Backend where
  answer _ _ := (Reply.line .simpleString (bytesOf "OK")).encode
  whole _ _ := Reply.whole (by simp only [Reply.Fits]; decide +kernel) (by decide +kernel)

theorem run_replies_select :
    (openSession ⟨[], none⟩ (newReader [selectText.bytes ++ getText.bytes])
      ⟨⟨[], none⟩, newReader [bytesOf "+OK\r\n"]⟩
      (some ⟨⟨[], none⟩, newReader [bytesOf "+OK\r\n+OK\r\n"]⟩)).run.2.client.out =
      [] ++ (segments okBackend okBackend true [] [commandOf selectText, commandOf getText] ++
        if Ending.finished.pins then [] else []) :=
  (run_replies okBackend okBackend [] [] [selectText, getText] .finished _ _ _ _
    (by decide +kernel) (by decide +kernel)
    ⟨rfl, ⟨rfl, by decide +kernel⟩, by rintro link ⟨⟩; exact ⟨rfl, by decide +kernel⟩⟩).1

end SentinelProxy.Routing
