import SentinelProxy.Routing.Replies

/-! Commands without an answer. The command reader reports an empty array by an
empty name; the session drops what has an empty name. -/

namespace SentinelProxy.Routing

open SentinelProxy.Stream SentinelProxy.Text SentinelProxy.Resp

def Turn.session : Turn → Session
  | .again session => session
  | .quit _ session => session

/-- Some backend was sent the command. -/
def Forwarded (session after : Session) (raw : Bytes) : Prop :=
  session.master.sent.out ++ raw <+: after.master.sent.out ∨
    ∃ link answered, session.replica = some link ∧ after.replica = some answered ∧
      link.sent.out ++ raw <+: answered.sent.out

/-- Commands with at least one argument, each of which is owed a reply. -/
def answerable (texts : List CommandText) : Nat :=
  (texts.filter fun text => !text.arguments.isEmpty).length

def EmptyFirst (text : CommandText) : Prop :=
  ∃ argument, text.arguments.head? = some argument ∧ argument.payload = []

private theorem name_nonempty {text : CommandText} (full : ¬ EmptyFirst text) :
    text.name ≠ [] ↔ text.arguments ≠ [] := by
  unfold EmptyFirst at full
  unfold CommandText.name
  split
  · rename_i none
    simp [none]
  · rename_i argument others some
    have present : argument.payload ≠ [] := by
      intro empty
      exact full ⟨argument, by rw [some]; rfl, empty⟩
    simp [some, toUpper_eq_nil, present]

private theorem emptyFirst_name {text : CommandText} (empty : EmptyFirst text) :
    text.name = [] ∧ text.arguments ≠ [] := by
  obtain ⟨argument, first, none⟩ := empty
  unfold CommandText.name
  split
  · rename_i missing
    rw [missing] at first
    cases first
  · rename_i head others some
    rw [some] at first
    cases first
    exact ⟨(toUpper_eq_nil _).mpr none, by simp [some]⟩

/-- A command with a name reaches a backend. -/
theorem Served.forwarded (served : Served session command after) (named : command.name ≠ []) :
    Forwarded session after command.raw := by
  cases served with
  | dropped routed => exact absurd (route_dropped.mp routed) named
  | both routed forwarded copied relayed discarded =>
    left
    simp only [Link.relay_sent relayed, (Link.send_ok forwarded).1]
    exact List.prefix_refl _
  | replica routed healthy exchanged =>
    right
    exact ⟨_, _, healthy, rfl, ⟨[], by rw [List.append_nil, exchange_sent exchanged]⟩⟩
  | master routed exchanged =>
    left
    exact ⟨[], by rw [List.append_nil, exchange_sent exchanged]⟩

theorem dropped_not_forwarded {session : Session} {command : Command} {clientR : Reader}
    (read : readCommand session.clientR = (.ok command, clientR)) (unnamed : command.name = []) :
    ¬ Forwarded session session.turn.session command.raw := by
  obtain ⟨text, rawIs, _, _⟩ := readCommand_sound read
  have present : 0 < command.raw.length := by
    rw [rawIs]
    exact List.length_pos_of_ne_nil text.bytes_ne_nil
  have turn : session.turn = .again { session with clientR } := by
    rw [Session.turn, read]
    exact act_dropped (route_dropped.mpr unnamed)
  have longer : ∀ bytes : Bytes, ¬ bytes ++ command.raw <+: bytes := by
    intro bytes front
    have bound := front.length_le
    rw [List.length_append] at bound
    omega
  rw [turn]
  rintro (master | ⟨link, answered, healthy, same, replica⟩)
  · exact longer _ master
  · simp only [Turn.session, healthy, Option.some.injEq] at same
    subst same
    exact longer _ replica

private theorem pin_forwarded (session : Session) (clientR : Reader) (raw : Bytes)
    (writable : session.master.sent.room = none) :
    Forwarded session ({ session with clientR }.pin (some raw)).2 raw := by
  left
  obtain ⟨_, upstream⟩ := copyAll_unbounded
    (show (⟨session.master.sent.out ++ raw, none⟩ : Writer).room = none from rfl) clientR
  simp [Session.pin, Link.send, Writer.write_unbounded writable, Session.pipe, upstream]

/-- The client's part of a run over ordinary commands is one reply per name. -/
theorem references_segments (masterB replicaB : Backend) (hasReplica : Bool)
    (before commands : List Command) :
    references (commands.filter fun command => !command.name.isEmpty).length
      (segments masterB replicaB hasReplica before commands) = some [] := by
  induction commands generalizing before with
  | nil => exact references_zero []
  | cons command commands ih =>
    rw [List.filter_cons, segments]
    by_cases named : command.name = []
    · simpa [named, segment] using ih (before ++ [command])
    · have whole : reference (segment masterB replicaB hasReplica before command) = some [] := by
        simp only [segment, named, if_false]
        split
        · exact (replicaB.whole _ _).complete
        · exact (masterB.whole _ _).complete
      have step := reference_append whole
        (segments masterB replicaB hasReplica (before ++ [command]) commands)
      simp only [List.isEmpty_eq_false_iff.mpr named, Bool.not_false, if_true,
        List.length_cons, references_succ, step, List.nil_append, Option.bind_some]
      exact ih _

/-- Every command of a client's stream is answered: after each command the client
has received one reply for every command with an argument, every such command was
forwarded to a backend, and so was the one that pinned the session. -/
structure AllAnswered (session : Session) (texts : List CommandText) (tail : Bytes) : Prop where
  replies : ∀ first rest, texts = first ++ rest → ∃ after received,
    session.turns first.length = some after ∧ after.client.out = session.client.out ++ received ∧
      references (answerable first) received = some []
  forwarded : ∀ first text rest, texts = first ++ text :: rest → text.arguments ≠ [] →
    ∃ after, session.turns first.length = some after ∧
      Forwarded after after.turn.session text.bytes
  pinned : ∀ text : CommandText, text.bytes <+: tail → ∃ after,
    session.turns texts.length = some after ∧ Forwarded after after.turn.session text.bytes

private theorem answerable_eq {texts : List CommandText}
    (full : ∀ text ∈ texts, ¬ EmptyFirst text) :
    answerable texts =
      ((texts.map commandOf).filter fun command => !command.name.isEmpty).length := by
  induction texts with
  | nil => rfl
  | cons text texts ih =>
    have rest := ih (fun other member => full other (by simp [member]))
    have same := name_nonempty (full text (by simp))
    unfold answerable at rest ⊢
    by_cases unnamed : text.name = []
    · have none : text.arguments = [] := by
        by_contra some
        exact same.mpr some unnamed
      simpa [List.filter_cons, commandOf, unnamed, none] using rest
    · have some := same.mp unnamed
      simpa [List.filter_cons, commandOf, unnamed, some] using rest

section Reached

variable {masterB replicaB : Backend} {masterTail replicaTail tail : Bytes}
  {first rest : List CommandText} {text : CommandText} {session after : Session}

theorem turns_reach
    (ready : Ready masterB replicaB masterTail replicaTail [] ((first ++ rest).map commandOf)
      session)
    (stream : session.clientR.unread = (first ++ rest).flatMap CommandText.bytes ++ tail)
    (ordinary : ∀ text ∈ first ++ rest, listed pinCommands text.name = false) :
    ∃ after, session.turns first.length = some after ∧
      Progress masterB replicaB masterTail replicaTail [] (first.map commandOf)
        (rest.map commandOf) (rest.flatMap CommandText.bytes ++ tail) session after := by
  rw [List.map_append] at ready
  rw [List.flatMap_append, List.append_assoc] at stream
  exact turns_ready first ready stream fun text member => ordinary text (by simp [member])

/-- What the session reads next. -/
theorem Progress.read
    (progress : Progress masterB replicaB masterTail replicaTail [] (first.map commandOf)
      ((text :: rest).map commandOf) ((text :: rest).flatMap CommandText.bytes ++ tail) session
      after) :
    ∃ reader, readCommand after.clientR = (.ok (commandOf text), reader) := by
  have unread := progress.unread
  rw [List.flatMap_cons, List.append_assoc] at unread
  obtain ⟨reader, read, _⟩ := readCommand_complete text unread
  exact ⟨reader, read⟩

theorem Progress.forwarded
    (progress : Progress masterB replicaB masterTail replicaTail [] (first.map commandOf)
      ((text :: rest).map commandOf) ((text :: rest).flatMap CommandText.bytes ++ tail) session
      after)
    (ordinary : listed pinCommands text.name = false) (named : text.name ≠ []) :
    Forwarded after after.turn.session text.bytes := by
  obtain ⟨reader, read⟩ := progress.read
  have waiting : Ready masterB replicaB masterTail replicaTail (first.map commandOf)
      (commandOf text :: rest.map commandOf) { after with clientR := reader } :=
    ⟨progress.ready.client, by simpa using progress.ready.master,
      by simpa using progress.ready.replica⟩
  obtain ⟨next, served, _, _⟩ := waiting.step (name_upper text) ordinary
  rw [turn_again.mpr ⟨commandOf text, reader, read, served⟩]
  exact served.forwarded named

end Reached

/-- No command is swallowed exactly when no command has an empty first argument:
such a command is taken for the empty array and dropped, and every other command
with arguments reaches a backend and is answered. -/
theorem allAnswered_iff (masterB replicaB : Backend) (masterTail replicaTail : Bytes)
    (texts : List CommandText) (tail : Bytes) (client : Writer) (clientR : Reader)
    (master : Link) (replica : Option Link)
    (ordinary : ∀ text ∈ texts, listed pinCommands text.name = false)
    (maximal : ∀ text : CommandText, text.bytes <+: tail → listed pinCommands text.name = true)
    (stream : clientR.unread = texts.flatMap CommandText.bytes ++ tail)
    (ready : Ready masterB replicaB masterTail replicaTail [] (texts.map commandOf)
      (openSession client clientR master replica)) :
    AllAnswered (openSession client clientR master replica) texts tail ↔
      ∀ text ∈ texts, ¬ EmptyFirst text := by
  constructor
  · intro answered text member empty
    obtain ⟨unnamed, some⟩ := emptyFirst_name empty
    obtain ⟨first, rest, rfl⟩ := List.append_of_mem member
    obtain ⟨after, turns, progress⟩ := turns_reach ready stream ordinary
    obtain ⟨same, again, forwarded⟩ := answered.forwarded first text rest rfl some
    cases turns.symm.trans again
    obtain ⟨_, read⟩ := progress.read
    exact dropped_not_forwarded read unnamed forwarded
  · intro full
    constructor
    · rintro first rest rfl
      obtain ⟨after, turns, progress⟩ := turns_reach ready stream ordinary
      refine ⟨after, _, turns, progress.client, ?_⟩
      rw [answerable_eq (fun text member => full text (by simp [member]))]
      exact references_segments _ _ _ _ _
    · rintro first text rest rfl some
      obtain ⟨after, turns, progress⟩ := turns_reach ready stream ordinary
      exact ⟨after, turns, progress.forwarded (ordinary text (by simp))
        ((name_nonempty (full text (by simp))).mpr some)⟩
    · rintro text ⟨rest, rfl⟩
      rw [← List.append_nil texts] at ready stream ordinary
      obtain ⟨after, turns, progress⟩ := turns_reach ready stream ordinary
      refine ⟨after, turns, ?_⟩
      have pinned := maximal text (List.prefix_append _ _)
      obtain ⟨reader, read, _⟩ := readCommand_complete text progress.unread
      rw [turn_pin read (route_pin.mpr ⟨pinCommands_named pinned, pinned⟩)]
      exact pin_forwarded after reader text.bytes progress.ready.master.writable

theorem allAnswered_select :
    AllAnswered
      (openSession ⟨[], none⟩ (newReader [selectText.bytes ++ getText.bytes])
        ⟨⟨[], none⟩, newReader [bytesOf "+OK\r\n"]⟩
        (some ⟨⟨[], none⟩, newReader [bytesOf "+OK\r\n+OK\r\n"]⟩))
      [selectText, getText] [] ↔ ∀ text ∈ [selectText, getText], ¬ EmptyFirst text := by
  refine allAnswered_iff okBackend okBackend [] [] [selectText, getText] [] _ _ _ _
    (by decide +kernel) ?_ (by decide +kernel)
    ⟨rfl, ⟨rfl, by decide +kernel⟩, by rintro link ⟨⟩; exact ⟨rfl, by decide +kernel⟩⟩
  intro text front
  exact absurd (List.prefix_nil.mp front) text.bytes_ne_nil

def emptyText : CommandText where
  countText := bytesOf "1"
  count := 1
  arguments :=
    [⟨bytesOf "0", [], (13, 10), by decide +kernel, by decide, by decide +kernel⟩]
  parsed := by decide +kernel
  bounded := by decide
  fits := by decide +kernel
  complete := by decide

/-- The command is read, no backend is sent it, and the client gets no reply. -/
theorem emptyText_swallowed :
    emptyText.bytes = bytesOf "*1\r\n$0\r\n\r\n" ∧ emptyText.arguments.length = 1 ∧
      (openSession ⟨[], none⟩ (newReader [emptyText.bytes]) ⟨⟨[], none⟩, newReader []⟩
        none).run.2.client.out = [] ∧
      (openSession ⟨[], none⟩ (newReader [emptyText.bytes]) ⟨⟨[], none⟩, newReader []⟩
        none).run.2.master.sent.out = [] ∧
      ¬ AllAnswered (openSession ⟨[], none⟩ (newReader [emptyText.bytes])
        ⟨⟨[], none⟩, newReader []⟩ none) [emptyText] [] := by
  refine ⟨by decide +kernel, rfl, by decide +kernel, by decide +kernel, ?_⟩
  intro answered
  obtain ⟨start, turns, forwarded⟩ := answered.forwarded [] emptyText [] rfl (by simp [emptyText])
  cases turns
  obtain ⟨_, read, _⟩ := readCommand_complete emptyText
    (show (newReader [emptyText.bytes]).unread = emptyText.bytes ++ [] by simp [newReader_unread])
  have unnamed : (commandOf emptyText).name = [] := by decide +kernel
  exact dropped_not_forwarded read unnamed forwarded

end SentinelProxy.Routing
