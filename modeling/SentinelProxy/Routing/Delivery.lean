import SentinelProxy.Resp.Delivery
import SentinelProxy.Routing.Requests

/-! A routed session does not depend on how the network delivers its three streams: not on
the pieces they arrive in, nor on what a reader has already buffered. -/

namespace SentinelProxy.Routing

open SentinelProxy.Stream SentinelProxy.Text SentinelProxy.Resp

/-- One connection, its replies delivered in two ways. -/
structure Link.Alike (one two : Link) : Prop where
  sent : two.sent = one.sent
  replies : two.replies.unread = one.replies.unread

/-- One session, its streams delivered in two ways. -/
structure Session.Alike (one two : Session) : Prop where
  client : two.client = one.client
  clientR : two.clientR.unread = one.clientR.unread
  master : one.master.Alike two.master
  replica : Option.Rel Link.Alike one.replica two.replica
  closed : Option.Rel Link.Alike one.closed two.closed
  reads : two.reads = one.reads
  writes : two.writes = one.writes

/-- What a session shows: everything it sent, and its counters. -/
structure Shown where
  client : Writer
  master : Writer
  replica : Option Writer
  closed : Option Writer
  reads : Nat
  writes : Nat

def Session.shown (session : Session) : Shown :=
  ⟨session.client, session.master.sent, session.replica.map Link.sent,
    session.closed.map Link.sent, session.reads, session.writes⟩

/-- Turns that go on with alike sessions, or stop and show the same. -/
inductive Turn.Alike : Turn → Turn → Prop where
  | again {one two : Session} (alike : one.Alike two) : Turn.Alike (.again one) (.again two)
  | quit {one two : Session} (closing : Closing) (same : two.shown = one.shown) :
      Turn.Alike (.quit closing one) (.quit closing two)

private theorem sent_of_rel {one two : Option Link} (alike : Option.Rel Link.Alike one two) :
    two.map Link.sent = one.map Link.sent := by
  cases alike with
  | none => rfl
  | some alike => exact congrArg some alike.sent

private theorem isSome_of_rel {one two : Option Link} (alike : Option.Rel Link.Alike one two) :
    two.isSome = one.isSome := by
  cases alike <;> rfl

section Links

variable {one two : Link}

theorem Link.Alike.send (alike : one.Alike two) (raw : Bytes) :
    ∃ accepted first second, one.send raw = (accepted, first) ∧
      two.send raw = (accepted, second) ∧ first.Alike second := by
  refine ⟨_, _, { two with sent := (one.sent.write raw).2 }, rfl, ?_, ⟨rfl, alike.replies⟩⟩
  rw [Link.send, alike.sent]

theorem Link.Alike.relay (alike : one.Alike two) (writer : Writer) :
    ∃ outcome passed first second, one.relay writer = (outcome, passed, first) ∧
      two.relay writer = (outcome, passed, second) ∧ second.sent = first.sent ∧
      (outcome = none → first.Alike second) := by
  obtain ⟨outcome, passed, after, rest, copied, also, left⟩ :=
    copyRESP_relays.alike writer alike.replies
  refine ⟨outcome, passed, { one with replies := after }, { two with replies := rest }, ?_, ?_,
    alike.sent, ?_⟩
  · rw [Link.relay, copied]
  · rw [Link.relay, also]
  · intro success
    exact ⟨alike.sent, left success⟩

theorem Link.Alike.exchange (alike : one.Alike two) (client : Writer) (raw : Bytes) :
    ∃ fault passed first second, Routing.exchange client raw one = (fault, passed, first) ∧
      Routing.exchange client raw two = (fault, passed, second) ∧ second.sent = first.sent ∧
      (fault = none → first.Alike second) := by
  obtain ⟨accepted, sent, also, forwarded, copied, onward⟩ := alike.send raw
  unfold Routing.exchange
  rw [forwarded, copied]
  cases accepted with
  | false => exact ⟨_, _, _, _, rfl, rfl, onward.sent, by simp⟩
  | true =>
    obtain ⟨outcome, passed, first, second, relayed, likewise, same, left⟩ := onward.relay client
    dsimp only
    rw [relayed, likewise]
    cases outcome with
    | none => exact ⟨_, _, _, _, rfl, rfl, same, fun _ => left rfl⟩
    | some failure => exact ⟨_, _, _, _, rfl, rfl, same, by simp⟩

end Links

section Replica

variable {one two : Option Link}

private theorem sendReplica_alike (alike : Option.Rel Link.Alike one two) (raw : Bytes) :
    ∃ accepted first second, sendReplica raw one = (accepted, first) ∧
      sendReplica raw two = (accepted, second) ∧ Option.Rel Link.Alike first second := by
  cases alike with
  | none => exact ⟨_, _, _, rfl, rfl, .none⟩
  | some alike =>
    obtain ⟨accepted, first, second, forwarded, copied, onward⟩ := alike.send raw
    refine ⟨accepted, some first, some second, ?_, ?_, .some onward⟩
    · rw [sendReplica, forwarded]
    · rw [sendReplica, copied]

private theorem discardReply_alike (alike : Option.Rel Link.Alike one two) :
    ∃ outcome first second, discardReply one = (outcome, first) ∧
      discardReply two = (outcome, second) ∧ second.map Link.sent = first.map Link.sent ∧
      (outcome = none → Option.Rel Link.Alike first second) := by
  cases alike with
  | none => exact ⟨_, _, _, rfl, rfl, rfl, fun _ => .none⟩
  | some alike =>
    obtain ⟨outcome, passed, first, second, relayed, likewise, same, left⟩ := alike.relay ⟨[], none⟩
    refine ⟨outcome, some first, some second, ?_, ?_, congrArg some same,
      fun success => .some (left success)⟩
    · rw [discardReply, relayed]
    · rw [discardReply, likewise]

end Replica

section Sessions

variable {one two : Session}

theorem Session.Alike.shown (alike : one.Alike two) : two.shown = one.shown := by
  unfold Session.shown
  rw [alike.client, alike.master.sent, sent_of_rel alike.replica, sent_of_rel alike.closed,
    alike.reads, alike.writes]

theorem Session.Alike.stateCommand (alike : one.Alike two) (raw : Bytes) :
    ∃ outcome first second, one.stateCommand raw = (outcome, first) ∧
      two.stateCommand raw = (outcome, second) ∧ second.shown = first.shown ∧
      (outcome = none → first.Alike second) := by
  obtain ⟨accepted, master, other, forwarded, likewise, onward⟩ := alike.master.send raw
  unfold Session.stateCommand
  rw [forwarded, likewise]
  cases accepted with
  | false =>
    have left : Session.Alike { one with master := master } { two with master := other } :=
      { alike with master := onward }
    exact ⟨_, _, _, rfl, rfl, left.shown, by simp⟩
  | true =>
    obtain ⟨copied, replica, twin, sent, also, replicas⟩ := sendReplica_alike alike.replica raw
    dsimp only
    rw [sent, also]
    cases copied with
    | false =>
      have left : Session.Alike { one with master := master, replica := replica }
          { two with master := other, replica := twin } :=
        { alike with master := onward, replica := replicas }
      exact ⟨_, _, _, rfl, rfl, left.shown, by simp⟩
    | true =>
      obtain ⟨outcome, client, first, second, relayed, again, same, later⟩ :=
        onward.relay one.client
      dsimp only
      rw [relayed, alike.client, again]
      cases outcome with
      | some failure =>
        refine ⟨_, _, _, rfl, rfl, ?_, by simp⟩
        simp only [Session.shown, same, sent_of_rel replicas, sent_of_rel alike.closed,
          alike.reads, alike.writes]
      | none =>
        obtain ⟨final, silenced, quiet, discarded, too, unsaid, last⟩ := discardReply_alike replicas
        dsimp only
        rw [discarded, too]
        refine ⟨_, _, _, rfl, rfl, ?_, ?_⟩
        · simp only [Session.shown, same, unsaid, sent_of_rel alike.closed, alike.reads,
            alike.writes]
        · intro success
          exact { alike with client := rfl, master := later rfl, replica := last success }

theorem Session.Alike.pipe (alike : one.Alike two) :
    ∃ closing first second, one.pipe = (closing, first) ∧ two.pipe = (closing, second) ∧
      second.shown = first.shown := by
  obtain ⟨downstream, client, replies, others, down, also, _⟩ :=
    copyAll_relays.alike one.client alike.master.replies
  obtain ⟨upstream, sent, clientR, rest, up, too, _⟩ :=
    copyAll_relays.alike one.master.sent alike.clientR
  unfold Session.pipe
  rw [alike.client, alike.master.sent, down, also, up, too]
  refine ⟨_, _, _, rfl, rfl, ?_⟩
  simp only [Session.shown, sent_of_rel alike.replica, sent_of_rel alike.closed, alike.reads,
    alike.writes]

theorem Session.Alike.pin (alike : one.Alike two) (raw : Option Bytes) :
    ∃ closing first second, one.pin raw = (closing, first) ∧ two.pin raw = (closing, second) ∧
      second.shown = first.shown := by
  have dropped : Session.Alike { one with replica := none, closed := one.replica }
      { two with replica := none, closed := two.replica } :=
    { alike with replica := .none, closed := alike.replica }
  cases raw with
  | none => exact dropped.pipe
  | some raw =>
    obtain ⟨accepted, master, other, forwarded, likewise, onward⟩ := alike.master.send raw
    have left : Session.Alike { one with master := master, replica := none, closed := one.replica }
        { two with master := other, replica := none, closed := two.replica } :=
      { dropped with master := onward }
    simp only [Session.pin, forwarded, likewise]
    cases accepted with
    | false => exact ⟨_, _, _, rfl, rfl, left.shown⟩
    | true => exact left.pipe

private theorem proceed_alike {first second : Session} (name : Bytes) (fault : Option Fault)
    (same : second.shown = first.shown) (onward : fault = none → first.Alike second) :
    Turn.Alike (proceed name first fault) (proceed name second fault) := by
  cases fault with
  | none => exact .again (onward rfl)
  | some fault => exact .quit _ same

theorem Session.Alike.act (alike : one.Alike two) (command : Command) :
    Turn.Alike (one.act command) (two.act command) := by
  have present := isSome_of_rel alike.replica
  cases routed : route one.replica.isSome command.name with
  | dropped =>
    rw [act_dropped routed, act_dropped (present ▸ routed)]
    exact .again alike
  | pin =>
    obtain ⟨closing, first, second, pinned, likewise, same⟩ := alike.pin (some command.raw)
    rw [act_pin routed, act_pin (present ▸ routed), pinned, likewise]
    exact .quit closing same
  | both =>
    obtain ⟨outcome, first, second, done, likewise, same, onward⟩ := alike.stateCommand command.raw
    rw [act_both routed, act_both (present ▸ routed), done, likewise]
    exact proceed_alike _ _ same fun success => onward (Option.map_eq_none_iff.mp success)
  | replica =>
    obtain ⟨link, healthy⟩ := Option.isSome_iff_exists.mp (route_replica.mp routed).2.2.2.1
    obtain ⟨twin, also⟩ := Option.isSome_iff_exists.mp
      (present.trans (route_replica.mp routed).2.2.2.1)
    have links : link.Alike twin := by
      have related := alike.replica
      rw [healthy, also] at related
      cases related with
      | some links => exact links
    obtain ⟨fault, client, first, second, exchanged, likewise, same, onward⟩ :=
      links.exchange one.client command.raw
    rw [act_replica routed healthy, act_replica (present ▸ routed) also, alike.client, exchanged,
      likewise]
    refine proceed_alike _ _ ?_ ?_
    · simp only [Session.shown, Option.map_some, same, alike.master.sent,
        sent_of_rel alike.closed, alike.reads, alike.writes]
    · intro success
      exact { alike with
        client := rfl
        replica := .some (onward success)
        reads := congrArg (· + 1) alike.reads }
  | master =>
    obtain ⟨fault, client, first, second, exchanged, likewise, same, onward⟩ :=
      alike.master.exchange one.client command.raw
    rw [act_master routed, act_master (present ▸ routed), alike.client, exchanged, likewise]
    refine proceed_alike _ _ ?_ ?_
    · simp only [Session.shown, same, sent_of_rel alike.replica, sent_of_rel alike.closed,
        alike.reads, alike.writes]
    · intro success
      exact { alike with
        client := rfl
        master := onward success
        writes := congrArg (· + 1) alike.writes }

theorem Session.Alike.turn (alike : one.Alike two) : Turn.Alike one.turn two.turn := by
  obtain ⟨outcome, clientR, rest, read, also, left⟩ := readCommand_oblivious alike.clientR
  have onward : Session.Alike { one with clientR := clientR } { two with clientR := rest } :=
    { alike with clientR := left }
  cases outcome with
  | ok command =>
    simp only [Session.turn, read, also]
    exact onward.act command
  | error failure =>
    by_cases inline : failure = .inlineCommand
    · subst inline
      obtain ⟨closing, first, second, pinned, likewise, same⟩ := onward.pin none
      rw [turn_inline read, turn_inline also, pinned, likewise]
      exact .quit closing same
    · have stops {session : Session} {reader : Reader}
          (failed : readCommand session.clientR = (.error failure, reader)) :
          session.turn = .quit (if failure = .eof then .finished else .malformed failure)
            { session with clientR := reader } := by
        unfold Session.turn
        rw [failed]
        cases failure <;> first | rfl | exact absurd rfl inline
      rw [stops read, stops also]
      exact .quit _ onward.shown

/-- A session ends in the same way, after the same bytes in every direction and with the same
counters, however its streams are delivered, failures included. -/
theorem run_delivery (alike : one.Alike two) :
    two.run.1 = one.run.1 ∧ two.run.2.shown = one.run.2.shown := by
  fun_induction Session.run one generalizing two with
  | case1 one closing after stopped =>
    have turns := alike.turn
    rw [stopped] at turns
    generalize next : two.turn = turn at turns
    cases turns with
    | quit _ same =>
      rw [run_quit next]
      exact ⟨rfl, same⟩
  | case2 one after progress ih =>
    have turns := alike.turn
    rw [progress] at turns
    generalize next : two.turn = turn at turns
    cases turns with
    | again onward =>
      rw [run_again next]
      exact ih onward

/-- A session that is pinned and whose master breaks, its streams cut into pieces. -/
def cutSession (pieces : Bytes → List Bytes) : Session :=
  openSession ⟨[], none⟩ (newReader (pieces pinnedStream))
    ⟨⟨[], some 45⟩, newReader (pieces (bytesOf "+OK\r\n+OK\r\n"))⟩
    (some ⟨⟨[], none⟩, newReader (pieces (bytesOf "$-1\r\n+OK\r\n"))⟩)

theorem run_delivery_cutSession :
    (cutSession (·.map ([·]))).run.1 = .pinned false true ∧
      (cutSession (·.map ([·]))).run.2.shown = (cutSession ([·])).run.2.shown := by
  have same (bytes : Bytes) :
      (newReader (bytes.map ([·]))).unread = (newReader [bytes]).unread := by
    simp [newReader_unread, ← List.flatMap_def]
  have delivered := @run_delivery (cutSession ([·])) (cutSession (·.map ([·])))
    ⟨rfl, same _, ⟨rfl, same _⟩, .some ⟨rfl, same _⟩, .none, rfl, rfl⟩
  exact ⟨delivered.1.trans (by decide +kernel), delivered.2⟩

end Sessions

end SentinelProxy.Routing
