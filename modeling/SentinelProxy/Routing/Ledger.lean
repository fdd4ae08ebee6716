import SentinelProxy.Resp.Delivery
import SentinelProxy.Routing.Requests

/-! The books of a routed session, whatever fails in it: for every command what each backend
was sent, what it answered, and what of that the client was given. -/

namespace SentinelProxy.Routing

open SentinelProxy.Stream SentinelProxy.Text SentinelProxy.Resp

/-- Bytes that were moved, by where they came from and where they went. -/
@[ext]
structure Traffic where
  fromClient : Bytes
  toMaster : Bytes
  toReplica : Bytes
  fromMaster : Bytes
  fromReplica : Bytes
  toClient : Bytes

namespace Traffic

def nil : Traffic := ⟨[], [], [], [], [], []⟩

instance : Append Traffic where
  append first second := ⟨first.fromClient ++ second.fromClient, first.toMaster ++ second.toMaster,
    first.toReplica ++ second.toReplica, first.fromMaster ++ second.fromMaster,
    first.fromReplica ++ second.fromReplica, first.toClient ++ second.toClient⟩

def total : List Traffic → Traffic
  | [] => nil
  | traffic :: others => traffic ++ total others

theorem append_assoc (first second third : Traffic) :
    first ++ second ++ third = first ++ (second ++ third) := by
  ext1 <;> exact List.append_assoc _ _ _

end Traffic

/-- A connection before and after it was sent and has answered so much. -/
structure Link.Carried (sent got : Bytes) (link after : Link) : Prop where
  sent : after.sent.out = link.sent.out ++ sent
  replies : link.replies.unread = got ++ after.replies.unread

/-- The connection to the replica, which may not exist and then carries nothing. -/
inductive Partner (sent got : Bytes) : Option Link → Option Link → Prop where
  | absent (unsent : sent = []) (silent : got = []) : Partner sent got none none
  | present {link after : Link} (carried : link.Carried sent got after) :
      Partner sent got (some link) (some after)

/-- The replica's connection, closed by pinning or not. -/
def Session.partner (session : Session) : Option Link := session.replica.or session.closed

/-- A session before and after some traffic. -/
structure Session.Carried (traffic : Traffic) (session after : Session) : Prop where
  client : after.client.out = session.client.out ++ traffic.toClient
  master : session.master.Carried traffic.toMaster traffic.fromMaster after.master
  replica : Partner traffic.toReplica traffic.fromReplica session.partner after.partner

theorem Link.Carried.refl (link : Link) : link.Carried [] [] link := ⟨by simp, by simp⟩

theorem Link.Carried.trans {sent got more left : Bytes} {link middle after : Link}
    (first : link.Carried sent got middle) (second : middle.Carried more left after) :
    link.Carried (sent ++ more) (got ++ left) after where
  sent := by rw [second.sent, first.sent, List.append_assoc]
  replies := by rw [first.replies, second.replies, List.append_assoc]

theorem Partner.refl (replica : Option Link) : Partner [] [] replica replica := by
  cases replica with
  | none => exact .absent rfl rfl
  | some link => exact .present (.refl link)

theorem Partner.trans {sent got more left : Bytes} {replica middle after : Option Link}
    (first : Partner sent got replica middle) (second : Partner more left middle after) :
    Partner (sent ++ more) (got ++ left) replica after := by
  cases first with
  | absent unsent silent =>
    cases second with
    | absent noMore nothing => exact .absent (by simp [unsent, noMore]) (by simp [silent, nothing])
  | present first =>
    cases second with
    | present second => exact .present (first.trans second)

theorem Session.Carried.trans {traffic more : Traffic} {session middle after : Session}
    (first : session.Carried traffic middle) (second : middle.Carried more after) :
    session.Carried (traffic ++ more) after where
  client := by
    rw [second.client, first.client, List.append_assoc]
    rfl
  master := first.master.trans second.master
  replica := first.replica.trans second.replica

/-- One reply of the grammar and nothing else, unless it is so long that the copier's counter
could wrap. -/
def OneReply (bytes : Bytes) : Prop := bytes.length < 2 ^ 42 → reference bytes = some []

section Links

variable {link after : Link} {raw : Bytes}

theorem Link.send_carried {accepted : Bool} (sent : link.send raw = (accepted, after)) :
    ∃ part, part <+: raw ∧ link.Carried part [] after ∧ (accepted = true → part = raw) := by
  obtain ⟨part, within, out⟩ := link.sent.write_part raw
  simp only [Link.send, Prod.mk.injEq] at sent
  obtain ⟨rfl, rfl⟩ := sent
  refine ⟨part, within, ⟨out, rfl⟩, ?_⟩
  intro accepted
  have whole := Writer.write_ok (Prod.ext accepted rfl)
  exact List.append_cancel_left (out.symm.trans whole)

theorem Link.relay_carried {outcome : Option Error} {writer answered : Writer}
    (relayed : link.relay writer = (outcome, answered, after)) :
    ∃ got passed, link.Carried [] got after ∧ passed <+: got ∧
      answered.out = writer.out ++ passed ∧ (outcome = none → passed = got ∧ OneReply got) := by
  unfold Link.relay at relayed
  split at relayed
  rename_i failure final replies copied
  cases relayed
  obtain ⟨got, passed, taken, within, out, whole⟩ := copyRESP_relays.conveys copied
  refine ⟨got, passed, ⟨by simp, taken⟩, within, out, fun success => ⟨whole success, ?_⟩⟩
  subst success
  exact copyRESP_exact copied taken

/-- What an exchange sent, read and passed on: a reply is read only for a whole command. -/
structure Exchanged (done : Prop) (raw sent got passed : Bytes) : Prop where
  request : sent <+: raw
  reply : passed <+: got
  asked : got ≠ [] → sent = raw
  whole : done → sent = raw ∧ passed = got ∧ OneReply got

private theorem exchange_carried {fault : Option Fault} {client answered : Writer}
    (exchanged : exchange client raw link = (fault, answered, after)) :
    ∃ sent got passed, link.Carried sent got after ∧ answered.out = client.out ++ passed ∧
      Exchanged (fault = none) raw sent got passed := by
  unfold exchange at exchanged
  split at exchanged
  · rename_i broken refused
    cases exchanged
    obtain ⟨part, within, carried, _⟩ := Link.send_carried refused
    exact ⟨part, [], [], carried, by simp, within, List.prefix_rfl, by simp, by simp⟩
  · rename_i middle accepted
    obtain ⟨part, _, carried, whole⟩ := Link.send_carried accepted
    obtain rfl := whole rfl
    split at exchanged
    · rename_i relayed
      cases exchanged
      obtain ⟨got, passed, answers, within, out, _⟩ := Link.relay_carried relayed
      exact ⟨part ++ [], got, passed, carried.trans answers, out, by simp, within, by simp, by simp⟩
    · rename_i relayed
      cases exchanged
      obtain ⟨got, passed, answers, within, out, whole⟩ := Link.relay_carried relayed
      exact ⟨part ++ [], got, passed, carried.trans answers, out, by simp, within, by simp,
        fun _ => ⟨by simp, whole rfl⟩⟩

end Links

section Replica

variable {replica after : Option Link}

theorem Partner.isSome {sent got : Bytes} (carried : Partner sent got replica after) :
    after.isSome = replica.isSome := by
  cases carried <;> rfl

theorem Partner.or {sent got : Bytes} (carried : Partner sent got replica after)
    (closed : Option Link) : Partner sent got (replica.or closed) (after.or closed) := by
  cases carried with
  | absent unsent silent =>
    rw [unsent, silent]
    exact .refl closed
  | present carried => exact .present carried

private theorem sendReplica_carried {raw : Bytes} {accepted : Bool}
    (sent : sendReplica raw replica = (accepted, after)) :
    ∃ part, part <+: (if replica.isSome then raw else []) ∧ Partner part [] replica after ∧
      (accepted = true → part = if replica.isSome then raw else []) := by
  cases replica with
  | none =>
    cases sent
    exact ⟨[], by simp, .absent rfl rfl, by simp⟩
  | some link =>
    cases sent
    obtain ⟨part, within, carried, whole⟩ := @Link.send_carried link _ raw _ rfl
    exact ⟨part, within, .present carried, whole⟩

private theorem discardReply_carried {outcome : Option Error}
    (discarded : discardReply replica = (outcome, after)) :
    ∃ got, Partner [] got replica after ∧ (replica.isSome = false → got = []) ∧
      (outcome = none → replica.isSome = true → OneReply got) := by
  cases replica with
  | none =>
    cases discarded
    exact ⟨[], .absent rfl rfl, fun _ => rfl, by simp⟩
  | some link =>
    cases discarded
    obtain ⟨got, _, carried, _, _, whole⟩ := @Link.relay_carried link _ _ ⟨[], none⟩ _ rfl
    exact ⟨got, .present carried, by simp, fun success _ => (whole success).2⟩

end Replica

/-- What the master is to be sent for a command. -/
def masterDue (hasReplica : Bool) (command : Command) : Bytes :=
  if forMaster hasReplica command then command.raw else []

/-- What the replica is to be sent for a command. -/
def replicaDue (hasReplica : Bool) (command : Command) : Bytes :=
  if hasReplica && forReplica command then command.raw else []

/-- What the client is to be given: the replica's reply only to a read. -/
def Traffic.answer (hasReplica : Bool) (command : Command) (traffic : Traffic) : Bytes :=
  if forMaster hasReplica command then traffic.fromMaster else traffic.fromReplica

/-- The traffic of one command. It may break off anywhere if the command is not `done`, but a
state command goes to the master first, and a reply is read only for what was sent whole. A
command that is done got one reply from everybody it is for. -/
structure Handled (done : Prop) (hasReplica : Bool) (command : Command) (traffic : Traffic) :
    Prop where
  read : traffic.fromClient = command.raw
  master : traffic.toMaster <+: masterDue hasReplica command
  replica : traffic.toReplica <+: replicaDue hasReplica command
  client : traffic.toClient <+: traffic.answer hasReplica command
  masterFirst : traffic.toReplica ≠ [] → traffic.toMaster = masterDue hasReplica command
  asked : traffic.fromMaster ++ traffic.fromReplica ≠ [] →
    traffic.toMaster = masterDue hasReplica command ∧
      traffic.toReplica = replicaDue hasReplica command
  unasked : (forMaster hasReplica command = false → traffic.fromMaster = []) ∧
    ((hasReplica && forReplica command) = false → traffic.fromReplica = [])
  whole : done → traffic.toMaster = masterDue hasReplica command ∧
    traffic.toReplica = replicaDue hasReplica command ∧
    traffic.toClient = traffic.answer hasReplica command ∧
    (forMaster hasReplica command = true → OneReply traffic.fromMaster) ∧
    ((hasReplica && forReplica command) = true → OneReply traffic.fromReplica)

/-- The traffic behind the commands that were served, by how the session ended and by the
commands that were left: one that failed, or the one that pinned it. -/
inductive Tail (hasReplica : Bool) : List Command → Closing → Traffic → Prop where
  | finished : Tail hasReplica [] .finished .nil
  | malformed (error : Error) : Tail hasReplica [] (.malformed error) .nil
  | failed {command : Command} {others : List Command} {fault : Fault} {traffic : Traffic}
      (handled : Handled False hasReplica command traffic) :
      Tail hasReplica (command :: others) (.failed command.name fault) traffic
  | refused {command : Command} {part : Bytes} (cut : part <+: command.raw) :
      Tail hasReplica [command] .refused ⟨command.raw, part, [], [], [], []⟩
  | pinned {pin : Option Command} {upstream downstream : Bool} {traffic : Traffic}
      (first : pin.toList.flatMap Command.raw <+: traffic.fromClient)
      (request : traffic.toMaster <+: traffic.fromClient)
      (reply : traffic.toClient <+: traffic.fromMaster)
      (apart : traffic.toReplica = [] ∧ traffic.fromReplica = [])
      (whole : (upstream = true → traffic.toMaster = traffic.fromClient) ∧
        (downstream = true → traffic.toClient = traffic.fromMaster)) :
      Tail hasReplica pin.toList (.pinned upstream downstream) traffic

/-- The books of a session: the commands it served, each with its traffic, and the rest. -/
structure Ledger (session after : Session) (closing : Closing)
    (served : List (Command × Traffic)) (left : List Command) (last : Traffic) : Prop where
  commands : (readCommands pinning session.clientR).1 = served.map Prod.fst ++ left
  stream : (Traffic.total (served.map Prod.snd) ++ last).fromClient <+: session.clientR.unread
  carried : session.Carried (Traffic.total (served.map Prod.snd) ++ last) after
  handled : ∀ entry ∈ served, Handled True session.replica.isSome entry.1 entry.2
  tail : Tail session.replica.isSome left closing last

section Commands

variable {session after : Session} {command : Command}

private theorem masterDue_eq {hasReplica : Bool} (toMaster : forMaster hasReplica command = true) :
    masterDue hasReplica command = command.raw :=
  if_pos toMaster

private theorem answer_eq {hasReplica : Bool} (toMaster : forMaster hasReplica command = true)
    (traffic : Traffic) : traffic.answer hasReplica command = traffic.fromMaster :=
  if_pos toMaster

private theorem replicaDue_eq (hasReplica : Bool) (toReplica : forReplica command = true) :
    replicaDue hasReplica command = if hasReplica then command.raw else [] := by
  simp [replicaDue, toReplica]

/-- A command that failed before anybody could answer it. -/
theorem Handled.unanswered {done : Prop} {hasReplica : Bool} {sent copied : Bytes}
    (master : sent <+: masterDue hasReplica command)
    (replica : copied <+: replicaDue hasReplica command)
    (masterFirst : copied ≠ [] → sent = masterDue hasReplica command) (failed : ¬done) :
    Handled done hasReplica command ⟨command.raw, sent, copied, [], [], []⟩ where
  read := rfl
  master
  replica
  client := List.nil_prefix
  masterFirst
  asked some := absurd rfl some
  unasked := ⟨fun _ => rfl, fun _ => rfl⟩
  whole success := absurd success failed

/-- A command that was sent to everybody it is for. -/
theorem Handled.sent {done : Prop} {hasReplica : Bool} {traffic : Traffic}
    (read : traffic.fromClient = command.raw)
    (master : traffic.toMaster = masterDue hasReplica command)
    (replica : traffic.toReplica = replicaDue hasReplica command)
    (client : traffic.toClient <+: traffic.answer hasReplica command)
    (unasked : (forMaster hasReplica command = false → traffic.fromMaster = []) ∧
      ((hasReplica && forReplica command) = false → traffic.fromReplica = []))
    (whole : done → traffic.toClient = traffic.answer hasReplica command ∧
      (forMaster hasReplica command = true → OneReply traffic.fromMaster) ∧
      ((hasReplica && forReplica command) = true → OneReply traffic.fromReplica)) :
    Handled done hasReplica command traffic where
  read
  master := master ▸ List.prefix_rfl
  replica := replica ▸ List.prefix_rfl
  client
  masterFirst _ := master
  asked _ := ⟨master, replica⟩
  unasked
  whole success := ⟨master, replica, whole success⟩

theorem Handled.mono {done other : Prop} {hasReplica : Bool} {traffic : Traffic}
    (handled : Handled done hasReplica command traffic) (weaker : other → done) :
    Handled other hasReplica command traffic :=
  { handled with whole := fun holds => handled.whole (weaker holds) }

private theorem stateCommand_handled {outcome : Option Error}
    (toMaster : forMaster session.replica.isSome command = true)
    (toReplica : forReplica command = true)
    (done : session.stateCommand command.raw = (outcome, after)) :
    ∃ traffic, session.Carried traffic after ∧
      Handled (outcome = none) session.replica.isSome command traffic := by
  have due := masterDue_eq toMaster
  have shared := replicaDue_eq session.replica.isSome toReplica
  have unasked {ignored passed : Bytes} (absent : session.replica.isSome = false → ignored = []) :
      (forMaster session.replica.isSome command = false → passed = []) ∧
        ((session.replica.isSome && forReplica command) = false → ignored = []) := by
    simpa [toMaster, toReplica] using absent
  unfold Session.stateCommand at done
  split at done
  · rename_i broken refused
    cases done
    obtain ⟨part, within, carried, _⟩ := Link.send_carried refused
    refine ⟨⟨command.raw, part, [], [], [], []⟩, ⟨(List.append_nil _).symm, carried, .refl _⟩, ?_⟩
    exact .unanswered (due.symm ▸ within) List.nil_prefix (by simp) (by simp)
  · rename_i master accepted
    obtain ⟨part, _, forwarded, whole⟩ := Link.send_carried accepted
    obtain rfl := whole rfl
    split at done
    · rename_i replica refused
      cases done
      obtain ⟨copy, within, copied, _⟩ := sendReplica_carried refused
      refine ⟨⟨command.raw, command.raw, copy, [], [], []⟩,
        ⟨(List.append_nil _).symm, forwarded, copied.or _⟩, ?_⟩
      exact .unanswered (due.symm ▸ List.prefix_rfl) (shared.symm ▸ within) (fun _ => due.symm)
        (by simp)
    · rename_i replica copied
      obtain ⟨copy, _, sent, complete⟩ := sendReplica_carried copied
      obtain rfl := complete rfl
      split at done
      · rename_i client answered relayed
        cases done
        obtain ⟨got, passed, answers, within, out, _⟩ := Link.relay_carried relayed
        refine ⟨⟨command.raw, _, _, _, _, passed⟩, ⟨out, forwarded.trans answers, sent.or _⟩, ?_⟩
        refine .sent rfl (by simp [due]) shared.symm ?_ (unasked fun _ => rfl) (by simp)
        rw [answer_eq toMaster]
        exact within
      · rename_i client answered relayed
        split at done
        rename_i failure silenced discarded
        cases done
        obtain ⟨got, passed, answers, _, out, whole⟩ := Link.relay_carried relayed
        obtain ⟨rfl, replied⟩ := whole rfl
        obtain ⟨ignored, silence, absent, ended⟩ := discardReply_carried discarded
        refine ⟨⟨command.raw, _, _, _, _, passed⟩,
          ⟨out, forwarded.trans answers, (sent.trans silence).or _⟩, ?_⟩
        have unshared : session.replica.isSome = false → ignored = [] := sent.isSome ▸ absent
        refine .sent rfl (by simp [due]) (by simp [shared]) ?_ (unasked unshared) ?_
        · rw [answer_eq toMaster]
          exact List.prefix_rfl
        · intro success
          rw [answer_eq toMaster]
          refine ⟨rfl, fun _ => replied, fun shares => ended success ?_⟩
          rw [sent.isSome]
          exact (Bool.and_eq_true_iff.mp shares).1

private theorem exchange_replica_handled {link answered : Link} {client : Writer}
    {fault : Option Fault}
    (notMaster : forMaster true command = false) (toReplica : forReplica command = true)
    (healthy : session.replica = some link)
    (exchanged : exchange session.client command.raw link = (fault, client, answered)) :
    ∃ traffic, session.Carried traffic
        { session with client, replica := some answered, reads := session.reads + 1 } ∧
      Handled (fault = none) true command traffic := by
  obtain ⟨sent, got, passed, carried, out, exchange⟩ := exchange_carried exchanged
  have nothing : masterDue true command = [] := by simp [masterDue, notMaster]
  have due : replicaDue true command = command.raw := by simp [replicaDue, toReplica]
  refine ⟨⟨command.raw, [], sent, [], got, passed⟩, ⟨out, .refl _, ?_⟩, ?_⟩
  · simp only [Session.partner, healthy]
    exact .present carried
  · exact {
      read := rfl
      master := List.nil_prefix
      replica := due ▸ exchange.request
      client := by simpa [Traffic.answer, notMaster] using exchange.reply
      masterFirst := fun _ => nothing.symm
      asked := fun some => ⟨nothing.symm, due.symm ▸ exchange.asked some⟩
      unasked := ⟨fun _ => rfl, by simp [toReplica]⟩
      whole := fun success => ⟨nothing.symm, due.symm ▸ (exchange.whole success).1,
        by simpa [Traffic.answer, notMaster] using (exchange.whole success).2.1,
        by simp [notMaster], fun _ => (exchange.whole success).2.2⟩ }

private theorem exchange_master_handled {answered : Link} {client : Writer} {fault : Option Fault}
    (toMaster : forMaster session.replica.isSome command = true)
    (notReplica : session.replica.isSome = true → ¬forReplica command = true)
    (exchanged : exchange session.client command.raw session.master = (fault, client, answered)) :
    ∃ traffic, session.Carried traffic
        { session with client, master := answered, writes := session.writes + 1 } ∧
      Handled (fault = none) session.replica.isSome command traffic := by
  obtain ⟨sent, got, passed, carried, out, exchange⟩ := exchange_carried exchanged
  have due := masterDue_eq toMaster
  have nothing : replicaDue session.replica.isSome command = [] :=
    if_neg (by simpa using notReplica)
  refine ⟨⟨command.raw, sent, [], got, [], passed⟩, ⟨out, carried, .refl _⟩, ?_⟩
  exact {
    read := rfl
    master := due ▸ exchange.request
    replica := List.nil_prefix
    client := (answer_eq toMaster _).symm ▸ exchange.reply
    masterFirst := fun some => absurd rfl some
    asked := fun some => ⟨due.symm ▸ exchange.asked (by simpa using some), nothing.symm⟩
    unasked := ⟨by simp [toMaster], fun _ => rfl⟩
    whole := fun success => ⟨due.symm ▸ (exchange.whole success).1, nothing.symm,
      (answer_eq toMaster _).symm ▸ (exchange.whole success).2.1,
      fun _ => (exchange.whole success).2.2, fun shares => absurd
        (Bool.and_eq_true_iff.mp shares).2 (notReplica (Bool.and_eq_true_iff.mp shares).1)⟩ }

private theorem pipe_carried (piped : session.pipe = (closing, after)) :
    ∃ upstream downstream sent taken got passed, closing = .pinned upstream downstream ∧
      session.clientR.unread = taken ++ after.clientR.unread ∧
      session.Carried ⟨taken, sent, [], got, [], passed⟩ after ∧ sent <+: taken ∧ passed <+: got ∧
      (upstream = true → sent = taken) ∧ (downstream = true → passed = got) := by
  unfold Session.pipe at piped
  split at piped
  rename_i downstream client replies down
  split at piped
  rename_i upstream out clientR up
  cases piped
  obtain ⟨got, passed, answered, within, given, complete⟩ := copyAll_relays.conveys down
  obtain ⟨taken, sent, read, part, forwarded, whole⟩ := copyAll_relays.conveys up
  exact ⟨upstream, downstream, sent, taken, got, passed, rfl, read,
    ⟨given, ⟨forwarded, answered⟩, .refl _⟩, part, within, whole, complete⟩

/-- A pinned session: its command and the rest of the stream, to and from the master only. -/
theorem pin_carried {pin : Option Command} (fresh : session.closed = none)
    (pinned : session.pin (pin.map Command.raw) = (closing, after)) (hasReplica : Bool) :
    ∃ last, last.fromClient <+: pin.toList.flatMap Command.raw ++ session.clientR.unread ∧
      session.Carried last after ∧ Tail hasReplica pin.toList closing last := by
  have partner : session.partner = session.replica := by simp [Session.partner, fresh]
  have whole {sent taken got passed : Bytes} {closed : Session}
      (carried : Session.Carried ⟨taken, sent, [], got, [], passed⟩
        { session with replica := none, closed := session.replica } closed) :
      session.Carried ⟨taken, sent, [], got, [], passed⟩ closed :=
    ⟨carried.client, carried.master, partner.symm ▸ carried.replica⟩
  cases pin with
  | none =>
    obtain ⟨upstream, downstream, sent, taken, got, passed, rfl, read, carried, request, reply, up,
      down⟩ := pipe_carried pinned
    exact ⟨_, ⟨_, read.symm⟩, whole carried,
      .pinned List.nil_prefix request reply ⟨rfl, rfl⟩ ⟨up, down⟩⟩
  | some command =>
    rw [Option.toList_some, List.flatMap_singleton]
    simp only [Session.pin, Option.map_some] at pinned
    split at pinned
    · rename_i master refused
      cases pinned
      obtain ⟨part, within, carried, _⟩ := Link.send_carried refused
      exact ⟨⟨command.raw, part, [], [], [], []⟩, List.prefix_append _ _,
        whole ⟨(List.append_nil _).symm, carried, .refl _⟩, .refused within⟩
    · rename_i master accepted
      obtain ⟨part, _, forwarded, sure⟩ := Link.send_carried accepted
      obtain rfl := sure rfl
      obtain ⟨upstream, downstream, sent, taken, got, passed, rfl, read, carried, request, reply,
        up, down⟩ := pipe_carried pinned
      have first : Session.Carried ⟨command.raw, command.raw, [], [], [], []⟩
          { session with replica := none, closed := session.replica }
          { session with master := master, replica := none, closed := session.replica } :=
        ⟨(List.append_nil _).symm, forwarded, .refl _⟩
      refine ⟨_, ?_, whole (first.trans carried),
        @Tail.pinned _ (some command) _ _ _ ?_ ?_ reply ⟨rfl, rfl⟩ ⟨?_, down⟩⟩
      · exact (List.prefix_append_right_inj _).mpr ⟨_, read.symm⟩
      · simp
      · exact (List.prefix_append_right_inj _).mpr request
      · exact fun success => congrArg (command.raw ++ ·) (up success)

theorem Served.handled (served : Served session command after)
    (upper : ∃ payload, command.name = toUpper payload) :
    ∃ traffic, session.Carried traffic after ∧
      Handled True session.replica.isSome command traffic := by
  cases served with
  | dropped routed =>
    obtain ⟨notMaster, notReplica⟩ := route_dropped_for upper routed
    refine ⟨⟨command.raw, [], [], [], [], []⟩, ⟨(List.append_nil _).symm, .refl _, .refl _⟩, ?_⟩
    refine .sent rfl ?_ ?_ List.nil_prefix ⟨fun _ => rfl, fun _ => rfl⟩ ?_
    · simp [masterDue, notMaster]
    · simp [replicaDue, notReplica]
    · simp [Traffic.answer, notMaster, notReplica]
  | both routed forwarded copied relayed discarded =>
    obtain ⟨toMaster, toReplica⟩ := route_both_for upper routed
    have done := stateCommand_again.mpr ⟨_, _, _, _, _, forwarded, copied, relayed, discarded, rfl⟩
    obtain ⟨traffic, carried, handled⟩ := stateCommand_handled toMaster toReplica done
    exact ⟨traffic, carried, handled.mono fun _ => rfl⟩
  | replica routed healthy exchanged =>
    obtain ⟨notMaster, toReplica⟩ := route_replica_for upper routed
    have present := (route_replica.mp routed).2.2.2.1
    rw [present] at notMaster ⊢
    obtain ⟨traffic, carried, handled⟩ :=
      exchange_replica_handled (Bool.eq_false_iff.mpr notMaster) toReplica healthy exchanged
    exact ⟨traffic, carried, handled.mono fun _ => rfl⟩
  | master routed exchanged =>
    obtain ⟨toMaster, notReplica⟩ := route_master_for upper routed
    obtain ⟨traffic, carried, handled⟩ := exchange_master_handled toMaster notReplica exchanged
    exact ⟨traffic, carried, handled.mono fun _ => rfl⟩

private theorem proceed_failed {name : Bytes} {session after : Session} {fault : Option Fault}
    (quit : proceed name session fault = .quit closing after) :
    (∃ reason, closing = .failed name reason) ∧ after = session := by
  cases fault with
  | none => cases quit
  | some fault =>
    cases quit
    exact ⟨⟨fault, rfl⟩, rfl⟩

private theorem act_quit_carried (fresh : session.closed = none)
    (upper : ∃ payload, command.name = toUpper payload)
    (quit : session.act command = .quit closing after) (others : List Command) :
    ∃ last, last.fromClient <+: command.raw ++ session.clientR.unread ∧
      session.Carried last after ∧ Tail session.replica.isSome
        (if pinning command then [command] else command :: others) closing last := by
  have broken {done : Prop} {traffic : Traffic} {hasReplica : Bool} (reason : Fault)
      (handled : Handled done hasReplica command traffic) (ordinary : ¬pinning command = true) :
      traffic.fromClient <+: command.raw ++ session.clientR.unread ∧
        Tail hasReplica (if pinning command then [command] else command :: others)
          (.failed command.name reason) traffic := by
    rw [if_neg ordinary]
    exact ⟨handled.read ▸ List.prefix_append _ _, .failed (handled.mono False.elim)⟩
  have ordinary (other : route session.replica.isSome command.name ≠ .pin) :
      ¬pinning command = true :=
    fun pin => other (route_pin.mpr ⟨pinCommands_named pin, pin⟩)
  cases routed : route session.replica.isSome command.name with
  | dropped =>
    rw [act_dropped routed] at quit
    cases quit
  | pin =>
    rw [act_pin routed] at quit
    cases quit
    rw [if_pos (show pinning command = true from (route_pin.mp routed).2)]
    have pinned : session.pin ((some command).map Command.raw) =
        ((session.pin (some command.raw)).1, (session.pin (some command.raw)).2) := rfl
    obtain ⟨last, stream, carried, tail⟩ := pin_carried fresh pinned session.replica.isSome
    exact ⟨last, by simpa using stream, carried, tail⟩
  | both =>
    obtain ⟨toMaster, toReplica⟩ := route_both_for upper routed
    rw [act_both routed] at quit
    obtain ⟨⟨reason, rfl⟩, rfl⟩ := proceed_failed quit
    obtain ⟨traffic, carried, handled⟩ := stateCommand_handled toMaster toReplica rfl
    obtain ⟨stream, tail⟩ := broken reason handled (ordinary (by simp [routed]))
    exact ⟨traffic, stream, carried, tail⟩
  | replica =>
    have present := (route_replica.mp routed).2.2.2.1
    obtain ⟨link, healthy⟩ := Option.isSome_iff_exists.mp present
    obtain ⟨notMaster, toReplica⟩ := route_replica_for upper routed
    rw [act_replica routed healthy] at quit
    obtain ⟨⟨reason, rfl⟩, rfl⟩ := proceed_failed quit
    have kept := ordinary (by simp [routed])
    rw [present] at notMaster ⊢
    obtain ⟨traffic, carried, handled⟩ :=
      exchange_replica_handled (Bool.eq_false_iff.mpr notMaster) toReplica healthy rfl
    obtain ⟨stream, tail⟩ := broken reason handled kept
    exact ⟨traffic, stream, carried, tail⟩
  | master =>
    obtain ⟨toMaster, notReplica⟩ := route_master_for upper routed
    rw [act_master routed] at quit
    obtain ⟨⟨reason, rfl⟩, rfl⟩ := proceed_failed quit
    obtain ⟨traffic, carried, handled⟩ := exchange_master_handled toMaster notReplica rfl
    obtain ⟨stream, tail⟩ := broken reason handled (ordinary (by simp [routed]))
    exact ⟨traffic, stream, carried, tail⟩

private theorem turn_quit_carried (fresh : session.closed = none)
    (quit : session.turn = .quit closing after) :
    ∃ last, last.fromClient <+: session.clientR.unread ∧ session.Carried last after ∧
      Tail session.replica.isSome (readCommands pinning session.clientR).1 closing last := by
  have still (clientR : Reader) : session.Carried .nil { session with clientR } :=
    ⟨(List.append_nil _).symm, .refl _, .refl _⟩
  have kept (clientR : Reader) : Session.closed { session with clientR } = none := fresh
  unfold Session.turn at quit
  split at quit
  · rename_i clientR read
    obtain ⟨unread, _⟩ := readCommand_inline read
    generalize pinned : Session.pin { session with clientR } none = outcome at quit
    cases quit
    obtain ⟨last, stream, carried, tail⟩ :=
      @pin_carried _ _ _ none (kept clientR) pinned session.replica.isSome
    rw [readCommands_error read]
    exact ⟨last, unread ▸ stream, ⟨carried.client, carried.master, carried.replica⟩, tail⟩
  · rename_i clientR read
    cases quit
    rw [readCommands_error read]
    exact ⟨.nil, List.nil_prefix, still clientR, .finished⟩
  · rename_i failure clientR _ _ read
    cases quit
    rw [readCommands_error read]
    exact ⟨.nil, List.nil_prefix, still clientR, .malformed failure⟩
  · rename_i command clientR read
    obtain ⟨_, _, _, consumed⟩ := readCommand_sound read
    obtain ⟨last, stream, carried, tail⟩ := act_quit_carried (kept clientR) (readCommand_name read)
      quit (readCommands pinning clientR).1
    refine ⟨last, consumed ▸ stream, ⟨carried.client, carried.master, carried.replica⟩, ?_⟩
    rw [readCommands_ok read]
    split at tail
    · rename_i pin
      rw [if_pos pin]
      exact tail
    · rename_i ordinary
      rw [if_neg ordinary]
      exact tail

/-- The books of every session balance, whatever its peers send and wherever a connection
breaks. Commands are served in the order in which they are read, each with one reply from the
backend its name is routed to, and at most the last one only in part; what a peer is sent is a
beginning of what is due to it, and nothing is invented, repeated or reordered. -/
theorem run_conserves (client : Writer) (clientR : Reader) (master : Link)
    (replica : Option Link) :
    ∃ served left last, Ledger (openSession client clientR master replica)
      (openSession client clientR master replica).run.2
      (openSession client clientR master replica).run.1 served left last := by
  suffices books : ∀ session : Session, session.closed = none →
      ∃ served left last, Ledger session session.run.2 session.run.1 served left last from
    books _ rfl
  intro session fresh
  fun_induction Session.run session with
  | case1 session closing after quit =>
    obtain ⟨last, stream, carried, tail⟩ := turn_quit_carried fresh quit
    exact ⟨[], _, last, rfl, stream, carried, by simp, tail⟩
  | case2 session middle again ih =>
    obtain ⟨command, clientR, read, moved⟩ := turn_again.mp again
    obtain ⟨_, _, _, consumed⟩ := readCommand_sound read
    obtain ⟨traffic, first, handled⟩ := moved.handled (readCommand_name read)
    obtain ⟨served, left, last, rest⟩ := ih (moved.closed.trans fresh)
    have same : middle.replica.isSome = session.replica.isSome := moved.hasReplica
    have unread : middle.clientR = clientR := moved.clientR
    have sum : Traffic.total (((command, traffic) :: served).map Prod.snd) ++ last =
        traffic ++ (Traffic.total (served.map Prod.snd) ++ last) := Traffic.append_assoc _ _ _
    refine ⟨(command, traffic) :: served, left, last, ?_, ?_, ?_, ?_, same ▸ rest.tail⟩
    · rw [readCommands_ok read, moved.ordinary, ← unread]
      exact congrArg (command :: ·) rest.commands
    · have onward := rest.stream
      rw [unread] at onward
      rw [sum, consumed, ← handled.read]
      exact (List.prefix_append_right_inj _).mpr onward
    · rw [sum]
      have entered : session.Carried traffic middle := ⟨first.client, first.master, first.replica⟩
      exact entered.trans rest.carried
    · intro entry member
      rcases List.mem_cons.mp member with rfl | later
      · exact handled
      · exact same ▸ rest.handled entry later

end Commands

end SentinelProxy.Routing
