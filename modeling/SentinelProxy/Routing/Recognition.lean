import SentinelProxy.Text.Fold
import SentinelProxy.Routing.Answers

/-! The names a session acts on, compared with the names a server looks up: the session
upper-cases by Unicode, a server ignores the case of ASCII letters only. -/

namespace SentinelProxy.Routing

open SentinelProxy.Stream SentinelProxy.Text SentinelProxy.Resp

/-- Every command that a session does not just send to the master. -/
def recognisedCommands : List String := readOnlyCommands ++ stateCommands ++ pinCommands

/-- A server takes the name for an entry of the table. -/
def Named (table : List String) (payload : Bytes) : Prop :=
  ∃ entry ∈ table, sameName payload (bytesOf entry) = true

instance (table : List String) (payload : Bytes) : Decidable (Named table payload) :=
  inferInstanceAs (Decidable (∃ entry ∈ table, _))

/-- The turn hands the command to the master and to no replica, and the session stays
routed: it goes on, or it ends because this exchange has failed. -/
def MasterOnly (session : Session) (raw : Bytes) : Prop :=
  ∃ after, after.master.sent = (session.master.sent.write raw).2 ∧
    after.replica = session.replica ∧ after.closed = session.closed ∧
    (session.turn = .again after ∨
      ∃ name fault, session.turn = .quit (.failed name fault) after)

/-- What a session makes of a first argument is what a server knows it as, and anything
else it sends to the master. -/
structure Recognised (payload : Bytes) : Prop where
  read : getDirection (toUpper payload) = .read → Named readOnlyCommands payload
  state : listed stateCommands (toUpper payload) = true → Named stateCommands payload
  pin : listed pinCommands (toUpper payload) = true → Named pinCommands payload
  other : ¬Named recognisedCommands payload →
    ∀ (session : Session) (text : CommandText) (argument : Argument) (others : List Argument)
      (rest : Bytes), text.arguments = argument :: others → argument.payload = payload →
        session.clientR.unread = text.bytes ++ rest → MasterOnly session text.bytes

private theorem recognisedCommands_plain :
    ∀ entry ∈ recognisedCommands, PlainName (bytesOf entry) := by
  have checked : (recognisedCommands.all fun entry =>
      (bytesOf entry).all (fun byte => byte.toNat < 0x80) &&
        (bytesOf entry).map asciiUpper == bytesOf entry) = true := by
    decide +kernel
  intro entry member
  simpa [PlainName] using List.all_eq_true.mp checked entry member

private theorem read_recognised {entry : String} (member : entry ∈ readOnlyCommands) :
    entry ∈ recognisedCommands := by
  simp [recognisedCommands, member]

private theorem state_recognised {entry : String} (member : entry ∈ stateCommands) :
    entry ∈ recognisedCommands := by
  simp [recognisedCommands, member]

private theorem pin_recognised {entry : String} (member : entry ∈ pinCommands) :
    entry ∈ recognisedCommands := by
  simp [recognisedCommands, member]

section Tables

variable {table : List String} {payload : Bytes}
variable (known : ∀ {entry}, entry ∈ table → entry ∈ recognisedCommands)

include known

private theorem named_mono (named : Named table payload) : Named recognisedCommands payload := by
  obtain ⟨entry, member, same⟩ := named
  exact ⟨entry, known member, same⟩

private theorem named_ascii (named : Named table payload) :
    ∀ byte ∈ payload, byte.toNat < 0x80 := by
  obtain ⟨entry, member, same⟩ := named
  exact sameName_ascii (recognisedCommands_plain entry (known member)) same

/-- Looking the upper-case form up finds what a server finds, and the folded spellings. -/
theorem listed_toUpper :
    listed table (toUpper payload) = true ↔
      Named table payload ∨ ∃ entry ∈ table, FoldedSpelling payload (bytesOf entry) := by
  rw [listed_iff]
  constructor
  · rintro ⟨entry, member, same⟩
    rcases (toUpper_eq_plain (recognisedCommands_plain entry (known member))).mp same.symm with
      same | folded
    · exact .inl ⟨entry, member, same⟩
    · exact .inr ⟨entry, member, folded⟩
  · rintro (⟨entry, member, same⟩ | ⟨entry, member, folded⟩)
    · exact ⟨entry, member,
        ((toUpper_eq_plain (recognisedCommands_plain entry (known member))).mpr (.inl same)).symm⟩
    · exact ⟨entry, member,
        ((toUpper_eq_plain (recognisedCommands_plain entry (known member))).mpr
          (.inr folded)).symm⟩

/-- A lookup in the table that finds no more than a server does finds no folded spelling. -/
theorem lookup_exact :
    (listed table (toUpper payload) = true → Named table payload) ↔
      ∀ entry ∈ table, ¬FoldedSpelling payload (bytesOf entry) := by
  rw [listed_toUpper known]
  constructor
  · intro exact entry member folded
    exact folded_not_ascii folded (named_ascii known (exact (.inr ⟨entry, member, folded⟩)))
  · rintro none (named | ⟨entry, member, folded⟩)
    · exact named
    · exact absurd folded (none entry member)

end Tables

private theorem exchange_write (client : Writer) (raw : Bytes) (link : Link) :
    (exchange client raw link).2.2.sent = (link.sent.write raw).2 := by
  unfold exchange
  split
  · rename_i after refused
    simp only [Link.send, Prod.mk.injEq] at refused
    rw [← refused.2]
  · rename_i after accepted
    simp only [Link.send, Prod.mk.injEq] at accepted
    split
    · rename_i relayed
      rw [Link.relay_sent relayed, ← accepted.2]
    · rename_i relayed
      rw [Link.relay_sent relayed, ← accepted.2]

private theorem proceed_cases (name : Bytes) (session : Session) (fault : Option Fault) :
    proceed name session fault = .again session ∨
      ∃ failing failure,
        proceed name session fault = .quit (.failed failing failure) session := by
  cases fault with
  | none => exact .inl rfl
  | some failure => exact .inr ⟨name, failure, rfl⟩

/-- A command routed to the master goes there only. -/
theorem masterOnly_of_route {session : Session} {text : CommandText} {rest : Bytes}
    (stream : session.clientR.unread = text.bytes ++ rest)
    (routed : route session.replica.isSome text.name = .master) :
    MasterOnly session text.bytes := by
  obtain ⟨clientR, read, _⟩ := readCommand_complete text stream
  have acted := @act_master { session with clientR } ⟨text.name, text.bytes⟩ routed
  refine ⟨{ session with
    clientR
    client := (exchange session.client text.bytes session.master).2.1
    master := (exchange session.client text.bytes session.master).2.2
    writes := session.writes + 1 }, exchange_write _ _ _, rfl, rfl, ?_⟩
  rw [Session.turn, read]
  simp only [acted]
  exact proceed_cases _ _ _

private theorem not_masterOnly_dropped {session : Session} {text : CommandText} {rest : Bytes}
    (stream : session.clientR.unread = text.bytes ++ rest) (unnamed : text.name = [])
    (writes : session.master.sent ≠ (session.master.sent.write text.bytes).2) :
    ¬MasterOnly session text.bytes := by
  obtain ⟨clientR, read, _⟩ := readCommand_complete text stream
  have kept : session.turn = .again { session with clientR } := by
    rw [Session.turn, read]
    exact act_dropped (route_dropped.mpr unnamed)
  rintro ⟨after, sent, _, _, goes | ⟨name, failure, ends⟩⟩
  · rw [kept] at goes
    cases goes
    exact writes sent
  · rw [kept] at ends
    cases ends

/-- A session whose client has sent the command without a name. -/
def unnamedSession : Session :=
  openSession ⟨[], none⟩ (newReader [emptyText.bytes]) ⟨⟨[], none⟩, newReader []⟩ none

private theorem empty_not_recognised : ¬Recognised [] := by
  intro recognised
  have stream : unnamedSession.clientR.unread = emptyText.bytes ++ [] := by
    simp [unnamedSession, openSession, newReader_unread]
  refine not_masterOnly_dropped stream (by decide +kernel) ?_
    (recognised.other (by decide +kernel) unnamedSession emptyText _ [] [] rfl rfl stream)
  intro same
  have written := congrArg Writer.out same
  revert written
  decide +kernel

theorem Recognised.unfolded {payload : Bytes} (recognised : Recognised payload) :
    ∀ entry ∈ recognisedCommands, ¬FoldedSpelling payload (bytesOf entry) := by
  have reads := (lookup_exact read_recognised).mp fun found =>
    recognised.read ((getDirection_toUpper payload).mpr found)
  have states := (lookup_exact state_recognised).mp recognised.state
  have pins := (lookup_exact pin_recognised).mp recognised.pin
  intro entry member
  simp only [recognisedCommands, List.mem_append] at member
  rcases member with (read | state) | pin
  · exact reads entry read
  · exact states entry state
  · exact pins entry pin

private theorem recognised_of_unfolded {payload : Bytes} (present : payload ≠ [])
    (plain : ∀ entry ∈ recognisedCommands, ¬FoldedSpelling payload (bytesOf entry)) :
    Recognised payload := by
  have read : getDirection (toUpper payload) = .read → Named readOnlyCommands payload :=
    fun direction => (lookup_exact read_recognised).mpr
      (fun entry member => plain entry (read_recognised member))
      ((getDirection_toUpper payload).mp direction)
  have state := (lookup_exact state_recognised).mpr fun entry member =>
    plain entry (state_recognised member)
  have pin := (lookup_exact pin_recognised).mpr fun entry member =>
    plain entry (pin_recognised member)
  refine ⟨read, state, pin, ?_⟩
  intro unknown session text argument others rest first same stream
  have spelled : text.name = toUpper payload := by
    rw [CommandText.name, first, ← same]
  -- An unknown name is in none of the three tables, so the route that is left is the master.
  apply masterOnly_of_route stream
  rw [spelled]
  refine route_master.mpr ⟨mt (toUpper_eq_nil payload).mp present, ?_, ?_, ?_⟩
  · exact Bool.eq_false_iff.mpr fun found => unknown (named_mono pin_recognised (pin found))
  · exact Bool.eq_false_iff.mpr fun found => unknown (named_mono state_recognised (state found))
  · rintro ⟨_, direction⟩
    exact unknown (named_mono read_recognised (read direction))

/-- A first argument is read under its upper-case form. It is recognised as a server does,
and left to the master if a server does not know it, exactly if it is neither empty nor a
folded spelling of a recognised command. -/
theorem recognised_iff (payload : Bytes) :
    (∀ (reader : Reader) (text : CommandText) (argument : Argument) (others : List Argument)
      (rest : Bytes), text.arguments = argument :: others → argument.payload = payload →
        reader.unread = text.bytes ++ rest →
          ∃ after, readCommand reader = (.ok ⟨toUpper payload, text.bytes⟩, after) ∧
            after.unread = rest) ∧
    (Recognised payload ↔
      payload ≠ [] ∧
        ∀ entry ∈ recognisedCommands, ¬FoldedSpelling payload (bytesOf entry)) := by
  refine ⟨?_, ?_, ?_⟩
  · intro reader text argument others rest first same stream
    obtain ⟨after, read, left⟩ := readCommand_complete text stream
    rw [CommandText.name, first] at read
    rw [← same]
    exact ⟨after, read, left⟩
  · intro recognised
    refine ⟨?_, recognised.unfolded⟩
    rintro rfl
    exact empty_not_recognised recognised
  · rintro ⟨present, plain⟩
    exact recognised_of_unfolded present plain

/-- A session with a replica whose client sends a command of one argument. -/
def sessionOf (payload : Bytes) : Session :=
  openSession ⟨[], none⟩ (newReader [encodeCommand [payload]])
    ⟨⟨[], none⟩, newReader [bytesOf "-ERR unknown command\r\n"]⟩
    (some ⟨⟨[], none⟩, newReader [bytesOf "-ERR unknown command\r\n"]⟩)

/-- A dotless i makes an unknown command a read, and the replica gets it; a long s makes
one a state command or a pin command, and the latter ends the routing. -/
theorem dotless_ping_routed :
    getDirection (toUpper (bytesOf "pıng")) = .read ∧
      ¬Named recognisedCommands (bytesOf "pıng") ∧
      (sessionOf (bytesOf "pıng")).run.2.replicaSent = some (encodeCommand [bytesOf "pıng"]) ∧
      (sessionOf (bytesOf "pıng")).run.2.master.sent.out = [] ∧
      listed stateCommands (toUpper (bytesOf "ſelect")) = true ∧
      ¬Named recognisedCommands (bytesOf "ſelect") ∧
      (sessionOf (bytesOf "ſelect")).run.2.replicaSent = some (encodeCommand [bytesOf "ſelect"]) ∧
      listed pinCommands (toUpper (bytesOf "ſubscribe")) = true ∧
      ¬Named recognisedCommands (bytesOf "ſubscribe") ∧
      (sessionOf (bytesOf "ſubscribe")).run.1 = .pinned true true := by
  decide +kernel

end SentinelProxy.Routing
