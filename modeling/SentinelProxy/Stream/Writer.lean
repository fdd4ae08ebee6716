import SentinelProxy.Stream.Reader

/-! Writing ends of connections, and the copies between a buffered reader and a
writer. A connection may break after any number of bytes. -/

namespace SentinelProxy.Stream

/-- The writing end of a connection: what its peer has been sent, and how many
more bytes it takes before it breaks (`none`: it never does). -/
structure Writer where
  out : Bytes
  room : Option Nat
  deriving DecidableEq, Repr

/-- Send bytes; `false` reports a broken connection, which got only a part. -/
def Writer.write (writer : Writer) (bytes : Bytes) : Bool × Writer :=
  match writer.room with
  | none => (true, { writer with out := writer.out ++ bytes })
  | some room =>
    if bytes.length ≤ room then (true, ⟨writer.out ++ bytes, some (room - bytes.length)⟩)
    else (false, ⟨writer.out ++ bytes.take room, some 0⟩)

theorem Writer.write_ok {writer after : Writer} {bytes : Bytes}
    (success : writer.write bytes = (true, after)) : after.out = writer.out ++ bytes := by
  unfold Writer.write at success
  split at success
  · exact (congrArg Writer.out (Prod.mk.inj success).2).symm
  · split at success
    · exact (congrArg Writer.out (Prod.mk.inj success).2).symm
    · simp at success

theorem Writer.write_unbounded {writer : Writer} (unbounded : writer.room = none)
    (bytes : Bytes) : writer.write bytes = (true, ⟨writer.out ++ bytes, none⟩) := by
  cases writer
  subst unbounded
  rfl

/-- How a copy of a given number of bytes fails. -/
inductive CopyError where
  | eof
  | write
  deriving DecidableEq, Repr

/-- Largest piece a copy moves at a time. -/
def copyChunk : Nat := 32 * 1024

/-- Copy exactly `count` bytes, piece by piece; what was read before the stream
ended has already been sent. -/
def copyN (count : Nat) (writer : Writer) (reader : Reader) :
    Option CopyError × Writer × Reader :=
  if count = 0 then (none, writer, reader)
  else
    match progress : reader.read (min count copyChunk) with
    | (none, after) => (some .eof, writer, after)
    | (some got, after) =>
      match writer.write got with
      | (false, broken) => (some .write, broken, after)
      | (true, sent) => copyN (count - got.length) sent after
termination_by count
decreasing_by
  have nonempty := (Reader.read_some progress (by simp only [copyChunk]; omega)).2.2
  have present := List.length_pos_of_ne_nil nonempty
  omega

/-- A successful copy moved exactly the next `count` unread bytes. -/
theorem copyN_ok {count : Nat} {writer sent : Writer} {reader after : Reader}
    (success : copyN count writer reader = (none, sent, after)) :
    ∃ body, body.length = count ∧ reader.unread = body ++ after.unread ∧
      sent.out = writer.out ++ body := by
  fun_induction copyN count writer reader with
  | case1 writer reader =>
    simp only [Prod.mk.injEq, true_and] at success
    obtain ⟨rfl, rfl⟩ := success
    exact ⟨[], rfl, rfl, by simp⟩
  | case2 count writer reader pending after ended => simp at success
  | case3 count writer reader pending got after progress broken refused => simp at success
  | case4 count writer reader pending got middle progress next accepted ih =>
    obtain ⟨consumed, bound, _⟩ :=
      Reader.read_some progress (by simp only [copyChunk]; omega)
    obtain ⟨body, length, rest, written⟩ := ih success
    refine ⟨got ++ body, ?_, ?_, ?_⟩
    · simp only [List.length_append, length]
      omega
    · rw [consumed, rest, List.append_assoc]
    · rw [written, Writer.write_ok accepted, List.append_assoc]

/-- Towards an unbroken connection the copy succeeds whenever the bytes are there. -/
theorem copyN_unbounded {writer : Writer} (unbounded : writer.room = none) (count : Nat)
    (reader : Reader) (enough : count ≤ reader.unread.length) :
    ∃ after, copyN count writer reader =
        (none, ⟨writer.out ++ reader.unread.take count, none⟩, after) ∧
      after.unread = reader.unread.drop count := by
  fun_induction copyN count writer reader with
  | case1 writer reader => exact ⟨reader, by cases writer; subst unbounded; simp, by simp⟩
  | case2 count writer reader pending after ended =>
    rw [(Reader.read_none ended).1] at enough
    simp only [List.length_nil, Nat.le_zero] at enough
    exact absurd enough pending
  | case3 count writer reader pending got after progress broken refused =>
    rw [Writer.write_unbounded unbounded] at refused
    simp at refused
  | case4 count writer reader pending got middle progress next accepted ih =>
    obtain ⟨consumed, bound, _⟩ :=
      Reader.read_some progress (by simp only [copyChunk]; omega)
    have within : got.length ≤ count := by omega
    rw [Writer.write_unbounded unbounded] at accepted
    obtain ⟨_, rfl⟩ := Prod.mk.inj accepted
    have left : count - got.length ≤ middle.unread.length := by
      rw [consumed, List.length_append] at enough
      omega
    obtain ⟨after, success, remainder⟩ := ih rfl left
    refine ⟨after, ?_, ?_⟩
    · rw [success, consumed, List.take_append, List.take_of_length_le within, List.append_assoc]
    · rw [remainder, consumed, List.drop_append, List.drop_eq_nil_of_le within, List.nil_append]

/-- Copy everything up to the end of the stream, buffered bytes first. -/
def copyAll (writer : Writer) (reader : Reader) : Bool × Writer × Reader :=
  match progress : reader.read bufSize with
  | (none, after) => (true, writer, after)
  | (some got, after) =>
    match writer.write got with
    | (false, broken) => (false, broken, after)
    | (true, sent) => copyAll sent after
termination_by reader.unread.length
decreasing_by
  obtain ⟨consumed, _, nonempty⟩ := Reader.read_some progress (by simp [bufSize])
  have present := List.length_pos_of_ne_nil nonempty
  rw [consumed, List.length_append]
  omega

theorem copyAll_ok {writer sent : Writer} {reader after : Reader}
    (success : copyAll writer reader = (true, sent, after)) :
    sent.out = writer.out ++ reader.unread ∧ after.unread = [] := by
  fun_induction copyAll writer reader with
  | case1 writer reader finished ended =>
    simp only [Prod.mk.injEq, true_and] at success
    obtain ⟨rfl, rfl⟩ := success
    obtain ⟨empty, rfl⟩ := Reader.read_none ended
    simp [empty]
  | case2 writer reader got middle progress broken refused => simp at success
  | case3 writer reader got middle progress next accepted ih =>
    obtain ⟨consumed, _, _⟩ := Reader.read_some progress (by simp [bufSize])
    obtain ⟨written, empty⟩ := ih success
    refine ⟨?_, empty⟩
    rw [written, Writer.write_ok accepted, consumed, List.append_assoc]

theorem copyAll_unbounded {writer : Writer} (unbounded : writer.room = none) (reader : Reader) :
    ∃ after, copyAll writer reader = (true, ⟨writer.out ++ reader.unread, none⟩, after) := by
  fun_induction copyAll writer reader with
  | case1 writer reader finished ended =>
    refine ⟨finished, ?_⟩
    cases writer
    subst unbounded
    simp [(Reader.read_none ended).1]
  | case2 writer reader got middle progress broken refused =>
    rw [Writer.write_unbounded unbounded] at refused
    simp at refused
  | case3 writer reader got middle progress next accepted ih =>
    obtain ⟨consumed, _, _⟩ := Reader.read_some progress (by simp [bufSize])
    rw [Writer.write_unbounded unbounded] at accepted
    obtain ⟨_, rfl⟩ := Prod.mk.inj accepted
    obtain ⟨after, success⟩ := ih rfl
    exact ⟨after, by rw [success, consumed, List.append_assoc]⟩

end SentinelProxy.Stream
