import SentinelProxy.Stream.Writer

/-! What an operation makes of a stream, however the stream was delivered: results that
depend on the unread bytes only, and copies that keep what they take off a reader in order. -/

namespace SentinelProxy.Stream

/-- The result and what is left are functions of the unread bytes. -/
def Oblivious (operation : Reader → α × Reader) : Prop :=
  ∀ ⦃reader twin : Reader⦄, twin.unread = reader.unread →
    ∃ value after rest, operation reader = (value, after) ∧ operation twin = (value, rest) ∧
      rest.unread = after.unread

theorem Oblivious.of_eq {operation : Reader → α × Reader} (result : Bytes → α × Bytes)
    (determined : ∀ reader, (operation reader).1 = (result reader.unread).1 ∧
      (operation reader).2.unread = (result reader.unread).2) : Oblivious operation := by
  intro reader twin same
  obtain ⟨value, left⟩ := determined reader
  obtain ⟨other, rest⟩ := determined twin
  rw [same] at other rest
  exact ⟨_, _, (operation twin).2, rfl, Prod.ext (other.trans value.symm) rfl,
    rest.trans left.symm⟩

theorem peek_oblivious : Oblivious Reader.peek :=
  .of_eq (fun unread => (unread.head?, unread)) Reader.peek_eq

/-- A slice takes what it returns, whatever ended it. -/
theorem slice_append (delim : UInt8) (bytes : Bytes) :
    (slice delim bytes).1 ++ (slice delim bytes).2.2 = bytes := by
  unfold slice
  split
  · rename_i line rest found
    obtain ⟨_, _, _, taken⟩ := cut_sound found
    rw [← List.append_assoc, ← taken, List.take_append_drop]
  · split
    · exact List.take_append_drop _ _
    · exact List.append_nil _

theorem readSlice_taken {reader after : Reader} {part : Bytes} {outcome : Option SliceError}
    (sliced : reader.readSlice delim = (part, outcome, after)) :
    reader.unread = part ++ after.unread := by
  have whole := slice_append delim reader.unread
  rw [reader.readSlice_eq delim, sliced] at whole
  exact whole.symm

private theorem readFullFrom_short (collected : Bytes) (count : Nat) (reader : Reader)
    (short : reader.unread.length < count) :
    (reader.readFullFrom collected count).1 =
        .error (if collected ++ reader.unread = [] then .eof else .unexpectedEOF) ∧
      (reader.readFullFrom collected count).2.unread = [] := by
  fun_induction Reader.readFullFrom collected count reader with
  | case1 collected reader => simp at short
  | case2 collected count reader pending after ended =>
    obtain ⟨empty, rfl⟩ := Reader.read_none ended
    simp [empty]
  | case3 collected count reader pending got after progress ih =>
    obtain ⟨consumed, bound, _⟩ := Reader.read_some progress (by omega)
    rw [consumed, List.length_append] at short
    rw [consumed, ← List.append_assoc]
    exact ih (by omega)

theorem readFull_oblivious (count : Nat) : Oblivious (Reader.readFull count) := by
  refine .of_eq (fun unread =>
    if count ≤ unread.length then (.ok (unread.take count), unread.drop count)
    else (.error (if unread = [] then .eof else .unexpectedEOF), [])) ?_
  intro reader
  split
  · rename_i enough
    obtain ⟨after, read, left⟩ := reader.readFull_ok count enough
    rw [read]
    exact ⟨rfl, left⟩
  · rename_i short
    exact readFullFrom_short [] count reader (Nat.lt_of_not_le short)

theorem Writer.write_nil (writer : Writer) : writer.write [] = (true, writer) := by
  rcases writer with ⟨out, _ | room⟩ <;> simp [Writer.write]

/-- Bytes that were taken are as good as written before the rest. -/
theorem Writer.write_append {writer sent : Writer} {first : Bytes}
    (accepted : writer.write first = (true, sent)) (second : Bytes) :
    writer.write (first ++ second) = sent.write second := by
  rcases writer with ⟨out, _ | room⟩
  · obtain ⟨_, rfl⟩ := Prod.mk.inj accepted
    simp [Writer.write]
  · simp only [Writer.write] at accepted
    split at accepted
    · rename_i fits
      obtain ⟨_, rfl⟩ := Prod.mk.inj accepted
      simp only [Writer.write, List.length_append, List.append_assoc]
      by_cases more : first.length + second.length ≤ room
      · rw [if_pos more, if_pos (by omega), Nat.sub_add_eq]
      · rw [if_neg more, if_neg (by omega), List.take_append, List.take_of_length_le fits]
    · simp at accepted

/-- A connection that broke takes nothing of what follows. -/
theorem Writer.write_broken {writer broken : Writer} {first : Bytes}
    (refused : writer.write first = (false, broken)) (second : Bytes) :
    writer.write (first ++ second) = (false, broken) := by
  rcases writer with ⟨out, _ | room⟩
  · simp [Writer.write] at refused
  · simp only [Writer.write] at refused
    split at refused
    · simp at refused
    · rename_i long
      obtain ⟨_, rfl⟩ := Prod.mk.inj refused
      have longer : ¬(first ++ second).length ≤ room := by
        rw [List.length_append]
        omega
      simp only [Writer.write, if_neg longer]
      rw [List.take_append_of_le_length (by omega)]

/-- Whatever comes of it, a write puts a beginning of the bytes behind what was sent. -/
theorem Writer.write_part (writer : Writer) (bytes : Bytes) :
    ∃ part, part <+: bytes ∧ (writer.write bytes).2.out = writer.out ++ part := by
  rcases writer with ⟨out, _ | room⟩
  · exact ⟨bytes, List.prefix_rfl, rfl⟩
  · simp only [Writer.write]
    split
    · exact ⟨bytes, List.prefix_rfl, rfl⟩
    · exact ⟨bytes.take room, List.take_prefix _ _, rfl⟩

/-- A copy in pieces is one write of the bytes that are there. -/
theorem copyN_eq (count : Nat) (writer : Writer) (reader : Reader) :
    (copyN count writer reader).2.1 = (writer.write (reader.unread.take count)).2 ∧
      (copyN count writer reader).1 =
        if (writer.write (reader.unread.take count)).1 then
          if count ≤ reader.unread.length then none else some .eof
        else some .write := by
  fun_induction copyN count writer reader with
  | case1 writer reader => simp [Writer.write_nil]
  | case2 count writer reader pending after ended =>
    simp [(Reader.read_none ended).1, Writer.write_nil, pending]
  | case3 count writer reader pending got after progress broken refused =>
    obtain ⟨consumed, bound, _⟩ := Reader.read_some progress (by simp only [copyChunk]; omega)
    rw [consumed, List.take_append, List.take_of_length_le (by omega),
      Writer.write_broken refused]
    exact ⟨rfl, rfl⟩
  | case4 count writer reader pending got after progress sent accepted ih =>
    obtain ⟨consumed, bound, _⟩ := Reader.read_some progress (by simp only [copyChunk]; omega)
    rw [consumed, List.take_append, List.take_of_length_le (by omega),
      Writer.write_append accepted, List.length_append]
    refine ⟨ih.1, ?_⟩
    rw [ih.2]
    have rest : count - got.length ≤ after.unread.length ↔
        count ≤ got.length + after.unread.length := by omega
    simp only [rest]

private theorem copyAll_eq (writer : Writer) (reader : Reader) :
    (copyAll writer reader).1 = (writer.write reader.unread).1 ∧
      (copyAll writer reader).2.1 = (writer.write reader.unread).2 := by
  fun_induction copyAll writer reader with
  | case1 writer reader after ended => simp [(Reader.read_none ended).1, Writer.write_nil]
  | case2 writer reader got after progress broken refused =>
    obtain ⟨consumed, _, _⟩ := Reader.read_some progress (by simp [bufSize])
    rw [consumed, Writer.write_broken refused]
    exact ⟨rfl, rfl⟩
  | case3 writer reader got after progress sent accepted ih =>
    obtain ⟨consumed, _, _⟩ := Reader.read_some progress (by simp [bufSize])
    rw [consumed, Writer.write_append accepted]
    exact ih

/-- What became of the bytes that were taken off a reader: a beginning of them was passed
on, and all of them if the copy is done. -/
def Conveys (done : Prop) (writer sent : Writer) (reader after : Reader) : Prop :=
  ∃ got passed, reader.unread = got ++ after.unread ∧ passed <+: got ∧
    sent.out = writer.out ++ passed ∧ (done → passed = got)

namespace Conveys

variable {done other : Prop} {writer middle sent : Writer} {reader between after : Reader}

theorem still : Conveys done writer writer reader reader :=
  ⟨[], [], rfl, List.prefix_rfl, by simp, fun _ => rfl⟩

/-- Bytes that were read and went nowhere. -/
theorem lost (taken : ∃ got, reader.unread = got ++ after.unread) (failed : ¬done) :
    Conveys done writer writer reader after := by
  obtain ⟨got, consumed⟩ := taken
  exact ⟨got, [], consumed, List.nil_prefix, by simp, fun holds => absurd holds failed⟩

/-- Bytes that were read and then written. -/
theorem written {got : Bytes} (taken : reader.unread = got ++ after.unread)
    (wrote : writer.write got = (accepted, sent)) (sure : done → accepted = true) :
    Conveys done writer sent reader after := by
  obtain ⟨part, within, out⟩ := writer.write_part got
  rw [wrote] at out
  refine ⟨got, part, taken, within, out, ?_⟩
  intro holds
  obtain rfl := sure holds
  exact List.append_cancel_left (out.symm.trans (Writer.write_ok wrote))

theorem trans (first : Conveys True writer middle reader between)
    (second : Conveys done middle sent between after) :
    Conveys done writer sent reader after := by
  obtain ⟨_, got, consumed, _, out, whole⟩ := first
  obtain rfl := whole trivial
  obtain ⟨more, passed, rest, within, final, complete⟩ := second
  refine ⟨got ++ more, got ++ passed, ?_, (List.prefix_append_right_inj got).mpr within, ?_, ?_⟩
  · rw [consumed, rest, List.append_assoc]
  · rw [final, out, List.append_assoc]
  · intro holds
    rw [complete holds]

theorem mono (conveys : Conveys done writer sent reader after) (weaker : other → done) :
    Conveys other writer sent reader after := by
  obtain ⟨got, passed, consumed, within, out, whole⟩ := conveys
  exact ⟨got, passed, consumed, within, out, fun holds => whole (weaker holds)⟩

end Conveys

/-- A copy that keeps bytes in order and cannot tell how they were delivered. What is left
on the reader is determined only by a copy that is done. -/
structure Relays (done : α → Prop) (copy : Writer → Reader → α × Writer × Reader) : Prop where
  alike : ∀ (writer : Writer) {reader twin : Reader}, twin.unread = reader.unread →
    ∃ outcome sent after rest, copy writer reader = (outcome, sent, after) ∧
      copy writer twin = (outcome, sent, rest) ∧ (done outcome → rest.unread = after.unread)
  conveys : ∀ {writer sent reader after outcome}, copy writer reader = (outcome, sent, after) →
    Conveys (done outcome) writer sent reader after

theorem Relays.still {done : α → Prop} (outcome : α) :
    Relays done fun writer reader => (outcome, writer, reader) where
  alike _ _ _ same := ⟨_, _, _, _, rfl, rfl, fun _ => same⟩
  conveys copied := by
    cases copied
    exact .still

theorem Relays.ite {done : α → Prop} {condition : Prop} [Decidable condition]
    {copy other : Writer → Reader → α × Writer × Reader} (positive : Relays done copy)
    (negative : Relays done other) :
    Relays done fun writer reader =>
      if condition then copy writer reader else other writer reader := by
  by_cases holds : condition
  · simpa only [if_pos holds] using positive
  · simpa only [if_neg holds] using negative

private theorem copyN_conveys (count : Nat) (writer : Writer) (reader : Reader) :
    Conveys ((copyN count writer reader).1 = none) writer (copyN count writer reader).2.1 reader
      (copyN count writer reader).2.2 := by
  fun_induction copyN count writer reader with
  | case1 writer reader => exact .still
  | case2 count writer reader pending after ended =>
    obtain ⟨_, rfl⟩ := Reader.read_none ended
    exact .still
  | case3 count writer reader pending got after progress broken refused =>
    obtain ⟨consumed, _, _⟩ := Reader.read_some progress (by simp only [copyChunk]; omega)
    exact .written consumed refused (by simp)
  | case4 count writer reader pending got after progress sent accepted ih =>
    obtain ⟨consumed, _, _⟩ := Reader.read_some progress (by simp only [copyChunk]; omega)
    exact (Conveys.written consumed accepted fun _ => rfl).trans ih

theorem copyN_relays (count : Nat) : Relays (· = none) (copyN count) where
  alike writer reader twin same := by
    obtain ⟨sent, outcome⟩ := copyN_eq count writer reader
    obtain ⟨also, result⟩ := copyN_eq count writer twin
    rw [same, ← outcome] at result
    rw [same, ← sent] at also
    refine ⟨_, _, _, (copyN count writer twin).2.2, rfl, Prod.ext result (Prod.ext also rfl), ?_⟩
    intro success
    obtain ⟨body, size, one, _⟩ := copyN_ok (Prod.ext success rfl)
    obtain ⟨other, width, two, _⟩ := copyN_ok (Prod.ext (result.trans success) rfl)
    have whole := two.symm.trans (same.trans one)
    exact (List.append_inj whole (width.trans size.symm)).2
  conveys {writer sent reader after outcome} copied := by
    have conveys := copyN_conveys count writer reader
    rwa [copied] at conveys

private theorem copyAll_conveys (writer : Writer) (reader : Reader) :
    Conveys ((copyAll writer reader).1 = true) writer (copyAll writer reader).2.1 reader
      (copyAll writer reader).2.2 := by
  fun_induction copyAll writer reader with
  | case1 writer reader after ended =>
    obtain ⟨_, rfl⟩ := Reader.read_none ended
    exact .still
  | case2 writer reader got after progress broken refused =>
    obtain ⟨consumed, _, _⟩ := Reader.read_some progress (by simp [bufSize])
    exact .written consumed refused (by simp)
  | case3 writer reader got after progress sent accepted ih =>
    obtain ⟨consumed, _, _⟩ := Reader.read_some progress (by simp [bufSize])
    exact (Conveys.written consumed accepted fun _ => rfl).trans ih

theorem copyAll_relays : Relays (· = true) copyAll where
  alike writer reader twin same := by
    obtain ⟨outcome, sent⟩ := copyAll_eq writer reader
    obtain ⟨result, also⟩ := copyAll_eq writer twin
    rw [same, ← outcome] at result
    rw [same, ← sent] at also
    refine ⟨_, _, _, (copyAll writer twin).2.2, rfl, Prod.ext result (Prod.ext also rfl), ?_⟩
    intro success
    rw [(copyAll_ok (Prod.ext success rfl)).2, (copyAll_ok (Prod.ext (result.trans success) rfl)).2]
  conveys {writer sent reader after outcome} copied := by
    have conveys := copyAll_conveys writer reader
    rwa [copied] at conveys

end SentinelProxy.Stream
