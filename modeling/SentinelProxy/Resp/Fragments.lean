import SentinelProxy.Stream.Source
import SentinelProxy.Resp.Line

/-! The line reader over a connection of any kind, one that never ends included: what it
accepts, what it leaves, and how much it holds while it looks for the end of a line. -/

namespace SentinelProxy.Stream

open SentinelProxy.Resp

/-- The lines that are accepted. -/
def Acceptable (bytes : Bytes) : Prop :=
  3 ≤ bytes.length ∧ bytes[bytes.length - 2]? = some 13 ∧ bytes.length ≤ maxLineLen + bufSize

namespace Buffered

variable {σ : Type u} {source : Source σ}

/-- `readLineFrom` over any connection. It ends by the length of the line, not by the end
of the connection. -/
def readLineFrom (line : Bytes) (reader : Buffered source) :
    Except Error Bytes × Buffered source :=
  match progress : reader.readSlice 10 with
  | (part, none, after) =>
    if (line ++ part).length < 3 ∨ (line ++ part)[(line ++ part).length - 2]? ≠ some 13 then
      (.error (.malformedLine (line ++ part)), after)
    else (.ok (line ++ part), after)
  | (_, some .eof, after) => (.error .eof, after)
  | (part, some .bufferFull, after) =>
    if maxLineLen < (line ++ part).length then (.error .lineTooLong, after)
    else readLineFrom (line ++ part) after
termination_by maxLineLen + 1 - line.length
decreasing_by
  have width := (sliceFlow_full (sliceFlow_of_readSlice progress)).2.1
  simp only [List.length_append, width, bufSize] at *
  omega

def readLine (reader : Buffered source) : Except Error Bytes × Buffered source :=
  reader.readLineFrom []

/-- One turn of the loop, by what the slice was. -/
theorem readLineFrom_eq {reader after : Buffered source} {part : Bytes}
    {outcome : Option SliceError} (line : Bytes)
    (sliced : reader.readSlice 10 = (part, outcome, after)) :
    reader.readLineFrom line =
      match outcome with
      | none =>
        if (line ++ part).length < 3 ∨ (line ++ part)[(line ++ part).length - 2]? ≠ some 13 then
          (.error (.malformedLine (line ++ part)), after)
        else (.ok (line ++ part), after)
      | some .eof => (.error .eof, after)
      | some .bufferFull =>
        if maxLineLen < (line ++ part).length then (.error .lineTooLong, after)
        else after.readLineFrom (line ++ part) := by
  rw [readLineFrom]
  split
  · rename_i same
    cases sliced.symm.trans same
    rfl
  · rename_i same
    cases sliced.symm.trans same
    rfl
  · rename_i same
    cases sliced.symm.trans same
    rfl

end Buffered

/-- On a reader over pieces the line reader is the one of the proxy. -/
theorem readLineFrom_toBuffered (line : Bytes) (reader : Reader) :
    reader.toBuffered.readLineFrom line =
      ((Resp.readLineFrom line reader).1, (Resp.readLineFrom line reader).2.toBuffered) := by
  fun_induction Resp.readLineFrom line reader with
  | case1 line reader part after progress malformed =>
    rw [Buffered.readLineFrom_eq line (Reader.toBuffered_sliced progress)]
    exact if_pos malformed
  | case2 line reader part after progress formed =>
    rw [Buffered.readLineFrom_eq line (Reader.toBuffered_sliced progress)]
    exact if_neg formed
  | case3 line reader part after progress =>
    rw [Buffered.readLineFrom_eq line (Reader.toBuffered_sliced progress)]
  | case4 line reader part after progress long =>
    rw [Buffered.readLineFrom_eq line (Reader.toBuffered_sliced progress)]
    exact if_pos long
  | case5 line reader part middle progress short ih =>
    rw [Buffered.readLineFrom_eq line (Reader.toBuffered_sliced progress), ← ih]
    exact if_neg short

private theorem readLine_toBuffered (reader : Reader) :
    reader.toBuffered.readLine =
      ((Resp.readLine reader).1, (Resp.readLine reader).2.toBuffered) :=
  readLineFrom_toBuffered [] reader

namespace Buffered

variable {σ : Type u} {source : Source σ}

theorem readLineFrom_sound {line result : Bytes} {reader after : Buffered source}
    (partialLine : Partial line) (success : reader.readLineFrom line = (.ok result, after)) :
    CutsAt 10 (prepend line reader.unread) result after.unread ∧ Acceptable result := by
  fun_induction readLineFrom line reader with
  | case1 line reader part after progress malformed => simp at success
  | case2 line reader part final progress formed =>
    simp only [Prod.mk.injEq, Except.ok.injEq] at success
    obtain ⟨rfl, rfl⟩ := success
    obtain ⟨cuts, width⟩ := sliceFlow_found (sliceFlow_of_readSlice progress)
    simp only [not_or, Nat.not_lt, ne_eq, not_not] at formed
    refine ⟨cuts.after partialLine.absent, formed.1, formed.2, ?_⟩
    have within := partialLine.within
    rw [List.length_append]
    omega
  | case3 line reader part after progress => simp at success
  | case4 line reader part after progress long => simp at success
  | case5 line reader part middle progress short ih =>
    obtain ⟨whole, width, absent⟩ := sliceFlow_full (sliceFlow_of_readSlice progress)
    rw [whole, ← prepend_append]
    exact ih (partialLine.extend width absent short) success

theorem readLineFrom_complete {line result : Bytes} {rest : Flow} {reader : Buffered source}
    (partialLine : Partial line) (cuts : CutsAt 10 (prepend line reader.unread) result rest)
    (acceptable : Acceptable result) :
    ∃ after, reader.readLineFrom line = (.ok result, after) ∧ after.unread = rest := by
  fun_induction readLineFrom line reader with
  | case1 line reader part after progress malformed =>
    have found := (sliceFlow_found (sliceFlow_of_readSlice progress)).1
    obtain ⟨rfl, _⟩ := cuts.unique (found.after partialLine.absent)
    obtain ⟨long, carriage, _⟩ := acceptable
    rcases malformed with short | other
    · omega
    · exact absurd carriage other
  | case2 line reader part final progress formed =>
    have found := (sliceFlow_found (sliceFlow_of_readSlice progress)).1
    obtain ⟨rfl, rfl⟩ := cuts.unique (found.after partialLine.absent)
    exact ⟨final, rfl, rfl⟩
  | case3 line reader part after progress =>
    obtain ⟨whole, _, absent, _⟩ := sliceFlow_eof (sliceFlow_of_readSlice progress)
    rw [whole, ← prepend_append] at cuts
    have missing : 10 ∉ line ++ part := by simp [partialLine.absent, absent]
    have beyond := cuts.longer missing rfl
    obtain ⟨body, _, _, same⟩ := cuts
    obtain ⟨middle, rfl, ended⟩ := prepend_split same (Nat.le_of_lt beyond)
    obtain ⟨rfl, _⟩ := prepend_eq_nil ended.symm
    simp at beyond
  | case4 line reader part after progress long =>
    obtain ⟨whole, width, absent⟩ := sliceFlow_full (sliceFlow_of_readSlice progress)
    have missing : 10 ∉ line ++ part := by simp [partialLine.absent, absent]
    have beyond := cuts.longer missing (by rw [whole, prepend_append])
    have total := partialLine.overflow width long
    have limit := acceptable.2.2
    omega
  | case5 line reader part middle progress short ih =>
    obtain ⟨whole, width, absent⟩ := sliceFlow_full (sliceFlow_of_readSlice progress)
    rw [whole, ← prepend_append] at cuts
    exact ih (partialLine.extend width absent short) cuts

/-- Readers with the same bytes ahead read the same line, or fail alike. -/
theorem readLineFrom_congr {τ : Type v} {other : Source τ} {twin : Buffered other} (line : Bytes)
    {reader : Buffered source} (same : twin.unread = reader.unread) :
    (twin.readLineFrom line).1 = (reader.readLineFrom line).1 ∧
      (twin.readLineFrom line).2.unread = (reader.readLineFrom line).2.unread := by
  fun_induction readLineFrom line reader generalizing twin with
  | case1 line reader part after progress malformed =>
    obtain ⟨left, sliced, unread⟩ := readSlice_congr same progress
    rw [readLineFrom_eq line sliced]
    simp only [if_pos malformed]
    exact ⟨trivial, unread⟩
  | case2 line reader part after progress formed =>
    obtain ⟨left, sliced, unread⟩ := readSlice_congr same progress
    rw [readLineFrom_eq line sliced]
    simp only [if_neg formed]
    exact ⟨trivial, unread⟩
  | case3 line reader part after progress =>
    obtain ⟨left, sliced, unread⟩ := readSlice_congr same progress
    rw [readLineFrom_eq line sliced]
    exact ⟨rfl, unread⟩
  | case4 line reader part after progress long =>
    obtain ⟨left, sliced, unread⟩ := readSlice_congr same progress
    rw [readLineFrom_eq line sliced]
    simp only [if_pos long]
    exact ⟨trivial, unread⟩
  | case5 line reader part middle progress short ih =>
    obtain ⟨left, sliced, unread⟩ := readSlice_congr same progress
    rw [readLineFrom_eq line sliced]
    simp only [if_neg short]
    exact ih unread

/-- Bytes that neither end nor hold a line feed are too long a line. -/
theorem readLineFrom_endless (line : Bytes) {reader : Buffered source}
    (endless : ¬reader.unread.Terminates) (absent : 10 ∉ reader.unread) :
    (reader.readLineFrom line).1 = .error .lineTooLong := by
  fun_induction readLineFrom line reader with
  | case1 line reader part after progress malformed =>
    exact absurd (sliceFlow_found (sliceFlow_of_readSlice progress)).1.mem absent
  | case2 line reader part after progress formed =>
    exact absurd (sliceFlow_found (sliceFlow_of_readSlice progress)).1.mem absent
  | case3 line reader part after progress =>
    rw [(sliceFlow_eof (sliceFlow_of_readSlice progress)).1, terminates_prepend] at endless
    exact absurd Stream'.Seq.terminates_nil endless
  | case4 line reader part after progress long => rfl
  | case5 line reader part middle progress short ih =>
    rw [(sliceFlow_full (sliceFlow_of_readSlice progress)).1] at endless absent
    rw [terminates_prepend] at endless
    exact ih endless fun later => absent (mem_prepend.mpr (.inr later))

/-- Whatever comes of it, the line so far and the bytes that a call takes from the connection
are no more than the limit and one buffer. -/
theorem readLineFrom_taken {line : Bytes} {reader : Buffered source} (partialLine : Partial line) :
    ∃ taken, reader.unread = prepend taken (reader.readLineFrom line).2.unread ∧
      line.length + taken.length ≤ maxLineLen + bufSize := by
  fun_induction readLineFrom line reader with
  | case1 line reader part after progress malformed =>
    obtain ⟨⟨_, _, _, whole⟩, width⟩ := sliceFlow_found (sliceFlow_of_readSlice progress)
    have within := partialLine.within
    exact ⟨part, whole, by omega⟩
  | case2 line reader part after progress formed =>
    obtain ⟨⟨_, _, _, whole⟩, width⟩ := sliceFlow_found (sliceFlow_of_readSlice progress)
    have within := partialLine.within
    exact ⟨part, whole, by omega⟩
  | case3 line reader part after progress =>
    obtain ⟨whole, width, _, ended⟩ := sliceFlow_eof (sliceFlow_of_readSlice progress)
    have within := partialLine.within
    exact ⟨part, by rw [whole, ended], by omega⟩
  | case4 line reader part after progress long =>
    obtain ⟨whole, width, _⟩ := sliceFlow_full (sliceFlow_of_readSlice progress)
    have within := partialLine.within
    exact ⟨part, whole, by omega⟩
  | case5 line reader part middle progress short ih =>
    obtain ⟨whole, width, absent⟩ := sliceFlow_full (sliceFlow_of_readSlice progress)
    obtain ⟨taken, rest, bound⟩ := ih (partialLine.extend width absent short)
    refine ⟨part ++ taken, ?_, ?_⟩
    · rw [whole, rest, prepend_append]
    · rw [List.length_append] at bound ⊢
      omega

/-- A line is accepted if it is well formed and within the limit, with exactly the rest of
the bytes left, and everything else is an error. Never is more taken from the connection than
the limit and one buffer, and neither the connection nor the buffer makes a difference. Over
pieces it is the line reader of the proxy. -/
theorem readLine_exact (reader : Buffered source) :
    (∀ (line : Bytes) (rest : Flow),
      (reader.readLine.1 = .ok line ∧ reader.readLine.2.unread = rest) ↔
        CutsAt 10 reader.unread line rest ∧ Acceptable line) ∧
    ((¬∃ line rest, CutsAt 10 reader.unread line rest ∧ Acceptable line) →
      ∃ failure, reader.readLine.1 = .error failure) ∧
    (∃ taken, reader.unread = prepend taken reader.readLine.2.unread ∧
      taken.length ≤ maxLineLen + bufSize) ∧
    (∀ (τ : Type v) (other : Source τ) (twin : Buffered other), twin.unread = reader.unread →
      twin.readLine.1 = reader.readLine.1 ∧
        twin.readLine.2.unread = reader.readLine.2.unread) ∧
    (¬reader.unread.Terminates → 10 ∉ reader.unread →
      reader.readLine.1 = .error .lineTooLong) ∧
    ∀ pieces : Reader, pieces.toBuffered.readLine =
      ((Resp.readLine pieces).1, (Resp.readLine pieces).2.toBuffered) := by
  have exact (line : Bytes) (rest : Flow) :
      (reader.readLine.1 = .ok line ∧ reader.readLine.2.unread = rest) ↔
        CutsAt 10 reader.unread line rest ∧ Acceptable line := by
    constructor
    · rintro ⟨success, rfl⟩
      have sound := readLineFrom_sound Partial.nil (Prod.ext success rfl)
      rwa [prepend_nil] at sound
    · rintro ⟨cuts, acceptable⟩
      rw [← prepend_nil reader.unread] at cuts
      obtain ⟨after, success, left⟩ := readLineFrom_complete Partial.nil cuts acceptable
      rw [Buffered.readLine, success]
      exact ⟨rfl, left⟩
  refine ⟨exact, ?_, ?_, ?_, readLineFrom_endless [], readLine_toBuffered⟩
  · intro unacceptable
    cases outcome : reader.readLine.1 with
    | error failure => exact ⟨failure, rfl⟩
    | ok line => exact absurd ⟨line, _, (exact line _).mp ⟨outcome, rfl⟩⟩ unacceptable
  · obtain ⟨taken, whole, bound⟩ := @readLineFrom_taken _ _ [] reader Partial.nil
    exact ⟨taken, whole, by simpa using bound⟩
  · intro τ other twin same
    exact readLineFrom_congr [] same

/-- A connection that repeats the letter a without end, and a line that arrives in pieces,
its two terminating bytes apart. -/
theorem readLine_exact_fragments :
    (⟨[], (), by simp⟩ : Buffered (Source.endless 97)).readLine.1 = .error .lineTooLong ∧
      (newReader [[43, 79], [75, 13], [10, 58]]).toBuffered.readLine.1 =
        .ok [43, 79, 75, 13, 10] := by
  constructor
  · refine (readLine_exact.{0, 0} _).2.2.2.2.1 ?_ ?_
    · rw [Buffered.unread, prepend_nil, Stream'.Seq.not_terminates_iff]
      intro count
      rfl
    · rw [Buffered.unread, prepend_nil, Stream'.Seq.mem_iff_exists_get?]
      rintro ⟨count, found⟩
      have same : (10 : UInt8) = 97 := Option.some.inj found
      revert same
      decide
  · refine (((readLine_exact.{0, 0} _).1 _ (.cons 58 .nil)).mpr
      ⟨⟨[43, 79, 75, 13], ?_, rfl, ?_⟩, ?_⟩).1
    · decide
    · simp [Buffered.unread, Reader.toBuffered, newReader, Source.pieces]
    · exact ⟨by decide, rfl, by decide⟩

end Buffered

end SentinelProxy.Stream
