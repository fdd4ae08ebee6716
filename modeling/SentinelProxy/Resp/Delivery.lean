import SentinelProxy.Stream.Delivery
import SentinelProxy.Resp.Fragments
import SentinelProxy.Resp.Command
import SentinelProxy.Resp.Copy

/-! The reader of commands and the copier of replies, however a stream is delivered and
whatever comes of them. -/

namespace SentinelProxy.Resp

open SentinelProxy.Stream SentinelProxy.Text

private theorem toBuffered_unread (reader : Reader) :
    reader.toBuffered.unread = Stream'.Seq.ofList reader.unread := by
  rw [Reader.unread, Stream'.Seq.ofList_append]
  rfl

private theorem readLine_oblivious : Oblivious readLine := by
  intro reader twin same
  have flows : twin.toBuffered.unread = reader.toBuffered.unread := by
    rw [toBuffered_unread, toBuffered_unread, same]
  obtain ⟨outcome, left⟩ := Buffered.readLineFrom_congr [] flows
  rw [readLineFrom_toBuffered, readLineFrom_toBuffered] at outcome left
  refine ⟨_, _, (readLine twin).2, rfl, Prod.ext outcome rfl, Stream'.Seq.ofList_injective ?_⟩
  rw [← toBuffered_unread, ← toBuffered_unread]
  exact left

private theorem readArgument_oblivious : Oblivious readArgument := by
  intro reader twin same
  obtain ⟨outcome, after, rest, one, two, left⟩ := readLine_oblivious same
  unfold readArgument
  rw [one, two]
  cases outcome with
  | error failure => exact ⟨_, _, _, rfl, rfl, left⟩
  | ok line =>
    dsimp only
    split
    · exact ⟨_, _, _, rfl, rfl, left⟩
    · cases parseRESPInt (lineText line) with
      | error failure => exact ⟨_, _, _, rfl, rfl, left⟩
      | ok length =>
        dsimp only
        split
        · exact ⟨_, _, _, rfl, rfl, left⟩
        · obtain ⟨body, final, other, read, also, remaining⟩ := readFull_oblivious _ left
          rw [read, also]
          cases body with
          | error failure => exact ⟨_, _, _, rfl, rfl, remaining⟩
          | ok payload => exact ⟨_, _, _, rfl, rfl, remaining⟩

private theorem readArguments_oblivious (left index : Nat) (command : Command) :
    Oblivious (readArguments left index command) := by
  induction left generalizing index command with
  | zero => exact fun reader twin same => ⟨_, _, _, rfl, rfl, same⟩
  | succ left ih =>
    intro reader twin same
    obtain ⟨outcome, after, rest, one, two, remaining⟩ := readArgument_oblivious same
    simp only [readArguments, one, two]
    cases outcome with
    | error failure => exact ⟨_, _, _, rfl, rfl, remaining⟩
    | ok argument => exact ih _ _ remaining

theorem readCommand_oblivious : Oblivious readCommand := by
  intro reader twin same
  obtain ⟨first, peeked, other, one, two, unmoved⟩ := peek_oblivious same
  unfold readCommand
  rw [one, two]
  cases first with
  | none => exact ⟨_, _, _, rfl, rfl, unmoved⟩
  | some byte =>
    dsimp only
    split
    · exact ⟨_, _, _, rfl, rfl, unmoved⟩
    · obtain ⟨outcome, after, rest, read, also, left⟩ := readLine_oblivious unmoved
      rw [read, also]
      cases outcome with
      | error failure => exact ⟨_, _, _, rfl, rfl, left⟩
      | ok line =>
        dsimp only
        cases parseRESPInt (lineText line) with
        | error failure => exact ⟨_, _, _, rfl, rfl, left⟩
        | ok count =>
          dsimp only
          split
          · exact ⟨_, _, _, rfl, rfl, left⟩
          · exact readArguments_oblivious _ _ _ left

/-- The copier goes on with another header. -/
def GoesOn (outcome : Except Error Int) : Prop := ∃ next, outcome = .ok next

private theorem not_goesOn (failure : Error) : ¬GoesOn (.error failure) := by
  rintro ⟨next, impossible⟩
  cases impossible

private theorem copyBlob_relays (payload : Bytes) (remaining : Int) :
    Relays GoesOn (copyBlob payload remaining) := by
  unfold copyBlob
  cases parseRESPInt payload with
  | error failure => exact .still _
  | ok length =>
    refine .ite (.still _) (.ite ?_ (.still _))
    have body := copyN_relays (int64 (length + 2)).toNat
    constructor
    · intro writer reader twin same
      obtain ⟨outcome, sent, after, rest, one, two, left⟩ := body.alike writer same
      rw [one, two]
      cases outcome with
      | none => exact ⟨_, _, _, _, rfl, rfl, fun _ => left rfl⟩
      | some failure =>
        exact ⟨_, _, _, _, rfl, rfl, fun goes => absurd goes (not_goesOn _)⟩
    · intro writer sent reader after outcome copied
      split at copied
      · rename_i moved
        cases copied
        exact (body.conveys moved).mono fun goes => absurd goes (not_goesOn _)
      · rename_i moved
        cases copied
        exact (body.conveys moved).mono fun _ => rfl

private theorem copyValue_relays (line : Bytes) (remaining : Int) :
    Relays GoesOn (copyValue line remaining) :=
  .ite (.still _) (.ite (copyBlob_relays _ _) (.ite (.still _) (.ite (.still _)
    (.ite (.still _) (.ite (.still _) (.still _))))))

/-- One turn of the copier, by what the line was. -/
theorem copyRemaining_eq {remaining : Int} {reader after : Reader} {outcome : Except Error Bytes}
    (writer : Writer) (positive : 0 < remaining) (read : readLine reader = (outcome, after)) :
    copyRemaining remaining writer reader =
      match outcome with
      | .error failure => (some failure, writer, after)
      | .ok line =>
        match writer.write line with
        | (false, broken) => (some .write, broken, after)
        | (true, sent) =>
          match copyValue line remaining sent after with
          | (.error failure, stopped, final) => (some failure, stopped, final)
          | (.ok next, copied, final) => copyRemaining next copied final := by
  rw [copyRemaining, if_pos positive]
  split
  · rename_i failed
    cases read.symm.trans failed
    rfl
  · rename_i found
    cases read.symm.trans found
    rename_i line
    dsimp only
    rcases written : writer.write line with ⟨taken, sent⟩
    cases taken with
    | false => rfl
    | true =>
      dsimp only
      rcases copied : copyValue line remaining sent after with ⟨advance, later, final⟩
      cases advance with
      | error failure => rfl
      | ok next => rfl

private theorem copyRemaining_alike (remaining : Int) (writer : Writer) {reader twin : Reader}
    (same : twin.unread = reader.unread) :
    ∃ outcome sent after rest, copyRemaining remaining writer reader = (outcome, sent, after) ∧
      copyRemaining remaining writer twin = (outcome, sent, rest) ∧
      (outcome = none → rest.unread = after.unread) := by
  fun_induction copyRemaining remaining writer reader generalizing twin with
  | case1 remaining writer reader positive failure after progress =>
    obtain ⟨_, _, rest, one, two, left⟩ := readLine_oblivious same
    cases one.symm.trans progress
    rw [copyRemaining_eq writer positive two]
    exact ⟨_, _, _, _, rfl, rfl, fun _ => left⟩
  | case2 remaining writer reader positive line after progress broken refused =>
    obtain ⟨_, _, rest, one, two, left⟩ := readLine_oblivious same
    cases one.symm.trans progress
    rw [copyRemaining_eq writer positive two]
    simp only [refused]
    exact ⟨_, _, _, _, rfl, rfl, fun _ => left⟩
  | case3 remaining writer reader positive line after progress sent accepted failure stopped final
      advance =>
    obtain ⟨_, _, rest, one, two, left⟩ := readLine_oblivious same
    cases one.symm.trans progress
    obtain ⟨_, _, _, other, found, also, _⟩ := (copyValue_relays line remaining).alike sent left
    cases found.symm.trans advance
    rw [copyRemaining_eq writer positive two]
    simp only [accepted, also]
    exact ⟨_, _, _, _, rfl, rfl, by simp⟩
  | case4 remaining writer reader positive line after progress sent accepted next copied final
      advance ih =>
    obtain ⟨_, _, rest, one, two, left⟩ := readLine_oblivious same
    cases one.symm.trans progress
    obtain ⟨_, _, _, other, found, also, onward⟩ :=
      (copyValue_relays line remaining).alike sent left
    cases found.symm.trans advance
    rw [copyRemaining_eq writer positive two]
    simp only [accepted, also]
    exact ih (onward ⟨next, rfl⟩)
  | case5 remaining writer reader done =>
    rw [copyRemaining, if_neg done]
    exact ⟨_, _, _, _, rfl, rfl, fun _ => same⟩

theorem readLineFrom_taken {line : Bytes} {reader after : Reader} {outcome : Except Error Bytes}
    (read : readLineFrom line reader = (outcome, after)) :
    ∃ got, reader.unread = got ++ after.unread := by
  fun_induction readLineFrom line reader with
  | case1 line reader part after progress malformed =>
    cases read
    exact ⟨part, readSlice_taken progress⟩
  | case2 line reader part after progress formed =>
    cases read
    exact ⟨part, readSlice_taken progress⟩
  | case3 line reader part after progress =>
    cases read
    exact ⟨part, readSlice_taken progress⟩
  | case4 line reader part after progress long =>
    cases read
    exact ⟨part, readSlice_taken progress⟩
  | case5 line reader part middle progress short ih =>
    obtain ⟨got, consumed⟩ := ih read
    exact ⟨part ++ got, by rw [readSlice_taken progress, consumed, List.append_assoc]⟩

private theorem copyRemaining_conveys (remaining : Int) (writer : Writer) (reader : Reader) :
    Conveys ((copyRemaining remaining writer reader).1 = none) writer
      (copyRemaining remaining writer reader).2.1 reader
      (copyRemaining remaining writer reader).2.2 := by
  fun_induction copyRemaining remaining writer reader with
  | case1 remaining writer reader positive failure after progress =>
    exact .lost (readLineFrom_taken progress) (by simp)
  | case2 remaining writer reader positive line after progress broken refused =>
    obtain ⟨kind, text, rfl, _, consumed⟩ := readLine_sound progress
    exact .written consumed refused (by simp)
  | case3 remaining writer reader positive line after progress sent accepted failure stopped final
      advance =>
    obtain ⟨kind, text, rfl, _, consumed⟩ := readLine_sound progress
    have value := (copyValue_relays _ remaining).conveys advance
    exact (Conveys.written consumed accepted fun _ => rfl).trans (value.mono (by simp))
  | case4 remaining writer reader positive line after progress sent accepted next copied final
      advance ih =>
    obtain ⟨kind, text, rfl, _, consumed⟩ := readLine_sound progress
    have value := (copyValue_relays _ remaining).conveys advance
    exact (Conveys.written consumed accepted fun _ => rfl).trans
      ((value.mono fun _ => ⟨next, rfl⟩).trans ih)
  | case5 remaining writer reader done => exact .still

/-- Replies that were copied to their end are all that was taken off the stream, if they are short
enough for the counter. -/
theorem copyRemaining_exact {count : Nat} {writer sent : Writer} {reader after : Reader}
    {got : Bytes} (copied : copyRemaining count writer reader = (none, sent, after))
    (taken : reader.unread = got ++ after.unread) (short : count + 2 ^ 21 * got.length < 2 ^ 63) :
    references count got = some [] := by
  generalize counter : (count : Int) = remaining at copied
  fun_induction copyRemaining remaining writer reader generalizing count got with
  | case1 => simp at copied
  | case2 => simp at copied
  | case3 => simp at copied
  | case4 remaining writer reader positive line middle progress passed accepted next forwarded final
      advanced ih =>
    obtain ⟨kind, text, rfl, fits, consumed⟩ := readLine_sound progress
    obtain ⟨demanded, known, step⟩ := (copyValue_implements kind text).sound advanced
    obtain ⟨pending, rfl⟩ : ∃ pending, count = pending + 1 := ⟨count - 1, by omega⟩
    obtain ⟨body, skipped, _⟩ := step.passed
    have conveys := copyRemaining_conveys next forwarded final
    rw [copied] at conveys
    obtain ⟨rest, _, left, _⟩ := conveys
    -- What was taken is the line, its body and what the rest of the copy took.
    obtain rfl : got = header kind text ++ (body ++ rest) := by
      refine List.append_cancel_right (taken.symm.trans ?_)
      rw [consumed, skipped, left]
      simp
    have bound := demand_pending pending known
    have line : 3 ≤ (header kind text).length := by
      rw [header_length]
      omega
    simp only [List.length_append] at short
    have exact := step.counter
    rw [← counter, Demand.advance_pending (by omega)] at exact
    have others := ih left (by omega) exact.symm copied
    have stays := step.skipped
    rw [skipped] at stays
    rw [references_header]
    simp only [headerStep, nextLine_iff.mpr ⟨fits, rfl⟩, known, Option.bind_some,
      Demand.skip_exact stays rest, Option.map_some]
    exact others
  | case5 remaining writer reader finished =>
    cases copied
    obtain rfl : count = 0 := by omega
    obtain rfl : got = [] := by simpa using taken
    exact references_zero []

/-- A reply that was copied to its end is one reply of the grammar. -/
theorem copyRESP_exact {writer sent : Writer} {reader after : Reader} {got : Bytes}
    (copied : copyRESP writer reader = (none, sent, after))
    (taken : reader.unread = got ++ after.unread) (short : got.length < 2 ^ 42) :
    reference got = some [] := by
  rw [← references_one]
  exact copyRemaining_exact copied taken (by omega)

theorem copyRESP_relays : Relays (· = none) copyRESP where
  alike writer _ _ same := copyRemaining_alike 1 writer same
  conveys {writer sent reader after outcome} copied := by
    have conveys := copyRemaining_conveys 1 writer reader
    rw [copyRESP] at copied
    rwa [copied] at conveys

end SentinelProxy.Resp
