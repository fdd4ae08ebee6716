import SentinelProxy.Resp.Machine

/-! The reply copier over its whole loop: how far the counter can get, and that no machine
can be told from another before `2 ^ 42` header lines have been read. -/

namespace SentinelProxy.Resp

open SentinelProxy.Stream SentinelProxy.Text

/-- A property of the counter and the unread bytes, kept by every header line, under which
the machine counts as a register of 64 bits does. -/
structure Tracks (machine : Machine) (guard : Int → Bytes → Prop) : Prop where
  small : ∀ {remaining bytes}, guard remaining bytes → remaining < 2 ^ 63
  counts : ∀ {remaining bytes kind text rest}, guard remaining bytes → 0 < remaining →
    nextLine bytes = some (kind, text, rest) → Counts machine remaining (demand kind text)
  step : ∀ {remaining bytes kind text rest demanded after}, guard remaining bytes →
    0 < remaining → nextLine bytes = some (kind, text, rest) →
    demand kind text = some demanded → demanded.skip rest = some after →
    guard (demanded.advance remaining) after

section Loop

variable {machine : Machine} {guard : Int → Bytes → Prop}

theorem copyRemainingOn_eq (accurate : machine.Accurate) (tracks : Tracks machine guard)
    {remaining : Int} {writer : Writer} {reader : Reader}
    (start : guard remaining reader.unread) :
    copyRemainingOn machine remaining writer reader =
      some (copyRemaining remaining writer reader) := by
  have switch {kind text rest remaining bytes} (start : guard remaining bytes)
      (positive : 0 < remaining) (found : nextLine bytes = some (kind, text, rest))
      (writer : Writer) (reader : Reader) :=
    copyValueOn_eq accurate positive (tracks.small start) (tracks.counts start positive found)
      writer reader
  fun_induction copyRemaining remaining writer reader with
  | case1 remaining writer reader positive failure after stopped =>
    rw [copyRemainingOn, if_pos positive]
    split
    · rename_i failed
      cases stopped.symm.trans failed
      rfl
    · rename_i read
      cases stopped.symm.trans read
  | case2 remaining writer reader positive line after progress broken refused =>
    rw [copyRemainingOn, if_pos positive]
    split
    · rename_i failed
      cases progress.symm.trans failed
    · rename_i read
      cases progress.symm.trans read
      simp only [refused]
  | case3 remaining writer reader positive line after progress middle accepted failure stopped
      final failed =>
    obtain ⟨kind, text, rfl, fits, consumed⟩ := readLine_sound progress
    have agrees := switch start positive (nextLine_iff.mpr ⟨fits, consumed⟩) middle after
    rw [failed] at agrees
    rw [copyRemainingOn_value positive progress accepted agrees]
  | case4 remaining writer reader positive line middle progress passed accepted next copied final
      advanced ih =>
    obtain ⟨kind, text, rfl, fits, consumed⟩ := readLine_sound progress
    have found := nextLine_iff.mpr ⟨fits, consumed⟩
    have agrees := switch start positive found passed middle
    obtain ⟨demanded, known, step⟩ := (copyValue_implements kind text).sound advanced
    have kept := tracks.step start positive found known step.skipped
    rw [← step.counter] at kept
    rw [advanced] at agrees
    rw [copyRemainingOn_value positive progress accepted agrees]
    exact ih kept
  | case5 remaining writer reader finished => rw [copyRemainingOn, if_neg finished]

private theorem int64_lt (value : Int) : int64 value < 2 ^ 63 := by
  unfold int64
  omega

theorem Demand.advance_lt (demanded : Demand) (remaining : Int) :
    demanded.advance remaining < 2 ^ 63 := by
  cases demanded <;> exact int64_lt _

/-- A counter that wraps needs no guard. -/
theorem wrapping_tracks (wraps : ∀ value, machine.counter value = some (int64 value)) :
    Tracks machine fun remaining _ => remaining < 2 ^ 63 := by
  refine ⟨id, ?_, ?_⟩
  · intro remaining bytes kind text rest _ _ _ value _ _
    exact wraps value
  · intro remaining bytes kind text rest demanded after _ _ _ _ _
    exact demanded.advance_lt remaining

/-- With few header lines ahead the next of them leaves the counter in its register. -/
theorem FewLines.pending {count : Nat} {bytes : Bytes} (few : FewLines (count + 1) bytes)
    (found : nextLine bytes = some (kind, text, rest))
    (known : demand kind text = some demanded) : demanded.pending (count + 1) < 2 ^ 63 := by
  have stepped {after : Bytes} (skipped : demanded.skip rest = some after) :
      headerStep (count + 1) bytes = some (demanded.pending (count + 1), after) := by
    simp [headerStep, found, known, skipped]
  cases demanded with
  | body length =>
    have small := fewLines_guard.small few
    simp only [Demand.pending]
    omega
  | elements size => exact fewLines_guard.small (fewLines_guard.step few (stepped rfl))
  | before size => exact fewLines_guard.small (fewLines_guard.step few (stepped rfl))

def FewAhead (remaining : Int) (bytes : Bytes) : Prop :=
  ∃ count : Nat, remaining = count ∧ FewLines count bytes

private theorem fewAhead_tracks (exact : ∀ value, 0 ≤ value → value < 2 ^ 63 →
      machine.counter value = some value) : Tracks machine FewAhead := by
  constructor
  · rintro remaining bytes ⟨count, rfl, few⟩
    have small := fewLines_guard.small few
    omega
  · rintro remaining bytes kind text rest ⟨count, rfl, few⟩ positive found value nonneg reached
    obtain ⟨pending, rfl⟩ : ∃ pending, count = pending + 1 := ⟨count - 1, by omega⟩
    have small := fewLines_guard.small few
    have fits : value < 2 ^ 63 := by
      rcases reached with below | ⟨demanded, known, below⟩
      · omega
      · have bound := few.pending found known
        rw [Int.toNat_natCast] at below
        omega
    rw [exact value nonneg fits, int64_of_fits (by omega) fits]
  · rintro remaining bytes kind text rest demanded after ⟨count, rfl, few⟩ positive found known
      skipped
    obtain ⟨pending, rfl⟩ : ∃ pending, count = pending + 1 := ⟨count - 1, by omega⟩
    have stepped : headerStep (pending + 1) bytes =
        some (demanded.pending (pending + 1), after) := by
      simp [headerStep, found, known, skipped]
    exact ⟨_, Demand.advance_pending (few.pending found known), fewLines_guard.step few stepped⟩

end Loop

section Turns

/-- What the loop of the copier carries from one header line to the next. -/
structure CopyState where
  remaining : Int
  writer : Writer
  reader : Reader

/-- One turn of the loop that goes on to the next. -/
inductive Turn (state : CopyState) : CopyState → Prop where
  | goesOn {line : Bytes} {middle after : Reader} {passed sent : Writer} {next : Int}
      (positive : 0 < state.remaining) (read : readLine state.reader = (.ok line, middle))
      (accepted : state.writer.write line = (true, passed))
      (advanced : copyValue line state.remaining passed middle = (.ok next, sent, after)) :
      Turn state ⟨next, sent, after⟩

/-- The states in which the loop looks at its counter, with the header lines read by then. -/
inductive Turns (start : CopyState) : Nat → CopyState → Prop where
  | start : Turns start 0 start
  | next {lines : Nat} {state after : CopyState} (earlier : Turns start lines state)
      (turn : Turn state after) : Turns start (lines + 1) after

theorem Turns.copyRemaining {start state : CopyState} {lines : Nat}
    (turns : Turns start lines state) :
    copyRemaining start.remaining start.writer start.reader =
      copyRemaining state.remaining state.writer state.reader := by
  induction turns with
  | start => rfl
  | next earlier turn ih =>
    cases turn with
    | goesOn positive read accepted advanced =>
      rw [ih, copyRemaining_step positive read accepted advanced]

theorem Turn.headerStep {state after : CopyState} {count : Nat}
    (counter : state.remaining = (count : Int)) (turn : Turn state after) :
    ∃ (pending : Nat) (demanded : Demand), count = pending + 1 ∧
      headerStep count state.reader.unread =
        some (demanded.pending count, after.reader.unread) ∧
      after.remaining = demanded.advance count ∧
      demanded.pending count ≤ count + 2 ^ 21 := by
  cases turn with
  | goesOn positive read accepted advanced =>
    obtain ⟨kind, text, rfl, fits, consumed⟩ := readLine_sound read
    obtain ⟨demanded, known, step⟩ := (copyValue_implements kind text).sound advanced
    obtain ⟨pending, rfl⟩ : ∃ pending, count = pending + 1 := ⟨count - 1, by omega⟩
    refine ⟨pending, demanded, rfl, ?_, ?_, demand_pending pending known⟩
    · rw [consumed]
      exact headerStep_of_advance (pending + 1) fits known step
    · rw [← counter]
      exact step.counter

/-- Lines read and lines ahead are all the header lines of the stream, and the counter is
a number that has grown by at most `2 ^ 21` with each line. -/
theorem Turns.bounded {writer : Writer} {reader : Reader} {lines : Nat} {state : CopyState}
    (few : headerLines 1 reader.unread < 2 ^ 42) (turns : Turns ⟨1, writer, reader⟩ lines state) :
    ∃ count : Nat, state.remaining = count ∧ count ≤ 1 + 2 ^ 21 * lines ∧
      lines + headerLines count state.reader.unread = headerLines 1 reader.unread := by
  induction turns with
  | start => exact ⟨1, rfl, by omega, Nat.zero_add _⟩
  | @next lines state after earlier turn ih =>
    obtain ⟨count, counter, bound, ahead⟩ := ih
    obtain ⟨pending, demanded, rfl, stepped, advanced, grown⟩ := turn.headerStep counter
    have fewer := headerLines_step stepped
    have within : demanded.pending (pending + 1) ≤ 1 + 2 ^ 21 * (lines + 1) := by
      rw [Nat.mul_succ, ← Nat.add_assoc]
      exact Nat.le_trans grown (Nat.add_le_add_right bound _)
    refine ⟨demanded.pending (pending + 1), ?_, within, by omega⟩
    rw [advanced]
    exact Demand.advance_pending (by omega)

end Turns

private theorem copyRESPOn_eq {machine : Machine} (accurate : machine.Accurate)
    (exact : ∀ value, 0 ≤ value → value < 2 ^ 63 → machine.counter value = some value)
    {writer : Writer} {reader : Reader} (few : headerLines 1 reader.unread < 2 ^ 42) :
    copyRESPOn machine writer reader = some (copyRESP writer reader) := by
  have start : FewLines 1 reader.unread := by
    unfold FewLines
    omega
  exact copyRemainingOn_eq accurate (fewAhead_tracks exact) ⟨1, rfl, start⟩

private theorem copyRESPOn_of_wraps {machine : Machine} (accurate : machine.Accurate)
    (wraps : ∀ value, machine.counter value = some (int64 value)) (writer : Writer)
    (reader : Reader) : copyRESPOn machine writer reader = some (copyRESP writer reader) :=
  copyRemainingOn_eq accurate (wrapping_tracks wraps) (by decide)

/-- On registers of 64 bits the copier is the one that wraps its counter explicitly. -/
theorem copyRESPOn_wrapping (writer : Writer) (reader : Reader) :
    copyRESPOn .wrapping writer reader = some (copyRESP writer reader) :=
  copyRESPOn_of_wraps Machine.wrapping_accurate (fun _ => rfl) writer reader

/-- The framing arithmetic never wraps. With fewer than `2 ^ 42` header lines the counter
stays between zero and one more than `2 ^ 21` for each line read, the copier does what it
would do with unbounded integers, and a machine that traps at every overflow never traps.
The amounts and sizes alone stay in bounds on every stream, in commands as in replies, and a
machine that wraps as the code's integers do is the copier itself. -/
theorem framing_exact :
    (∀ (writer : Writer) (reader : Reader), headerLines 1 reader.unread < 2 ^ 42 →
      (∀ (lines : Nat) (state : CopyState), Turns ⟨1, writer, reader⟩ lines state →
        0 ≤ state.remaining ∧ state.remaining ≤ 1 + 2 ^ 21 * lines) ∧
      copyRESPOn .unbounded writer reader = some (copyRESP writer reader) ∧
      copyRESPOn .trapping writer reader = some (copyRESP writer reader)) ∧
    (∀ (writer : Writer) (reader : Reader),
      copyRESPOn .trappingAmounts writer reader = some (copyRESP writer reader)) ∧
    (∀ reader : Reader, readCommandOn .trapping reader = some (readCommand reader)) ∧
    ∀ (writer : Writer) (reader : Reader),
      copyRESPOn .wrapping writer reader = some (copyRESP writer reader) := by
  refine ⟨?_, ?_, ?_, copyRESPOn_wrapping⟩
  · intro writer reader few
    refine ⟨?_, ?_, ?_⟩
    · intro lines state turns
      obtain ⟨count, counter, bound, _⟩ := turns.bounded few
      rw [counter]
      exact ⟨by omega, by exact_mod_cast bound⟩
    · exact copyRESPOn_eq Machine.unbounded_accurate (fun _ _ _ => rfl) few
    · refine copyRESPOn_eq Machine.trapping_accurate ?_ few
      intro value nonneg fits
      exact Machine.checked_of_fits (by omega) fits
  · exact copyRESPOn_of_wraps Machine.trappingAmounts_accurate fun _ => rfl
  · exact readCommandOn_eq Machine.trapping_accurate

theorem framing_exact_fullAttribute :
    headerLines 1 (newReader [fullAttribute]).unread < 2 ^ 42 ∧
      ∃ state, Turns ⟨1, ⟨[], none⟩, newReader [fullAttribute]⟩ 1 state ∧
        0 ≤ state.remaining ∧ state.remaining ≤ 1 + 2 ^ 21 * (1 : Nat) := by
  have few : headerLines 1 (newReader [fullAttribute]).unread < 2 ^ 42 := by decide +kernel
  have unread : (newReader [fullAttribute]).unread = fullAttribute ++ [] := by
    simp [newReader_unread]
  obtain ⟨fits, known⟩ := fullAttribute_demand
  obtain ⟨middle, read, left⟩ := readLine_complete fits unread
  obtain ⟨next, sent, after, advanced, _⟩ :=
    (copyValue_implements 124 (decimal 1048576)).complete 1 ⟨[] ++ fullAttribute, none⟩ rfl
      known rfl
  have turns : Turns ⟨1, ⟨[], none⟩, newReader [fullAttribute]⟩ 1 ⟨next, sent, after⟩ :=
    .next .start (.goesOn (by decide) read rfl advanced)
  exact ⟨few, _, turns, (framing_exact.1 _ _ few).1 _ _ turns⟩

end SentinelProxy.Resp
