import SentinelProxy.Resp.Copy
import SentinelProxy.Resp.Command

/-! The framing of commands and replies on machines that compute differently: with
registers that wrap, with unbounded integers, or with a trap at every overflow. Where
they agree, no operation of the program leaves its register. -/

namespace SentinelProxy.Resp

open SentinelProxy.Stream SentinelProxy.Text

/-- What becomes of a result: of the counter of pending replies, of `2 * n`, `n + 2` and
`l + 2`, and of the size of a copy or an allocation. `none` is a trap. -/
structure Machine where
  counter : Int → Option Int
  amount : Int → Option Int
  size : Int → Option Nat

namespace Machine

def wrapping : Machine where
  counter value := some (int64 value)
  amount value := some (int64 value)
  size value := some value.toNat

def unbounded : Machine where
  counter value := some value
  amount value := some value
  size value := some value.toNat

/-- The value, unless a register of 64 bits cannot hold it. -/
def checked (value : Int) : Option Int :=
  if -2 ^ 63 ≤ value ∧ value < 2 ^ 63 then some value else none

/-- The size, unless it is out of bounds. -/
def checkedSize (value : Int) : Option Nat :=
  if 2 ≤ value ∧ value ≤ maxBulkLen + 2 then some value.toNat else none

def trapping : Machine where
  counter := checked
  amount := checked
  size := checkedSize

/-- Traps as `trapping` does, but lets the counter wrap. -/
def trappingAmounts : Machine := { trapping with counter := wrapping.counter }

/-- Small amounts and proper sizes are what they are. -/
structure Accurate (machine : Machine) : Prop where
  amount : ∀ {value}, 0 ≤ value → value ≤ maxBulkLen + 2 → machine.amount value = some value
  size : ∀ {value}, 2 ≤ value → value ≤ maxBulkLen + 2 → machine.size value = some value.toNat

theorem checked_of_fits {value : Int} (low : -2 ^ 63 ≤ value) (high : value < 2 ^ 63) :
    checked value = some value :=
  if_pos ⟨low, high⟩

theorem wrapping_accurate : wrapping.Accurate := by
  constructor
  · intro value low high
    simp only [maxBulkLen] at high
    exact congrArg some (int64_of_fits (by omega) (by omega))
  · intro value low high
    rfl

theorem unbounded_accurate : unbounded.Accurate := by
  constructor
  · intro value low high
    rfl
  · intro value low high
    rfl

theorem trapping_accurate : trapping.Accurate := by
  constructor
  · intro value low high
    simp only [maxBulkLen] at high
    exact checked_of_fits (by omega) (by omega)
  · intro value low high
    exact if_pos ⟨low, high⟩

theorem trappingAmounts_accurate : trappingAmounts.Accurate :=
  ⟨trapping_accurate.amount, trapping_accurate.size⟩

end Machine

section Commands

variable (machine : Machine)

/-- `readArgument` on the machine. -/
def readArgumentOn (reader : Reader) : Option (Except Error (Bytes × Bytes) × Reader) :=
  match readLine reader with
  | (.error error, after) => some (.error error, after)
  | (.ok line, after) =>
    if line.headD 0 ≠ 36 then some (.error (.expectedBulkString (line.headD 0)), after)
    else
      match parseRESPInt (lineText line) with
      | .error error => some (.error error, after)
      | .ok length =>
        if length < 0 ∨ maxBulkLen < length then some (.error (.invalidBulkLength length), after)
        else do
          let size ← machine.size (← machine.amount (length + 2))
          match after.readFull size with
          | (.error error, final) => return (.error (ofReadError error), final)
          | (.ok payload, final) => return (.ok (line ++ payload, payload.take length.toNat), final)

def readArgumentsOn :
    (left index : Nat) → Command → Reader → Option (Except Error Command × Reader)
  | 0, _, command, reader => some (.ok command, reader)
  | left + 1, index, command, reader => do
    match ← readArgumentOn machine reader with
    | (.error error, after) => return (.error error, after)
    | (.ok (raw, payload), after) =>
      readArgumentsOn left (index + 1)
        ⟨if index = 0 then toUpper payload else command.name, command.raw ++ raw⟩ after

def readCommandOn (reader : Reader) : Option (Except Error Command × Reader) :=
  match reader.peek with
  | (none, peeked) => some (.error .eof, peeked)
  | (some first, peeked) =>
    if first ≠ 42 then some (.error .inlineCommand, peeked)
    else
      match readLine peeked with
      | (.error error, after) => some (.error error, after)
      | (.ok line, after) =>
        match parseRESPInt (lineText line) with
        | .error error => some (.error error, after)
        | .ok count =>
          if maxRESPElements < count then some (.error (.tooManyArguments count), after)
          else readArgumentsOn machine count.toNat 0 ⟨[], line⟩ after

variable {machine} (accurate : machine.Accurate)

include accurate

theorem Machine.Accurate.bodySize {length : Int} (low : 0 ≤ length) (high : length ≤ maxBulkLen) :
    machine.amount (length + 2) = some (length + 2) ∧
      machine.size (length + 2) = some (length + 2).toNat :=
  ⟨accurate.amount (by omega) (by omega), accurate.size (by omega) (by omega)⟩

private theorem readArgumentOn_eq (reader : Reader) :
    readArgumentOn machine reader = some (readArgument reader) := by
  unfold readArgumentOn readArgument
  obtain ⟨error | line, after⟩ := readLine reader
  · rfl
  dsimp only
  by_cases other : line.headD 0 ≠ 36
  · simp only [if_pos other]
  simp only [if_neg other]
  cases parseRESPInt (lineText line) with
  | error error => rfl
  | ok length =>
    dsimp only
    by_cases outside : length < 0 ∨ maxBulkLen < length
    · simp only [if_pos outside]
    simp only [if_neg outside]
    obtain ⟨low, high⟩ := not_or.mp outside
    obtain ⟨amount, size⟩ := accurate.bodySize (Int.not_lt.mp low) (Int.not_lt.mp high)
    simp only [amount, size, bind, Option.bind]
    obtain ⟨error | payload, final⟩ := after.readFull (length + 2).toNat
    · rfl
    · rfl

private theorem readArgumentsOn_eq (left index : Nat) (command : Command) (reader : Reader) :
    readArgumentsOn machine left index command reader =
      some (readArguments left index command reader) := by
  induction left generalizing index command reader with
  | zero => rfl
  | succ left ih =>
    rw [readArgumentsOn, readArguments, readArgumentOn_eq accurate]
    simp only [bind, Option.bind]
    obtain ⟨error | ⟨raw, payload⟩, after⟩ := readArgument reader
    · rfl
    · exact ih _ _ _

/-- The lengths of a command never leave their bounds, whatever its headers say. -/
theorem readCommandOn_eq (reader : Reader) :
    readCommandOn machine reader = some (readCommand reader) := by
  unfold readCommandOn readCommand
  obtain ⟨none | first, peeked⟩ := reader.peek
  · rfl
  dsimp only
  by_cases inline : first ≠ 42
  · simp only [if_pos inline]
  simp only [if_neg inline]
  obtain ⟨error | line, after⟩ := readLine peeked
  · rfl
  dsimp only
  cases parseRESPInt (lineText line) with
  | error error => rfl
  | ok count =>
    dsimp only
    by_cases long : maxRESPElements < count
    · simp only [if_pos long]
    · simp only [if_neg long]
      exact readArgumentsOn_eq accurate _ _ _ _

end Commands

section Replies

variable (machine : Machine)

def copyCountOn (tooLong : Int → Error) (consumed width : Int) (payload : Bytes)
    (remaining : Int) : Option (Except Error Int) :=
  match parseRESPInt payload with
  | .error failure => some (.error failure)
  | .ok count =>
    if maxRESPElements < count then some (.error (tooLong count))
    else do
      let left ← machine.counter (remaining - consumed)
      if 0 < count then
        let added ← machine.amount (width * count)
        let total ← machine.counter (left + added)
        return .ok total
      else return .ok left

def copyBlobOn (payload : Bytes) (remaining : Int) (writer : Writer) (reader : Reader) :
    Option (Except Error Int × Writer × Reader) :=
  match parseRESPInt payload with
  | .error failure => some (.error failure, writer, reader)
  | .ok length =>
    if maxBulkLen < length then some (.error (.bulkTooLong length), writer, reader)
    else if 0 ≤ length then do
      let size ← machine.size (← machine.amount (length + 2))
      match copyN size writer reader with
      | (some failure, stopped, after) => return (.error (copyFailure failure), stopped, after)
      | (none, sent, after) => return (.ok (← machine.counter (remaining - 1)), sent, after)
    else return (.ok (← machine.counter (remaining - 1)), writer, reader)

def copyValueOn (line : Bytes) (remaining : Int) (writer : Writer) (reader : Reader) :
    Option (Except Error Int × Writer × Reader) :=
  let kind := line.headD 0
  let payload := lineText line
  let count (tooLong : Int → Error) (consumed width : Int) :=
    (copyCountOn machine tooLong consumed width payload remaining).map (·, writer, reader)
  if kind ∈ [43, 45, 58, 44, 35, 40, 95] then do
    return (.ok (← machine.counter (remaining - 1)), writer, reader)
  else if kind ∈ [36, 61, 33] then copyBlobOn machine payload remaining writer reader
  else if kind ∈ [42, 126] then count .aggregateTooLong 1 1
  else if kind = 37 then count .mapTooLong 1 2
  else if kind = 124 then count .attributeTooLong 0 2
  else if kind = 62 then count .pushTooLong 0 1
  else some (.error (.unexpectedType kind), writer, reader)

variable {machine}

private theorem copyBlobOn_shorter {payload : Bytes} {remaining next : Int} {writer sent : Writer}
    {reader after : Reader}
    (copied : copyBlobOn machine payload remaining writer reader = some (.ok next, sent, after)) :
    after.unread.length ≤ reader.unread.length := by
  unfold copyBlobOn at copied
  split at copied
  · simp at copied
  · split at copied
    · simp at copied
    · split at copied
      · simp only [bind, Option.bind_eq_some_iff] at copied
        obtain ⟨amount, _, size, _, copied⟩ := copied
        split at copied
        · cases copied
        · rename_i middle final moved
          obtain ⟨counter, _, copied⟩ := Option.bind_eq_some_iff.mp copied
          cases copied
          obtain ⟨body, _, consumed, _⟩ := copyN_ok moved
          simp [consumed]
      · obtain ⟨counter, _, copied⟩ := Option.bind_eq_some_iff.mp copied
        cases copied
        exact Nat.le_refl _

private theorem copyValueOn_shorter {line : Bytes} {remaining next : Int} {writer sent : Writer}
    {reader after : Reader}
    (copied : copyValueOn machine line remaining writer reader = some (.ok next, sent, after)) :
    after.unread.length ≤ reader.unread.length := by
  have still {counted : Option (Except Error Int)}
      (same : counted.map (·, writer, reader) = some (.ok next, sent, after)) :
      after.unread.length ≤ reader.unread.length := by
    obtain ⟨_, _, same⟩ := Option.map_eq_some_iff.mp same
    cases same
    exact Nat.le_refl _
  unfold copyValueOn at copied
  dsimp only at copied
  split at copied
  · obtain ⟨counter, _, copied⟩ := Option.bind_eq_some_iff.mp copied
    cases copied
    exact Nat.le_refl _
  split at copied
  · exact copyBlobOn_shorter copied
  split at copied
  · exact still copied
  split at copied
  · exact still copied
  split at copied
  · exact still copied
  split at copied
  · exact still copied
  · cases copied

variable (machine)

def copyRemainingOn (remaining : Int) (writer : Writer) (reader : Reader) :
    Option (Option Error × Writer × Reader) :=
  if 0 < remaining then
    match progress : readLine reader with
    | (.error failure, after) => some (some failure, writer, after)
    | (.ok line, after) =>
      match writer.write line with
      | (false, broken) => some (some .write, broken, after)
      | (true, sent) =>
        match advance : copyValueOn machine line remaining sent after with
        | none => none
        | some (.error failure, stopped, final) => some (some failure, stopped, final)
        | some (.ok next, copied, final) => copyRemainingOn next copied final
  else some (none, writer, reader)
termination_by reader.unread.length
decreasing_by
  obtain ⟨kind, text, rfl, _, consumed⟩ := readLine_sound progress
  have shorter := copyValueOn_shorter advance
  rw [consumed, List.length_append, header_length]
  omega

variable {machine} in
/-- A turn of the loop, by what the switch returned. -/
theorem copyRemainingOn_value {remaining : Int} {line : Bytes} {writer sent moved : Writer}
    {reader middle after : Reader} {outcome : Except Error Int} (positive : 0 < remaining)
    (read : readLine reader = (.ok line, middle)) (accepted : writer.write line = (true, sent))
    (value : copyValueOn machine line remaining sent middle = some (outcome, moved, after)) :
    copyRemainingOn machine remaining writer reader =
      match outcome with
      | .error failure => some (some failure, moved, after)
      | .ok next => copyRemainingOn machine next moved after := by
  rw [copyRemainingOn, if_pos positive]
  split
  · rename_i failed
    cases read.symm.trans failed
  · rename_i same
    cases read.symm.trans same
    simp only [accepted]
    split
    · rename_i trapped
      cases value.symm.trans trapped
    · rename_i refused
      cases value.symm.trans refused
      rfl
    · rename_i passed
      cases value.symm.trans passed
      rfl

def copyRESPOn (writer : Writer) (reader : Reader) : Option (Option Error × Writer × Reader) :=
  copyRemainingOn machine 1 writer reader

end Replies

section Agreement

/-- For a header line with this demand, the machine counts as a register of 64 bits does. -/
def Counts (machine : Machine) (remaining : Int) (demanded? : Option Demand) : Prop :=
  ∀ value, 0 ≤ value →
    (value ≤ remaining ∨
      ∃ demanded, demanded? = some demanded ∧ value ≤ demanded.pending remaining.toNat) →
    machine.counter value = some (int64 value)

variable {machine : Machine} {remaining : Int} {demanded? : Option Demand}

theorem Counts.consumed (counts : Counts machine remaining demanded?) (positive : 0 < remaining) :
    machine.counter (remaining - 1) = some (int64 (remaining - 1)) :=
  counts _ (by omega) (.inl (by omega))

theorem Counts.ite {condition : Prop} [Decidable condition] {one two : Option Demand}
    {first third : Option α} {second fourth : α}
    (counts : Counts machine remaining (if condition then one else two))
    (positive : Counts machine remaining one → first = some second)
    (negative : Counts machine remaining two → third = some fourth) :
    (if condition then first else third) = some (if condition then second else fourth) := by
  by_cases holds : condition
  · simp only [if_pos holds] at counts ⊢
    exact positive counts
  · simp only [if_neg holds] at counts ⊢
    exact negative counts

variable (accurate : machine.Accurate) (positive : 0 < remaining) (small : remaining < 2 ^ 63)

include accurate positive small

private theorem copyCountOn_eq {consumed : Int} {width : Nat} {make : Nat → Demand}
    {payload : Bytes}
    (tooLong : Int → Error) (consumes : 0 ≤ consumed ∧ consumed ≤ 1) (narrow : width ≤ 2)
    (pending : ∀ size, ((make size).pending remaining.toNat : Int) = remaining - consumed + size)
    (counts : Counts machine remaining (counted make width payload)) :
    copyCountOn machine tooLong consumed width payload remaining =
      some (copyCount tooLong consumed width payload remaining) := by
  unfold copyCountOn copyCount
  cases parsed : parseRESPInt payload with
  | error failure => rfl
  | ok count =>
    dsimp only
    by_cases long : maxRESPElements < count
    · simp only [if_pos long]
    have left := counts (remaining - consumed) (by omega) (.inl (by omega))
    simp only [if_neg long, left, bind, Option.bind]
    by_cases announces : 0 < count
    · have bound : (width : Int) * count ≤ 2 * count :=
        Int.mul_le_mul_of_nonneg_right (by omega) (Int.le_of_lt announces)
      have nonneg : 0 ≤ (width : Int) * count :=
        Int.mul_nonneg (by omega) (Int.le_of_lt announces)
      have known : counted make width payload = some (make (width * count.toNat)) := by
        simp only [counted, parseRESPInt_ok.mp parsed, if_neg long]
      simp only [maxRESPElements] at long
      have amount : machine.amount (width * count) = some (width * count) :=
        accurate.amount nonneg (by simp only [maxBulkLen]; omega)
      have exact : int64 (remaining - consumed) = remaining - consumed :=
        int64_of_fits (by omega) (by omega)
      have added : int64 (width * count) = width * count :=
        int64_of_fits (by omega) (by omega)
      have total := counts (remaining - consumed + width * count) (by omega)
        (.inr ⟨_, known, by rw [pending, toNat_mul announces]⟩)
      simp only [if_pos announces, amount, exact, added, total]
      rfl
    · simp only [if_neg announces]
      rfl

omit small in
private theorem copyBlobOn_eq {payload : Bytes} (counts : Counts machine remaining demanded?)
    (writer : Writer) (reader : Reader) :
    copyBlobOn machine payload remaining writer reader =
      some (copyBlob payload remaining writer reader) := by
  unfold copyBlobOn copyBlob
  cases parseRESPInt payload with
  | error failure => rfl
  | ok length =>
    dsimp only
    by_cases long : maxBulkLen < length
    · simp only [if_pos long]
    simp only [if_neg long]
    by_cases present : 0 ≤ length
    · obtain ⟨amount, size⟩ := accurate.bodySize present (Int.not_lt.mp long)
      have exact : (int64 (length + 2)).toNat = (length + 2).toNat := by
        rw [bodyLength long present]
        omega
      simp only [if_pos present, amount, size, exact, counts.consumed positive, bind, Option.bind]
      obtain ⟨failure | none, sent, after⟩ := copyN (length + 2).toNat writer reader
      · rfl
      · rfl
    · simp only [if_neg present, counts.consumed positive, bind, Option.bind]
      rfl

/-- The switch computes alike on a machine that counts alike. -/
theorem copyValueOn_eq {kind : UInt8} {text : Bytes}
    (counts : Counts machine remaining (demand kind text)) (writer : Writer) (reader : Reader) :
    copyValueOn machine (header kind text) remaining writer reader =
      some (copyValue (header kind text) remaining writer reader) := by
  have first : (header kind text).headD 0 = kind := rfl
  have elements : ∀ size, ((Demand.elements size).pending remaining.toNat : Int) =
      remaining - 1 + size := by
    intro size
    simp only [Demand.pending]
    omega
  have before : ∀ size, ((Demand.before size).pending remaining.toNat : Int) =
      remaining - 0 + size := by
    intro size
    simp only [Demand.pending]
    omega
  have counting {consumed : Int} {make : Nat → Demand} (tooLong : Int → Error) (width : Nat)
      (consumes : 0 ≤ consumed ∧ consumed ≤ 1) (narrow : width ≤ 2)
      (pending : ∀ size, ((make size).pending remaining.toNat : Int) = remaining - consumed + size)
      (counts : Counts machine remaining (counted make width text)) :
      (copyCountOn machine tooLong consumed width text remaining).map (·, writer, reader) =
        some (copyCount tooLong consumed width text remaining, writer, reader) := by
    rw [copyCountOn_eq accurate positive small tooLong consumes narrow pending counts]
    rfl
  unfold copyValueOn copyValue
  unfold demand at counts
  simp only [first, lineText_header]
  refine counts.ite (fun counts => ?_) fun counts => ?_
  · simp only [counts.consumed positive]
    rfl
  refine counts.ite (fun counts => copyBlobOn_eq accurate positive counts writer reader)
    fun counts => ?_
  refine counts.ite (fun counts => counting _ 1 (by omega) (by omega) elements counts)
    fun counts => ?_
  refine counts.ite (fun counts => counting _ 2 (by omega) (by omega) elements counts)
    fun counts => ?_
  refine counts.ite (fun counts => counting _ 2 (by omega) (by omega) before counts)
    fun counts => ?_
  exact counts.ite (fun counts => counting _ 1 (by omega) (by omega) before counts) fun _ => rfl

end Agreement

end SentinelProxy.Resp
