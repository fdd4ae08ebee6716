import SentinelProxy.Resp.Grammar

/-! The reply copier: one 64-bit counter of pending replies instead of a stack,
and its agreement with the recursive reply grammar. -/

namespace SentinelProxy.Resp

open SentinelProxy.Stream SentinelProxy.Text

/-- The value a 64-bit signed register holds after an operation. -/
def int64 (value : Int) : Int := (value + 2 ^ 63) % 2 ^ 64 - 2 ^ 63

theorem int64_of_fits {value : Int} (low : -2 ^ 63 ≤ value) (high : value < 2 ^ 63) :
    int64 value = value := by
  unfold int64
  omega

/-- Intermediate wraps do not change what is finally stored. -/
theorem int64_add (first second : Int) : int64 (int64 first + second) = int64 (first + second) := by
  unfold int64
  omega

/-- A count header: the count is checked against the limit, `consumed` is taken
off the counter, and a positive count adds `width` pending replies per entry. -/
def copyCount (tooLong : Int → Error) (consumed width : Int) (payload : Bytes)
    (remaining : Int) : Except Error Int :=
  match parseRESPInt payload with
  | .error failure => .error failure
  | .ok count =>
    if maxRESPElements < count then .error (tooLong count)
    else if 0 < count then .ok (int64 (int64 (remaining - consumed) + int64 (width * count)))
    else .ok (int64 (remaining - consumed))

def copyAggregate : Bytes → Int → Except Error Int := copyCount .aggregateTooLong 1 1

def copyMap : Bytes → Int → Except Error Int := copyCount .mapTooLong 1 2

/-- An attribute section precedes the value it annotates, which stays pending. -/
def copyAttribute : Bytes → Int → Except Error Int := copyCount .attributeTooLong 0 2

/-- A push message is out of band: the awaited reply stays pending. -/
def copyPush : Bytes → Int → Except Error Int := copyCount .pushTooLong 0 1

def copyFailure : CopyError → Error
  | .eof => .eof
  | .write => .write

/-- A length-prefixed value; a negative length means null, without a body. -/
def copyBlob (payload : Bytes) (remaining : Int) (writer : Writer) (reader : Reader) :
    Except Error Int × Writer × Reader :=
  match parseRESPInt payload with
  | .error failure => (.error failure, writer, reader)
  | .ok length =>
    if maxBulkLen < length then (.error (.bulkTooLong length), writer, reader)
    else if 0 ≤ length then
      match copyN (int64 (length + 2)).toNat writer reader with
      | (some failure, stopped, after) => (.error (copyFailure failure), stopped, after)
      | (none, sent, after) => (.ok (int64 (remaining - 1)), sent, after)
    else (.ok (int64 (remaining - 1)), writer, reader)

def copyValue (line : Bytes) (remaining : Int) (writer : Writer) (reader : Reader) :
    Except Error Int × Writer × Reader :=
  let kind := line.headD 0
  let payload := lineText line
  if kind ∈ [43, 45, 58, 44, 35, 40, 95] then (.ok (int64 (remaining - 1)), writer, reader)
  else if kind ∈ [36, 61, 33] then copyBlob payload remaining writer reader
  else if kind ∈ [42, 126] then (copyAggregate payload remaining, writer, reader)
  else if kind = 37 then (copyMap payload remaining, writer, reader)
  else if kind = 124 then (copyAttribute payload remaining, writer, reader)
  else if kind = 62 then (copyPush payload remaining, writer, reader)
  else (.error (.unexpectedType kind), writer, reader)

/-- The counter after a header line with the given demand. -/
def Demand.advance (remaining : Int) : Demand → Int
  | .body _ => int64 (remaining - 1)
  | .elements count => int64 (remaining - 1 + count)
  | .before count => int64 (remaining + count)

theorem toNat_mul {width : Nat} {count : Int} (positive : 0 < count) :
    ((width * count.toNat : Nat) : Int) = width * count := by
  rw [Int.natCast_mul, Int.toNat_of_nonneg (Int.le_of_lt positive)]

theorem copyCount_ok (tooLong : Int → Error) {consumed remaining : Int} {width : Nat}
    {make : Nat → Demand} (payload : Bytes)
    (advance : ∀ count, (make count).advance remaining = int64 (remaining - consumed + count)) :
    copyCount tooLong consumed width payload remaining = .ok next ↔
      ∃ demanded, counted make width payload = some demanded ∧
        next = demanded.advance remaining := by
  unfold counted copyCount
  cases parsed : parseInt payload with
  | none => simp [parseRESPInt, parsed]
  | some count =>
    simp only [parseRESPInt_ok.mpr parsed]
    by_cases long : maxRESPElements < count
    · simp [long]
    · by_cases positive : 0 < count
      · have total : int64 (int64 (remaining - consumed) + int64 (width * count)) =
            (make (width * count.toNat)).advance remaining := by
          rw [advance, toNat_mul positive, int64_add, Int.add_comm, int64_add, Int.add_comm]
        simp [long, positive, total, eq_comm]
      · have zero : count.toNat = 0 := Int.toNat_of_nonpos (Int.not_lt.mp positive)
        have total : int64 (remaining - consumed) =
            (make (width * count.toNat)).advance remaining := by
          rw [advance, zero]
          simp
        simp [long, positive, total, eq_comm]

theorem bodyLength {length : Int} (short : ¬ maxBulkLen < length) (present : 0 ≤ length) :
    (int64 (length + 2)).toNat = length.toNat + 2 := by
  simp only [maxBulkLen] at short
  rw [int64_of_fits (by omega) (by omega)]
  omega

/-- What the copier did for a header with the given demand: it consumed what the
demand skips, passed it on, and advanced the counter. -/
structure Advance (demanded : Demand) (remaining next : Int) (writer sent : Writer)
    (reader after : Reader) : Prop where
  skipped : demanded.skip reader.unread = some after.unread
  passed : ∃ body, reader.unread = body ++ after.unread ∧ sent.out = writer.out ++ body
  counter : next = demanded.advance remaining

theorem Advance.still {demanded : Demand}
    (skipped : demanded.skip reader.unread = some reader.unread)
    (counter : next = demanded.advance remaining) :
    Advance demanded remaining next writer writer reader reader :=
  ⟨skipped, ⟨[], by simp, by simp⟩, counter⟩

/-- A branch of the copier against what the grammar demands there: it succeeds
only as demanded, and with an unbroken writer whenever the demand can be met. -/
structure Implements (demanded : Option Demand)
    (branch : Int → Writer → Reader → Except Error Int × Writer × Reader) : Prop where
  sound : ∀ {remaining writer reader next sent after},
    branch remaining writer reader = (.ok next, sent, after) →
      ∃ known, demanded = some known ∧ Advance known remaining next writer sent reader after
  complete : ∀ remaining writer {reader known rest}, writer.room = none →
    demanded = some known → known.skip reader.unread = some rest →
      ∃ next sent after, branch remaining writer reader = (.ok next, sent, after) ∧
        sent.room = none

theorem Implements.ite {condition : Prop} [Decidable condition]
    (positive : condition → Implements one first) (negative : ¬ condition → Implements two second) :
    Implements (if condition then one else two) fun remaining writer reader =>
      if condition then first remaining writer reader else second remaining writer reader := by
  by_cases holds : condition
  · simpa only [if_pos holds] using positive holds
  · simpa only [if_neg holds] using negative holds

private theorem single_implements :
    Implements (some (.body 0)) fun remaining writer reader =>
      (.ok (int64 (remaining - 1)), writer, reader) := by
  constructor
  · intro remaining writer reader next sent after success
    simp only [Prod.mk.injEq, Except.ok.injEq] at success
    obtain ⟨rfl, rfl, rfl⟩ := success
    exact ⟨.body 0, rfl, .still (by simp [Demand.skip]) rfl⟩
  · intro remaining writer reader known rest unbounded _ _
    exact ⟨_, _, _, rfl, unbounded⟩

private theorem unknown_implements (failure : Error) :
    Implements none fun _ writer reader => (.error failure, writer, reader) := by
  constructor
  · intro remaining writer reader next sent after success
    simp at success
  · intro remaining writer reader known rest _ impossible
    cases impossible

/-- The four count headers, each with its demand, consumption and width. -/
theorem count_implements {tooLong : Int → Error} {consumed : Int} {width : Nat}
    {make : Nat → Demand} (payload : Bytes)
    (still : ∀ count rest, (make count).skip rest = some rest)
    (advance : ∀ count remaining,
      (make count).advance remaining = int64 (remaining - consumed + count)) :
    Implements (counted make width payload) fun remaining writer reader =>
      (copyCount tooLong consumed width payload remaining, writer, reader) := by
  constructor
  · intro remaining writer reader next sent after success
    simp only [Prod.mk.injEq] at success
    obtain ⟨counter, rfl, rfl⟩ := success
    obtain ⟨known, demanded, same⟩ :=
      (copyCount_ok tooLong payload (advance · remaining)).mp counter
    refine ⟨known, demanded, .still ?_ same⟩
    unfold counted at demanded
    split at demanded
    · cases demanded
    · split at demanded
      · cases demanded
      · cases demanded
        exact still _ _
  · intro remaining writer reader known rest unbounded demanded _
    have counter := (copyCount_ok tooLong payload (advance · remaining)).mpr
      ⟨known, demanded, rfl⟩
    exact ⟨_, _, _, by rw [counter], unbounded⟩

private theorem blob_implements (payload : Bytes) :
    Implements (sized payload) (copyBlob payload) := by
  constructor
  · intro remaining writer reader next sent after success
    unfold copyBlob at success
    split at success
    · simp at success
    · rename_i length parsed
      rw [parseRESPInt_ok] at parsed
      split at success
      · simp at success
      · rename_i short
        split at success
        · rename_i present
          split at success
          · simp at success
          · rename_i copied final moved
            simp only [Prod.mk.injEq, Except.ok.injEq] at success
            obtain ⟨rfl, rfl, rfl⟩ := success
            obtain ⟨body, width, consumed, written⟩ := copyN_ok moved
            rw [bodyLength short present] at width
            refine ⟨.body (length.toNat + 2), ?_, ?_, ⟨body, consumed, written⟩, rfl⟩
            · simp [sized, parsed, short, Int.not_lt.mpr present]
            · simp [Demand.skip, consumed, ← width]
        · rename_i null
          simp only [Prod.mk.injEq, Except.ok.injEq] at success
          obtain ⟨rfl, rfl, rfl⟩ := success
          refine ⟨.body 0, ?_, .still (by simp [Demand.skip]) rfl⟩
          simp [sized, parsed, short, Int.not_le.mp null]
  · intro remaining writer reader known rest unbounded demanded skipped
    unfold sized at demanded
    split at demanded
    · cases demanded
    · rename_i length parsed
      simp only [copyBlob, parseRESPInt_ok.mpr parsed]
      split at demanded
      · cases demanded
      · rename_i short
        split at demanded
        · rename_i null
          exact ⟨_, _, _, by rw [if_neg short, if_neg (Int.not_le.mpr null)], unbounded⟩
        · rename_i present
          cases demanded
          have enough : length.toNat + 2 ≤ reader.unread.length := by
            simp only [Demand.skip] at skipped
            split at skipped
            · assumption
            · cases skipped
          rw [if_neg short, if_pos (Int.not_lt.mp present),
            bodyLength short (Int.not_lt.mp present)]
          obtain ⟨after, moved, _⟩ := copyN_unbounded unbounded _ reader enough
          exact ⟨_, _, _, by rw [moved], rfl⟩

/-- The switch of the copier implements the grammar's demands, type by type. -/
theorem copyValue_implements (kind : UInt8) (text : Bytes) :
    Implements (demand kind text) (copyValue (header kind text)) := by
  have first : (header kind text).headD 0 = kind := rfl
  unfold demand copyValue
  simp only [first, lineText_header]
  refine .ite (fun _ => single_implements) fun _ => ?_
  refine .ite (fun _ => blob_implements text) fun _ => ?_
  refine .ite (fun _ => count_implements text (fun _ _ => rfl) fun _ _ => rfl) fun _ => ?_
  refine .ite (fun _ => count_implements text (fun _ _ => rfl) fun _ _ => rfl) fun _ => ?_
  refine .ite (fun _ => count_implements text (fun _ _ => rfl) fun _ _ => ?_) fun _ => ?_
  · simp [Demand.advance]
  refine .ite (fun _ => count_implements text (fun _ _ => rfl) fun _ _ => ?_) fun _ =>
    unknown_implements _
  simp [Demand.advance]

theorem Advance.shorter (step : Advance demanded remaining next writer sent reader after) :
    after.unread.length ≤ reader.unread.length :=
  Demand.skip_length step.skipped

def copyRemaining (remaining : Int) (writer : Writer) (reader : Reader) :
    Option Error × Writer × Reader :=
  if 0 < remaining then
    match progress : readLine reader with
    | (.error failure, after) => (some failure, writer, after)
    | (.ok line, after) =>
      match writer.write line with
      | (false, broken) => (some .write, broken, after)
      | (true, sent) =>
        match advance : copyValue line remaining sent after with
        | (.error failure, stopped, final) => (some failure, stopped, final)
        | (.ok next, copied, final) => copyRemaining next copied final
  else (none, writer, reader)
termination_by reader.unread.length
decreasing_by
  obtain ⟨kind, text, rfl, _, consumed⟩ := readLine_sound progress
  obtain ⟨_, _, step⟩ := (copyValue_implements kind text).sound advance
  have shorter := step.shorter
  rw [consumed, List.length_append, header_length]
  omega

theorem copyRemaining_step {remaining next : Int} {writer passed sent : Writer}
    {reader middle after : Reader} (positive : 0 < remaining)
    (read : readLine reader = (.ok line, middle)) (accepted : writer.write line = (true, passed))
    (advanced : copyValue line remaining passed middle = (.ok next, sent, after)) :
    copyRemaining remaining writer reader = copyRemaining next sent after := by
  rw [copyRemaining, if_pos positive]
  split
  · rename_i failed
    simp [read] at failed
  · rename_i same
    obtain ⟨rfl, rfl⟩ := by simpa only [read, Prod.mk.injEq, Except.ok.injEq] using same
    simp only [accepted]
    split
    · rename_i failed
      simp [advanced] at failed
    · rename_i same
      obtain ⟨rfl, rfl, rfl⟩ := by
        simpa only [advanced, Prod.mk.injEq, Except.ok.injEq] using same
      rfl

/-- Streams exactly one reply, with the attribute sections and push messages in
front of it, from the reader to the writer. -/
def copyRESP (writer : Writer) (reader : Reader) : Option Error × Writer × Reader :=
  copyRemaining 1 writer reader

/-- A property of pending replies and unread bytes under which the counter stays
below the range of its register, header line after header line. -/
structure Guard (guard : Nat → Bytes → Prop) : Prop where
  small : ∀ {count bytes}, guard count bytes → count < 2 ^ 63
  step : ∀ {count bytes pending rest}, guard (count + 1) bytes →
    headerStep (count + 1) bytes = some (pending, rest) → guard pending rest

/-- Without a wrap the counter is the number of replies pending in the grammar. -/
theorem Demand.advance_pending {demanded : Demand} {count : Nat}
    (small : demanded.pending (count + 1) < 2 ^ 63) :
    demanded.advance ((count + 1 : Nat) : Int) = (demanded.pending (count + 1) : Nat) := by
  cases demanded with
  | body length =>
    simp only [Demand.pending, Demand.advance] at small ⊢
    rw [int64_of_fits (by omega) (by omega)]
    omega
  | elements size =>
    simp only [Demand.pending, Demand.advance] at small ⊢
    rw [int64_of_fits (by omega) (by omega)]
    omega
  | before size =>
    simp only [Demand.pending, Demand.advance] at small ⊢
    rw [int64_of_fits (by omega) (by omega)]
    omega

theorem headerStep_of_advance (count : Nat)
    (fits : LineFits kind text) (known : demand kind text = some demanded)
    (step : Advance demanded remaining next writer sent reader after) :
    headerStep count (header kind text ++ reader.unread) =
      some (demanded.pending count, after.unread) := by
  simp [headerStep, nextLine_iff.mpr ⟨fits, rfl⟩, known, step.skipped]

/-- A copy that succeeded read exactly the pending replies of the grammar and
passed on every byte of them, whatever the writer. -/
theorem copyRemaining_sound {guard : Nat → Bytes → Prop} (guarded : Guard guard) {count : Nat}
    {writer sent : Writer} {reader after : Reader} (start : guard count reader.unread)
    (success : copyRemaining count writer reader = (none, sent, after)) :
    references count reader.unread = some after.unread ∧
      ∃ body, reader.unread = body ++ after.unread ∧ sent.out = writer.out ++ body := by
  generalize counter : (count : Int) = remaining at success
  fun_induction copyRemaining remaining writer reader generalizing count with
  | case1 remaining writer reader positive failure after stopped => simp at success
  | case2 remaining writer reader positive line after progress broken refused => simp at success
  | case3 remaining writer reader positive line after progress middle accepted failure stopped
      final failed => simp at success
  | case4 remaining writer reader positive line middle progress passed accepted next copied final
      advanced ih =>
    obtain ⟨kind, text, rfl, fits, consumed⟩ := readLine_sound progress
    obtain ⟨demanded, known, step⟩ := (copyValue_implements kind text).sound advanced
    obtain ⟨pending, rfl⟩ : ∃ pending, count = pending + 1 := ⟨count - 1, by omega⟩
    rw [consumed] at start ⊢
    have stepped := headerStep_of_advance (pending + 1) fits known step
    have kept := guarded.step start stepped
    have exact := step.counter
    rw [← counter, Demand.advance_pending (guarded.small kept)] at exact
    obtain ⟨read, rest, whole, written⟩ := ih kept exact.symm success
    obtain ⟨body, skipped, forwarded⟩ := step.passed
    refine ⟨?_, header kind text ++ (body ++ rest), ?_, ?_⟩
    · rw [references_header, stepped]
      exact read
    · rw [skipped, whole]
      simp
    · rw [written, forwarded, Writer.write_ok accepted]
      simp
  | case5 remaining writer reader finished =>
    simp only [Prod.mk.injEq, true_and] at success
    obtain ⟨rfl, rfl⟩ := success
    obtain rfl : count = 0 := by omega
    exact ⟨references_zero _, [], by simp, by simp⟩

/-- Towards an unbroken writer the copy succeeds whenever the grammar does. -/
theorem copyRemaining_complete {guard : Nat → Bytes → Prop} (guarded : Guard guard) {count : Nat}
    {writer : Writer} {reader : Reader} (unbounded : writer.room = none)
    (start : guard count reader.unread) (success : references count reader.unread = some rest) :
    ∃ sent after, copyRemaining count writer reader = (none, sent, after) ∧ sent.room = none := by
  induction size : reader.unread.length using Nat.strongRecOn generalizing count writer reader with
  | _ size ih =>
    cases count with
    | zero =>
      refine ⟨writer, reader, ?_, unbounded⟩
      rw [copyRemaining]
      rfl
    | succ count =>
      rw [references_header] at success
      obtain ⟨⟨pending, left⟩, stepped, others⟩ := Option.bind_eq_some_iff.mp success
      have kept := guarded.step start stepped
      have shorter := headerStep_shorter stepped
      obtain ⟨kind, text, tail, demanded, found, known, skipped, rfl⟩ := headerStep_some stepped
      obtain ⟨fits, whole⟩ := nextLine_iff.mp found
      obtain ⟨middle, read, rfl⟩ := readLine_complete fits whole
      obtain ⟨next, sent, after, advanced, free⟩ :=
        (copyValue_implements kind text).complete ((count + 1 : Nat) : Int)
          ⟨writer.out ++ header kind text, none⟩ rfl known skipped
      obtain ⟨same, demandedAgain, step⟩ := (copyValue_implements kind text).sound advanced
      obtain rfl : demanded = same := by
        rw [known] at demandedAgain
        exact Option.some.inj demandedAgain
      obtain rfl : left = after.unread := by
        rw [step.skipped] at skipped
        exact (Option.some.inj skipped).symm
      have exact := step.counter
      rw [Demand.advance_pending (guarded.small kept)] at exact
      subst exact
      rw [copyRemaining_step (by omega) read (Writer.write_unbounded unbounded _) advanced]
      exact ih _ (by rw [← size]; exact shorter) free kept others rfl

theorem headerLines_step {count : Nat} {bytes : Bytes}
    (stepped : headerStep (count + 1) bytes = some (pending, rest)) :
    headerLines (count + 1) bytes = headerLines pending rest + 1 := by
  rw [headerLines, if_neg (Nat.succ_ne_zero count)]
  split
  · rename_i stuck
    simp [stepped] at stuck
  · rename_i same
    obtain ⟨rfl, rfl⟩ := by simpa only [stepped, Option.some.injEq, Prod.mk.injEq] using same
    rfl

theorem counted_bound {make : Nat → Demand} {width limit : Nat}
    (bound : ∀ size, size ≤ width * 1048576 → (make size).pending (count + 1) ≤ limit)
    (known : counted make width text = some demanded) :
    demanded.pending (count + 1) ≤ limit := by
  unfold counted at known
  split at known
  · cases known
  · rename_i size _
    split at known
    · cases known
    · rename_i short
      cases known
      refine bound _ (Nat.mul_le_mul_left width ?_)
      simp only [maxRESPElements] at short
      omega

theorem demand_pending (count : Nat) (known : demand kind text = some demanded) :
    demanded.pending (count + 1) ≤ count + 1 + 2 ^ 21 := by
  unfold demand at known
  split at known
  · cases known
    simp only [Demand.pending]
    omega
  split at known
  · unfold sized at known
    split at known
    · cases known
    · split at known
      · cases known
      · split at known <;> cases known <;> simp only [Demand.pending] <;> omega
  split at known
  · exact counted_bound (fun size small => by simp only [Demand.pending]; omega) known
  split at known
  · exact counted_bound (fun size small => by simp only [Demand.pending]; omega) known
  split at known
  · exact counted_bound (fun size small => by simp only [Demand.pending]; omega) known
  split at known
  · exact counted_bound (fun size small => by simp only [Demand.pending]; omega) known
  · cases known

/-- Few enough header lines for the counter, whatever each of them carries. -/
def FewLines (count : Nat) (bytes : Bytes) : Prop :=
  count + 2 ^ 21 * headerLines count bytes < 2 ^ 63

theorem fewLines_guard : Guard FewLines := by
  constructor
  · intro count bytes few
    unfold FewLines at few
    omega
  · intro count bytes pending rest few stepped
    unfold FewLines at few ⊢
    rw [headerLines_step stepped] at few
    obtain ⟨_, _, _, _, _, known, _, rfl⟩ := headerStep_some stepped
    have bound := demand_pending count known
    omega

/-- The pending replies are all there, in fewer than `2 ^ 63` bytes. -/
def Whole (count : Nat) (bytes : Bytes) : Prop :=
  ∃ rest, references count bytes = some rest ∧ bytes.length < rest.length + 2 ^ 63

private theorem whole_guard : Guard Whole := by
  constructor
  · rintro count bytes ⟨rest, success, short⟩
    have bound := references_length success
    omega
  · rintro count bytes pending left ⟨rest, success, short⟩ stepped
    refine ⟨rest, ?_, ?_⟩
    · rwa [references_header, stepped] at success
    · have shorter := headerStep_shorter stepped
      omega

/-- One complete reply, with the attribute sections and push messages in front of
it, and nothing else. -/
structure WholeReply (segment : Bytes) : Prop where
  complete : reference segment = some []
  short : segment.length < 2 ^ 63

theorem Reply.whole {reply : Reply} (fits : reply.Fits) (short : reply.encode.length < 2 ^ 63) :
    WholeReply reply.encode :=
  ⟨by simpa using reference_encode reply fits [], short⟩

/-- The copier stops exactly at the end of a complete reply. -/
theorem copyRESP_segment {segment rest : Bytes} {writer : Writer} {reader : Reader}
    (whole : WholeReply segment) (unbounded : writer.room = none)
    (unread : reader.unread = segment ++ rest) :
    ∃ after, copyRESP writer reader = (none, ⟨writer.out ++ segment, none⟩, after) ∧
      after.unread = rest := by
  have success : references 1 reader.unread = some rest := by
    rw [references_one, unread]
    exact reference_append whole.complete rest
  have start : Whole 1 reader.unread := by
    refine ⟨rest, success, ?_⟩
    have short := whole.short
    rw [unread, List.length_append]
    omega
  obtain ⟨sent, after, copied, free⟩ := copyRemaining_complete whole_guard unbounded start success
  obtain ⟨same, body, split, written⟩ := copyRemaining_sound whole_guard start copied
  obtain rfl : rest = after.unread := by
    rw [success] at same
    exact Option.some.inj same
  rw [unread] at split
  obtain rfl := List.append_cancel_right split
  refine ⟨after, ?_, rfl⟩
  rw [copyRESP, ← written, ← free]
  exact copied

/-- A copy that came to its end took one reply of the grammar off the stream. -/
theorem copyRESP_sound {writer sent : Writer} {reader after : Reader}
    (few : headerLines 1 reader.unread < 2 ^ 42)
    (success : copyRESP writer reader = (none, sent, after)) :
    reference reader.unread = some after.unread ∧
      ∃ body, reader.unread = body ++ after.unread ∧ sent.out = writer.out ++ body := by
  have start : FewLines 1 reader.unread := by
    unfold FewLines
    omega
  rw [← references_one]
  exact copyRemaining_sound fewLines_guard start success

private theorem copyRESP_complete {writer : Writer} {reader : Reader}
    (few : headerLines 1 reader.unread < 2 ^ 42) (unbounded : writer.room = none)
    (success : reference reader.unread = some rest) :
    ∃ sent after, copyRESP writer reader = (none, sent, after) := by
  have start : FewLines 1 reader.unread := by
    unfold FewLines
    omega
  rw [← references_one] at success
  obtain ⟨sent, after, copied, _⟩ := copyRemaining_complete fewLines_guard unbounded start success
  exact ⟨sent, after, copied⟩

def fullAttribute : Bytes := header 124 (decimal 1048576)

theorem fullAttribute_demand :
    LineFits 124 (decimal 1048576) ∧ demand 124 (decimal 1048576) = some (.before (2 ^ 21)) :=
  ⟨count_line (by decide) 124 (by decide), counted_decimal .before 2 (by decide)⟩

/-- Header lines that only announce leave replies pending for ever. -/
theorem references_announcements (count lines : Nat) :
    references (count + 1) (List.replicate lines fullAttribute).flatten = none := by
  induction lines generalizing count with
  | zero =>
    rw [references_header]
    rfl
  | succ lines ih =>
    obtain ⟨fits, known⟩ := fullAttribute_demand
    have stepped : headerStep (count + 1) (List.replicate (lines + 1) fullAttribute).flatten =
        some (count + 1 + 2 ^ 21, (List.replicate lines fullAttribute).flatten) := by
      rw [List.replicate_succ, List.flatten_cons, fullAttribute]
      simp only [headerStep, nextLine_iff.mpr ⟨fits, rfl⟩, known, Option.bind_some, Demand.skip,
        Demand.pending, Option.map_some]
    rw [references_header, stepped]
    simp only [Option.bind_some]
    rw [Nat.add_right_comm]
    exact ih _

theorem copyRemaining_announcement {remaining : Int} {writer : Writer} {reader : Reader}
    (unbounded : writer.room = none) (positive : 0 < remaining)
    (unread : reader.unread = fullAttribute ++ rest) :
    ∃ sent after, sent.room = none ∧ after.unread = rest ∧
      copyRemaining remaining writer reader =
        copyRemaining (int64 (remaining + 2 ^ 21)) sent after := by
  obtain ⟨fits, known⟩ := fullAttribute_demand
  obtain ⟨middle, read, rfl⟩ := readLine_complete fits unread
  obtain ⟨next, sent, after, advanced, free⟩ :=
    (copyValue_implements 124 (decimal 1048576)).complete remaining
      ⟨writer.out ++ header 124 (decimal 1048576), none⟩ rfl known rfl
  obtain ⟨same, demanded, step⟩ := (copyValue_implements 124 (decimal 1048576)).sound advanced
  obtain rfl : Demand.before (2 ^ 21) = same := by
    rw [known] at demanded
    exact Option.some.inj demanded
  refine ⟨sent, after, free, (Option.some.inj step.skipped).symm, ?_⟩
  rw [copyRemaining_step positive read (Writer.write_unbounded unbounded _) advanced, step.counter]
  rfl

/-- The counter of the copier passes the end of its register and turns negative. -/
theorem copyRemaining_announcements (count lines : Nat) {writer : Writer} {reader : Reader}
    (unbounded : writer.room = none) (total : count + 2 ^ 21 * (lines + 1) = 2 ^ 63)
    (unread : reader.unread = (List.replicate (lines + 1) fullAttribute).flatten) :
    (copyRemaining ((count + 1 : Nat) : Int) writer reader).1 = none := by
  induction lines generalizing count writer reader with
  | zero =>
    have positive : 0 < ((count + 1 : Nat) : Int) := by omega
    obtain ⟨sent, after, _, _, step⟩ := copyRemaining_announcement unbounded positive unread
    have negative : ¬ 0 < int64 (((count + 1 : Nat) : Int) + 2 ^ 21) := by
      unfold int64
      omega
    rw [step, copyRemaining, if_neg negative]
  | succ lines ih =>
    have positive : 0 < ((count + 1 : Nat) : Int) := by omega
    rw [List.replicate_succ, List.flatten_cons] at unread
    obtain ⟨sent, after, free, left, step⟩ :=
      copyRemaining_announcement unbounded positive unread
    have exact :
        int64 (((count + 1 : Nat) : Int) + 2 ^ 21) = ((count + 2 ^ 21 + 1 : Nat) : Int) := by
      rw [int64_of_fits (by omega) (by omega)]
      omega
    have rest : count + 2 ^ 21 + 2 ^ 21 * (lines + 1) = 2 ^ 63 := by
      rw [← total, Nat.mul_succ (2 ^ 21) (lines + 1), Nat.add_assoc, Nat.add_comm (2 ^ 21)]
    rw [step, exact]
    exact ih (count + 2 ^ 21) free rest left

/-- The copier agrees with the reply grammar on every stream with fewer than
`2 ^ 42` header lines: it succeeds on the same streams, leaves the same bytes and
passes on exactly the bytes it took. Complete replies, of any depth, are copied
whatever follows them. -/
theorem copyRESP_reference :
    (∀ (writer : Writer) (reader : Reader), writer.room = none →
      headerLines 1 reader.unread < 2 ^ 42 →
        match copyRESP writer reader with
        | (none, sent, after) =>
          reference reader.unread = some after.unread ∧
            ∃ body, reader.unread = body ++ after.unread ∧ sent.out = writer.out ++ body
        | (some _, _, _) => reference reader.unread = none) ∧
    (∀ (reply : Reply) (rest : Bytes) (writer : Writer) (reader : Reader), reply.Fits →
      reply.encode.length < 2 ^ 63 → writer.room = none → reader.unread = reply.encode ++ rest →
        ∃ after, copyRESP writer reader = (none, ⟨writer.out ++ reply.encode, none⟩, after) ∧
          after.unread = rest) := by
  constructor
  · intro writer reader unbounded few
    split
    · rename_i sent after success
      exact copyRESP_sound few success
    · rename_i failure stopped after failed
      cases found : reference reader.unread with
      | none => rfl
      | some rest =>
        obtain ⟨sent, final, success⟩ := copyRESP_complete few unbounded found
        rw [failed] at success
        simp at success
  · intro reply rest writer reader fits short unbounded unread
    exact copyRESP_segment (Reply.whole fits short) unbounded unread

/-- An array that holds a blob and another array, and a push in front of it. -/
def nestedReply : Reply :=
  .push [.line .simpleString [104, 105]] (.aggregate .array
    [.blob .bulkString [13, 10], .aggregate .array [.line .integer [49], .nullBlob .bulkString]])

theorem copyRESP_reference_nestedReply :
    headerLines 1 (newReader [nestedReply.encode ++ [43, 79]]).unread < 2 ^ 42 ∧
      reference (newReader [nestedReply.encode ++ [43, 79]]).unread = some [43, 79] ∧
      ∃ after, copyRESP ⟨[], none⟩ (newReader [nestedReply.encode ++ [43, 79]]) =
          (none, ⟨nestedReply.encode, none⟩, after) ∧ after.unread = [43, 79] := by
  have few : headerLines 1 (newReader [nestedReply.encode ++ [43, 79]]).unread < 2 ^ 42 := by
    decide +kernel
  have fits : nestedReply.Fits := by
    simp only [nestedReply, Reply.Fits, ItemsFit]
    decide +kernel
  obtain ⟨after, copied, rest⟩ := copyRESP_reference.2 nestedReply [43, 79] ⟨[], none⟩
    (newReader [nestedReply.encode ++ [43, 79]]) fits (by decide +kernel) rfl
    (by rw [newReader_unread, List.flatten_singleton])
  have agrees := copyRESP_reference.1 ⟨[], none⟩ _ rfl few
  rw [copied] at agrees
  exact ⟨few, rest ▸ agrees.1, after, copied, rest⟩

/-- `2 ^ 42` announcements in a row, and nothing they announce: the grammar wants
more, the copier is content. -/
theorem copyRESP_wraps :
    (copyRESP ⟨[], none⟩ (newReader [(List.replicate (2 ^ 42) fullAttribute).flatten])).1 = none ∧
      reference (newReader [(List.replicate (2 ^ 42) fullAttribute).flatten]).unread = none := by
  have unread : (newReader [(List.replicate (2 ^ 42) fullAttribute).flatten]).unread =
      (List.replicate (2 ^ 42) fullAttribute).flatten := by
    rw [newReader_unread, List.flatten_singleton]
  constructor
  · exact copyRemaining_announcements 0 (2 ^ 42 - 1) rfl (by omega) unread
  · rw [unread, ← references_one]
    exact references_announcements 0 (2 ^ 42)

end SentinelProxy.Resp
