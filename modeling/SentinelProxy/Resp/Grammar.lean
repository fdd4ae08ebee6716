import SentinelProxy.Resp.Line

/-! The reply grammar of RESP2 and RESP3 as a recursive-descent reader over byte
strings. It knows nothing of buffers, counters or writers. -/

namespace SentinelProxy.Resp

open SentinelProxy.Stream SentinelProxy.Text

/-- The header line at the front of a byte string: type byte, text, and the rest. -/
def nextLine (bytes : Bytes) : Option (UInt8 × Bytes × Bytes) :=
  match cut 10 bytes with
  | none => none
  | some (front, rest) =>
    if 3 ≤ front.length ∧ front[front.length - 2]? = some 13 ∧
        front.length ≤ maxLineLen + bufSize then
      some (front.headD 0, lineText front, rest)
    else none

theorem nextLine_iff {bytes : Bytes} :
    nextLine bytes = some (kind, text, rest) ↔
      LineFits kind text ∧ bytes = header kind text ++ rest := by
  constructor
  · intro found
    unfold nextLine at found
    split at found
    · cases found
    · rename_i line after cutAt
      obtain ⟨body, absent, rfl, rfl⟩ := cut_sound cutAt
      split at found
      · rename_i formed
        obtain ⟨long, carriage, limit⟩ := formed
        obtain ⟨first, middle, shape, clean⟩ := (wellFormed_iff absent).mp (by
          rintro (short | other)
          · omega
          · exact other carriage)
        rw [shape, lineText_header] at found
        rw [shape] at limit
        simp only [Option.some.injEq, Prod.mk.injEq] at found
        obtain ⟨kindIs, rfl, rfl⟩ := found
        have same : first = kind := by simpa [header] using kindIs
        subst same
        exact ⟨⟨clean, limit⟩, by rw [shape]⟩
      · cases found
  · rintro ⟨fits, rfl⟩
    have absent := fits.no_lineFeed
    have shape : header kind text = (kind :: text ++ [13]) ++ [10] := by simp [header]
    have found := cut_complete absent rest
    have formed : 3 ≤ (header kind text).length ∧
        (header kind text)[(header kind text).length - 2]? = some 13 ∧
        (header kind text).length ≤ maxLineLen + bufSize := by
      refine ⟨by rw [header_length]; omega, ?_, fits.2⟩
      simp [header]
    unfold nextLine
    have front : header kind text ++ rest = (kind :: text ++ [13]) ++ 10 :: rest := by
      simp [header]
    rw [front, found, ← shape]
    simp only [if_pos formed, lineText_header]
    rfl

theorem nextLine_shorter {bytes : Bytes} (found : nextLine bytes = some (kind, text, rest)) :
    rest.length + 3 ≤ bytes.length := by
  obtain ⟨_, rfl⟩ := nextLine_iff.mp found
  rw [List.length_append, header_length]
  omega

/-- What has to follow a header line: a body of so many bytes, so many replies as
the elements of a value, or so many replies in front of the reply itself. -/
inductive Demand where
  | body (length : Nat)
  | elements (count : Nat)
  | before (count : Nat)
  deriving DecidableEq, Repr

/-- A count header: the limit applies to the count as written, a negative or zero
count demands nothing. -/
def counted (demand : Nat → Demand) (width : Nat) (text : Bytes) : Option Demand :=
  match parseInt text with
  | none => none
  | some count => if maxRESPElements < count then none else some (demand (width * count.toNat))

/-- A blob header: so many bytes and a terminator, or nothing when the length is
negative. -/
def sized (text : Bytes) : Option Demand :=
  match parseInt text with
  | none => none
  | some length =>
    if maxBulkLen < length then none
    else if length < 0 then some (.body 0)
    else some (.body (length.toNat + 2))

def demand (kind : UInt8) (text : Bytes) : Option Demand :=
  if kind ∈ [43, 45, 58, 44, 35, 40, 95] then some (.body 0)
  else if kind ∈ [36, 61, 33] then sized text
  else if kind ∈ [42, 126] then counted .elements 1 text
  else if kind = 37 then counted .elements 2 text
  else if kind = 124 then counted .before 2 text
  else if kind = 62 then counted .before 1 text
  else none

mutual

/-- Read one reply, prefixes included; the result is what is left, which is shorter. -/
def readReply (bytes : Bytes) : Option { rest : Bytes // rest.length < bytes.length } :=
  match found : nextLine bytes with
  | none => none
  | some (kind, text, rest) =>
    have shorter := nextLine_shorter found
    match demand kind text with
    | none => none
    | some (.body length) =>
      if length ≤ rest.length then
        some ⟨rest.drop length, by rw [List.length_drop]; omega⟩
      else none
    | some (.elements count) =>
      match readReplies count rest with
      | none => none
      | some ⟨after, bound⟩ => some ⟨after, by omega⟩
    | some (.before count) =>
      match readReplies count rest with
      | none => none
      | some ⟨middle, bound⟩ =>
        match readReply middle with
        | none => none
        | some ⟨after, less⟩ => some ⟨after, by omega⟩
termination_by (bytes.length, 0)

/-- Read so many replies, one after another. -/
def readReplies (count : Nat) (bytes : Bytes) :
    Option { rest : Bytes // rest.length ≤ bytes.length } :=
  match count with
  | 0 => some ⟨bytes, Nat.le_refl _⟩
  | count + 1 =>
    match readReply bytes with
    | none => none
    | some ⟨middle, less⟩ =>
      match readReplies count middle with
      | none => none
      | some ⟨after, bound⟩ => some ⟨after, by omega⟩
termination_by (bytes.length, count)

end

/-- What one reply at the front of a byte string leaves. -/
def reference (bytes : Bytes) : Option Bytes := (readReply bytes).map Subtype.val

def references (count : Nat) (bytes : Bytes) : Option Bytes :=
  (readReplies count bytes).map Subtype.val

/-- What a header line's own body leaves of the bytes behind it. -/
def Demand.skip (rest : Bytes) : Demand → Option Bytes
  | .body length => if length ≤ rest.length then some (rest.drop length) else none
  | .elements _ => some rest
  | .before _ => some rest

/-- Replies still to be read when `pending` of them were due before the header. -/
def Demand.pending (pending : Nat) : Demand → Nat
  | .body _ => pending - 1
  | .elements count => pending - 1 + count
  | .before count => pending + count

theorem references_zero (bytes : Bytes) : references 0 bytes = some bytes := by
  simp [references, readReplies]

theorem references_succ (count : Nat) (bytes : Bytes) :
    references (count + 1) bytes = (reference bytes).bind (references count) := by
  rw [references, readReplies, reference]
  split
  · rename_i none
    simp [none]
  · rename_i middle less some
    simp only [some, Option.map_some, Option.bind_some, references]
    split
    · rename_i stuck
      simp [stuck]
    · rename_i after bound done
      simp [done]

/-- What is left once everything a header line demands has been read. -/
def Demand.finish (rest : Bytes) : Demand → Option Bytes
  | .body length => Demand.skip rest (.body length)
  | .elements count => references count rest
  | .before count => (references count rest).bind reference

private theorem reference_eq (bytes : Bytes) :
    reference bytes = (nextLine bytes).bind fun line =>
      (demand line.1 line.2.1).bind fun demanded => demanded.finish line.2.2 := by
  rw [reference, readReply]
  split
  · rename_i none
    simp [none]
  · rename_i kind text rest found
    simp only [found, Option.bind_some]
    split
    · rename_i unknown
      simp [unknown]
    · rename_i length demanded
      simp only [demanded, Option.bind_some, Demand.finish, Demand.skip]
      split <;> simp
    · rename_i count demanded
      simp only [demanded, Option.bind_some, Demand.finish, references]
      split
      · rename_i stuck
        simp [stuck]
      · rename_i after bound done
        simp [done]
    · rename_i count demanded
      simp only [demanded, Option.bind_some, Demand.finish, references]
      split
      · rename_i stuck
        simp [stuck]
      · rename_i middle bound done
        simp only [done, Option.map_some, Option.bind_some]
        split
        · rename_i stuck
          simp [reference, stuck]
        · rename_i after less done
          simp [reference, done]

/-- Reading replies in sequence splits at any number of them. -/
theorem references_add (first second : Nat) (bytes : Bytes) :
    references (first + second) bytes = (references first bytes).bind (references second) := by
  induction first generalizing bytes with
  | zero => simp [references_zero]
  | succ first ih =>
    rw [Nat.succ_add, references_succ, references_succ]
    cases reference bytes with
    | none => rfl
    | some middle => simpa using ih middle

/-- Read one header line with `count` replies pending: the replies pending after
it, and what is left of the bytes. -/
def headerStep (count : Nat) (bytes : Bytes) : Option (Nat × Bytes) :=
  (nextLine bytes).bind fun line =>
    (demand line.1 line.2.1).bind fun demanded =>
      (demanded.skip line.2.2).map fun rest => (demanded.pending count, rest)

theorem headerStep_some {count : Nat} {bytes : Bytes}
    (step : headerStep count bytes = some (pending, after)) :
    ∃ kind text rest demanded, nextLine bytes = some (kind, text, rest) ∧
      demand kind text = some demanded ∧ demanded.skip rest = some after ∧
      pending = demanded.pending count := by
  simp only [headerStep, Option.bind_eq_some_iff, Option.map_eq_some_iff, Prod.mk.injEq,
    Prod.exists] at step
  obtain ⟨kind, text, rest, found, demanded, known, after, skipped, rfl, rfl⟩ := step
  exact ⟨kind, text, rest, demanded, found, known, skipped, rfl⟩

theorem Demand.skip_length {rest after : Bytes} {demanded : Demand}
    (skipped : demanded.skip rest = some after) : after.length ≤ rest.length := by
  cases demanded with
  | body length =>
    simp only [Demand.skip] at skipped
    split at skipped
    · rw [← Option.some.inj skipped, List.length_drop]
      omega
    · cases skipped
  | elements size => exact Nat.le_of_eq (by rw [Option.some.inj skipped])
  | before size => exact Nat.le_of_eq (by rw [Option.some.inj skipped])

theorem headerStep_shorter {count : Nat} {bytes : Bytes}
    (step : headerStep count bytes = some (pending, after)) : after.length < bytes.length := by
  obtain ⟨kind, text, rest, demanded, found, _, skipped, _⟩ := headerStep_some step
  have shorter := nextLine_shorter found
  have bound := Demand.skip_length skipped
  omega

/-- The forest of pending replies is determined by their number: one header line
takes `count` replies to the replies its demand leaves pending. -/
theorem references_header (count : Nat) (bytes : Bytes) :
    references (count + 1) bytes =
      (headerStep (count + 1) bytes).bind fun next => references next.1 next.2 := by
  rw [references_succ, reference_eq, headerStep]
  cases nextLine bytes with
  | none => rfl
  | some line =>
    simp only [Option.bind_some]
    cases demand line.1 line.2.1 with
    | none => rfl
    | some demanded =>
      simp only [Option.bind_some]
      cases demanded with
      | body length =>
        simp only [Demand.finish, Demand.skip, Demand.pending]
        split <;> rfl
      | elements size =>
        simp only [Demand.finish, Demand.skip, Demand.pending, Nat.add_sub_cancel, Option.map_some,
          Option.bind_some]
        rw [Nat.add_comm, references_add]
      | before size =>
        have nested : (fun rest => (reference rest).bind (references count)) =
            references (count + 1) := by
          funext rest
          exact (references_succ count rest).symm
        simp only [Demand.finish, Demand.skip, Demand.pending, Option.map_some, Option.bind_some]
        rw [Nat.add_comm, references_add, Option.bind_assoc, nested]

/-- Header lines met while `count` replies are read. -/
def headerLines (count : Nat) (bytes : Bytes) : Nat :=
  if count = 0 then 0
  else
    match step : headerStep count bytes with
    | none => 0
    | some (pending, rest) => headerLines pending rest + 1
termination_by bytes.length
decreasing_by exact headerStep_shorter step

private theorem reference_shorter {bytes rest : Bytes} (success : reference bytes = some rest) :
    rest.length < bytes.length := by
  obtain ⟨result, _, rfl⟩ := Option.map_eq_some_iff.mp success
  exact result.2

/-- Every reply takes at least a byte of the stream. -/
theorem references_length {count : Nat} {bytes rest : Bytes}
    (success : references count bytes = some rest) : count + rest.length ≤ bytes.length := by
  induction count generalizing bytes with
  | zero =>
    rw [references_zero] at success
    simp [Option.some.inj success]
  | succ count ih =>
    rw [references_succ] at success
    obtain ⟨middle, first, others⟩ := Option.bind_eq_some_iff.mp success
    have shorter := reference_shorter first
    have bound := ih others
    omega

private theorem nextLine_append {bytes : Bytes} (found : nextLine bytes = some (kind, text, rest))
    (more : Bytes) : nextLine (bytes ++ more) = some (kind, text, rest ++ more) := by
  obtain ⟨fits, rfl⟩ := nextLine_iff.mp found
  exact nextLine_iff.mpr ⟨fits, by rw [List.append_assoc]⟩

theorem Demand.skip_append {rest after : Bytes} {demanded : Demand}
    (skipped : demanded.skip rest = some after) (more : Bytes) :
    demanded.skip (rest ++ more) = some (after ++ more) := by
  cases demanded with
  | body length =>
    simp only [Demand.skip] at skipped ⊢
    split at skipped
    · rename_i enough
      rw [if_pos (by rw [List.length_append]; omega), List.drop_append_of_le_length enough,
        Option.some.inj skipped]
    · cases skipped
  | elements size => simp [Demand.skip, ← Option.some.inj skipped]
  | before size => simp [Demand.skip, ← Option.some.inj skipped]

/-- A body ends where it ends, whatever follows it. -/
theorem Demand.skip_exact {body rest : Bytes} {demanded : Demand}
    (skipped : demanded.skip (body ++ rest) = some rest) (other : Bytes) :
    demanded.skip (body ++ other) = some other := by
  have alone : demanded.skip body = some [] := by
    cases demanded with
    | body length =>
      simp only [Demand.skip, List.length_append] at skipped ⊢
      split at skipped
      · have size := congrArg List.length (Option.some.inj skipped)
        rw [List.length_drop, List.length_append] at size
        obtain rfl : length = body.length := by omega
        simp
      · cases skipped
    | elements size => simpa [Demand.skip] using skipped
    | before size => simpa [Demand.skip] using skipped
  exact Demand.skip_append alone other

private theorem headerStep_append {count : Nat} {bytes : Bytes}
    (step : headerStep count bytes = some (pending, after)) (more : Bytes) :
    headerStep count (bytes ++ more) = some (pending, after ++ more) := by
  obtain ⟨kind, text, rest, demanded, found, known, skipped, rfl⟩ := headerStep_some step
  simp [headerStep, nextLine_append found, known, Demand.skip_append skipped]

/-- What follows a reply has no influence on it. -/
theorem references_append {count : Nat} {bytes rest : Bytes}
    (success : references count bytes = some rest) (more : Bytes) :
    references count (bytes ++ more) = some (rest ++ more) := by
  induction size : bytes.length using Nat.strongRecOn generalizing count bytes with
  | _ size ih =>
    cases count with
    | zero =>
      rw [references_zero] at success ⊢
      rw [Option.some.inj success]
    | succ count =>
      rw [references_header] at success ⊢
      obtain ⟨⟨pending, after⟩, step, others⟩ := Option.bind_eq_some_iff.mp success
      rw [headerStep_append step]
      exact ih after.length (by rw [← size]; exact headerStep_shorter step) others rfl

theorem references_one (bytes : Bytes) : references 1 bytes = reference bytes := by
  rw [references_succ]
  cases reference bytes with
  | none => rfl
  | some rest => simp [references_zero]

theorem reference_append {bytes rest : Bytes} (success : reference bytes = some rest)
    (more : Bytes) : reference (bytes ++ more) = some (rest ++ more) := by
  rw [← references_one] at success ⊢
  exact references_append success more

/-- The single-line types. -/
inductive LineKind where
  | simpleString | simpleError | integer | double | boolean | bigNumber | null
  deriving DecidableEq, Repr

def LineKind.byte : LineKind → UInt8
  | .simpleString => 43
  | .simpleError => 45
  | .integer => 58
  | .double => 44
  | .boolean => 35
  | .bigNumber => 40
  | .null => 95

/-- The length-prefixed types. -/
inductive BlobKind where
  | bulkString | verbatimString | bulkError
  deriving DecidableEq, Repr

def BlobKind.byte : BlobKind → UInt8
  | .bulkString => 36
  | .verbatimString => 61
  | .bulkError => 33

inductive AggregateKind where
  | array | set
  deriving DecidableEq, Repr

def AggregateKind.byte : AggregateKind → UInt8
  | .array => 42
  | .set => 126

/-- Replies as trees, with the attribute sections and push messages in front of
them. -/
inductive Reply where
  | line (kind : LineKind) (text : Bytes)
  | blob (kind : BlobKind) (payload : Bytes)
  | nullBlob (kind : BlobKind)
  | aggregate (kind : AggregateKind) (items : List Reply)
  | nullAggregate (kind : AggregateKind)
  | map (entries : List (Reply × Reply))
  | attributes (entries : List (Reply × Reply)) (annotated : Reply)
  | push (items : List Reply) (awaited : Reply)

mutual

def Reply.encode : Reply → Bytes
  | .line kind text => header kind.byte text
  | .blob kind payload => header kind.byte (decimal payload.length) ++ (payload ++ [13, 10])
  | .nullBlob kind => header kind.byte [45, 49]
  | .aggregate kind items => header kind.byte (decimal items.length) ++ encodeItems items
  | .nullAggregate kind => header kind.byte [45, 49]
  | .map entries => header 37 (decimal entries.length) ++ encodeEntries entries
  | .attributes entries annotated =>
    header 124 (decimal entries.length) ++ (encodeEntries entries ++ annotated.encode)
  | .push items awaited =>
    header 62 (decimal items.length) ++ (encodeItems items ++ awaited.encode)

def encodeItems : List Reply → Bytes
  | [] => []
  | item :: items => item.encode ++ encodeItems items

def encodeEntries : List (Reply × Reply) → Bytes
  | [] => []
  | (key, value) :: entries => key.encode ++ (value.encode ++ encodeEntries entries)

end

mutual

/-- A reply within the limits: lines the reader accepts, lengths and counts below
the protocol maxima, at every depth. -/
def Reply.Fits : Reply → Prop
  | .line kind text => LineFits kind.byte text
  | .blob _ payload => (payload.length : Int) ≤ maxBulkLen
  | .nullBlob _ => True
  | .aggregate _ items => (items.length : Int) ≤ maxRESPElements ∧ ItemsFit items
  | .nullAggregate _ => True
  | .map entries => (entries.length : Int) ≤ maxRESPElements ∧ EntriesFit entries
  | .attributes entries annotated =>
    (entries.length : Int) ≤ maxRESPElements ∧ EntriesFit entries ∧ annotated.Fits
  | .push items awaited =>
    (items.length : Int) ≤ maxRESPElements ∧ ItemsFit items ∧ awaited.Fits

def ItemsFit : List Reply → Prop
  | [] => True
  | item :: items => item.Fits ∧ ItemsFit items

def EntriesFit : List (Reply × Reply) → Prop
  | [] => True
  | (key, value) :: entries => key.Fits ∧ value.Fits ∧ EntriesFit entries

end

theorem count_line {count : Nat} (small : (count : Int) ≤ maxRESPElements) (kind : UInt8)
    (noLineFeed : kind ≠ 10) : LineFits kind (decimal count) := by
  exact (decimal_line (count_le_bulk small) kind noLineFeed).2

theorem counted_decimal (make : Nat → Demand) (width : Nat) {count : Nat}
    (small : (count : Int) ≤ maxRESPElements) :
    counted make width (decimal count) = some (make (width * count)) := by
  have parsed := (decimal_line (count_le_bulk small) 42 (by decide)).1
  simp only [counted, parsed, if_neg (Int.not_lt.mpr small), Int.toNat_natCast]

private theorem demand_line (kind : LineKind) (text : Bytes) :
    demand kind.byte text = some (.body 0) := by
  cases kind <;> rfl

private theorem demand_blob (kind : BlobKind) {length : Nat} (small : (length : Int) ≤ maxBulkLen) :
    demand kind.byte (decimal length) = some (.body (length + 2)) := by
  have parsed := (decimal_line small 36 (by decide)).1
  have short : ¬ maxBulkLen < (length : Int) := Int.not_lt.mpr small
  have present : ¬ (length : Int) < 0 := by omega
  cases kind <;> simp [demand, sized, BlobKind.byte, parsed, short, present]

private theorem demand_nullBlob (kind : BlobKind) : demand kind.byte [45, 49] = some (.body 0) := by
  cases kind <;> rfl

private theorem demand_aggregate (kind : AggregateKind) (text : Bytes) :
    demand kind.byte text = counted .elements 1 text := by
  cases kind <;> rfl

private theorem demand_nullAggregate (kind : AggregateKind) :
    demand kind.byte [45, 49] = some (.elements 0) := by
  cases kind <;> rfl

/-- One line of a reply, by what it demands. -/
theorem reference_header {kind : UInt8} {text : Bytes} (fits : LineFits kind text)
    (known : demand kind text = some demanded) (rest : Bytes) :
    reference (header kind text ++ rest) = demanded.finish rest := by
  rw [reference_eq, nextLine_iff.mpr ⟨fits, rfl⟩]
  simp only [Option.bind_some, known]

mutual

/-- Encoded replies of any depth are read back exactly, whatever follows. -/
theorem reference_encode (reply : Reply) (fits : reply.Fits) (rest : Bytes) :
    reference (reply.encode ++ rest) = some rest := by
  cases reply with
  | line kind text =>
    simp only [Reply.Fits] at fits
    simp only [Reply.encode, reference_header fits (demand_line kind text)]
    simp [Demand.finish, Demand.skip]
  | blob kind payload =>
    simp only [Reply.Fits] at fits
    have line := (decimal_line fits kind.byte (by cases kind <;> decide)).2
    simp only [Reply.encode, List.append_assoc, reference_header line (demand_blob kind fits)]
    simp [Demand.finish, Demand.skip]
  | nullBlob kind =>
    have line : LineFits kind.byte [45, 49] := by cases kind <;> decide
    simp only [Reply.encode, reference_header line (demand_nullBlob kind)]
    simp [Demand.finish, Demand.skip]
  | aggregate kind items =>
    simp only [Reply.Fits] at fits
    obtain ⟨small, inside⟩ := fits
    have line := count_line small kind.byte (by cases kind <;> decide)
    have known := (demand_aggregate kind _).trans (counted_decimal .elements 1 small)
    simp only [Reply.encode, List.append_assoc, reference_header line known, Nat.one_mul,
      Demand.finish]
    exact references_items items inside rest
  | nullAggregate kind =>
    have line : LineFits kind.byte [45, 49] := by cases kind <;> decide
    simp only [Reply.encode, reference_header line (demand_nullAggregate kind), Demand.finish]
    exact references_zero rest
  | map entries =>
    simp only [Reply.Fits] at fits
    obtain ⟨small, inside⟩ := fits
    have line := count_line small 37 (by decide)
    have known : demand 37 (decimal entries.length) = _ := counted_decimal .elements 2 small
    simp only [Reply.encode, List.append_assoc, reference_header line known,
      Demand.finish]
    exact references_entries entries inside rest
  | attributes entries annotated =>
    simp only [Reply.Fits] at fits
    obtain ⟨small, inside, last⟩ := fits
    have line := count_line small 124 (by decide)
    have known : demand 124 (decimal entries.length) = _ := counted_decimal .before 2 small
    simp only [Reply.encode, List.append_assoc, reference_header line known,
      Demand.finish, references_entries entries inside, Option.bind_some]
    exact reference_encode annotated last rest
  | push items awaited =>
    simp only [Reply.Fits] at fits
    obtain ⟨small, inside, last⟩ := fits
    have line := count_line small 62 (by decide)
    have known : demand 62 (decimal items.length) = _ := counted_decimal .before 1 small
    simp only [Reply.encode, List.append_assoc, reference_header line known, Nat.one_mul,
      Demand.finish, references_items items inside, Option.bind_some]
    exact reference_encode awaited last rest

private theorem references_items (items : List Reply) (fit : ItemsFit items) (rest : Bytes) :
    references items.length (encodeItems items ++ rest) = some rest := by
  cases items with
  | nil => exact references_zero rest
  | cons item items =>
    simp only [ItemsFit] at fit
    obtain ⟨first, others⟩ := fit
    simp only [encodeItems, List.append_assoc, List.length_cons, references_succ,
      reference_encode item first, Option.bind_some]
    exact references_items items others rest

private theorem references_entries (entries : List (Reply × Reply)) (fit : EntriesFit entries)
    (rest : Bytes) :
    references (2 * entries.length) (encodeEntries entries ++ rest) = some rest := by
  cases entries with
  | nil => exact references_zero rest
  | cons entry entries =>
    obtain ⟨key, value⟩ := entry
    simp only [EntriesFit] at fit
    obtain ⟨first, second, others⟩ := fit
    simp only [encodeEntries, List.append_assoc, List.length_cons, Nat.mul_succ, references_succ,
      reference_encode key first, reference_encode value second, Option.bind_some]
    exact references_entries entries others rest

end

end SentinelProxy.Resp
