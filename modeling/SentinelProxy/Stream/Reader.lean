import Mathlib.Data.List.Basic

/-! A buffered reader over a connection whose bytes arrive in pieces of any size.
Every operation is described by the bytes still unread, so no caller can observe
how the connection cut them up or which of them were already buffered. -/

namespace SentinelProxy.Stream

abbrev Bytes := List UInt8

/-- Capacity of the buffer a reader is created with. -/
def bufSize : Nat := 4096

/-- Split a byte string right after the first delimiter. -/
def cut (delim : UInt8) : Bytes → Option (Bytes × Bytes)
  | [] => none
  | byte :: rest =>
    if byte = delim then some ([byte], rest)
    else (cut delim rest).map fun parts => (byte :: parts.1, parts.2)

theorem cut_sound {delim : UInt8} {bytes line rest : Bytes}
    (found : cut delim bytes = some (line, rest)) :
    ∃ body, delim ∉ body ∧ line = body ++ [delim] ∧ bytes = line ++ rest := by
  induction bytes generalizing line with
  | nil => simp [cut] at found
  | cons byte bytes ih =>
    by_cases same : byte = delim
    · simp only [cut, same, ↓reduceIte, Option.some.injEq, Prod.mk.injEq] at found
      obtain ⟨rfl, rfl⟩ := found
      exact ⟨[], by simp, rfl, by simp [same]⟩
    · simp only [cut, same, ↓reduceIte, Option.map_eq_some_iff, Prod.exists,
        Prod.mk.injEq] at found
      obtain ⟨front, back, earlier, rfl, rfl⟩ := found
      obtain ⟨body, absent, rfl, rfl⟩ := ih earlier
      exact ⟨byte :: body, by simp [Ne.symm same, absent], rfl, rfl⟩

theorem cut_complete {delim : UInt8} {body : Bytes} (absent : delim ∉ body) (rest : Bytes) :
    cut delim (body ++ delim :: rest) = some (body ++ [delim], rest) := by
  induction body with
  | nil => simp [cut]
  | cons byte body ih =>
    have different : byte ≠ delim := fun same => absent (by simp [same])
    have later : delim ∉ body := fun member => absent (List.mem_cons_of_mem _ member)
    simp [cut, different, ih later]

theorem cut_eq_none {delim : UInt8} {bytes : Bytes} : cut delim bytes = none ↔ delim ∉ bytes := by
  induction bytes with
  | nil => simp [cut]
  | cons byte bytes ih =>
    by_cases same : byte = delim
    · simp [cut, same]
    · simp [cut, same, Ne.symm same, ih]

theorem cut_append {delim : UInt8} {bytes line rest : Bytes}
    (found : cut delim bytes = some (line, rest)) (more : Bytes) :
    cut delim (bytes ++ more) = some (line, rest ++ more) := by
  obtain ⟨body, absent, rfl, rfl⟩ := cut_sound found
  simpa using cut_complete absent (rest ++ more)

/-- One read of at most `room` bytes from a connection that has the given pieces
left to deliver. An empty piece is no delivery and is passed over; `none` is the
end of the stream. -/
def receive (room : Nat) : List Bytes → Option (Bytes × List Bytes)
  | [] => none
  | [] :: pieces => receive room pieces
  | (byte :: piece) :: pieces =>
    some ((byte :: piece).take room, (byte :: piece).drop room :: pieces)

theorem receive_none {room : Nat} {pieces : List Bytes} (ended : receive room pieces = none) :
    pieces.flatten = [] := by
  induction pieces with
  | nil => rfl
  | cons piece pieces ih =>
    cases piece with
    | nil => simpa using ih (by simpa [receive] using ended)
    | cons byte piece => simp [receive] at ended

theorem receive_some {room : Nat} {pieces : List Bytes}
    (received : receive room pieces = some (got, left)) :
    pieces.flatten = got ++ left.flatten ∧ got.length ≤ room ∧ (0 < room → got ≠ []) := by
  induction pieces with
  | nil => simp [receive] at received
  | cons piece pieces ih =>
    cases piece with
    | nil => simpa using ih (by simpa [receive] using received)
    | cons byte piece =>
      simp only [receive, Option.some.injEq, Prod.mk.injEq] at received
      obtain ⟨rfl, rfl⟩ := received
      refine ⟨?_, List.length_take_le _ _, ?_⟩
      · simp only [List.flatten_cons, ← List.append_assoc, List.take_append_drop]
      · intro positive
        cases room with
        | zero => omega
        | succ room => simp

/-- A buffered reader: the bytes taken from the connection and not yet consumed,
and the pieces the connection has still to deliver. -/
structure Reader where
  buf : Bytes
  conn : List Bytes
  fits : buf.length ≤ bufSize

/-- The bytes a caller has still to see, buffered or not. -/
def Reader.unread (reader : Reader) : Bytes := reader.buf ++ reader.conn.flatten

/-- A fresh reader over a connection. -/
def newReader (conn : List Bytes) : Reader := ⟨[], conn, by simp⟩

theorem newReader_unread (conn : List Bytes) : (newReader conn).unread = conn.flatten := rfl

/-- Take one delivery into the free part of the buffer; `none` at the end of the
stream. -/
def Reader.fill (reader : Reader) : Option Reader :=
  match received : receive (bufSize - reader.buf.length) reader.conn with
  | none => none
  | some (got, left) => some ⟨reader.buf ++ got, left, by
      have bound := (receive_some received).2.1
      have room := reader.fits
      simp only [List.length_append]
      omega⟩

theorem Reader.fill_none {reader : Reader} (ended : reader.fill = none) :
    reader.conn.flatten = [] := by
  unfold Reader.fill at ended
  split at ended
  · rename_i received
    exact receive_none received
  · cases ended

theorem Reader.fill_some {reader filled : Reader} (success : reader.fill = some filled) :
    filled.unread = reader.unread ∧
      (reader.buf.length < bufSize → reader.buf.length < filled.buf.length) := by
  unfold Reader.fill at success
  split at success
  · cases success
  · rename_i got left received
    obtain ⟨delivered, _, nonempty⟩ := receive_some received
    cases Option.some.inj success
    refine ⟨?_, ?_⟩
    · simp [Reader.unread, delivered]
    · intro free
      have present := List.length_pos_of_ne_nil (nonempty (by omega))
      simp only [List.length_append]
      omega

theorem Reader.fill_decreases {reader filled : Reader} (success : reader.fill = some filled)
    (free : reader.buf.length < bufSize) :
    filled.conn.flatten.length < reader.conn.flatten.length := by
  obtain ⟨same, grown⟩ := Reader.fill_some success
  have total := congrArg List.length same
  have more := grown free
  simp only [Reader.unread, List.length_append] at total
  omega

/-- Why a slice ends without its delimiter. -/
inductive SliceError where
  | bufferFull
  | eof
  deriving DecidableEq, Repr

/-- Return the buffered bytes through the first delimiter, filling the buffer as
long as it has none. A full buffer without it is handed out as it is. -/
def Reader.readSlice (delim : UInt8) (reader : Reader) :
    Bytes × Option SliceError × Reader :=
  match found : cut delim reader.buf with
  | some (line, rest) => (line, none, ⟨rest, reader.conn, by
      obtain ⟨_, _, _, whole⟩ := cut_sound found
      have bound := reader.fits
      rw [whole] at bound
      simp only [List.length_append] at bound
      omega⟩)
  | none =>
    if full : bufSize ≤ reader.buf.length then
      (reader.buf, some .bufferFull, ⟨[], reader.conn, by simp⟩)
    else
      match filled : reader.fill with
      | none => (reader.buf, some .eof, ⟨[], reader.conn, by simp⟩)
      | some next => next.readSlice delim
termination_by reader.conn.flatten.length
decreasing_by exact Reader.fill_decreases filled (by omega)

/-- What a slice is, as a function of the unread bytes alone. -/
def slice (delim : UInt8) (bytes : Bytes) : Bytes × Option SliceError × Bytes :=
  match cut delim (bytes.take bufSize) with
  | some (line, rest) => (line, none, rest ++ bytes.drop bufSize)
  | none =>
    if bufSize ≤ bytes.length then (bytes.take bufSize, some .bufferFull, bytes.drop bufSize)
    else (bytes, some .eof, [])

theorem Reader.take_unread (reader : Reader) :
    reader.unread.take bufSize =
      reader.buf ++ reader.conn.flatten.take (bufSize - reader.buf.length) := by
  rw [Reader.unread, List.take_append, List.take_of_length_le reader.fits]

theorem Reader.drop_unread (reader : Reader) :
    reader.unread.drop bufSize = reader.conn.flatten.drop (bufSize - reader.buf.length) := by
  rw [Reader.unread, List.drop_append, List.drop_eq_nil_of_le reader.fits, List.nil_append]

/-- Fragmentation and buffering are invisible: a slice of the reader is the slice
of its unread bytes. -/
theorem Reader.readSlice_eq (delim : UInt8) (reader : Reader) :
    slice delim reader.unread =
      ((reader.readSlice delim).1, (reader.readSlice delim).2.1,
        (reader.readSlice delim).2.2.unread) := by
  fun_induction Reader.readSlice delim reader with
  | case1 reader line rest found =>
    have cutAll : cut delim (reader.unread.take bufSize) = some
        (line, rest ++ reader.conn.flatten.take (bufSize - reader.buf.length)) := by
      rw [Reader.take_unread]
      exact cut_append found _
    simp only [slice, cutAll, Reader.drop_unread, List.append_assoc, List.take_append_drop]
    rfl
  | case2 reader missing full =>
    have exact : bufSize - reader.buf.length = 0 := by omega
    have taken : reader.unread.take bufSize = reader.buf := by
      rw [Reader.take_unread, exact, List.take_zero, List.append_nil]
    have dropped : reader.unread.drop bufSize = reader.conn.flatten := by
      rw [Reader.drop_unread, exact, List.drop_zero]
    have long : bufSize ≤ reader.unread.length := by
      simp only [Reader.unread, List.length_append]
      omega
    simp only [slice, taken, missing, dropped, long, ↓reduceIte]
    rfl
  | case3 reader missing free ended =>
    have finished := Reader.fill_none ended
    have whole : reader.unread = reader.buf := by simp [Reader.unread, finished]
    have short : ¬ bufSize ≤ reader.unread.length := by
      rw [whole]
      exact free
    have taken : reader.unread.take bufSize = reader.buf := by
      rw [Reader.take_unread, finished, List.take_nil, List.append_nil]
    simp only [slice, taken, missing, short, ↓reduceIte]
    simp [Reader.unread, finished]
  | case4 reader missing free next filled ih =>
    rw [← (Reader.fill_some filled).1]
    exact ih

theorem Reader.readSlice_found {reader after : Reader}
    (success : reader.readSlice delim = (part, none, after)) :
    cut delim reader.unread = some (part, after.unread) ∧ part.length ≤ bufSize := by
  have same := reader.readSlice_eq delim
  rw [success, slice] at same
  split at same
  · rename_i line rest found
    simp only [Prod.mk.injEq, true_and] at same
    obtain ⟨rfl, remainder⟩ := same
    refine ⟨?_, ?_⟩
    · have whole := cut_append found (reader.unread.drop bufSize)
      rwa [List.take_append_drop, remainder] at whole
    · obtain ⟨_, _, _, split⟩ := cut_sound found
      have bound := List.length_take_le bufSize reader.unread
      rw [split, List.length_append] at bound
      omega
  · split at same <;> simp at same

theorem Reader.readSlice_full {reader after : Reader}
    (stopped : reader.readSlice delim = (part, some .bufferFull, after)) :
    reader.unread = part ++ after.unread ∧ part.length = bufSize ∧ delim ∉ part := by
  have same := reader.readSlice_eq delim
  rw [stopped, slice] at same
  split at same
  · simp at same
  · rename_i missing
    split at same
    · rename_i long
      simp only [Prod.mk.injEq, true_and] at same
      obtain ⟨rfl, remainder⟩ := same
      refine ⟨?_, ?_, cut_eq_none.mp missing⟩
      · rw [← remainder, List.take_append_drop]
      · rw [List.length_take]
        omega
    · simp at same

theorem Reader.readSlice_eof {reader after : Reader}
    (stopped : reader.readSlice delim = (part, some .eof, after)) :
    cut delim reader.unread = none := by
  have same := reader.readSlice_eq delim
  rw [stopped, slice] at same
  split at same
  · simp at same
  · rename_i missing
    split at same
    · simp at same
    · rename_i short
      rwa [List.take_of_length_le (by omega)] at missing

/-- The first unread byte, filling the buffer when it is empty. -/
def Reader.peek (reader : Reader) : Option UInt8 × Reader :=
  match reader.buf with
  | byte :: _ => (some byte, reader)
  | [] =>
    match reader.fill with
    | none => (none, reader)
    | some filled => (filled.buf.head?, filled)

theorem Reader.peek_eq (reader : Reader) :
    reader.peek.1 = reader.unread.head? ∧ reader.peek.2.unread = reader.unread := by
  unfold Reader.peek
  split
  · rename_i byte rest present
    simp [Reader.unread, present]
  · rename_i empty
    split
    · rename_i ended
      simp [Reader.unread, empty, Reader.fill_none ended]
    · rename_i filled success
      obtain ⟨same, grown⟩ := Reader.fill_some success
      have nonempty : filled.buf ≠ [] := by
        have more := grown (by simp [empty, bufSize])
        exact List.ne_nil_of_length_pos (by omega)
      refine ⟨?_, same⟩
      rw [← same, Reader.unread, List.head?_append_of_ne_nil _ nonempty]

/-- One read of at most `count` bytes: from the buffer when it holds any, straight
from the connection when the request is at least a buffer's worth. -/
def Reader.read (count : Nat) (reader : Reader) : Option Bytes × Reader :=
  match reader.buf with
  | [] =>
    match received : receive (max count bufSize) reader.conn with
    | none => (none, reader)
    | some (got, left) =>
      if large : bufSize ≤ count then (some got, ⟨[], left, by simp⟩)
      else (some (got.take count), ⟨got.drop count, left, by
        have bound := (receive_some received).2.1
        simp only [List.length_drop]
        omega⟩)
  | byte :: rest => (some ((byte :: rest).take count), ⟨reader.buf.drop count, reader.conn, by
      have bound := reader.fits
      simp only [List.length_drop]
      omega⟩)

theorem Reader.read_none {reader after : Reader} (ended : reader.read count = (none, after)) :
    reader.unread = [] ∧ after = reader := by
  unfold Reader.read at ended
  split at ended
  · rename_i empty
    split at ended
    · rename_i received
      exact ⟨by simp [Reader.unread, empty, receive_none received], (Prod.mk.inj ended).2.symm⟩
    · split at ended <;> simp at ended
  · simp at ended

theorem Reader.read_some {reader after : Reader}
    (success : reader.read count = (some got, after)) (positive : 0 < count) :
    reader.unread = got ++ after.unread ∧ got.length ≤ count ∧ got ≠ [] := by
  unfold Reader.read at success
  split at success
  · rename_i empty
    split at success
    · simp at success
    · rename_i received left arrived
      obtain ⟨delivered, bound, nonempty⟩ := receive_some arrived
      have present := nonempty (by omega)
      split at success
      · obtain ⟨rfl, rfl⟩ := Prod.mk.inj success |>.imp_left Option.some.inj
        refine ⟨by simp [Reader.unread, empty, delivered], by omega, present⟩
      · obtain ⟨rfl, rfl⟩ := Prod.mk.inj success |>.imp_left Option.some.inj
        refine ⟨?_, List.length_take_le _ _, ?_⟩
        · simp only [Reader.unread, empty, delivered, List.nil_append, ← List.append_assoc,
            List.take_append_drop]
        · simpa [Nat.ne_of_gt positive] using present
  · rename_i byte rest buffered
    obtain ⟨rfl, rfl⟩ := Prod.mk.inj success |>.imp_left Option.some.inj
    refine ⟨?_, List.length_take_le _ _, ?_⟩
    · simp only [Reader.unread, buffered, ← List.append_assoc, List.take_append_drop]
    · simp [Nat.ne_of_gt positive]

/-- Why a reader cannot deliver the requested bytes: nothing came, or too little. -/
inductive ReadError where
  | eof
  | unexpectedEOF
  deriving DecidableEq, Repr

/-- Read exactly `count` further bytes after those already collected. -/
def Reader.readFullFrom (collected : Bytes) (count : Nat) (reader : Reader) :
    Except ReadError Bytes × Reader :=
  if count = 0 then (.ok collected, reader)
  else
    match progress : reader.read count with
    | (none, after) => (.error (if collected = [] then .eof else .unexpectedEOF), after)
    | (some got, after) => after.readFullFrom (collected ++ got) (count - got.length)
termination_by count
decreasing_by
  have nonempty := (Reader.read_some progress (by omega)).2.2
  have present := List.length_pos_of_ne_nil nonempty
  omega

def Reader.readFull (count : Nat) (reader : Reader) : Except ReadError Bytes × Reader :=
  reader.readFullFrom [] count

theorem Reader.readFullFrom_ok (collected : Bytes) (count : Nat) (reader : Reader)
    (enough : count ≤ reader.unread.length) :
    ∃ after, reader.readFullFrom collected count =
        (.ok (collected ++ reader.unread.take count), after) ∧
      after.unread = reader.unread.drop count := by
  fun_induction Reader.readFullFrom collected count reader with
  | case1 collected reader => exact ⟨reader, by simp, by simp⟩
  | case2 collected count reader pending after ended =>
    rw [(Reader.read_none ended).1] at enough
    simp only [List.length_nil, Nat.le_zero] at enough
    exact absurd enough pending
  | case3 collected count reader pending got after progress ih =>
    obtain ⟨consumed, bound, _⟩ := Reader.read_some progress (by omega)
    have left : count - got.length ≤ after.unread.length := by
      rw [consumed, List.length_append] at enough
      omega
    obtain ⟨final, success, remainder⟩ := ih left
    refine ⟨final, ?_, ?_⟩
    · rw [success, consumed, List.take_append, List.take_of_length_le bound, List.append_assoc]
    · rw [remainder, consumed, List.drop_append, List.drop_eq_nil_of_le bound, List.nil_append]

theorem Reader.readFullFrom_error (collected : Bytes) (count : Nat) (reader : Reader)
    (short : reader.unread.length < count) :
    ∃ error after, reader.readFullFrom collected count = (.error error, after) := by
  fun_induction Reader.readFullFrom collected count reader with
  | case1 collected reader => simp at short
  | case2 collected count reader pending after ended => exact ⟨_, _, rfl⟩
  | case3 collected count reader pending got after progress ih =>
    obtain ⟨consumed, bound, _⟩ := Reader.read_some progress (by omega)
    apply ih
    rw [consumed, List.length_append] at short
    omega

theorem Reader.readFull_ok (count : Nat) (reader : Reader)
    (enough : count ≤ reader.unread.length) :
    ∃ after, reader.readFull count = (.ok (reader.unread.take count), after) ∧
      after.unread = reader.unread.drop count := by
  simpa [Reader.readFull] using reader.readFullFrom_ok [] count enough

theorem Reader.readFull_error (count : Nat) (reader : Reader)
    (short : reader.unread.length < count) :
    ∃ error after, reader.readFull count = (.error error, after) :=
  reader.readFullFrom_error [] count short

end SentinelProxy.Stream
