import Mathlib.Data.Seq.Basic
import SentinelProxy.Stream.Reader

/-! Buffered reading from a connection of any kind: its bytes may end or go on for ever,
and every read delivers as many of them as the connection likes. A reader over a finite
list of pieces is the case in which everything to come is known. -/

namespace SentinelProxy.Stream

open Stream' (Seq)

section Sequences

variable {α : Type u}

/-- A list in front of a sequence that may be endless. -/
def prepend (items : List α) (flow : Seq α) : Seq α := (Seq.ofList items).append flow

@[simp] theorem prepend_nil (flow : Seq α) : prepend [] flow = flow := Seq.nil_append flow

@[simp] theorem prepend_cons (item : α) (items : List α) (flow : Seq α) :
    prepend (item :: items) flow = .cons item (prepend items flow) := by
  simp [prepend]

theorem prepend_append (first second : List α) (flow : Seq α) :
    prepend (first ++ second) flow = prepend first (prepend second flow) := by
  simp [prepend]

theorem prepend_eq_nil {items : List α} {flow : Seq α} (empty : prepend items flow = .nil) :
    items = [] ∧ flow = .nil := by
  cases items with
  | nil => exact ⟨rfl, by simpa using empty⟩
  | cons item items => simp at empty

theorem mem_prepend {item : α} {items : List α} {flow : Seq α} :
    item ∈ prepend items flow ↔ item ∈ items ∨ item ∈ flow := by
  induction items with
  | nil => simp
  | cons other items ih => rw [prepend_cons, Seq.mem_cons_iff, ih, List.mem_cons, or_assoc]

theorem terminates_prepend {items : List α} {flow : Seq α} :
    (prepend items flow).Terminates ↔ flow.Terminates := by
  induction items with
  | nil => simp
  | cons other items ih => rw [prepend_cons, Seq.terminates_cons_iff, ih]

/-- Of two lists in front of the same sequence, the shorter is a part of the longer. -/
theorem prepend_split {first second : List α} {one two : Seq α}
    (same : prepend first one = prepend second two) (shorter : first.length ≤ second.length) :
    ∃ middle, second = first ++ middle ∧ one = prepend middle two := by
  induction first generalizing second with
  | nil => exact ⟨second, rfl, by simpa using same⟩
  | cons item first ih =>
    cases second with
    | nil => simp at shorter
    | cons other second =>
      simp only [prepend_cons, Seq.cons_eq_cons] at same
      obtain ⟨rfl, rest⟩ := same
      obtain ⟨middle, rfl, left⟩ := ih rest (Nat.le_of_succ_le_succ shorter)
      exact ⟨middle, rfl, left⟩

private theorem prepend_take_drop (count : Nat) (flow : Seq α) :
    prepend (flow.take count) (flow.drop count) = flow := by
  induction count generalizing flow with
  | zero => simp
  | succ count ih =>
    cases flow with
    | nil => simp
    | cons item flow => simp [ih]

private theorem take_prepend {items : List α} {count : Nat} (inside : items.length ≤ count)
    (flow : Seq α) :
    (prepend items flow).take count = items ++ flow.take (count - items.length) := by
  induction items generalizing count with
  | nil => simp
  | cons item items ih =>
    obtain ⟨count, rfl⟩ := Nat.exists_eq_add_of_le' (Nat.lt_of_lt_of_le (Nat.succ_pos _) inside)
    simp [ih (Nat.le_of_succ_le_succ inside)]

private theorem drop_prepend {items : List α} {count : Nat} (inside : items.length ≤ count)
    (flow : Seq α) :
    (prepend items flow).drop count = flow.drop (count - items.length) := by
  induction items generalizing count with
  | nil => simp
  | cons item items ih =>
    obtain ⟨count, rfl⟩ := Nat.exists_eq_add_of_le' (Nat.lt_of_lt_of_le (Nat.succ_pos _) inside)
    simp [ih (Nat.le_of_succ_le_succ inside)]

/-- A sequence that has fewer items than asked for has ended. -/
theorem drop_of_take_short {count : Nat} {flow : Seq α} (short : (flow.take count).length < count) :
    flow.drop count = .nil := by
  induction count generalizing flow with
  | zero => simp at short
  | succ count ih =>
    cases flow with
    | nil => simp
    | cons item flow =>
      simp only [Seq.take_succ_cons, List.length_cons, Nat.succ_lt_succ_iff] at short
      simp [ih short]

end Sequences

/-- The bytes of a connection, in the order in which they arrive. -/
abbrev Flow := Seq UInt8

/-- A connection: what it has still to deliver, and one read of at most so many bytes,
which delivers some of them or meets their end. How many is up to the connection. -/
structure Source (σ : Type u) where
  contents : σ → Flow
  read : Nat → σ → Option (Bytes × σ)
  ended : ∀ {room state}, 0 < room → read room state = none → contents state = .nil
  delivers : ∀ {room state got next}, 0 < room → read room state = some (got, next) →
    got ≠ [] ∧ got.length ≤ room ∧ contents state = prepend got (contents next)

/-- A buffered reader over a connection. -/
structure Buffered {σ : Type u} (source : Source σ) where
  buf : Bytes
  conn : σ
  fits : buf.length ≤ bufSize

namespace Buffered

variable {σ : Type u} {source : Source σ} {delim : UInt8}

/-- The bytes a caller has still to see, buffered or not. -/
def unread (reader : Buffered source) : Flow := prepend reader.buf (source.contents reader.conn)

private theorem rest_fits {reader : Buffered source} {line rest : Bytes}
    (found : cut delim reader.buf = some (line, rest)) : rest.length ≤ bufSize := by
  obtain ⟨_, _, _, whole⟩ := cut_sound found
  have bound := reader.fits
  rw [whole, List.length_append] at bound
  omega

section Fill

variable {reader : Buffered source} {got : Bytes} {left : σ}
  (free : ¬bufSize ≤ reader.buf.length)
  (received : source.read (bufSize - reader.buf.length) reader.conn = some (got, left))
include free received

private theorem fill_fits : (reader.buf ++ got).length ≤ bufSize := by
  have bound := (source.delivers (by omega) received).2.1
  rw [List.length_append]
  omega

private theorem fill_shrinks :
    bufSize - (reader.buf ++ got).length < bufSize - reader.buf.length := by
  have nonempty := (source.delivers (by omega) received).1
  have present := List.length_pos_of_ne_nil nonempty
  rw [List.length_append]
  omega

end Fill

/-- Return the buffered bytes through the first delimiter, filling the buffer as long as it
has none. A full buffer without it is handed out as it is. -/
def readSlice (delim : UInt8) (reader : Buffered source) :
    Bytes × Option SliceError × Buffered source :=
  match found : cut delim reader.buf with
  | some (line, rest) => (line, none, ⟨rest, reader.conn, rest_fits found⟩)
  | none =>
    if full : bufSize ≤ reader.buf.length then
      (reader.buf, some .bufferFull, ⟨[], reader.conn, Nat.zero_le _⟩)
    else
      match received : source.read (bufSize - reader.buf.length) reader.conn with
      | none => (reader.buf, some .eof, ⟨[], reader.conn, Nat.zero_le _⟩)
      | some (got, left) =>
        readSlice delim ⟨reader.buf ++ got, left, fill_fits full received⟩
termination_by bufSize - reader.buf.length
decreasing_by exact fill_shrinks full received

/-- Without a delimiter in the buffer there is more to read, if there is room for it. -/
theorem readSlice_of_missing {reader : Buffered source} (missing : cut delim reader.buf = none) :
    reader.readSlice delim =
      if full : bufSize ≤ reader.buf.length then
        (reader.buf, some .bufferFull, ⟨[], reader.conn, Nat.zero_le _⟩)
      else
        match received : source.read (bufSize - reader.buf.length) reader.conn with
        | none => (reader.buf, some .eof, ⟨[], reader.conn, Nat.zero_le _⟩)
        | some (got, left) =>
          readSlice delim ⟨reader.buf ++ got, left, fill_fits full received⟩ := by
  rw [readSlice]
  split
  · rename_i found
    cases missing.symm.trans found
  · rfl

end Buffered

/-- What a slice is, as a function of the bytes alone. -/
def sliceFlow (delim : UInt8) (flow : Flow) : Bytes × Option SliceError × Flow :=
  match cut delim (flow.take bufSize) with
  | some (line, rest) => (line, none, prepend rest (flow.drop bufSize))
  | none =>
    if bufSize ≤ (flow.take bufSize).length then
      (flow.take bufSize, some .bufferFull, flow.drop bufSize)
    else (flow.take bufSize, some .eof, .nil)

/-- Neither the connection nor the buffer can be seen through a slice. -/
theorem Buffered.readSlice_eq {σ : Type u} {source : Source σ} (delim : UInt8)
    (reader : Buffered source) :
    sliceFlow delim reader.unread =
      ((reader.readSlice delim).1, (reader.readSlice delim).2.1,
        (reader.readSlice delim).2.2.unread) := by
  fun_induction Buffered.readSlice delim reader with
  | case1 reader line rest found =>
    have cutAll := cut_append found
      ((source.contents reader.conn).take (bufSize - reader.buf.length))
    rw [sliceFlow, Buffered.unread, take_prepend reader.fits, cutAll]
    simp only [drop_prepend reader.fits, prepend_append, prepend_take_drop]
    rfl
  | case2 reader missing full =>
    have exact : bufSize - reader.buf.length = 0 := by omega
    have taken : reader.unread.take bufSize = reader.buf := by
      rw [Buffered.unread, take_prepend reader.fits, exact, Seq.take_zero, List.append_nil]
    have dropped : reader.unread.drop bufSize = source.contents reader.conn := by
      rw [Buffered.unread, drop_prepend reader.fits, exact, Seq.drop_zero]
    simp only [sliceFlow, taken, missing, full, dropped, ↓reduceIte]
    simp [Buffered.unread]
  | case3 reader missing free received =>
    have finished := source.ended (by omega) received
    have taken : reader.unread.take bufSize = reader.buf := by
      rw [Buffered.unread, take_prepend reader.fits, finished, Seq.take_nil, List.append_nil]
    simp only [sliceFlow, taken, missing, free, ↓reduceIte]
    simp [Buffered.unread, finished]
  | case4 reader missing free got left received ih =>
    have delivered := (source.delivers (by omega) received).2.2
    rw [← ih]
    simp only [Buffered.unread, delivered, prepend_append]

section Slices

variable {delim : UInt8} {flow rest : Flow} {part : Bytes}

/-- The sequence cut right after its first delimiter. -/
def CutsAt (delim : UInt8) (flow : Flow) (line : Bytes) (rest : Flow) : Prop :=
  ∃ body, delim ∉ body ∧ line = body ++ [delim] ∧ flow = prepend line rest

theorem sliceFlow_found (sliced : sliceFlow delim flow = (part, none, rest)) :
    CutsAt delim flow part rest ∧ part.length ≤ bufSize := by
  unfold sliceFlow at sliced
  split at sliced
  · rename_i line left found
    simp only [Prod.mk.injEq, true_and] at sliced
    obtain ⟨rfl, rfl⟩ := sliced
    obtain ⟨body, absent, shape, whole⟩ := cut_sound found
    refine ⟨⟨body, absent, shape, ?_⟩, ?_⟩
    · rw [← prepend_append, ← whole, prepend_take_drop]
    · have bound := @Seq.length_take_le _ flow bufSize
      rw [whole, List.length_append] at bound
      omega
  · split at sliced <;> simp at sliced

theorem sliceFlow_full (sliced : sliceFlow delim flow = (part, some .bufferFull, rest)) :
    flow = prepend part rest ∧ part.length = bufSize ∧ delim ∉ part := by
  unfold sliceFlow at sliced
  split at sliced
  · simp at sliced
  · rename_i missing
    split at sliced
    · rename_i long
      simp only [Prod.mk.injEq, true_and] at sliced
      obtain ⟨rfl, rfl⟩ := sliced
      have bound := @Seq.length_take_le _ flow bufSize
      exact ⟨(prepend_take_drop bufSize flow).symm, by omega, cut_eq_none.mp missing⟩
    · simp at sliced

theorem sliceFlow_eof (sliced : sliceFlow delim flow = (part, some .eof, rest)) :
    flow = prepend part .nil ∧ part.length < bufSize ∧ delim ∉ part ∧ rest = .nil := by
  unfold sliceFlow at sliced
  split at sliced
  · simp at sliced
  · rename_i missing
    split at sliced
    · simp at sliced
    · rename_i short
      simp only [Prod.mk.injEq, true_and] at sliced
      obtain ⟨rfl, rfl⟩ := sliced
      have finished : flow.drop bufSize = .nil := drop_of_take_short (by omega)
      refine ⟨?_, by omega, cut_eq_none.mp missing, rfl⟩
      rw [← finished, prepend_take_drop]

theorem CutsAt.mem (cuts : CutsAt delim flow part rest) : delim ∈ flow := by
  obtain ⟨body, _, rfl, rfl⟩ := cuts
  simp [mem_prepend]

/-- Bytes without a delimiter end before it. -/
theorem CutsAt.longer {line : Bytes} {other : Flow} (cuts : CutsAt delim flow line rest)
    (absent : delim ∉ part) (split : flow = prepend part other) : part.length < line.length := by
  obtain ⟨body, _, rfl, whole⟩ := cuts
  by_contra reaches
  obtain ⟨middle, rfl, _⟩ := prepend_split (whole.symm.trans split) (Nat.not_lt.mp reaches)
  simp at absent

theorem CutsAt.after {line : Bytes} (cuts : CutsAt delim flow part rest) (absent : delim ∉ line) :
    CutsAt delim (prepend line flow) (line ++ part) rest := by
  obtain ⟨body, missing, rfl, rfl⟩ := cuts
  refine ⟨line ++ body, by simp [absent, missing], by simp, ?_⟩
  rw [prepend_append line]

theorem CutsAt.unique {one two : Bytes} {other : Flow} (first : CutsAt delim flow one rest)
    (second : CutsAt delim flow two other) : one = two ∧ rest = other := by
  have nested {one two : Bytes} {rest other : Flow} (first : CutsAt delim flow one rest)
      (second : CutsAt delim flow two other) (shorter : one.length ≤ two.length) :
      one = two ∧ rest = other := by
    obtain ⟨body, absent, rfl, whole⟩ := first
    obtain ⟨longer, missing, rfl, same⟩ := second
    obtain ⟨middle, shape, rfl⟩ := prepend_split (whole.symm.trans same) shorter
    have cutLonger := cut_complete missing []
    rw [shape, List.append_assoc, List.singleton_append, cut_complete absent] at cutLonger
    simp only [Option.some.injEq, Prod.mk.injEq] at cutLonger
    obtain ⟨_, rfl⟩ := cutLonger
    simp [shape]
  rcases Nat.le_total one.length two.length with shorter | longer
  · exact nested first second shorter
  · obtain ⟨same, left⟩ := nested second first longer
    exact ⟨same.symm, left.symm⟩

end Slices

section Operations

variable {σ : Type u} {source : Source σ} {delim : UInt8} {part : Bytes}
  {reader after : Buffered source}

theorem Buffered.sliceFlow_of_readSlice {outcome : Option SliceError}
    (sliced : reader.readSlice delim = (part, outcome, after)) :
    sliceFlow delim reader.unread = (part, outcome, after.unread) := by
  rw [reader.readSlice_eq delim, sliced]

/-- Readers with the same bytes ahead slice alike, whatever they read from. -/
theorem Buffered.readSlice_congr {τ : Type v} {other : Source τ} {twin : Buffered other}
    {outcome : Option SliceError} (same : twin.unread = reader.unread)
    (sliced : reader.readSlice delim = (part, outcome, after)) :
    ∃ left, twin.readSlice delim = (part, outcome, left) ∧ left.unread = after.unread := by
  have slices := Buffered.sliceFlow_of_readSlice sliced
  rw [← same, twin.readSlice_eq delim] at slices
  obtain ⟨rfl, rfl, left⟩ := by simpa only [Prod.mk.injEq] using slices
  exact ⟨_, rfl, left⟩

end Operations

/-- A connection of which every piece to come is known. -/
def Source.pieces : Source (List Bytes) where
  contents conn := Seq.ofList conn.flatten
  read := receive
  ended _ ended := by rw [receive_none ended, Seq.ofList_nil]
  delivers positive received := by
    obtain ⟨delivered, bound, nonempty⟩ := receive_some received
    exact ⟨nonempty positive, bound, by rw [delivered, Seq.ofList_append]; rfl⟩

/-- A connection that never ends and always repeats one byte. -/
def Source.endless (byte : UInt8) : Source Unit where
  contents _ := Seq.ofStream (Stream'.const byte)
  read room _ := some (List.replicate room byte, ())
  ended _ ended := by cases ended
  delivers {room _ _ _} positive received := by
    cases received
    refine ⟨by simp [Nat.ne_of_gt positive], by simp, ?_⟩
    clear positive
    induction room with
    | zero => simp
    | succ room ih =>
      rw [List.replicate_succ, prepend_cons, ← ih, ← Seq.ofStream_cons]
      exact congrArg Seq.ofStream (Stream'.const_eq byte)

/-- A reader over pieces is a reader over the connection that delivers them. -/
def Reader.toBuffered (reader : Reader) : Buffered Source.pieces :=
  ⟨reader.buf, reader.conn, reader.fits⟩

theorem Reader.receive_of_fill_none {reader : Reader} (ended : reader.fill = none) :
    receive (bufSize - reader.buf.length) reader.conn = none := by
  unfold Reader.fill at ended
  split at ended
  · assumption
  · cases ended

theorem Reader.receive_of_fill_some {reader next : Reader} (filled : reader.fill = some next) :
    ∃ got left, receive (bufSize - reader.buf.length) reader.conn = some (got, left) ∧
      next.buf = reader.buf ++ got ∧ next.conn = left := by
  unfold Reader.fill at filled
  split at filled
  · cases filled
  · rename_i got left received
    cases filled
    exact ⟨got, left, received, rfl, rfl⟩

theorem Reader.readSlice_toBuffered (delim : UInt8) (reader : Reader) :
    reader.toBuffered.readSlice delim =
      ((reader.readSlice delim).1, (reader.readSlice delim).2.1,
        (reader.readSlice delim).2.2.toBuffered) := by
  fun_induction Reader.readSlice delim reader with
  | case1 reader line rest found =>
    rw [Buffered.readSlice]
    split
    · rename_i same
      cases found.symm.trans same
      rfl
    · rename_i missing
      cases found.symm.trans missing
  | case2 reader missing full =>
    rw [Buffered.readSlice_of_missing missing]
    exact dif_pos full
  | case3 reader missing free ended =>
    have nothing := Reader.receive_of_fill_none ended
    rw [Buffered.readSlice_of_missing missing]
    refine (dif_neg free).trans ?_
    split
    · rfl
    · rename_i received
      cases nothing.symm.trans received
  | case4 reader missing free next filled ih =>
    obtain ⟨got, left, delivered, buf, conn⟩ := Reader.receive_of_fill_some filled
    rw [Buffered.readSlice_of_missing missing]
    refine (dif_neg free).trans ?_
    split
    · rename_i received
      cases delivered.symm.trans received
    · rename_i received
      cases delivered.symm.trans received
      rw [← ih]
      congr 1
      simp only [Reader.toBuffered, buf, conn]

/-- A slice of a reader over pieces, seen from the connection. -/
theorem Reader.toBuffered_sliced {delim : UInt8} {reader after : Reader} {part : Bytes}
    {outcome : Option SliceError} (sliced : reader.readSlice delim = (part, outcome, after)) :
    reader.toBuffered.readSlice delim = (part, outcome, after.toBuffered) := by
  rw [reader.readSlice_toBuffered delim, sliced]

end SentinelProxy.Stream
