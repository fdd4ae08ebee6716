import SentinelProxy.Stream.Writer
import SentinelProxy.Text.Decimal

/-! Header lines of the RESP protocol: limits, the line reader and the length
parser. -/

namespace SentinelProxy.Resp

open SentinelProxy.Stream SentinelProxy.Text

def maxRESPElements : Int := 1024 * 1024

def maxBulkLen : Int := 512 * 1024 * 1024

def maxLineLen : Nat := 64 * 1024

/-- Everything the protocol readers and copiers report. -/
inductive Error where
  | eof
  | unexpectedEOF
  | write
  | inlineCommand
  | lineTooLong
  | malformedLine (line : Bytes)
  | malformedLength (text : Bytes)
  | tooManyArguments (count : Int)
  | expectedBulkString (kind : UInt8)
  | invalidBulkLength (length : Int)
  | bulkTooLong (length : Int)
  | aggregateTooLong (count : Int)
  | mapTooLong (count : Int)
  | attributeTooLong (count : Int)
  | pushTooLong (count : Int)
  | unexpectedType (kind : UInt8)
  deriving DecidableEq, Repr

/-- Reads one CRLF-terminated line including the terminator, after the part read
so far. The length is looked at only when the buffer ran full. -/
def readLineFrom (line : Bytes) (reader : Reader) : Except Error Bytes × Reader :=
  match progress : reader.readSlice 10 with
  | (part, none, after) =>
    if (line ++ part).length < 3 ∨ (line ++ part)[(line ++ part).length - 2]? ≠ some 13 then
      (.error (.malformedLine (line ++ part)), after)
    else (.ok (line ++ part), after)
  | (_, some .eof, after) => (.error .eof, after)
  | (part, some .bufferFull, after) =>
    if maxLineLen < (line ++ part).length then (.error .lineTooLong, after)
    else readLineFrom (line ++ part) after
termination_by reader.unread.length
decreasing_by
  obtain ⟨consumed, width, _⟩ := Reader.readSlice_full progress
  rw [consumed, List.length_append, width]
  simp [bufSize]

def readLine (reader : Reader) : Except Error Bytes × Reader := readLineFrom [] reader

def parseRESPInt (text : Bytes) : Except Error Int :=
  match parseInt text with
  | some value => .ok value
  | none => .error (.malformedLength text)

theorem parseRESPInt_ok {text : Bytes} {value : Int} :
    parseRESPInt text = .ok value ↔ parseInt text = some value := by
  unfold parseRESPInt
  split
  · rename_i parsed same
    simp [same]
  · rename_i same
    simp [same]

/-- A line by its type byte and its text. -/
def header (kind : UInt8) (text : Bytes) : Bytes := kind :: text ++ [13, 10]

theorem header_length (kind : UInt8) (text : Bytes) :
    (header kind text).length = text.length + 3 := by
  simp [header]

/-- The part of a line between its type byte and its terminator. -/
def lineText (line : Bytes) : Bytes := (line.drop 1).take (line.length - 3)

theorem lineText_header (kind : UInt8) (text : Bytes) : lineText (header kind text) = text := by
  simp [lineText, header]

/-- The lines the reader accepts. The effective limit is the nominal one plus one
buffer, because the length is only checked when the buffer ran full. -/
def LineFits (kind : UInt8) (text : Bytes) : Prop :=
  10 ∉ kind :: text ∧ (header kind text).length ≤ maxLineLen + bufSize

instance (kind : UInt8) (text : Bytes) : Decidable (LineFits kind text) :=
  inferInstanceAs (Decidable (_ ∧ _))

theorem LineFits.no_lineFeed {kind : UInt8} {text : Bytes} (fits : LineFits kind text) :
    10 ∉ kind :: text ++ [13] := by
  intro member
  rcases List.mem_append.mp member with inside | terminator
  · exact fits.1 inside
  · simp at terminator

theorem count_le_bulk {count : Nat} (small : (count : Int) ≤ maxRESPElements) :
    (count : Int) ≤ maxBulkLen := by
  simp only [maxRESPElements, maxBulkLen] at small ⊢
  omega

/-- A length within the limits is written in a line that the reader accepts. -/
theorem decimal_line {value : Nat} (small : (value : Int) ≤ maxBulkLen) (kind : UInt8)
    (noLineFeed : kind ≠ 10) :
    parseInt (decimal value) = some (value : Int) ∧ LineFits kind (decimal value) := by
  have bound : value ≤ 536870912 := by
    simp only [maxBulkLen] at small
    omega
  have parsed := parseInt_decimal value (by omega)
  refine ⟨parsed, ?_, ?_⟩
  · simpa [Ne.symm noLineFeed] using parseInt_no_lineFeed parsed
  · have width := decimal_length value 8 (by omega)
    rw [header_length]
    simp only [maxLineLen, bufSize]
    omega

/-- A line through its first line feed is well formed exactly when it is a header. -/
theorem wellFormed_iff {body : Bytes} (absent : 10 ∉ body) :
    ¬ ((body ++ [10]).length < 3 ∨ (body ++ [10])[(body ++ [10]).length - 2]? ≠ some 13) ↔
      ∃ kind text, body ++ [10] = header kind text ∧ 10 ∉ kind :: text := by
  constructor
  · intro formed
    simp only [not_or, Nat.not_lt, ne_eq, not_not, List.length_append,
      List.length_singleton] at formed
    obtain ⟨long, carriage⟩ := formed
    have nonempty : body ≠ [] := List.ne_nil_of_length_pos (by omega)
    obtain ⟨front, last, rfl⟩ := List.eq_nil_or_concat' body |>.resolve_left nonempty
    have position : (front ++ [last]).length + 1 - 2 = front.length := by simp
    rw [position] at carriage
    simp only [List.append_assoc, List.cons_append, List.nil_append,
      List.getElem?_append_right (Nat.le_refl _), Nat.sub_self, List.getElem?_cons_zero,
      Option.some.injEq] at carriage
    subst carriage
    cases front with
    | nil => simp at long
    | cons kind text =>
      refine ⟨kind, text, by simp [header], ?_⟩
      intro member
      exact absent (List.mem_append_left _ member)
  · rintro ⟨kind, text, shape, _⟩
    rw [shape]
    simp only [not_or, Nat.not_lt, ne_eq, not_not, header_length]
    refine ⟨by omega, ?_⟩
    simp [header]

/-- A partial line of whole buffers, short enough for the loop to go on. -/
structure Partial (line : Bytes) : Prop where
  absent : 10 ∉ line
  whole : line.length % bufSize = 0
  within : line.length ≤ maxLineLen

theorem Partial.nil : Partial [] := ⟨by simp, by simp, by simp⟩

/-- One more full buffer keeps the partial line, unless the limit is passed. -/
theorem Partial.extend {line part : Bytes} (partialLine : Partial line)
    (width : part.length = bufSize) (absent : 10 ∉ part)
    (short : ¬ maxLineLen < (line ++ part).length) : Partial (line ++ part) := by
  refine ⟨by simp [partialLine.absent, absent], ?_, by omega⟩
  have whole := partialLine.whole
  rw [List.length_append, width, Nat.add_mod_right]
  exact whole

/-- Passing the limit happens only after a whole number of buffers beyond it. -/
theorem Partial.overflow {line part : Bytes} (partialLine : Partial line)
    (width : part.length = bufSize) (long : maxLineLen < (line ++ part).length) :
    (line ++ part).length = maxLineLen + bufSize := by
  have whole := partialLine.whole
  have within := partialLine.within
  rw [List.length_append] at long ⊢
  simp only [bufSize, maxLineLen] at *
  omega

theorem readLineFrom_sound {line : Bytes} {reader : Reader} (partialLine : Partial line)
    (success : readLineFrom line reader = (.ok result, after)) :
    ∃ kind text, result = header kind text ∧ LineFits kind text ∧
      line ++ reader.unread = result ++ after.unread := by
  fun_induction readLineFrom line reader with
  | case1 line reader part after progress malformed => simp at success
  | case2 line reader part final progress formed =>
    simp only [Prod.mk.injEq, Except.ok.injEq] at success
    obtain ⟨rfl, rfl⟩ := success
    obtain ⟨found, bound⟩ := Reader.readSlice_found progress
    obtain ⟨body, absent, rfl, consumed⟩ := cut_sound found
    rw [← List.append_assoc] at formed ⊢
    obtain ⟨kind, text, shape, clean⟩ :=
      (wellFormed_iff (by simp [partialLine.absent, absent])).mp formed
    refine ⟨kind, text, shape, ⟨clean, ?_⟩, by rw [consumed]; simp⟩
    have within := partialLine.within
    rw [← shape, List.append_assoc, List.length_append]
    omega
  | case3 line reader part after progress => simp at success
  | case4 line reader part after progress long => simp at success
  | case5 line reader part middle progress short ih =>
    obtain ⟨consumed, width, absent⟩ := Reader.readSlice_full progress
    obtain ⟨kind, text, shape, fits, rest⟩ := ih (partialLine.extend width absent short) success
    exact ⟨kind, text, shape, fits, by rw [consumed, ← List.append_assoc]; exact rest⟩

/-- A byte string is cut at its first line feed in one way only. -/
theorem firstLine_unique {line body front after rest : Bytes} (lineClean : 10 ∉ line)
    (bodyClean : 10 ∉ body) (frontClean : 10 ∉ front)
    (same : front ++ 10 :: rest = line ++ ((body ++ [10]) ++ after)) :
    line ++ (body ++ [10]) = front ++ [10] ∧ after = rest := by
  have one := cut_complete frontClean rest
  have bothClean : 10 ∉ line ++ body := by simp [lineClean, bodyClean]
  have two := cut_complete bothClean after
  rw [same] at one
  simp only [List.append_assoc, List.cons_append, List.nil_append] at one two ⊢
  rw [one] at two
  simp only [Option.some.injEq, Prod.mk.injEq] at two
  exact ⟨two.1.symm, two.2.symm⟩

theorem readLineFrom_complete {line : Bytes} {reader : Reader} (partialLine : Partial line)
    {kind : UInt8} {text rest : Bytes} (fits : LineFits kind text)
    (bytes : line ++ reader.unread = header kind text ++ rest) :
    ∃ after, readLineFrom line reader = (.ok (header kind text), after) ∧
      after.unread = rest := by
  have ended : (kind :: text ++ [13]) ++ 10 :: rest = header kind text ++ rest := by
    simp [header]
  have clean := fits.no_lineFeed
  fun_induction readLineFrom line reader with
  | case1 line reader part after progress malformed =>
    obtain ⟨body, absent, rfl, consumed⟩ := cut_sound (Reader.readSlice_found progress).1
    obtain ⟨same, _⟩ := firstLine_unique partialLine.absent absent clean
      (by rw [ended, ← bytes, consumed])
    have bothClean : 10 ∉ line ++ body := by simp [partialLine.absent, absent]
    have formed := (wellFormed_iff bothClean).mpr
      ⟨kind, text, by simpa [header] using same, fits.1⟩
    rw [List.append_assoc] at formed
    exact absurd malformed formed
  | case2 line reader part final progress formed =>
    obtain ⟨body, absent, rfl, consumed⟩ := cut_sound (Reader.readSlice_found progress).1
    obtain ⟨same, remainder⟩ := firstLine_unique partialLine.absent absent clean
      (by rw [ended, ← bytes, consumed])
    refine ⟨final, ?_, remainder⟩
    rw [same]
    simp [header]
  | case3 line reader part after progress =>
    have missing := cut_eq_none.mp (Reader.readSlice_eof progress)
    have present : 10 ∈ line ++ reader.unread := by simp [bytes, header]
    rcases List.mem_append.mp present with earlier | later
    · exact absurd earlier partialLine.absent
    · exact absurd later missing
  | case4 line reader part after progress long =>
    obtain ⟨consumed, width, absent⟩ := Reader.readSlice_full progress
    have total := partialLine.overflow width long
    have front : line ++ part <+: header kind text ++ rest := by
      rw [← bytes, consumed, ← List.append_assoc]
      exact List.prefix_append _ _
    have inside : header kind text <+: line ++ part :=
      List.prefix_of_prefix_length_le (List.prefix_append _ rest) front
        (by rw [total]; exact fits.2)
    have present : 10 ∈ line ++ part := inside.subset (by simp [header])
    rcases List.mem_append.mp present with earlier | later
    · exact absurd earlier partialLine.absent
    · exact absurd later absent
  | case5 line reader part middle progress short ih =>
    obtain ⟨consumed, width, absent⟩ := Reader.readSlice_full progress
    apply ih (partialLine.extend width absent short)
    rw [List.append_assoc, ← consumed]
    exact bytes

/-- An accepted line is a fitting header, and exactly it was consumed. -/
theorem readLine_sound {reader : Reader} (success : readLine reader = (.ok line, after)) :
    ∃ kind text, line = header kind text ∧ LineFits kind text ∧
      reader.unread = line ++ after.unread :=
  readLineFrom_sound Partial.nil success

/-- Every fitting header is accepted, whatever follows and however it arrives. -/
theorem readLine_complete {reader : Reader} {kind : UInt8} {text rest : Bytes}
    (fits : LineFits kind text) (bytes : reader.unread = header kind text ++ rest) :
    ∃ after, readLine reader = (.ok (header kind text), after) ∧ after.unread = rest :=
  readLineFrom_complete Partial.nil fits bytes

end SentinelProxy.Resp
