import SentinelProxy.Resp.Line
import SentinelProxy.Text.Upper

/-! Client commands: the reader of the proxy and the grammar it accepts. -/

namespace SentinelProxy.Resp

open SentinelProxy.Stream SentinelProxy.Text

/-- A command as the reader returns it: its uppercased name and the raw bytes to
forward. An empty name stands for an empty array. -/
structure Command where
  name : Bytes
  raw : Bytes
  deriving DecidableEq, Repr

def ofReadError : ReadError → Error
  | .eof => .eof
  | .unexpectedEOF => .unexpectedEOF

/-- One turn of the argument loop: the raw bytes read, and the payload without its
two terminating bytes, which are never looked at. -/
def readArgument (reader : Reader) : Except Error (Bytes × Bytes) × Reader :=
  match readLine reader with
  | (.error error, after) => (.error error, after)
  | (.ok line, after) =>
    if line.headD 0 ≠ 36 then (.error (.expectedBulkString (line.headD 0)), after)
    else
      match parseRESPInt (lineText line) with
      | .error error => (.error error, after)
      | .ok length =>
        if length < 0 ∨ maxBulkLen < length then (.error (.invalidBulkLength length), after)
        else
          match after.readFull (length + 2).toNat with
          | (.error error, final) => (.error (ofReadError error), final)
          | (.ok payload, final) => (.ok (line ++ payload, payload.take length.toNat), final)

/-- The argument loop from index `index` on, with `left` turns to go. -/
def readArguments : (left index : Nat) → Command → Reader → Except Error Command × Reader
  | 0, _, command, reader => (.ok command, reader)
  | left + 1, index, command, reader =>
    match readArgument reader with
    | (.error error, after) => (.error error, after)
    | (.ok (raw, payload), after) =>
      readArguments left (index + 1)
        ⟨if index = 0 then toUpper payload else command.name, command.raw ++ raw⟩ after

/-- Reads one client command, a RESP array of bulk strings. -/
def readCommand (reader : Reader) : Except Error Command × Reader :=
  match reader.peek with
  | (none, peeked) => (.error .eof, peeked)
  | (some first, peeked) =>
    if first ≠ 42 then (.error .inlineCommand, peeked)
    else
      match readLine peeked with
      | (.error error, after) => (.error error, after)
      | (.ok line, after) =>
        match parseRESPInt (lineText line) with
        | .error error => (.error error, after)
        | .ok count =>
          if maxRESPElements < count then (.error (.tooManyArguments count), after)
          else readArguments count.toNat 0 ⟨[], line⟩ after

/-- An argument of the grammar: its length as written, the payload, and any two
bytes behind it. -/
structure Argument where
  length : Bytes
  payload : Bytes
  terminator : UInt8 × UInt8
  parsed : parseInt length = some (payload.length : Int)
  bounded : (payload.length : Int) ≤ maxBulkLen
  fits : (header 36 length).length ≤ maxLineLen + bufSize

def Argument.bytes (argument : Argument) : Bytes :=
  header 36 argument.length ++ (argument.payload ++ [argument.terminator.1, argument.terminator.2])

theorem Argument.lineFits (argument : Argument) : LineFits 36 argument.length := by
  refine ⟨?_, argument.fits⟩
  simpa using parseInt_no_lineFeed argument.parsed

/-- A command of the grammar: `*`, a count within the limit, and as many arguments
as a positive count says. -/
structure CommandText where
  countText : Bytes
  count : Int
  arguments : List Argument
  parsed : parseInt countText = some count
  bounded : count ≤ maxRESPElements
  fits : (header 42 countText).length ≤ maxLineLen + bufSize
  complete : arguments.length = count.toNat

def CommandText.bytes (text : CommandText) : Bytes :=
  header 42 text.countText ++ text.arguments.flatMap Argument.bytes

/-- The uppercased first argument, empty when there is none. -/
def CommandText.name (text : CommandText) : Bytes :=
  match text.arguments with
  | [] => []
  | argument :: _ => toUpper argument.payload

theorem CommandText.lineFits (text : CommandText) : LineFits 42 text.countText := by
  refine ⟨?_, text.fits⟩
  simpa using parseInt_no_lineFeed text.parsed

private theorem terminated {bytes : Bytes} (size : bytes.length = count + 2) :
    ∃ first second, bytes = bytes.take count ++ [first, second] := by
  have tail : (bytes.drop count).length = 2 := by
    rw [List.length_drop]
    omega
  obtain ⟨first, second, same⟩ := List.length_eq_two.mp tail
  refine ⟨first, second, ?_⟩
  rw [← same, List.take_append_drop]

/-- A length line and a body of that length with its two terminating bytes. -/
theorem argument_of_body {text body : Bytes} {length : Int} (parsed : parseInt text = some length)
    (inside : 0 ≤ length ∧ length ≤ maxBulkLen)
    (fits : (header 36 text).length ≤ maxLineLen + bufSize)
    (size : body.length = length.toNat + 2) :
    ∃ argument : Argument, argument.bytes = header 36 text ++ body ∧
      argument.payload = body.take length.toNat := by
  obtain ⟨first, second, shape⟩ := terminated size
  have payloadSize : ((body.take length.toNat).length : Int) = length := by
    rw [List.length_take, size]
    omega
  refine ⟨⟨text, body.take length.toNat, (first, second), ?_, ?_, fits⟩, ?_, rfl⟩
  · rw [payloadSize]
    exact parsed
  · rw [payloadSize]
    exact inside.2
  · simp only [Argument.bytes]
    rw [← shape]

private theorem readArgument_sound {reader after : Reader}
    (success : readArgument reader = (.ok (raw, payload), after)) :
    ∃ argument : Argument, raw = argument.bytes ∧ payload = argument.payload ∧
      reader.unread = raw ++ after.unread := by
  unfold readArgument at success
  split at success
  · simp at success
  · rename_i line middle accepted
    obtain ⟨kind, text, rfl, fits, consumed⟩ := readLine_sound accepted
    rw [lineText_header] at success
    split at success
    · simp at success
    · rename_i dollar
      have kindIs : kind = 36 := by simpa [header] using dollar
      subst kindIs
      split at success
      · simp at success
      · rename_i length parsed
        have parsedInt := parseRESPInt_ok.mp parsed
        split at success
        · simp at success
        · rename_i inside
          simp only [not_or, Int.not_lt] at inside
          by_cases enough : (length + 2).toNat ≤ middle.unread.length
          · obtain ⟨final, full, remainder⟩ := middle.readFull_ok _ enough
            rw [full] at success
            simp only [Prod.mk.injEq, Except.ok.injEq] at success
            obtain ⟨⟨rfl, rfl⟩, rfl⟩ := success
            have width : (length + 2).toNat = length.toNat + 2 := by omega
            rw [width] at enough remainder ⊢
            have size : (middle.unread.take (length.toNat + 2)).length = length.toNat + 2 := by
              rw [List.length_take, Nat.min_eq_left enough]
            obtain ⟨argument, bytes, payload⟩ := argument_of_body parsedInt inside fits.2 size
            refine ⟨argument, bytes.symm, payload.symm, ?_⟩
            rw [consumed, remainder, List.append_assoc, List.take_append_drop]
          · obtain ⟨error, final, failed⟩ := middle.readFull_error _ (Nat.lt_of_not_le enough)
            rw [failed] at success
            simp at success

private theorem readArgument_complete {reader : Reader} (argument : Argument) {rest : Bytes}
    (bytes : reader.unread = argument.bytes ++ rest) :
    ∃ after, readArgument reader = (.ok (argument.bytes, argument.payload), after) ∧
      after.unread = rest := by
  rw [Argument.bytes, List.append_assoc] at bytes
  obtain ⟨middle, accepted, remainder⟩ := readLine_complete argument.lineFits bytes
  have parsed := parseRESPInt_ok.mpr argument.parsed
  have size : ((argument.payload.length : Int) + 2).toNat =
      (argument.payload ++ [argument.terminator.1, argument.terminator.2]).length := by
    simp only [List.length_append, List.length_cons, List.length_nil]
    omega
  have enough : ((argument.payload.length : Int) + 2).toNat ≤ middle.unread.length := by
    rw [size, remainder]
    simp only [List.length_append]
    omega
  obtain ⟨after, full, left⟩ := middle.readFull_ok _ enough
  rw [remainder, size, List.take_left] at full
  rw [remainder, size, List.drop_left] at left
  refine ⟨after, ?_, left⟩
  have inside : ¬ ((argument.payload.length : Int) < 0 ∨
      maxBulkLen < (argument.payload.length : Int)) := by
    have bounded := argument.bounded
    omega
  unfold readArgument
  rw [accepted]
  simp only [lineText_header, parsed, if_neg inside, size, full]
  simp [header, Argument.bytes]

/-- The name a list of arguments gives to a command that had one already. -/
def nameOf (given : Bytes) : List Argument → Bytes
  | [] => given
  | argument :: _ => toUpper argument.payload

private theorem readArguments_sound {left index : Nat} {command result : Command}
    {reader after : Reader}
    (success : readArguments left index command reader = (.ok result, after)) :
    ∃ arguments : List Argument, arguments.length = left ∧
      result.raw = command.raw ++ arguments.flatMap Argument.bytes ∧
      result.name = (if index = 0 then nameOf command.name arguments else command.name) ∧
      reader.unread = arguments.flatMap Argument.bytes ++ after.unread := by
  induction left generalizing index command reader with
  | zero =>
    simp only [readArguments, Prod.mk.injEq, Except.ok.injEq] at success
    obtain ⟨rfl, rfl⟩ := success
    exact ⟨[], rfl, by simp, by simp [nameOf], by simp⟩
  | succ left ih =>
    unfold readArguments at success
    split at success
    · simp at success
    · rename_i raw payload middle accepted
      obtain ⟨argument, rfl, rfl, consumed⟩ := readArgument_sound accepted
      obtain ⟨arguments, length, rawIs, nameIs, rest⟩ := ih success
      refine ⟨argument :: arguments, by simp [length], ?_, ?_, ?_⟩
      · simpa using rawIs
      · by_cases first : index = 0
        · simpa [first, nameOf] using nameIs
        · simpa [first] using nameIs
      · rw [consumed, rest, List.flatMap_cons, List.append_assoc]

private theorem readArguments_complete (arguments : List Argument) (index : Nat) (command : Command)
    {reader : Reader} {rest : Bytes}
    (bytes : reader.unread = arguments.flatMap Argument.bytes ++ rest) :
    ∃ after, readArguments arguments.length index command reader =
        (.ok ⟨if index = 0 then nameOf command.name arguments else command.name,
          command.raw ++ arguments.flatMap Argument.bytes⟩, after) ∧
      after.unread = rest := by
  induction arguments generalizing index command reader with
  | nil => exact ⟨reader, by simp [readArguments, nameOf], by simpa using bytes⟩
  | cons argument arguments ih =>
    rw [List.flatMap_cons, List.append_assoc] at bytes
    obtain ⟨middle, accepted, remainder⟩ := readArgument_complete argument bytes
    obtain ⟨after, success, left⟩ := ih (index + 1)
      ⟨if index = 0 then toUpper argument.payload else command.name,
        command.raw ++ argument.bytes⟩ remainder
    refine ⟨after, ?_, left⟩
    simp only [List.length_cons, readArguments, accepted, success, Nat.add_eq_zero_iff,
      Nat.one_ne_zero, and_false, ↓reduceIte, List.flatMap_cons, List.append_assoc, nameOf]

theorem CommandText.name_eq (text : CommandText) : text.name = nameOf [] text.arguments := by
  unfold CommandText.name
  split
  · rename_i none
    rw [none]
    rfl
  · rename_i argument rest some
    rw [some]
    rfl

/-- What the reader accepts is a command of the grammar, with nothing lost. -/
theorem readCommand_sound {reader after : Reader} {command : Command}
    (success : readCommand reader = (.ok command, after)) :
    ∃ text : CommandText, command.raw = text.bytes ∧ command.name = text.name ∧
      reader.unread = command.raw ++ after.unread := by
  obtain ⟨first, same⟩ := reader.peek_eq
  unfold readCommand at success
  split at success
  · simp at success
  · rename_i byte peeked look
    rw [look] at first same
    split at success
    · simp at success
    · rename_i star
      simp only [ne_eq, not_not] at star
      subst star
      split at success
      · simp at success
      · rename_i line middle accepted
        obtain ⟨kind, text, rfl, fits, consumed⟩ := readLine_sound accepted
        rw [same] at consumed
        have kindIs : kind = 42 := by
          rw [consumed] at first
          simpa [header] using first.symm
        subst kindIs
        rw [lineText_header] at success
        split at success
        · simp at success
        · rename_i count parsed
          split at success
          · simp at success
          · rename_i inside
            obtain ⟨arguments, length, rawIs, nameIs, rest⟩ := readArguments_sound success
            refine ⟨⟨text, count, arguments, parseRESPInt_ok.mp parsed, by omega, fits.2, length⟩,
              rawIs, ?_, ?_⟩
            · rw [CommandText.name_eq]
              simpa using nameIs
            · rw [consumed, rest, rawIs, List.append_assoc]

theorem readCommand_complete {reader : Reader} (text : CommandText) {rest : Bytes}
    (bytes : reader.unread = text.bytes ++ rest) :
    ∃ after, readCommand reader = (.ok ⟨text.name, text.bytes⟩, after) ∧ after.unread = rest := by
  rw [CommandText.bytes, List.append_assoc] at bytes
  obtain ⟨first, same⟩ := reader.peek_eq
  obtain ⟨middle, accepted, remainder⟩ := readLine_complete text.lineFits (same.trans bytes)
  obtain ⟨after, success, left⟩ := readArguments_complete text.arguments 0
    ⟨[], header 42 text.countText⟩ remainder
  refine ⟨after, ?_, left⟩
  have parsed := parseRESPInt_ok.mpr text.parsed
  have inside : ¬ maxRESPElements < text.count := by
    have bounded := text.bounded
    omega
  have star : reader.peek.1 = some 42 := by
    rw [first, bytes]
    simp [header]
  unfold readCommand
  split
  · rename_i look
    rw [look] at star
    cases star
  · rename_i byte peeked look
    rw [look] at star accepted
    cases Option.some.inj star
    rw [text.complete] at success
    simp only [accepted, lineText_header, parsed, if_neg inside, success, ne_eq, not_true_eq_false,
      ↓reduceIte, CommandText.name_eq, CommandText.bytes]

theorem CommandText.bytes_ne_nil (text : CommandText) : text.bytes ≠ [] := by
  simp [CommandText.bytes, header]

/-- Two commands of the grammar at the front of the same bytes are the same. -/
theorem CommandText.unique {bytes rest₁ rest₂ : Bytes} (first second : CommandText)
    (one : bytes = first.bytes ++ rest₁) (two : bytes = second.bytes ++ rest₂) :
    first.bytes = second.bytes ∧ first.name = second.name := by
  have stream : (newReader [bytes]).unread = bytes := by simp [newReader_unread]
  obtain ⟨_, read₁, _⟩ := readCommand_complete first (stream.trans one)
  obtain ⟨_, read₂, _⟩ := readCommand_complete second (stream.trans two)
  rw [read₁] at read₂
  simp only [Prod.mk.injEq, Except.ok.injEq, Command.mk.injEq] at read₂
  exact ⟨read₂.1.2, read₂.1.1⟩

theorem readCommand_consumes {reader after : Reader} {command : Command}
    (success : readCommand reader = (.ok command, after)) :
    after.unread.length < reader.unread.length := by
  obtain ⟨text, rawIs, _, consumed⟩ := readCommand_sound success
  have present := List.length_pos_of_ne_nil text.bytes_ne_nil
  rw [consumed, rawIs, List.length_append]
  omega

private theorem readLine_not_inline {reader after : Reader} {error : Error}
    (failed : readLine reader = (.error error, after)) : error ≠ .inlineCommand := by
  rintro rfl
  rw [readLine] at failed
  generalize [] = line at failed
  fun_induction readLineFrom line reader with
  | case1 line reader part after progress malformed => simp at failed
  | case2 line reader part after progress formed => simp at failed
  | case3 line reader part after progress => simp at failed
  | case4 line reader part after progress long => simp at failed
  | case5 line reader part after progress short ih => exact ih failed

private theorem parseRESPInt_not_inline {text : Bytes} {error : Error}
    (failed : parseRESPInt text = .error error) : error ≠ .inlineCommand := by
  rintro rfl
  unfold parseRESPInt at failed
  split at failed <;> simp at failed

private theorem readArgument_not_inline {reader after : Reader} {error : Error}
    (failed : readArgument reader = (.error error, after)) : error ≠ .inlineCommand := by
  unfold readArgument at failed
  split at failed
  · rename_i stopped
    cases failed
    exact readLine_not_inline stopped
  · split at failed
    · cases failed
      simp
    · split at failed
      · rename_i stopped
        cases failed
        exact parseRESPInt_not_inline stopped
      · split at failed
        · cases failed
          simp
        · split at failed
          · rename_i reason _ _
            cases failed
            cases reason <;> simp [ofReadError]
          · cases failed

private theorem readArguments_not_inline {left index : Nat} {command : Command}
    {reader after : Reader}
    {error : Error} (failed : readArguments left index command reader = (.error error, after)) :
    error ≠ .inlineCommand := by
  induction left generalizing index command reader with
  | zero => simp [readArguments] at failed
  | succ left ih =>
    unfold readArguments at failed
    split at failed
    · rename_i stopped
      cases failed
      exact readArgument_not_inline stopped
    · exact ih failed

/-- Only the first byte decides on an inline command, and it stays in the stream. -/
theorem readCommand_inline {reader after : Reader}
    (inline : readCommand reader = (.error .inlineCommand, after)) :
    after.unread = reader.unread ∧ ∃ byte, reader.unread.head? = some byte ∧ byte ≠ 42 := by
  obtain ⟨first, same⟩ := reader.peek_eq
  unfold readCommand at inline
  split at inline
  · simp at inline
  · rename_i byte peeked look
    rw [look] at first same
    split at inline
    · rename_i other
      obtain ⟨_, rfl⟩ := Prod.mk.inj inline
      exact ⟨same, byte, first.symm, other⟩
    · split at inline
      · rename_i stopped
        cases inline
        exact absurd rfl (readLine_not_inline stopped)
      · split at inline
        · rename_i stopped
          cases inline
          exact absurd rfl (parseRESPInt_not_inline stopped)
        · split at inline
          · simp at inline
          · exact absurd rfl (readArguments_not_inline inline)

theorem readCommand_other {reader : Reader} (first : reader.unread.head? = some byte)
    (other : byte ≠ 42) : ∃ after, readCommand reader = (.error .inlineCommand, after) := by
  obtain ⟨look, _⟩ := reader.peek_eq
  rw [first] at look
  unfold readCommand
  split
  · rename_i none
    rw [none] at look
    cases look
  · rename_i found peeked some
    rw [some] at look
    cases Option.some.inj look
    exact ⟨peeked, if_pos other⟩

/-- Read commands one after another, up to one that is to be the last or to the
first error. -/
def readCommands (last : Command → Bool) (reader : Reader) :
    List Command × Option Error × Reader :=
  match progress : readCommand reader with
  | (.error error, after) => ([], some error, after)
  | (.ok command, after) =>
    if last command then ([command], none, after)
    else
      let (commands, error, final) := readCommands last after
      (command :: commands, error, final)
termination_by reader.unread.length
decreasing_by exact readCommand_consumes progress

theorem readCommands_error {last : Command → Bool} {reader after : Reader} {error : Error}
    (failed : readCommand reader = (.error error, after)) :
    readCommands last reader = ([], some error, after) := by
  rw [readCommands]
  split
  · rename_i same
    cases failed.symm.trans same
    rfl
  · rename_i same
    cases failed.symm.trans same

theorem readCommands_ok {last : Command → Bool} {reader after : Reader} {command : Command}
    (success : readCommand reader = (.ok command, after)) :
    readCommands last reader =
      if last command then ([command], none, after)
      else (command :: (readCommands last after).1, (readCommands last after).2) := by
  rw [readCommands]
  split
  · rename_i same
    cases success.symm.trans same
  · rename_i same
    cases success.symm.trans same
    rfl

private theorem readCommand_stuck {reader after : Reader} {error : Error}
    (failed : readCommand reader = (.error error, after)) (text : CommandText) :
    ¬ text.bytes <+: reader.unread := by
  rintro ⟨rest, whole⟩
  obtain ⟨_, success, _⟩ := readCommand_complete text whole.symm
  cases failed.symm.trans success

/-- Where the reading of commands stops: behind the first last command, at a byte
that starts no command, or at a malformed or truncated one. -/
inductive Stop (last : Command → Bool) : List Command → Option Error → Bytes → Prop where
  | last (ordinary : ∀ command ∈ front, last command = false) (final : last command = true) :
      Stop last (front ++ [command]) none tail
  | inline (ordinary : ∀ command ∈ commands, last command = false)
      (first : tail.head? = some byte) (other : byte ≠ 42) :
      Stop last commands (some .inlineCommand) tail
  | malformed (ordinary : ∀ command ∈ commands, last command = false)
      (different : error ≠ .inlineCommand) (stuck : ∀ text : CommandText, ¬ text.bytes <+: tail) :
      Stop last commands (some error) tail

theorem Stop.cons {last : Command → Bool} {command : Command} {outcome : Option Error}
    (ordinary : last command = false) (halt : Stop last commands outcome tail) :
    Stop last (command :: commands) outcome tail := by
  have extended : ∀ {list : List Command}, (∀ other ∈ list, last other = false) →
      ∀ other ∈ command :: list, last other = false := by
    intro list others other member
    rcases List.mem_cons.mp member with rfl | inside
    · exact ordinary
    · exact others other inside
  cases halt with
  | last front final => exact .last (extended front) final
  | inline others first other => exact .inline (extended others) first other
  | malformed others different stuck => exact .malformed (extended others) different stuck

/-- The commands read are commands of the grammar, one behind the other, and
nothing was lost between them or before the rest of the stream. -/
theorem readCommands_sound (last : Command → Bool) (reader : Reader) :
    ∃ tail, reader.unread = (readCommands last reader).1.flatMap Command.raw ++ tail ∧
      (∀ command ∈ (readCommands last reader).1, ∃ text : CommandText,
        command.raw = text.bytes ∧ command.name = text.name) ∧
      Stop last (readCommands last reader).1 (readCommands last reader).2.1 tail := by
  induction size : reader.unread.length using Nat.strongRecOn generalizing reader with
  | _ size ih =>
    cases outcome : readCommand reader with
    | mk result after =>
      cases result with
      | error error =>
        rw [readCommands_error outcome]
        refine ⟨reader.unread, rfl, by simp, ?_⟩
        by_cases inline : error = .inlineCommand
        · subst inline
          obtain ⟨_, byte, first, other⟩ := readCommand_inline outcome
          exact .inline (by simp) first other
        · exact .malformed (by simp) inline (readCommand_stuck outcome)
      | ok command =>
        obtain ⟨text, rawIs, nameIs, consumed⟩ := readCommand_sound outcome
        rw [readCommands_ok outcome]
        by_cases final : last command = true
        · rw [if_pos final]
          have nothing : ∀ other ∈ ([] : List Command), last other = false := by simp
          refine ⟨after.unread, by simpa using consumed, ?_, .last nothing final⟩
          intro other member
          rw [List.mem_singleton.mp member]
          exact ⟨text, rawIs, nameIs⟩
        · rw [if_neg final]
          obtain ⟨tail, stream, grammar, halt⟩ :=
            ih _ (by rw [← size]; exact readCommand_consumes outcome) after rfl
          refine ⟨tail, ?_, ?_, halt.cons (Bool.eq_false_iff.mpr final)⟩
          · rw [consumed, stream, List.flatMap_cons, List.append_assoc]
          · intro other member
            rcases List.mem_cons.mp member with rfl | inside
            · exact ⟨text, rawIs, nameIs⟩
            · exact grammar other inside

/-- The usual encoding of a list of arguments. -/
def encodeCommand (args : List Bytes) : Bytes :=
  header 42 (decimal args.length) ++
    args.flatMap fun arg => header 36 (decimal arg.length) ++ (arg ++ [13, 10])

/-- An argument list within the protocol limits. -/
structure WithinLimits (args : List Bytes) : Prop where
  nonempty : args ≠ []
  count : (args.length : Int) ≤ maxRESPElements
  lengths : ∀ arg ∈ args, (arg.length : Int) ≤ maxBulkLen

/-- An encoded argument list is a command of the grammar. -/
theorem encodeCommand_text {args : List Bytes} (limits : WithinLimits args) :
    ∃ text : CommandText, text.bytes = encodeCommand args ∧
      text.name = toUpper (args.headD []) := by
  obtain ⟨nonempty, count, lengths⟩ := limits
  have arguments : ∃ list : List Argument, list.length = args.length ∧
      list.map Argument.payload = args ∧
      list.flatMap Argument.bytes =
        args.flatMap fun arg => header 36 (decimal arg.length) ++ (arg ++ [13, 10]) := by
    clear nonempty count
    induction args with
    | nil => exact ⟨[], rfl, rfl, rfl⟩
    | cons arg args ih =>
      obtain ⟨list, length, payloads, bytes⟩ :=
        ih (fun other member => lengths other (by simp [member]))
      have small := lengths arg (by simp)
      obtain ⟨parsed, _, fits⟩ := decimal_line small 36 (by decide)
      refine ⟨⟨decimal arg.length, arg, (13, 10), parsed, small, fits⟩ :: list, ?_, ?_, ?_⟩
      · simp [length]
      · simp [payloads]
      · simp [Argument.bytes, bytes]
  obtain ⟨list, length, payloads, bytes⟩ := arguments
  obtain ⟨parsed, _, fits⟩ := decimal_line (count_le_bulk count) 42 (by decide)
  refine ⟨⟨decimal args.length, args.length, list, parsed, count, fits, by simp [length]⟩, ?_, ?_⟩
  · simp only [CommandText.bytes, encodeCommand, bytes]
  · rw [CommandText.name_eq]
    cases list with
    | nil => exact absurd payloads.symm nonempty
    | cons argument list =>
      have first : args.headD [] = argument.payload := by
        rw [← payloads]
        rfl
      rw [first]
      rfl

theorem readCommand_empty {reader : Reader} (empty : reader.unread = []) :
    ∃ after, readCommand reader = (.error .eof, after) := by
  obtain ⟨first, same⟩ := reader.peek_eq
  rw [empty, List.head?_nil] at first
  unfold readCommand
  split
  · exact ⟨_, rfl⟩
  · rename_i byte peeked look
    rw [look] at first
    cases first

/-- Pipelined commands are split back into exactly themselves. -/
theorem readCommands_encode (pipeline : List (List Bytes))
    (limits : ∀ args ∈ pipeline, WithinLimits args) (reader : Reader)
    (bytes : reader.unread = pipeline.flatMap encodeCommand) :
    ∃ after, readCommands (fun _ => false) reader =
      (pipeline.map fun args => ⟨toUpper (args.headD []), encodeCommand args⟩,
        some .eof, after) := by
  induction pipeline generalizing reader with
  | nil =>
    obtain ⟨after, ended⟩ := readCommand_empty bytes
    exact ⟨after, readCommands_error ended⟩
  | cons args pipeline ih =>
    obtain ⟨text, rawIs, nameIs⟩ := encodeCommand_text (limits args (by simp))
    rw [List.flatMap_cons, ← rawIs] at bytes
    obtain ⟨middle, accepted, remainder⟩ := readCommand_complete text bytes
    obtain ⟨after, rest⟩ :=
      ih (fun other member => limits other (by simp [member])) middle remainder
    refine ⟨after, ?_⟩
    rw [readCommands_ok accepted]
    simp [rest, rawIs, nameIs]

/-- The reader accepts exactly the grammar and loses nothing: it succeeds with a
name and raw bytes if and only if these are a command at the front of the stream,
which is then unique. Encoded argument lists are read back whatever their payloads
hold and whatever follows, and a pipeline of them is split into exactly its
commands. -/
theorem readCommand_exact :
    (∀ (reader : Reader) (name raw rest : Bytes),
      (∃ after, readCommand reader = (.ok ⟨name, raw⟩, after) ∧ after.unread = rest) ↔
        ∃ text : CommandText, raw = text.bytes ∧ name = text.name ∧
          reader.unread = raw ++ rest) ∧
    (∀ (bytes rest₁ rest₂ : Bytes) (first second : CommandText),
      bytes = first.bytes ++ rest₁ → bytes = second.bytes ++ rest₂ →
        first.bytes = second.bytes) ∧
    (∀ (args : List Bytes), WithinLimits args → ∀ (reader : Reader) (rest : Bytes),
      reader.unread = encodeCommand args ++ rest →
        ∃ after, readCommand reader =
            (.ok ⟨toUpper (args.headD []), encodeCommand args⟩, after) ∧
          after.unread = rest) ∧
    (∀ (pipeline : List (List Bytes)), (∀ args ∈ pipeline, WithinLimits args) →
      ∀ (reader : Reader), reader.unread = pipeline.flatMap encodeCommand →
        ∃ after, readCommands (fun _ => false) reader =
          (pipeline.map fun args => ⟨toUpper (args.headD []), encodeCommand args⟩,
            some .eof, after)) := by
  refine ⟨?_, ?_, ?_, readCommands_encode⟩
  · intro reader name raw rest
    constructor
    · rintro ⟨after, success, rfl⟩
      exact readCommand_sound success
    · rintro ⟨text, rfl, rfl, bytes⟩
      exact readCommand_complete text bytes
  · intro bytes rest₁ rest₂ first second one two
    exact (CommandText.unique first second one two).1
  · intro args limits reader rest bytes
    obtain ⟨text, rawIs, nameIs⟩ := encodeCommand_text limits
    rw [← rawIs] at bytes
    rw [← rawIs, ← nameIs]
    exact readCommand_complete text bytes

/-- `get k` and `SET k` with a value that looks like a line end, in two pieces. -/
def twoCommands : List (List Bytes) :=
  [[[103, 101, 116], [107]], [[83, 69, 84], [107], [13, 10]]]

theorem readCommand_exact_twoCommands :
    ∃ after, readCommands (fun _ => false)
        (newReader [(twoCommands.flatMap encodeCommand).take 9,
          (twoCommands.flatMap encodeCommand).drop 9]) =
      ([⟨[71, 69, 84], encodeCommand [[103, 101, 116], [107]]⟩,
        ⟨[83, 69, 84], encodeCommand [[83, 69, 84], [107], [13, 10]]⟩], some .eof, after) := by
  have limits : ∀ args ∈ twoCommands, WithinLimits args := by
    intro args member
    rcases List.mem_pair.mp member with rfl | rfl
    · exact ⟨by simp, by decide, by decide⟩
    · exact ⟨by simp, by decide, by decide⟩
  obtain ⟨after, read⟩ := readCommand_exact.2.2.2 twoCommands limits
    (newReader [(twoCommands.flatMap encodeCommand).take 9,
      (twoCommands.flatMap encodeCommand).drop 9]) (by simp [newReader_unread])
  refine ⟨after, read.trans ?_⟩
  congr 1

end SentinelProxy.Resp
