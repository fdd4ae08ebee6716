import SentinelProxy.Proxy.Connect
import SentinelProxy.Routing.Session
import SentinelProxy.Transition.Driven

/-! The two pipes of a session at work: each copies one way until its source has ended or
something fails, shuts its sink and reports to the session, which then closes everything. A
write blocks until the peer takes the bytes, which may be never. -/

namespace SentinelProxy.Proxy

open SentinelProxy.Stream SentinelProxy.Transition

/-- The two connections between which a session copies. -/
inductive Side where
  | client
  | backend
  deriving DecidableEq, Repr

def Side.other : Side → Side
  | .client => .backend
  | .backend => .client

@[simp] theorem Side.other_other (side : Side) : side.other.other = side := by
  cases side <;> rfl

@[simp] theorem Side.other_ne (side : Side) : side.other ≠ side := by
  cases side <;> nofun

@[simp] theorem Side.ne_other (side : Side) : side ≠ side.other := by
  cases side <;> nofun

theorem Side.eq_other {one two : Side} (different : one ≠ two) : one = two.other := by
  cases one <;> cases two <;> first | rfl | exact absurd rfl different

def Side.link : Side → Link
  | .client => .client
  | .backend => .backend

/-- A connection: what its peer has sent since the pipes were started, what of that is still
unread and whether the peer has ended; what the peer was sent, how much more it takes for now,
and whether that is all. -/
structure Conn where
  sent : Bytes
  queued : Bytes
  ended : Bool
  out : Bytes
  room : Nat
  shut : Bool
  closed : Bool
  deriving DecidableEq, Repr

/-- Where a pipe stands. -/
inductive PipeStage where
  | reading
  | writing (chunk : Bytes)
  | shutting
  | signalling
  | done
  deriving DecidableEq, Repr

/-- A pipe goes on reading when all of a chunk is written. -/
def PipeStage.rest (chunk : Bytes) : PipeStage :=
  if chunk = [] then .reading else .writing chunk

/-- A bound on the steps a pipe has before it when there is nothing more to read. -/
def PipeStage.left : PipeStage → Nat
  | .reading => 3
  | .writing chunk => 3 + chunk.length
  | .shutting => 2
  | .signalling => 1
  | .done => 0

/-- A pipe, whether its copy has failed, and how many bytes it has read. -/
structure Pipe where
  stage : PipeStage
  failed : Bool
  count : Nat
  deriving DecidableEq, Repr

/-- A session and its pipes, each by the side it reads from. The session waits for their
signals, and then closes the channel of the signals and one connection after the other. -/
structure Piping where
  conn : Side → Conn
  pipe : Side → Pipe
  waiting : Nat
  sigClosed : Bool
  deferred : List Link
  returned : Bool
  panicked : Bool

namespace Piping

/-- What can happen: a peer sends, ends or takes more bytes, a pipe takes a step, or the session
does. A write goes as far as the peer takes it, or fails after some bytes. -/
inductive Action where
  | send (side : Side) (bytes : Bytes)
  | finish (side : Side)
  | take (side : Side) (amount : Nat)
  | read (source : Side) (amount : Nat)
  | eof (source : Side)
  | fail (source : Side)
  | write (source : Side) (amount : Nat)
  | refuse (source : Side) (accepted : Nat)
  | shut (source : Side)
  | signal (source : Side)
  | close
  deriving DecidableEq, Repr

def start (conn : Side → Conn) (deferred : List Link) : Piping where
  conn
  pipe _ := ⟨.reading, false, 0⟩
  waiting := 2
  sigClosed := false
  deferred
  returned := false
  panicked := false

def setConn (piping : Piping) (side : Side) (conn : Conn) : Piping :=
  { piping with conn := Function.update piping.conn side conn }

def setPipe (piping : Piping) (source : Side) (pipe : Pipe) : Piping :=
  { piping with pipe := Function.update piping.pipe source pipe }

def goTo (piping : Piping) (source : Side) (stage : PipeStage) : Piping :=
  piping.setPipe source { piping.pipe source with stage }

def fail (piping : Piping) (source : Side) : Piping :=
  piping.setPipe source { piping.pipe source with stage := .shutting, failed := true }

/-- The deferred calls of the session, once both pipes have reported. -/
def close (piping : Piping) : Option Piping :=
  if piping.waiting ≠ 0 ∨ piping.returned then none
  else if !piping.sigClosed then some { piping with sigClosed := true }
  else
    match piping.deferred with
    | [] => some { piping with returned := true }
    | link :: rest =>
      some { piping with
        deferred := rest
        conn := fun side =>
          if side.link = link then { piping.conn side with closed := true } else piping.conn side }

variable (halfCloses : Side → Bool)

/-- One step, `none` where it cannot be taken. A connection that cannot be half-closed is
closed altogether; a signal on a closed channel would end the program. -/
def step (piping : Piping) : Action → Option Piping
  | .send side bytes =>
    let conn := piping.conn side
    if conn.ended then none
    else
      some (piping.setConn side
        { conn with sent := conn.sent ++ bytes, queued := conn.queued ++ bytes })
  | .finish side => some (piping.setConn side { piping.conn side with ended := true })
  | .take side amount =>
    some (piping.setConn side { piping.conn side with room := (piping.conn side).room + amount })
  | .read source amount =>
    let conn := piping.conn source
    match (piping.pipe source).stage with
    | .reading =>
      if conn.closed ∨ amount = 0 ∨ conn.queued.length < amount then none
      else
        some ((piping.setConn source { conn with queued := conn.queued.drop amount }).setPipe source
          { piping.pipe source with
            stage := .writing (conn.queued.take amount)
            count := (piping.pipe source).count + amount })
    | _ => none
  | .eof source =>
    let conn := piping.conn source
    match (piping.pipe source).stage with
    | .reading =>
      if conn.closed ∨ conn.queued ≠ [] ∨ !conn.ended then none
      else some (piping.goTo source .shutting)
    | _ => none
  | .fail source =>
    match (piping.pipe source).stage with
    | .reading => some (piping.fail source)
    | _ => none
  | .write source amount =>
    let conn := piping.conn source.other
    match (piping.pipe source).stage with
    | .writing chunk =>
      if conn.shut ∨ conn.closed ∨ amount = 0 ∨ conn.room < amount ∨ chunk.length < amount then none
      else
        some ((piping.setConn source.other
          { conn with
            out := conn.out ++ chunk.take amount
            room := conn.room - amount }).goTo source (.rest (chunk.drop amount)))
    | _ => none
  | .refuse source accepted =>
    let conn := piping.conn source.other
    match (piping.pipe source).stage with
    | .writing chunk =>
      if conn.room < accepted ∨ accepted ≠ 0 ∧ (conn.shut ∨ conn.closed) then none
      else
        some ((piping.setConn source.other
          { conn with
            out := conn.out ++ chunk.take accepted
            room := conn.room - accepted }).fail source)
    | _ => none
  | .shut source =>
    let conn := piping.conn source.other
    match (piping.pipe source).stage with
    | .shutting =>
      some ((piping.setConn source.other
        { conn with shut := true, closed := conn.closed || !halfCloses source.other }).goTo source
          .signalling)
    | _ => none
  | .signal source =>
    match (piping.pipe source).stage with
    | .signalling =>
      if piping.sigClosed then some { piping with panicked := true }
      else if piping.waiting = 0 then none
      else some { piping.goTo source .done with waiting := piping.waiting - 1 }
    | _ => none
  | .close => piping.close

def machine (conn : Side → Conn) (deferred : List Link) : Machine Piping Action :=
  ⟨start conn deferred, step halfCloses⟩

/-- The steps, one by one. -/
inductive Stepped (piping : Piping) : Action → Piping → Prop where
  | send {side : Side} {bytes : Bytes} (going : (piping.conn side).ended = false) :
      Stepped piping (.send side bytes) (piping.setConn side
        { piping.conn side with
          sent := (piping.conn side).sent ++ bytes
          queued := (piping.conn side).queued ++ bytes })
  | finish {side : Side} :
      Stepped piping (.finish side) (piping.setConn side { piping.conn side with ended := true })
  | take {side : Side} {amount : Nat} :
      Stepped piping (.take side amount) (piping.setConn side
        { piping.conn side with room := (piping.conn side).room + amount })
  | read {source : Side} {amount : Nat} (reads : (piping.pipe source).stage = .reading)
      (positive : 0 < amount) (present : amount ≤ (piping.conn source).queued.length) :
      Stepped piping (.read source amount)
        ((piping.setConn source
          { piping.conn source with queued := (piping.conn source).queued.drop amount }).setPipe
          source
          { piping.pipe source with
            stage := .writing ((piping.conn source).queued.take amount)
            count := (piping.pipe source).count + amount })
  | eof {source : Side} (reads : (piping.pipe source).stage = .reading)
      (empty : (piping.conn source).queued = []) (ended : (piping.conn source).ended = true) :
      Stepped piping (.eof source) (piping.goTo source .shutting)
  | fail {source : Side} (reads : (piping.pipe source).stage = .reading) :
      Stepped piping (.fail source) (piping.fail source)
  | write {source : Side} {amount : Nat} {chunk : Bytes}
      (writes : (piping.pipe source).stage = .writing chunk) (positive : 0 < amount)
      (present : amount ≤ chunk.length) :
      Stepped piping (.write source amount)
        ((piping.setConn source.other
          { piping.conn source.other with
            out := (piping.conn source.other).out ++ chunk.take amount
            room := (piping.conn source.other).room - amount }).goTo source
          (.rest (chunk.drop amount)))
  | refuse {source : Side} {accepted : Nat} {chunk : Bytes}
      (writes : (piping.pipe source).stage = .writing chunk) :
      Stepped piping (.refuse source accepted)
        ((piping.setConn source.other
          { piping.conn source.other with
            out := (piping.conn source.other).out ++ chunk.take accepted
            room := (piping.conn source.other).room - accepted }).fail source)
  | shut {source : Side} (shuts : (piping.pipe source).stage = .shutting) :
      Stepped piping (.shut source)
        ((piping.setConn source.other
          { piping.conn source.other with
            shut := true
            closed := (piping.conn source.other).closed || !halfCloses source.other }).goTo source
          .signalling)
  | panic {source : Side} (signals : (piping.pipe source).stage = .signalling)
      (closed : piping.sigClosed = true) :
      Stepped piping (.signal source) { piping with panicked := true }
  | signal {source : Side} (signals : (piping.pipe source).stage = .signalling)
      (opened : piping.sigClosed = false) (waits : piping.waiting ≠ 0) :
      Stepped piping (.signal source)
        { piping.goTo source .done with waiting := piping.waiting - 1 }
  | closeChannel (done : piping.waiting = 0) (opened : piping.sigClosed = false) :
      Stepped piping .close { piping with sigClosed := true }
  | closeLink {link : Link} {rest : List Link} (done : piping.waiting = 0)
      (closed : piping.sigClosed = true) (present : piping.deferred = link :: rest) :
      Stepped piping .close
        { piping with
          deferred := rest
          conn := fun side =>
            if side.link = link then { piping.conn side with closed := true }
            else piping.conn side }
  | leave (done : piping.waiting = 0) (closed : piping.sigClosed = true)
      (none : piping.deferred = []) (running : piping.returned = false) :
      Stepped piping .close { piping with returned := true }

variable {halfCloses} {piping next : Piping}

private theorem close_stepped (closed : piping.close = some next) :
    piping.Stepped halfCloses .close next := by
  unfold close at closed
  split at closed
  · cases closed
  · rename_i running
    obtain ⟨done, running⟩ := not_or.mp running
    split at closed
    · rename_i opened
      cases closed
      exact .closeChannel (not_not.mp done) (by simpa using opened)
    · rename_i sealed
      split at closed
      · cases closed
        exact .leave (not_not.mp done) (by simpa using sealed) ‹_› (Bool.eq_false_iff.mpr running)
      · cases closed
        exact .closeLink (not_not.mp done) (by simpa using sealed) ‹_›

theorem step_stepped {action : Action} (stepped : piping.step halfCloses action = some next) :
    piping.Stepped halfCloses action next := by
  cases action with
  | send side bytes =>
    simp only [step] at stepped
    split at stepped <;> cases stepped
    exact .send (Bool.eq_false_iff.mpr ‹_›)
  | finish side =>
    cases stepped
    exact .finish
  | take side amount =>
    cases stepped
    exact .take
  | read source amount =>
    simp only [step] at stepped
    split at stepped
    · rename_i reads
      split at stepped <;> cases stepped
      rename_i able
      simp only [not_or, not_lt] at able
      exact .read reads (Nat.pos_of_ne_zero able.2.1) able.2.2
    · cases stepped
  | eof source =>
    simp only [step] at stepped
    split at stepped
    · rename_i reads
      split at stepped <;> cases stepped
      rename_i able
      simp only [not_or, not_not] at able
      exact .eof reads able.2.1 (by simpa using able.2.2)
    · cases stepped
  | fail source =>
    simp only [step] at stepped
    split at stepped <;> cases stepped
    exact .fail ‹_›
  | write source amount =>
    simp only [step] at stepped
    split at stepped
    · rename_i writes
      split at stepped <;> cases stepped
      rename_i able
      simp only [not_or, not_lt] at able
      exact .write writes (Nat.pos_of_ne_zero able.2.2.1) able.2.2.2.2
    · cases stepped
  | refuse source accepted =>
    simp only [step] at stepped
    split at stepped
    · split at stepped <;> cases stepped
      exact .refuse ‹_›
    · cases stepped
  | shut source =>
    simp only [step] at stepped
    split at stepped <;> cases stepped
    exact .shut ‹_›
  | signal source =>
    simp only [step] at stepped
    split at stepped
    · split at stepped
      · cases stepped
        exact .panic ‹_› ‹_›
      · split at stepped <;> cases stepped
        exact .signal ‹_› (Bool.eq_false_iff.mpr ‹_›) ‹_›
    · cases stepped
  | close => exact close_stepped stepped

section Updates

@[simp] theorem setConn_conn (side : Side) (conn : Conn) :
    (piping.setConn side conn).conn = Function.update piping.conn side conn := rfl

@[simp] theorem setConn_pipe (side : Side) (conn : Conn) :
    (piping.setConn side conn).pipe = piping.pipe := rfl

@[simp] theorem setPipe_conn (source : Side) (pipe : Pipe) :
    (piping.setPipe source pipe).conn = piping.conn := rfl

@[simp] theorem setPipe_pipe (source : Side) (pipe : Pipe) :
    (piping.setPipe source pipe).pipe = Function.update piping.pipe source pipe := rfl

@[simp] theorem goTo_conn (source : Side) (stage : PipeStage) :
    (piping.goTo source stage).conn = piping.conn := rfl

@[simp] theorem goTo_pipe (source : Side) (stage : PipeStage) :
    (piping.goTo source stage).pipe =
      Function.update piping.pipe source { piping.pipe source with stage } := rfl

@[simp] theorem setConn_waiting (side : Side) (conn : Conn) :
    (piping.setConn side conn).waiting = piping.waiting := rfl

@[simp] theorem goTo_waiting (source : Side) (stage : PipeStage) :
    (piping.goTo source stage).waiting = piping.waiting := rfl

@[simp] theorem fail_conn (source : Side) : (piping.fail source).conn = piping.conn := rfl

@[simp] theorem fail_pipe (source : Side) :
    (piping.fail source).pipe = Function.update piping.pipe source
      { piping.pipe source with stage := .shutting, failed := true } := rfl

end Updates

section Flow

def copied (pipe : Pipe) : Prop :=
  match pipe.stage with
  | .reading => False
  | .writing _ => False
  | _ => True

/-- What a pipe has read and not written; a pipe that has failed may have lost some of it. -/
def InFlight (pipe : Pipe) (bytes : Bytes) : Prop :=
  match pipe.stage with
  | .reading => bytes = [] ∧ pipe.failed = false
  | .writing chunk => (bytes = chunk ∧ chunk ≠ []) ∧ pipe.failed = false
  | _ => pipe.failed = false → bytes = []

/-- The invariant of the bytes from a source to its sink, which had been sent `base` before:
none is invented, lost or moved, every one is counted, and a pipe that is over without a
failure has nothing left to copy. -/
structure Flow (base : Side → Bytes) (piping : Piping) (source : Side) : Prop where
  bytes : ∃ flight, InFlight (piping.pipe source) flight ∧
    base source.other ++ (piping.conn source).sent =
      (piping.conn source.other).out ++ flight ++ (piping.conn source).queued
  counted : (piping.pipe source).count + (piping.conn source).queued.length =
    (piping.conn source).sent.length
  finished : copied (piping.pipe source) → (piping.pipe source).failed = false →
    (piping.conn source).ended = true ∧ (piping.conn source).queued = []

variable {base : Side → Bytes} {source : Side}

private theorem not_copied_rest (pipe : Pipe) (chunk : Bytes) :
    ¬copied { pipe with stage := .rest chunk } := by
  unfold PipeStage.rest
  split <;> exact id

theorem inFlight_rest {pipe : Pipe} (fine : pipe.failed = false) (chunk : Bytes) :
    InFlight { pipe with stage := .rest chunk } chunk := by
  unfold PipeStage.rest
  split
  · rename_i empty
    exact ⟨empty, fine⟩
  · rename_i loaded
    exact ⟨⟨rfl, loaded⟩, fine⟩

/-- Only the reading end of the source and the writing end of the sink matter. -/
theorem Flow.congr (flow : Flow base piping source) (pipe : next.pipe source = piping.pipe source)
    (sent : (next.conn source).sent = (piping.conn source).sent)
    (queued : (next.conn source).queued = (piping.conn source).queued)
    (ended : (next.conn source).ended = (piping.conn source).ended)
    (out : (next.conn source.other).out = (piping.conn source.other).out) :
    Flow base next source := by
  obtain ⟨bytes, counted, finished⟩ := flow
  rw [← pipe, ← sent, ← queued, ← out] at bytes
  rw [← pipe, ← sent, ← queued] at counted
  rw [← pipe, ← ended, ← queued] at finished
  exact ⟨bytes, counted, finished⟩

theorem Flow.report (flow : Flow base piping source) {stage : PipeStage}
    (done : copied (piping.pipe source))
    (pipe : next.pipe source = { piping.pipe source with stage })
    (later : stage = .signalling ∨ stage = .done)
    (sent : (next.conn source).sent = (piping.conn source).sent)
    (queued : (next.conn source).queued = (piping.conn source).queued)
    (ended : (next.conn source).ended = (piping.conn source).ended)
    (out : (next.conn source.other).out = (piping.conn source.other).out) :
    Flow base next source := by
  obtain ⟨⟨flight, carried, whole⟩, counted, finished⟩ := flow
  have lossless : (piping.pipe source).failed = false → flight = [] := by
    unfold copied at done
    unfold InFlight at carried
    split at carried
    · simp_all
    · simp_all
    · exact carried
  refine ⟨⟨flight, ?_, ?_⟩, ?_, ?_⟩
  · rw [pipe]
    rcases later with rfl | rfl <;> exact lossless
  · rw [sent, queued, out]
    exact whole
  · rw [pipe, sent, queued]
    exact counted
  · rw [pipe, ended, queued]
    exact fun _ fine => finished done fine

private theorem flow_step {action : Action} (flows : ∀ source, Flow base piping source)
    (stepped : piping.step halfCloses action = some next) (source : Side) :
    Flow base next source := by
  cases step_stepped stepped with
  | @send side bytes going =>
    by_cases same : source = side
    · subst same
      obtain ⟨⟨flight, carried, whole⟩, counted, finished⟩ := flows source
      refine ⟨⟨flight, carried, ?_⟩, ?_, ?_⟩
      · simp [← List.append_assoc, whole]
      · simp
        omega
      · intro done fine
        cases going.symm.trans (finished done fine).1
    · cases Side.eq_other same
      exact (flows _).congr (by simp) (by simp) (by simp) (by simp) (by simp)
  | @finish side =>
    by_cases same : source = side
    · subst same
      obtain ⟨⟨flight, carried, whole⟩, counted, finished⟩ := flows source
      refine ⟨⟨flight, carried, by simpa using whole⟩, by simpa using counted, ?_⟩
      intro done fine
      simpa using (finished done fine).2
    · cases Side.eq_other same
      exact (flows _).congr (by simp) (by simp) (by simp) (by simp) (by simp)
  | @take side amount =>
    refine (flows source).congr rfl ?_ ?_ ?_ ?_ <;> simp only [setConn_conn, Function.update_apply]
      <;> split <;> simp [*]
  | @read side amount reads positive present =>
    by_cases same : source = side
    · subst same
      obtain ⟨⟨flight, carried, whole⟩, counted, -⟩ := flows source
      simp only [InFlight, reads] at carried
      have loaded : amount ≠ 0 ∧ (piping.conn source).queued ≠ [] :=
        ⟨positive.ne', List.ne_nil_of_length_pos (positive.trans_le present)⟩
      refine ⟨⟨(piping.conn source).queued.take amount, ?_, ?_⟩, ?_, ?_⟩
      · simpa [InFlight] using ⟨loaded, carried.2⟩
      · simpa [carried.1] using whole
      · simp
        omega
      · simp [copied]
    · cases Side.eq_other same
      exact (flows _).congr (by simp) (by simp) (by simp) (by simp) (by simp)
  | @eof side reads empty ended =>
    by_cases same : source = side
    · subst same
      obtain ⟨⟨flight, carried, whole⟩, counted, -⟩ := flows source
      simp only [InFlight, reads] at carried
      refine ⟨⟨flight, ?_, by simpa using whole⟩, by simpa using counted, ?_⟩
      · simp [InFlight, carried.1]
      · simp [empty, ended]
    · cases Side.eq_other same
      exact (flows _).congr (by simp) (by simp) (by simp) (by simp) (by simp)
  | @fail side reads =>
    by_cases same : source = side
    · subst same
      obtain ⟨⟨flight, -, whole⟩, counted, -⟩ := flows source
      exact ⟨⟨flight, by simp [InFlight], by simpa using whole⟩, by simpa using counted, by simp⟩
    · cases Side.eq_other same
      exact (flows _).congr (by simp) (by simp) (by simp) (by simp) (by simp)
  | @write side amount chunk writes =>
    by_cases same : source = side
    · subst same
      obtain ⟨⟨flight, carried, whole⟩, counted, -⟩ := flows source
      simp only [InFlight, writes] at carried
      refine ⟨⟨chunk.drop amount, ?_, ?_⟩, by simpa using counted, ?_⟩
      · rw [goTo_pipe, Function.update_self]
        exact inFlight_rest carried.2 _
      · simpa [carried.1.1] using whole
      · rw [goTo_pipe, Function.update_self]
        exact fun done => absurd done (not_copied_rest _ _)
    · cases Side.eq_other same
      exact (flows _).congr (by simp) (by simp) (by simp) (by simp) (by simp)
  | @refuse side accepted chunk writes =>
    by_cases same : source = side
    · subst same
      obtain ⟨⟨flight, carried, whole⟩, counted, -⟩ := flows source
      simp only [InFlight, writes] at carried
      refine ⟨⟨chunk.drop accepted, by simp [InFlight], ?_⟩, by simpa using counted, by simp⟩
      simpa [carried.1.1] using whole
    · cases Side.eq_other same
      exact (flows _).congr (by simp) (by simp) (by simp) (by simp) (by simp)
  | @shut side shuts =>
    by_cases same : source = side
    · subst same
      exact (flows source).report (by simp [copied, shuts]) (by simp) (.inl rfl) (by simp)
        (by simp) (by simp) (by simp)
    · cases Side.eq_other same
      exact (flows _).congr (by simp) (by simp) (by simp) (by simp) (by simp)
  | panic => exact (flows source).congr rfl rfl rfl rfl rfl
  | @signal side signals =>
    by_cases same : source = side
    · subst same
      exact (flows source).report (by simp [copied, signals]) (by simp) (.inr rfl) (by simp)
        (by simp) (by simp) (by simp)
    · cases Side.eq_other same
      exact (flows _).congr (by simp) (by simp) (by simp) (by simp) (by simp)
  | closeChannel => exact (flows source).congr rfl rfl rfl rfl rfl
  | closeLink =>
    refine (flows source).congr rfl ?_ ?_ ?_ ?_ <;> dsimp only <;> split <;> rfl
  | leave => exact (flows source).congr rfl rfl rfl rfl rfl

end Flow

section Order

def active (pipe : Pipe) : Nat :=
  match pipe.stage with
  | .done => 0
  | _ => 1

/-- The invariant of a session with its pipes. -/
structure Orderly (halfCloses : Side → Bool) (links : List Link) (piping : Piping) : Prop where
  waiting : piping.waiting = active (piping.pipe .client) + active (piping.pipe .backend)
  sealed : piping.sigClosed = true → piping.waiting = 0
  shut : ∀ source, (piping.conn source.other).shut = true → copied (piping.pipe source)
  closed : ∀ side, (piping.conn side).closed = true → piping.waiting = 0 ∨ halfCloses side = false
  deferred : ∃ gone, links = gone ++ piping.deferred ∧ (gone ≠ [] → piping.sigClosed = true) ∧
    ∀ side : Side, side.link ∈ gone → (piping.conn side).closed = true
  returned : piping.returned = true → piping.sigClosed = true ∧ piping.deferred = []
  calm : piping.panicked = false

variable {links : List Link}

theorem Orderly.done (orderly : Orderly halfCloses links piping) (none : piping.waiting = 0)
    (source : Side) : (piping.pipe source).stage = .done := by
  have total := orderly.waiting
  have idle : active (piping.pipe source) = 0 := by
    cases source <;> omega
  unfold active at idle
  split at idle
  · assumption
  · cases idle

/-- Steps of a pipe that is still copying, and of the peers. -/
theorem Orderly.copying (orderly : Orderly halfCloses links piping)
    (rest : next.waiting = piping.waiting ∧ next.sigClosed = piping.sigClosed ∧
      next.deferred = piping.deferred ∧ next.returned = piping.returned ∧
      next.panicked = piping.panicked)
    (flags : ∀ side, (next.conn side).shut = (piping.conn side).shut ∧
      (next.conn side).closed = (piping.conn side).closed)
    (stages : ∀ source, active (next.pipe source) = active (piping.pipe source) ∧
      (copied (piping.pipe source) → copied (next.pipe source))) :
    Orderly halfCloses links next := by
  obtain ⟨waiting, sigClosed, deferred, returned, panicked⟩ := rest
  refine ⟨?_, ?_, ?_, ?_, ?_, ?_, ?_⟩
  · rw [waiting, (stages .client).1, (stages .backend).1]
    exact orderly.waiting
  · rw [sigClosed, waiting]
    exact orderly.sealed
  · intro source shut
    rw [(flags source.other).1] at shut
    exact (stages source).2 (orderly.shut source shut)
  · intro side closed
    rw [(flags side).2] at closed
    rw [waiting]
    exact orderly.closed side closed
  · obtain ⟨gone, whole, sealed, closed⟩ := orderly.deferred
    refine ⟨gone, deferred ▸ whole, sigClosed ▸ sealed, ?_⟩
    intro side member
    rw [(flags side).2]
    exact closed side member
  · rw [returned, sigClosed, deferred]
    exact orderly.returned
  · rw [panicked]
    exact orderly.calm

theorem stages_update {changed : Pipe} {source : Side} (copies : ¬copied (piping.pipe source))
    (still : active changed = 1) (side : Side) :
    active (Function.update piping.pipe source changed side) = active (piping.pipe side) ∧
      (copied (piping.pipe side) → copied (Function.update piping.pipe source changed side)) := by
  by_cases same : side = source
  · subst same
    rw [Function.update_self]
    refine ⟨still.trans ?_, fun done => absurd done copies⟩
    unfold active
    unfold copied at copies
    split
    · rename_i done
      simp [done] at copies
    · rfl
  · rw [Function.update_of_ne same]
    exact ⟨rfl, id⟩

private theorem active_rest (pipe : Pipe) (chunk : Bytes) :
    active { pipe with stage := .rest chunk } = 1 := by
  unfold PipeStage.rest
  split <;> rfl

private theorem flags_update {changed : Conn} {side : Side}
    (shut : changed.shut = (piping.conn side).shut)
    (closed : changed.closed = (piping.conn side).closed) (other : Side) :
    (Function.update piping.conn side changed other).shut = (piping.conn other).shut ∧
      (Function.update piping.conn side changed other).closed = (piping.conn other).closed := by
  by_cases same : other = side
  · subst same
    rw [Function.update_self]
    exact ⟨shut, closed⟩
  · rw [Function.update_of_ne same]
    exact ⟨rfl, rfl⟩

theorem Orderly.step {action : Action} (orderly : Orderly halfCloses links piping)
    (stepped : piping.step halfCloses action = some next) : Orderly halfCloses links next := by
  cases step_stepped stepped with
  | send =>
    exact orderly.copying ⟨rfl, rfl, rfl, rfl, rfl⟩ (flags_update rfl rfl) fun _ => ⟨rfl, id⟩
  | finish =>
    exact orderly.copying ⟨rfl, rfl, rfl, rfl, rfl⟩ (flags_update rfl rfl) fun _ => ⟨rfl, id⟩
  | take =>
    exact orderly.copying ⟨rfl, rfl, rfl, rfl, rfl⟩ (flags_update rfl rfl) fun _ => ⟨rfl, id⟩
  | read reads =>
    exact orderly.copying ⟨rfl, rfl, rfl, rfl, rfl⟩ (flags_update rfl rfl)
      (stages_update (by simp [copied, reads]) rfl)
  | eof reads =>
    exact orderly.copying ⟨rfl, rfl, rfl, rfl, rfl⟩ (fun _ => ⟨rfl, rfl⟩)
      (stages_update (by simp [copied, reads]) rfl)
  | fail reads =>
    exact orderly.copying ⟨rfl, rfl, rfl, rfl, rfl⟩ (fun _ => ⟨rfl, rfl⟩)
      (stages_update (by simp [copied, reads]) rfl)
  | write writes =>
    exact orderly.copying ⟨rfl, rfl, rfl, rfl, rfl⟩ (flags_update rfl rfl)
      (stages_update (by simp [copied, writes]) (active_rest _ _))
  | refuse writes =>
    exact orderly.copying ⟨rfl, rfl, rfl, rfl, rfl⟩ (flags_update rfl rfl)
      (stages_update (by simp [copied, writes]) rfl)
  | @shut source shuts =>
    refine ⟨?_, orderly.sealed, ?_, ?_, ?_, orderly.returned, orderly.calm⟩
    · have total := orderly.waiting
      cases source <;> simpa [active, shuts] using total
    · intro side shut
      by_cases same : side = source
      · subst same
        simp [copied]
      · cases Side.eq_other same
        simpa using orderly.shut _ (by simpa using shut)
    · intro side closed
      by_cases same : side = source.other
      · subst same
        simp only [goTo_conn, setConn_conn, Function.update_self, Bool.or_eq_true] at closed
        rcases closed with before | whole
        · exact orderly.closed _ before
        · exact .inr (by simpa using whole)
      · simp only [goTo_conn, setConn_conn, Function.update_of_ne same] at closed
        exact orderly.closed side closed
    · obtain ⟨gone, whole, sealed, closed⟩ := orderly.deferred
      refine ⟨gone, whole, sealed, ?_⟩
      intro side member
      have before := closed side member
      by_cases same : side = source.other
      · subst same
        simp [before]
      · simpa [Function.update_of_ne same] using before
  | @panic source signals closed =>
    have reported := orderly.done (orderly.sealed closed) source
    cases signals.symm.trans reported
  | @signal source signals opened waits =>
    refine ⟨?_, ?_, ?_, ?_, orderly.deferred, orderly.returned, orderly.calm⟩
    · have total := orderly.waiting
      cases source
      · simp [active, signals] at total ⊢
        omega
      · simp [active, signals] at total ⊢
        omega
    · intro closed
      cases opened.symm.trans closed
    · intro side shut
      by_cases same : side = source
      · subst same
        simp [copied]
      · simpa [Function.update_of_ne same] using orderly.shut side shut
    · intro side closed
      exact .inr ((orderly.closed side closed).resolve_left waits)
  | closeChannel done opened =>
    refine ⟨orderly.waiting, fun _ => done, orderly.shut, orderly.closed, ?_, ?_, orderly.calm⟩
    · obtain ⟨gone, whole, -, closed⟩ := orderly.deferred
      exact ⟨gone, whole, fun _ => rfl, closed⟩
    · intro returned
      cases opened.symm.trans (orderly.returned returned).1
  | @closeLink link rest done sealed present =>
    refine ⟨orderly.waiting, orderly.sealed, ?_, fun _ _ => .inl done, ?_, ?_, orderly.calm⟩
    · intro source shut
      refine orderly.shut source ?_
      dsimp only at shut
      split at shut <;> exact shut
    · obtain ⟨gone, whole, -, closed⟩ := orderly.deferred
      refine ⟨gone ++ [link], by simp [whole, present], fun _ => sealed, ?_⟩
      intro side member
      dsimp only
      split
      · rfl
      · rename_i different
        simp only [List.mem_append, List.mem_singleton, different, or_false] at member
        exact closed side member
    · intro returned
      cases present.symm.trans (orderly.returned returned).2
  | leave done sealed none =>
    exact ⟨orderly.waiting, orderly.sealed, orderly.shut, orderly.closed, orderly.deferred,
      fun _ => ⟨sealed, none⟩, orderly.calm⟩

/-- Connections as they are handed to the pipes: nothing is sent that is not also unread, and
neither end is closed. -/
def Fresh (conn : Side → Conn) : Prop :=
  ∀ side, (conn side).sent = (conn side).queued ∧ (conn side).shut = false ∧
    (conn side).closed = false

variable {conn : Side → Conn}

private theorem orderly_of_reaches (fresh : Fresh conn)
    (reached : (machine halfCloses conn links).Reaches (fun _ _ => True) piping) :
    Orderly halfCloses links piping := by
  refine reached.invariant ⟨rfl, nofun, ?_, ?_, ⟨[], rfl, nofun, nofun⟩, nofun, rfl⟩
    fun _ _ _ _ orderly _ stepped => orderly.step stepped
  · intro source shut
    cases (fresh source.other).2.1.symm.trans shut
  · intro side closed
    cases (fresh side).2.2.symm.trans closed

private theorem flow_of_reaches (fresh : Fresh conn)
    (reached : (machine halfCloses conn links).Reaches (fun _ _ => True) piping) (source : Side) :
    Flow (fun side => (conn side).out) piping source := by
  revert source
  refine reached.invariant ?_ fun _ _ _ _ flows _ stepped => flow_step flows stepped
  intro source
  refine ⟨⟨[], ⟨rfl, rfl⟩, ?_⟩, ?_, nofun⟩
  · simp [machine, start, (fresh source).1]
  · simp [machine, start, (fresh source).1]

def unused : Conn := ⟨[], [], false, [], 0, false, false⟩

private theorem fresh_unused : Fresh fun _ => unused := fun _ => ⟨rfl, rfl, rfl⟩

/-- A client asks and ends, and the backend takes the request in two parts, answers and ends. -/
def dialogue : List Action :=
  [.send .client [80, 73], .read .client 2, .take .backend 1, .write .client 1, .take .backend 1,
    .write .client 1, .finish .client, .eof .client, .shut .client, .send .backend [43],
    .read .backend 1, .signal .client, .take .client 1, .write .backend 1, .finish .backend]

def served : Piping :=
  ((machine (fun _ => true) (fun _ => unused) [.backend, .client]).after dialogue).get (by decide)

private theorem served_reached :
    (machine (fun _ => true) (fun _ => unused) [.backend, .client]).Reaches (fun _ _ => True)
      served :=
  .after (Option.some_get _).symm

/-- A copy without failure has delivered everything when its sink is shut. -/
theorem delivered (fresh : Fresh conn)
    (reached : (machine halfCloses conn links).Reaches (fun _ _ => True) piping) {source : Side}
    (shut : (piping.conn source.other).shut = true) (fine : (piping.pipe source).failed = false) :
    (piping.conn source).ended = true ∧
      (piping.conn source.other).out = (conn source.other).out ++ (piping.conn source).sent := by
  obtain ⟨⟨flight, carried, whole⟩, -, finished⟩ := flow_of_reaches fresh reached source
  have done := (orderly_of_reaches fresh reached).shut source shut
  obtain ⟨ended, empty⟩ := finished done fine
  have none : flight = [] := by
    unfold copied at done
    unfold InFlight at carried
    split at carried
    · exact carried.1
    · simp_all
    · exact carried fine
  refine ⟨ended, ?_⟩
  rw [whole, none, empty, List.append_nil, List.append_nil]

/-- No pipe signals on a closed channel; a connection that can be half-closed is closed only
when both pipes are done, and when the session has returned they are, with every connection it
is responsible for closed. -/
theorem pipes_orderly (fresh : Fresh conn)
    (reached : (machine halfCloses conn links).Reaches (fun _ _ => True) piping) :
    piping.panicked = false ∧
      (∀ side, halfCloses side = true → (piping.conn side).closed = true →
        ∀ source, (piping.pipe source).stage = .done) ∧
      (piping.returned = true → (∀ source, (piping.pipe source).stage = .done) ∧
        ∀ side : Side, side.link ∈ links → (piping.conn side).closed = true) := by
  have orderly := orderly_of_reaches fresh reached
  refine ⟨orderly.calm, ?_, ?_⟩
  · intro side able closed
    refine orderly.done ((orderly.closed side closed).resolve_right ?_)
    simp [able]
  · intro returned
    obtain ⟨sealed, empty⟩ := orderly.returned returned
    obtain ⟨gone, whole, -, closed⟩ := orderly.deferred
    rw [empty, List.append_nil] at whole
    exact ⟨orderly.done (orderly.sealed sealed), fun side member => closed side (whole ▸ member)⟩

def closedDown : Piping :=
  ([.eof .backend, .shut .backend, .signal .backend, .close, .close, .close, .close].foldlM
    (machine (fun _ => true) (fun _ => unused) [.backend, .client]).step served).get (by decide)

private theorem closedDown_reached :
    (machine (fun _ => true) (fun _ => unused) [.backend, .client]).Reaches (fun _ _ => True)
      closedDown :=
  served_reached.foldlM _ (fun _ _ _ => trivial) (Option.some_get _).symm

theorem pipes_orderly_closedDown :
    closedDown.returned = true ∧ ∀ side : Side, (closedDown.conn side).closed = true := by
  refine ⟨by decide, ?_⟩
  intro side
  exact ((pipes_orderly fresh_unused closedDown_reached).2.2 (by decide)).2 side
    (by cases side <;> decide)

end Order

section End

/-- Steps of the proxy, as opposed to those of the peers. -/
def Action.own : Action → Prop
  | .send _ _ => False
  | .finish _ => False
  | .take _ _ => False
  | _ => True

/-- A write is blocked until the peer takes more bytes. -/
def blocked (piping : Piping) (side : Side) : Prop :=
  (∃ chunk, (piping.pipe side.other).stage = .writing chunk) ∧ (piping.conn side).room = 0 ∧
    (piping.conn side).shut = false ∧ (piping.conn side).closed = false

/-- The steps that are to be expected: of the proxy those it takes of itself, where nothing fails
that need not fail, and of the peers that one takes bytes for which a write is blocked. -/
def Willing (piping : Piping) : Action → Prop
  | .send _ _ => False
  | .finish _ => False
  | .take side amount => piping.blocked side ∧ 0 < amount
  | .fail source => (piping.conn source).closed = true
  | .refuse source _ =>
    (piping.conn source.other).shut = true ∨ (piping.conn source.other).closed = true
  | _ => True

def work (piping : Piping) (source : Side) : Nat :=
  2 * (piping.conn source).queued.length + (piping.pipe source).stage.left

/-- What is left to do for the session. -/
def left (piping : Piping) : Nat :=
  piping.work .client + piping.work .backend + (!piping.sigClosed).toNat + piping.deferred.length +
    (!piping.returned).toNat

private theorem left_rest {amount : Nat} {chunk : Bytes} (positive : 0 < amount)
    (present : amount ≤ chunk.length) :
    (PipeStage.rest (chunk.drop amount)).left < (PipeStage.writing chunk).left := by
  unfold PipeStage.rest
  split
  · simp only [PipeStage.left]
    omega
  · simp only [PipeStage.left, List.length_drop]
    omega

private theorem left_step {action : Action} {links : List Link}
    (orderly : Orderly halfCloses links piping)
    (ours : action.own) (stepped : piping.step halfCloses action = some next) :
    next.left < piping.left := by
  cases step_stepped stepped with
  | send => cases ours
  | finish => cases ours
  | take => cases ours
  | @read source amount reads positive present =>
    cases source <;> simp [left, work, setPipe, setConn, reads, PipeStage.left] <;> omega
  | @eof source reads =>
    cases source <;> simp [left, work, goTo, setPipe, reads, PipeStage.left]
  | @fail source reads =>
    cases source <;> simp [left, work, Piping.fail, setPipe, reads, PipeStage.left]
  | @write source amount chunk writes positive present =>
    have less := left_rest positive present
    cases source <;>
      simp [left, work, goTo, setPipe, setConn, Side.other, writes] <;> omega
  | @refuse source accepted chunk writes =>
    cases source <;>
      simp [left, work, Piping.fail, setPipe, setConn, Side.other, writes, PipeStage.left] <;>
      omega
  | @shut source shuts =>
    cases source <;> simp [left, work, goTo, setPipe, setConn, Side.other, shuts, PipeStage.left]
  | @panic source signals closed =>
    have reported := orderly.done (orderly.sealed closed) source
    cases signals.symm.trans reported
  | @signal source signals =>
    cases source <;> simp [left, work, goTo, setPipe, signals, PipeStage.left]
  | closeChannel _ opened => simp [left, work, opened]
  | @closeLink link rest _ _ present =>
    have same (side : Side) : (if side.link = link then { piping.conn side with closed := true }
        else piping.conn side).queued = (piping.conn side).queued := by
      split <;> rfl
    simp only [left, work, same, present, List.length_cons]
    omega
  | leave _ _ _ running => simp [left, work, running]

/-- The peers can do no more to undo it, once they have ended. -/
theorem left_beside {action : Action} (ended : ∀ side, (piping.conn side).ended = true)
    (theirs : ¬action.own) (stepped : piping.step halfCloses action = some next) :
    next.left ≤ piping.left := by
  cases step_stepped stepped with
  | @send side _ going => cases going.symm.trans (ended side)
  | @finish side => cases side <;> simp [left, work, setConn]
  | @take side => cases side <;> simp [left, work, setConn]
  | _ => exact absurd trivial theirs

private theorem ended_step {action : Action} (ended : ∀ side, (piping.conn side).ended = true)
    (stepped : piping.step halfCloses action = some next) (side : Side) :
    (next.conn side).ended = true := by
  have changed {other : Side} {conn : Conn} (closing : conn.ended = true) :
      (Function.update piping.conn other conn side).ended = true := by
    by_cases same : side = other
    · subst same
      rw [Function.update_self]
      exact closing
    · rw [Function.update_of_ne same]
      exact ended side
  cases step_stepped stepped with
  | send => exact changed (ended _)
  | finish => exact changed rfl
  | take => exact changed (ended _)
  | read => exact changed (ended _)
  | write => exact changed (ended _)
  | refuse => exact changed (ended _)
  | shut => exact changed (ended _)
  | closeLink =>
    dsimp only
    split <;> exact ended side
  | _ => exact ended side

/-- A pipe that has not reported is never stuck once its source has ended, unless it is up to
the peer that it writes to. -/
theorem pipe_able {base : Side → Bytes} {links : List Link}
    (orderly : Orderly halfCloses links piping) {source : Side} (flow : Flow base piping source)
    (ended : (piping.conn source).ended = true) (busy : (piping.pipe source).stage ≠ .done) :
    ∃ action next, piping.Willing action ∧ piping.step halfCloses action = some next := by
  cases stands : (piping.pipe source).stage with
  | reading =>
    cases closed : (piping.conn source).closed with
    | true => exact ⟨.fail source, _, closed, by simp [step, stands]; rfl⟩
    | false =>
      cases unread : (piping.conn source).queued with
      | nil => exact ⟨.eof source, _, trivial, by simp [step, stands, closed, unread, ended]; rfl⟩
      | cons byte rest =>
        exact ⟨.read source 1, _, trivial, by simp [step, stands, closed, unread]; rfl⟩
  | writing chunk =>
    obtain ⟨⟨flight, carried, -⟩, -, -⟩ := flow
    simp only [InFlight, stands] at carried
    by_cases gone : (piping.conn source.other).shut = true ∨
        (piping.conn source.other).closed = true
    · exact ⟨.refuse source 0, _, gone, by simp [step, stands]; rfl⟩
    · obtain ⟨shut, closed⟩ : (piping.conn source.other).shut = false ∧
          (piping.conn source.other).closed = false := by simpa using gone
      by_cases full : (piping.conn source.other).room = 0
      · exact ⟨.take source.other 1, _, ⟨⟨⟨chunk, by simpa using stands⟩, full, shut, closed⟩,
          Nat.one_pos⟩, rfl⟩
      · exact ⟨.write source 1, _, trivial, by
          simp only [step, stands]
          exact if_neg (by simp [shut, closed, full, carried.1.2])⟩
  | shutting => exact ⟨.shut source, _, trivial, by simp [step, stands]; rfl⟩
  | signalling =>
    have waits : piping.waiting ≠ 0 := fun none => busy (orderly.done none source)
    cases sealed : piping.sigClosed with
    | true => exact absurd (orderly.sealed sealed) waits
    | false => exact ⟨.signal source, _, trivial, by simp [step, stands, sealed, waits]; rfl⟩
  | done => exact absurd stands busy

private theorem close_able (done : piping.waiting = 0) (running : piping.returned = false) :
    ∃ next, piping.close = some next := by
  simp only [close, done, running]
  cases piping.sigClosed with
  | false => exact ⟨_, rfl⟩
  | true =>
    cases piping.deferred with
    | nil => exact ⟨_, rfl⟩
    | cons link rest => exact ⟨_, rfl⟩

/-- Once both peers have ended, every step of the proxy brings the session closer to its return,
in whichever order pipes and session take their steps and whatever fails on the way, and until
then there is one to take, unless a peer has to take bytes first: nothing but a peer that
neither takes nor refuses what it is sent can keep the session waiting. -/
theorem pipes_end {conn : Side → Conn} {links : List Link} (fresh : Fresh conn)
    (reached : (machine halfCloses conn links).Reaches (fun _ _ => True) piping)
    (ended : ∀ side, (piping.conn side).ended = true) :
    (machine halfCloses conn links).Driven (fun _ action => action.own)
      (fun _ action => ¬action.own) Willing (fun piping => piping.returned) piping := by
  refine @Machine.Driven.of_measure _ _ _ _ _
    (fun piping => Orderly halfCloses links piping ∧
      (∀ source, Flow (fun side => (conn side).out) piping source) ∧
      ∀ side, (piping.conn side).ended = true)
    _ _ _ _ _ left ?_ ?_ ?_ _
    ⟨orderly_of_reaches fresh reached, flow_of_reaches fresh reached, ended⟩
  · rintro state action next ⟨orderly, flows, ended⟩ ours stepped
    exact .inr ⟨⟨orderly.step stepped, flow_step flows stepped, ended_step ended stepped⟩,
      left_step orderly ours stepped⟩
  · rintro state action next ⟨orderly, flows, ended⟩ theirs stepped
    exact ⟨⟨orderly.step stepped, flow_step flows stepped, ended_step ended stepped⟩,
      left_beside ended theirs stepped⟩
  · rintro state ⟨orderly, flows, ended⟩ running
    by_cases client : (state.pipe .client).stage = .done
    · by_cases backend : (state.pipe .backend).stage = .done
      · have none : state.waiting = 0 := by simp [orderly.waiting, active, client, backend]
        obtain ⟨next, closed⟩ := close_able none (Bool.eq_false_iff.mpr running)
        exact ⟨.close, next, trivial, closed⟩
      · exact pipe_able orderly (flows .backend) (ended .backend) backend
    · exact pipe_able orderly (flows .client) (ended .client) client

theorem pipes_end_served :
    (machine (fun _ => true) (fun _ => unused) [.backend, .client]).Driven
      (fun _ action => action.own) (fun _ action => ¬action.own) Willing
      (fun piping => piping.returned) served :=
  pipes_end fresh_unused served_reached (by intro side; cases side <;> decide)

end End

section Refinement

/-- The session as the server sees it. A replica is closed before the pipes are started. -/
def session (number : Nat) (routed : Bool) (piping : Piping) : Session where
  conn := number
  routed
  phase :=
    if piping.returned then .releasing
    else if piping.waiting = 0 then .returning
    else .piping piping.waiting
  deferred := piping.deferred
  opened := piping.deferred.filter (· ≠ .replica)
  released := 0

/-- A session that has started its pipes. -/
def piper (proxy : RedisSentinelProxy) (number : Nat) (routed : Bool) (links : List Link) :
    Machine Session Move where
  start := ⟨number, routed, .piping 2, links, links.filter (· ≠ .replica), 0⟩
  step := Session.move proxy

private theorem session_close {number : Nat} {routed : Bool} {proxy : RedisSentinelProxy}
    {link : Link}
    {rest : List Link} {conn : Side → Conn} (running : piping.returned = false)
    (done : piping.waiting = 0) (present : piping.deferred = link :: rest) (once : link ∉ rest) :
    (piping.session number routed).move proxy .close =
      some ({ piping with deferred := rest, conn }.session number routed) := by
  have opened : ((link :: rest).filter (· ≠ .replica)).filter (· ≠ link) =
      rest.filter (· ≠ .replica) := by
    rw [List.filter_filter, List.filter_cons_of_neg (by simp)]
    refine List.filter_congr ?_
    intro other member
    have different : other ≠ link := by
      rintro rfl
      exact once member
    simp [different]
  simp only [session, running, done, present, Session.move, Session.disconnect, opened]
  rfl

/-- The pipes are what the server's sessions are waiting for, and the deferred closes after
them are theirs. -/
theorem pipes_refine (proxy : RedisSentinelProxy) (number : Nat) (routed : Bool)
    (halfCloses : Side → Bool) {conn : Side → Conn} {links : List Link} (fresh : Fresh conn)
    (distinct : links.Nodup) :
    Simulation (machine halfCloses conn links) (piper proxy number routed links)
      (Piping.session number routed) := by
  refine ⟨rfl, ?_⟩
  intro piping action next reached stepped
  have orderly := orderly_of_reaches fresh reached
  cases step_stepped stepped with
  | @panic source signals closed =>
    have reported := orderly.done (orderly.sealed closed) source
    cases signals.symm.trans reported
  | @signal source signals opened waits =>
    have running : piping.returned = false := by
      cases gone : piping.returned with
      | false => rfl
      | true => cases opened.symm.trans (orderly.returned gone).1
    refine .inr ⟨.pipeDone, ?_⟩
    have before : piping.session number routed = ⟨number, routed, .piping piping.waiting,
        piping.deferred, piping.deferred.filter (· ≠ .replica), 0⟩ := by
      simp [session, running, waits]
    have after : { piping.goTo source .done with waiting := piping.waiting - 1 }.session number
        routed = ⟨number, routed,
          if piping.waiting ≤ 1 then .returning else .piping (piping.waiting - 1),
          piping.deferred, piping.deferred.filter (· ≠ .replica), 0⟩ := by
      simp [session, goTo, setPipe, running, Nat.sub_eq_zero_iff_le]
    rw [before, after]
    rfl
  | closeChannel => exact .inl rfl
  | @closeLink link rest done sealed present =>
    have running : piping.returned = false := by
      cases gone : piping.returned with
      | false => rfl
      | true => cases present.symm.trans (orderly.returned gone).2
    obtain ⟨gone, whole, -⟩ := orderly.deferred
    have once : link ∉ rest := by
      rw [whole, present] at distinct
      exact (List.nodup_cons.mp (List.nodup_append.mp distinct).2.1).1
    exact .inr ⟨.close, session_close running done present once⟩
  | leave done sealed none running =>
    refine .inr ⟨.close, ?_⟩
    simp [piper, session, Session.move, running, done, none]
  | _ => exact .inl rfl

theorem pipes_refine_unused :
    Simulation (machine (fun _ => true) (fun _ => unused) [.backend, .client])
      (piper Dialler.routingProxy 0 true [.backend, .client]) (Piping.session 0 true) :=
  pipes_refine Dialler.routingProxy 0 true _ fresh_unused (by decide)

end Refinement

section Pinned

variable {conn : Side → Conn} {links : List Link}

/-- A pinned session sends on each of its connections what is in front of it, and accepts
all it is sent. -/
structure Pins (conn : Side → Conn) (piping : Piping) (session : Routing.Session) : Prop where
  client : session.client = ⟨(conn .client).out, none⟩
  backend : session.master.sent = ⟨(conn .backend).out, none⟩
  requests : session.clientR.unread = (piping.conn .client).sent
  replies : session.master.replies.unread = (piping.conn .backend).sent

/-- Two copies one after the other, as a pinned session has them, come to what the two pipes
come to side by side. -/
theorem pipes_sequential (fresh : Fresh conn)
    (reached : (machine halfCloses conn links).Reaches (fun _ _ => True) piping)
    (shut : ∀ side, (piping.conn side).shut = true)
    (fine : ∀ source, (piping.pipe source).failed = false) {session : Routing.Session}
    (pins : Pins conn piping session) :
    session.pipe.1 = .pinned true true ∧
      session.pipe.2.client.out = (piping.conn .client).out ∧
      session.pipe.2.master.sent.out = (piping.conn .backend).out := by
  obtain ⟨client, backend, requests, replies⟩ := pins
  have downstream := (delivered fresh reached (shut Side.backend.other) (fine .backend)).2
  have upstream := (delivered fresh reached (shut Side.client.other) (fine .client)).2
  obtain ⟨_, down⟩ :=
    copyAll_unbounded (show session.client.room = none by rw [client]) session.master.replies
  obtain ⟨_, up⟩ :=
    copyAll_unbounded (show session.master.sent.room = none by rw [backend]) session.clientR
  unfold Routing.Session.pipe
  rw [down, up]
  refine ⟨rfl, ?_, ?_⟩
  · rw [client, replies]
    exact downstream.symm
  · rw [backend, requests]
    exact upstream.symm

/-- The same dialogue as a session sees it that was just pinned. -/
def pinned : Routing.Session where
  client := ⟨[], none⟩
  clientR := newReader [[80], [73]]
  master := ⟨⟨[], none⟩, newReader [[43]]⟩
  replica := none
  closed := none
  reads := 0
  writes := 0

private theorem pinned_pins : Pins (fun _ => unused) closedDown pinned :=
  ⟨rfl, rfl, by decide, by decide⟩

theorem pipes_sequential_pinned :
    pinned.pipe.1 = .pinned true true ∧ pinned.pipe.2.client.out = [43] ∧
      pinned.pipe.2.master.sent.out = [80, 73] := by
  have shut (side : Side) : (closedDown.conn side).shut = true := by cases side <;> decide
  have fine (source : Side) : (closedDown.pipe source).failed = false := by
    cases source <;> decide
  obtain ⟨ended, replies, requests⟩ :=
    pipes_sequential fresh_unused closedDown_reached shut fine pinned_pins
  exact ⟨ended, replies.trans (by decide), requests.trans (by decide)⟩

end Pinned

end Piping

end SentinelProxy.Proxy
