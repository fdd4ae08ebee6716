import Mathlib.Algebra.Order.Ring.Int
import SentinelProxy.Proxy.Serve
import SentinelProxy.Stream.Reader
import SentinelProxy.Transition.Machine

/-! The idle timeout: the connections of a session, each read through `idleConn.Read`, and the
activity clock they share. Every point at which a read can be delayed is a step of its own. -/

namespace SentinelProxy.Proxy

open SentinelProxy.Stream SentinelProxy.Transition

inductive ReadError where
  | deadlineExceeded
  | other
  deriving DecidableEq, Repr

structure Result where
  bytes : Bytes
  error : Option ReadError
  deriving DecidableEq, Repr

/-- Where a call of `Read` stands: about to set its deadline, waiting for the connection, about
to take the time of what has come or to store that time, about to look at the clock of
activity or to act on what it has seen there. -/
inductive Point where
  | arming
  | waiting (deadline : Int)
  | stamping (result : Result)
  | storing (result : Result) (stamp : Int)
  | checking (result : Result)
  | deciding (result : Result) (seen : Int)
  deriving DecidableEq, Repr

/-- A call of `Read`: when it was made, when its current turn of the loop began and when it
came to its point. -/
structure Reading where
  called : Int
  begun : Int
  since : Int
  point : Point
  deriving DecidableEq, Repr

/-- When a call is due at the latest, on a machine that lets nothing wait longer than `lag`. -/
def Reading.due (lag : Int) (reading : Reading) : Int :=
  match reading.point with
  | .waiting deadline => deadline + lag
  | _ => reading.since + lag

section Timing

variable (timeout lag heard : Int)

def Result.exceeded (result : Result) : Prop := result.error = some .deadlineExceeded

/-- What a point tells about the times of its call. -/
def Reading.Fits (reading : Reading) : Prop :=
  match reading.point with
  | .arming => reading.since ≤ reading.begun
  | .waiting deadline =>
    reading.begun + timeout ≤ deadline ∧ deadline ≤ reading.begun + lag + timeout
  | .stamping result =>
    reading.since ≤ reading.begun + 2 * lag + timeout ∧ reading.since ≤ heard ∧
      (result.exceeded → reading.called + timeout ≤ reading.since)
  | .storing result stamp =>
    stamp = reading.since ∧ reading.since ≤ reading.begun + 3 * lag + timeout ∧
      stamp ≤ heard + lag ∧ (result.exceeded → reading.called + timeout ≤ reading.since)
  | .checking result =>
    reading.since ≤ reading.begun + 4 * lag + timeout ∧
      (result.exceeded → reading.called + timeout ≤ reading.since)
  | .deciding _ seen =>
    reading.since ≤ reading.begun + 5 * lag + timeout ∧
      reading.called + timeout ≤ reading.since ∧ seen ≤ heard + lag ∧
      (heard ≤ seen + lag ∨ reading.since ≤ heard + 2 * lag)

/-- The invariant of one call. A turn of the loop after the first begins while the session is
still active. -/
structure Reading.Timely (now : Int) (reading : Reading) : Prop where
  called : reading.called ≤ reading.begun
  begun : reading.begun ≤ reading.since
  since : reading.since ≤ now
  turn : reading.begun ≤ reading.called ∨ reading.begun < heard + lag + timeout
  due : now ≤ reading.due lag
  fits : reading.Fits timeout lag heard

variable {timeout lag heard} {now : Int} {reading : Reading}

theorem Reading.Timely.hear (timely : reading.Timely timeout lag heard now) (lags : 0 ≤ lag)
    (past : heard ≤ now) : reading.Timely timeout lag now now := by
  obtain ⟨called, begun, since, turn, due, fits⟩ := timely
  refine ⟨called, begun, since, by omega, due, ?_⟩
  unfold Reading.Fits at fits ⊢
  split at fits
  · exact fits
  · exact fits
  · exact ⟨fits.1, since, fits.2.2⟩
  · exact ⟨fits.1, fits.2.1, by omega, fits.2.2.2⟩
  · exact fits
  · exact ⟨fits.1, fits.2.1, by omega, .inr (by omega)⟩

theorem Reading.Timely.pass (timely : reading.Timely timeout lag heard now) {later : Int}
    (passes : now ≤ later) (prompt : later ≤ reading.due lag) :
    reading.Timely timeout lag heard later :=
  ⟨timely.called, timely.begun, timely.since.trans passes, timely.turn, prompt, timely.fits⟩

end Timing

/-- The connections of a session. `heard` is when one of them last had something to say, and
`taken` and `given` is what was read from a connection and what was handed on, latest first. -/
structure Conns (ι : Type) where
  now : Int
  activity : Int
  heard : Int
  reading : ι → Option Reading
  taken : ι → List Bytes
  given : ι → List Bytes

namespace Conns

variable {ι : Type} [DecidableEq ι]

/-- A step of a call; the deadline cannot be set on a closed connection. -/
inductive Move where
  | arm (success : Bool)
  | receive (result : Result)
  | stamp
  | store
  | load
  | decide
  deriving DecidableEq, Repr

inductive Action (ι : Type) where
  | pass (duration : Nat)
  | read (conn : ι)
  | move (conn : ι) (move : Move)

def opened (ι : Type) (now : Int) : Conns ι where
  now
  activity := now
  heard := now
  reading _ := none
  taken _ := []
  given _ := []

def goTo (conns : Conns ι) (conn : ι) (reading : Reading) (point : Point) : Conns ι :=
  { conns with
    reading := Function.update conns.reading conn
      (some { reading with since := conns.now, point }) }

def handBack (conns : Conns ι) (conn : ι) (result : Result) : Conns ι :=
  { conns with
    reading := Function.update conns.reading conn none
    given := if result.bytes = [] then conns.given
      else Function.update conns.given conn (result.bytes :: conns.given conn) }

variable (timeout : Int)

/-- One step of a call, `none` where it stands at another point. A connection reports an
exceeded deadline only when it has passed. -/
def move (conns : Conns ι) (conn : ι) (reading : Reading) (move : Move) : Option (Conns ι) :=
  match reading.point, move with
  | .arming, .arm success =>
    if success then some (conns.goTo conn reading (.waiting (conns.now + timeout)))
    else some (conns.handBack conn ⟨[], some .other⟩)
  | .waiting deadline, .receive result =>
    if result.error = some .deadlineExceeded ∧ conns.now < deadline then none
    else if result.bytes = [] then some (conns.goTo conn reading (.checking result))
    else
      some { conns.goTo conn reading (.stamping result) with
        heard := conns.now
        taken := Function.update conns.taken conn (result.bytes :: conns.taken conn) }
  | .stamping result, .stamp => some (conns.goTo conn reading (.storing result conns.now))
  | .storing result stamp, .store =>
    some { conns.goTo conn reading (.checking result) with activity := stamp }
  | .checking result, .load =>
    if result.error = some .deadlineExceeded then
      some (conns.goTo conn reading (.deciding result conns.activity))
    else some (conns.handBack conn result)
  | .deciding result seen, .decide =>
    -- the result is dropped, be it empty or not
    if conns.now - seen < timeout then
      some (conns.goTo conn { reading with begun := conns.now } .arming)
    else some (conns.handBack conn result)
  | _, _ => none

def step (conns : Conns ι) : Action ι → Option (Conns ι)
  | .pass duration => some { conns with now := conns.now + duration }
  | .read conn =>
    match conns.reading conn with
    | none => some (conns.goTo conn ⟨conns.now, conns.now, conns.now, .arming⟩ .arming)
    | some _ => none
  | .move conn move =>
    match conns.reading conn with
    | none => none
    | some reading => conns.move timeout conn reading move

def machine (ι : Type) [DecidableEq ι] (start : Int) : Machine (Conns ι) (Action ι) :=
  ⟨opened ι start, step timeout⟩

/-- Time passes only as long as no call is overdue. -/
def Prompt (lag : Int) (conns : Conns ι) : Action ι → Prop
  | .pass duration => ∀ conn reading, conns.reading conn = some reading →
      conns.now + duration ≤ reading.due lag
  | _ => True

/-- The steps of a call, one by one. -/
inductive Moved (conns : Conns ι) (conn : ι) (reading : Reading) : Move → Conns ι → Prop where
  | armed (stands : reading.point = .arming) :
      Moved conns conn reading (.arm true)
        (conns.goTo conn reading (.waiting (conns.now + timeout)))
  | closed (stands : reading.point = .arming) :
      Moved conns conn reading (.arm false) (conns.handBack conn ⟨[], some .other⟩)
  | nothing {deadline : Int} {result : Result} (stands : reading.point = .waiting deadline)
      (timely : result.error = some .deadlineExceeded → deadline ≤ conns.now)
      (empty : result.bytes = []) :
      Moved conns conn reading (.receive result) (conns.goTo conn reading (.checking result))
  | received {deadline : Int} {result : Result} (stands : reading.point = .waiting deadline)
      (timely : result.error = some .deadlineExceeded → deadline ≤ conns.now)
      (nonempty : result.bytes ≠ []) :
      Moved conns conn reading (.receive result)
        { conns.goTo conn reading (.stamping result) with
          heard := conns.now
          taken := Function.update conns.taken conn (result.bytes :: conns.taken conn) }
  | stamped {result : Result} (stands : reading.point = .stamping result) :
      Moved conns conn reading .stamp (conns.goTo conn reading (.storing result conns.now))
  | stored {result : Result} {stamp : Int} (stands : reading.point = .storing result stamp) :
      Moved conns conn reading .store
        { conns.goTo conn reading (.checking result) with activity := stamp }
  | loaded {result : Result} (stands : reading.point = .checking result)
      (exceeded : result.error = some .deadlineExceeded) :
      Moved conns conn reading .load (conns.goTo conn reading (.deciding result conns.activity))
  | finished {result : Result} (stands : reading.point = .checking result)
      (ordinary : result.error ≠ some .deadlineExceeded) :
      Moved conns conn reading .load (conns.handBack conn result)
  | again {result : Result} {seen : Int} (stands : reading.point = .deciding result seen)
      (active : conns.now - seen < timeout) :
      Moved conns conn reading .decide
        (conns.goTo conn { reading with begun := conns.now } .arming)
  | idle {result : Result} {seen : Int} (stands : reading.point = .deciding result seen)
      (quiet : timeout ≤ conns.now - seen) :
      Moved conns conn reading .decide (conns.handBack conn result)

variable {timeout} {conns next : Conns ι} {conn : ι} {reading : Reading}

theorem move_moved {move : Move} (moved : conns.move timeout conn reading move = some next) :
    Moved timeout conns conn reading move next := by
  unfold Conns.move at moved
  split at moved
  · rename_i success stands
    cases success <;> cases moved
    · exact .closed stands
    · exact .armed stands
  · rename_i deadline result stands
    split at moved
    · cases moved
    · rename_i early
      have timely : result.error = some .deadlineExceeded → deadline ≤ conns.now := by
        intro exceeded
        by_contra late
        exact early ⟨exceeded, Int.not_le.mp late⟩
      split at moved <;> cases moved
      · exact .nothing stands timely ‹_›
      · exact .received stands timely ‹_›
  · cases moved
    exact .stamped ‹_›
  · cases moved
    exact .stored ‹_›
  · split at moved <;> cases moved
    · exact .loaded ‹_› ‹_›
    · exact .finished ‹_› ‹_›
  · split at moved <;> cases moved
    · exact .again ‹_› ‹_›
    · exact .idle ‹_› (Int.not_lt.mp ‹_›)
  · cases moved

section Timeliness

variable {lag : Int}

/-- What was heard last is about to be put on the clock of activity. -/
inductive Pending (conns : Conns ι) : Prop where
  | stamping {conn : ι} {reading : Reading} {result : Result}
      (present : conns.reading conn = some reading) (stands : reading.point = .stamping result)
      (latest : conns.heard ≤ reading.since)
  | storing {conn : ι} {reading : Reading} {result : Result} {stamp : Int}
      (present : conns.reading conn = some reading) (stands : reading.point = .storing result stamp)
      (latest : conns.heard ≤ stamp)

/-- The invariant of a session's connections. -/
structure Timely (timeout lag : Int) (conns : Conns ι) : Prop where
  each : ∀ conn reading, conns.reading conn = some reading →
    reading.Timely timeout lag conns.heard conns.now
  past : conns.heard ≤ conns.now
  bounded : conns.activity ≤ conns.heard + lag
  noticed : conns.heard ≤ conns.activity + lag ∨ Pending conns

omit [DecidableEq ι] in
private theorem timely_opened (start : Int) (lags : 0 ≤ lag) :
    Timely timeout lag (opened ι start) where
  each _ _ absent := by cases absent
  past := le_rfl
  bounded := by simpa [opened] using lags
  noticed := .inl (by simpa [opened] using lags)

omit [DecidableEq ι] in
/-- Whatever is pending is not pending for long. -/
theorem Timely.soon (timely : Timely timeout lag conns) (lags : 0 ≤ lag) (pending : Pending conns) :
    conns.now ≤ conns.heard + 2 * lag := by
  cases pending with
  | stamping present stands latest =>
    obtain ⟨-, -, -, -, due, fits⟩ := timely.each _ _ present
    simp only [Reading.due, Reading.Fits, stands] at due fits
    omega
  | storing present stands latest =>
    obtain ⟨-, -, -, -, due, fits⟩ := timely.each _ _ present
    simp only [Reading.due, Reading.Fits, stands] at due fits
    omega

/-- The connection has nothing to put on the clock of activity. -/
def Plain (conns : Conns ι) (conn : ι) : Prop :=
  ∀ reading, conns.reading conn = some reading →
    (∀ result, reading.point ≠ .stamping result) ∧
      ∀ result stamp, reading.point ≠ .storing result stamp

omit [DecidableEq ι] in
private theorem plain_of {point : Point} (present : conns.reading conn = some reading)
    (stands : reading.point = point) (stamped : ∀ result, point ≠ .stamping result)
    (stored : ∀ result stamp, point ≠ .storing result stamp) : conns.Plain conn := by
  intro found there
  rw [Option.some.inj (there.symm.trans present), stands]
  exact ⟨stamped, stored⟩

theorem Pending.elsewhere (pending : Pending conns) (plain : conns.Plain conn)
    (changed : Option Reading) (taken given : ι → List Bytes) :
    Pending { conns with
      reading := Function.update conns.reading conn changed, taken, given } := by
  have untouched {other : ι} (different : other ≠ conn) :
      Function.update conns.reading conn changed other = conns.reading other :=
    Function.update_of_ne different _ _
  cases pending with
  | @stamping other found result there stands latest =>
    have different : other ≠ conn := by
      rintro rfl
      exact (plain found there).1 result stands
    exact .stamping ((untouched different).trans there) stands latest
  | @storing other found result stamp there stands latest =>
    have different : other ≠ conn := by
      rintro rfl
      exact (plain found there).2 result stamp stands
    exact .storing ((untouched different).trans there) stands latest

theorem Timely.update (timely : Timely timeout lag conns) {changed : Option Reading}
    {taken given : ι → List Bytes}
    (own : ∀ after, changed = some after → after.Timely timeout lag conns.heard conns.now)
    (noticed : Pending conns → Pending { conns with
      reading := Function.update conns.reading conn changed, taken, given }) :
    Timely timeout lag { conns with
      reading := Function.update conns.reading conn changed, taken, given } := by
  refine ⟨?_, timely.past, timely.bounded, timely.noticed.imp_right noticed⟩
  intro other found there
  by_cases same : other = conn
  · subst same
    exact own found ((Function.update_self other changed conns.reading).symm.trans there)
  · exact timely.each other found
      ((Function.update_of_ne same changed conns.reading).symm.trans there)

theorem Timely.goTo (timely : Timely timeout lag conns) {point : Point}
    (plain : conns.Plain conn)
    (own : Reading.Timely timeout lag conns.heard conns.now
      { reading with since := conns.now, point }) :
    Timely timeout lag (conns.goTo conn reading point) := by
  refine timely.update ?_ fun pending => pending.elsewhere plain _ _ _
  rintro after ⟨⟩
  exact own

theorem Timely.handBack (timely : Timely timeout lag conns) {result : Result}
    (plain : conns.Plain conn) : Timely timeout lag (conns.handBack conn result) :=
  timely.update nofun fun pending => pending.elsewhere plain _ _ _

theorem Timely.move {move : Move} (timely : Timely timeout lag conns) (lags : 0 ≤ lag)
    (positive : 0 ≤ timeout) (present : conns.reading conn = some reading)
    (moved : conns.move timeout conn reading move = some next) : Timely timeout lag next := by
  have past := timely.past
  have bounded := timely.bounded
  obtain ⟨called, begun, since, turn, due, fits⟩ := timely.each conn reading present
  cases move_moved moved with
  | armed stands =>
    simp only [Reading.due, Reading.Fits, stands] at due fits
    refine timely.goTo (plain_of present stands nofun nofun) ?_
    refine ⟨called, by dsimp only; omega, le_rfl, turn, ?_, ?_⟩
    · simp only [Reading.due]
      omega
    · simp only [Reading.Fits]
      omega
  | closed stands => exact timely.handBack (plain_of present stands nofun nofun)
  | @nothing deadline result stands exceeded =>
    simp only [Reading.due, Reading.Fits, stands] at due fits
    refine timely.goTo (plain_of present stands nofun nofun) ?_
    refine ⟨called, by dsimp only; omega, le_rfl, turn, ?_, ?_⟩
    · simp only [Reading.due]
      omega
    · refine ⟨by dsimp only; omega, fun late => ?_⟩
      have passed := exceeded late
      dsimp only
      omega
  | @received deadline result stands exceeded =>
    simp only [Reading.due, Reading.Fits, stands] at due fits
    refine ⟨?_, le_rfl, by dsimp only [Conns.goTo]; omega, .inr ?_⟩
    · intro other found there
      by_cases same : other = conn
      · subst same
        simp only [Conns.goTo, Function.update_self] at there
        cases there
        refine ⟨called, by dsimp only; omega, le_rfl, by dsimp only; omega, ?_, ?_⟩
        · simp only [Reading.due, Conns.goTo]
          omega
        · refine ⟨by dsimp only; omega, le_rfl, fun late => ?_⟩
          have passed := exceeded late
          dsimp only
          omega
      · simp only [Conns.goTo, Function.update_of_ne same] at there
        exact (timely.each other found there).hear lags past
    · exact .stamping (Function.update_self ..) rfl le_rfl
  | @stamped result stands =>
    simp only [Reading.due, Reading.Fits, stands] at due fits
    refine timely.update ?_ fun _ => .storing (Function.update_self ..) rfl past
    rintro after ⟨⟩
    refine ⟨called, by dsimp only; omega, le_rfl, turn, ?_, ?_⟩
    · simp only [Reading.due]
      omega
    · exact ⟨rfl, by dsimp only; omega, by omega, fun late => (fits.2.2 late).trans since⟩
  | @stored result stamp stands =>
    simp only [Reading.due, Reading.Fits, stands] at due fits
    obtain ⟨rfl, within, bound, waited⟩ := fits
    refine ⟨?_, past, bound, .inl (by dsimp only [Conns.goTo]; omega)⟩
    intro other found there
    by_cases same : other = conn
    · subst same
      simp only [Conns.goTo, Function.update_self] at there
      cases there
      refine ⟨called, by dsimp only; omega, le_rfl, turn, ?_, ?_⟩
      · simp only [Reading.due, Conns.goTo]
        omega
      · exact ⟨by dsimp only; omega, fun late => (waited late).trans since⟩
    · simp only [Conns.goTo, Function.update_of_ne same] at there
      exact timely.each other found there
  | @loaded result stands exceeded =>
    have seen := timely.noticed.imp_right (timely.soon lags)
    simp only [Reading.due, Reading.Fits, stands] at due fits
    refine timely.goTo (plain_of present stands nofun nofun) ?_
    have waited := fits.2 exceeded
    refine ⟨called, by dsimp only; omega, le_rfl, turn, ?_, ?_⟩
    · simp only [Reading.due]
      omega
    · simp only [Reading.Fits]
      omega
  | finished stands => exact timely.handBack (plain_of present stands nofun nofun)
  | @again result seen stands active =>
    simp only [Reading.due, Reading.Fits, stands] at due fits
    refine timely.goTo (plain_of present stands nofun nofun) ?_
    refine ⟨by dsimp only; omega, le_rfl, le_rfl, .inr (by dsimp only; omega), ?_, le_rfl⟩
    simp only [Reading.due]
    omega
  | idle stands => exact timely.handBack (plain_of present stands nofun nofun)

theorem Timely.step {action : Action ι} (timely : Timely timeout lag conns) (lags : 0 ≤ lag)
    (positive : 0 ≤ timeout) (prompt : Prompt lag conns action)
    (stepped : conns.step timeout action = some next) : Timely timeout lag next := by
  have past := timely.past
  cases action with
  | pass duration =>
    cases stepped
    have passes : conns.now ≤ conns.now + duration := by omega
    refine ⟨?_, past.trans passes, timely.bounded, timely.noticed.imp_right ?_⟩
    · intro conn reading present
      exact (timely.each conn reading present).pass passes (prompt conn reading present)
    · rintro (⟨present, stands, latest⟩ | ⟨present, stands, latest⟩)
      · exact .stamping present stands latest
      · exact .storing present stands latest
  | read conn =>
    simp only [Conns.step] at stepped
    split at stepped
    · rename_i absent
      cases stepped
      refine timely.goTo (fun found present => by cases absent.symm.trans present) ?_
      exact ⟨le_rfl, le_rfl, le_rfl, .inl le_rfl, by simpa [Reading.due] using lags, le_rfl⟩
    · cases stepped
  | move conn move =>
    simp only [Conns.step] at stepped
    split at stepped
    · cases stepped
    · rename_i reading present
      exact timely.move lags positive present stepped

private theorem timely_of_reaches {start : Int} (lags : 0 ≤ lag) (positive : 0 ≤ timeout)
    (reached : (machine timeout ι start).Reaches (Prompt lag) conns) : Timely timeout lag conns :=
  reached.invariant (timely_opened start lags) fun _ _ _ _ timely prompt stepped =>
    timely.step lags positive prompt stepped

/-- A call is never stuck: at its deadline at the latest it can take its next step. -/
theorem move_enabled (conns : Conns ι) (conn : ι) (reading : Reading)
    (passed : ∀ deadline, reading.point = .waiting deadline → deadline ≤ conns.now) :
    ∃ move, (conns.move timeout conn reading move).isSome := by
  cases stands : reading.point with
  | arming => exact ⟨.arm true, by simp [Conns.move, stands]⟩
  | waiting deadline =>
    have late := passed deadline stands
    exact ⟨.receive ⟨[], some .deadlineExceeded⟩, by simp [Conns.move, stands, late]⟩
  | stamping result => exact ⟨.stamp, by simp [Conns.move, stands]⟩
  | storing result stamp => exact ⟨.store, by simp [Conns.move, stands]⟩
  | checking result =>
    refine ⟨.load, ?_⟩
    simp only [Conns.move, stands]
    split <;> rfl
  | deciding result seen =>
    refine ⟨.decide, ?_⟩
    simp only [Conns.move, stands]
    split <;> rfl

/-- A client is waited for, up to its deadline. -/
def quietClient : Conns Link :=
  ((machine 10 Link 0).after [.read .client, .move .client (.arm true), .pass 10]).get (by decide)

private theorem quietClient_reached : (machine 10 Link 0).Reaches (Prompt 1) quietClient := by
  have armed := @Machine.Reaches.foldlM _ _ (machine 10 Link 0) (Prompt 1) _ _
    [.read .client, .move .client (.arm true)] .start (by simp [Prompt]) rfl
  refine @Machine.Reaches.step _ _ _ _ _ _ (.pass 10) armed ?_ rfl
  rintro (_ | _ | _) reading present
  · cases present
    decide
  · cases present
  · cases present

/-- No read outlasts an idle session by more than twice the timeout: the first deadline may
fall just short of the timeout after the last activity, and then another one is set. Up to
its deadline, and then at every point, the call is able to go on. -/
theorem idle_read_ends {start : Int} (lags : 0 ≤ lag) (positive : 0 ≤ timeout)
    (reached : (machine timeout ι start).Reaches (Prompt lag) conns)
    (present : conns.reading conn = some reading) :
    conns.now ≤ max reading.called (conns.heard + lag + timeout) + timeout + 6 * lag ∧
      ((∀ deadline, reading.point = .waiting deadline → deadline ≤ conns.now) →
        ∃ move, (conns.step timeout (.move conn move)).isSome) := by
  obtain ⟨called, begun, since, turn, due, fits⟩ :=
    (timely_of_reaches lags positive reached).each conn reading present
  refine ⟨?_, ?_⟩
  · cases stands : reading.point <;> simp only [Reading.due, Reading.Fits, stands] at due fits <;>
      omega
  · intro passed
    obtain ⟨move, enabled⟩ := @move_enabled _ _ timeout conns conn reading passed
    exact ⟨move, by simpa only [Conns.step, present] using enabled⟩

theorem idle_read_ends_quietClient :
    quietClient.now ≤ max 0 (quietClient.heard + 1 + 10) + 10 + 6 :=
  (idle_read_ends (by decide) (by decide) quietClient_reached
    (show quietClient.reading .client = some ⟨0, 0, 0, .waiting 10⟩ from rfl)).1

/-- A read returns what the connection says, or nothing because it is closed, or it has waited
for the whole timeout on a session that nobody has used meanwhile. What was heard within
the lag may come too late for it. -/
theorem idle_read_returns {start : Int} (lags : 0 ≤ lag) (positive : 0 ≤ timeout)
    (reached : (machine timeout ι start).Reaches (Prompt lag) conns)
    (present : conns.reading conn = some reading) {move : Move}
    (stepped : conns.step timeout (.move conn move) = some next)
    (returned : next.reading conn = none) :
    (∃ result, reading.point = .checking result ∧ result.error ≠ some .deadlineExceeded) ∨
      (reading.point = .arming ∧ move = .arm false) ∨
      (reading.called + timeout ≤ conns.now ∧
        (conns.heard + timeout ≤ conns.now + lag ∨ conns.now ≤ conns.heard + 3 * lag)) := by
  obtain ⟨called, begun, since, turn, due, fits⟩ :=
    (timely_of_reaches lags positive reached).each conn reading present
  simp only [Conns.step, present] at stepped
  cases move_moved stepped with
  | closed stands => exact .inr (.inl ⟨stands, rfl⟩)
  | finished stands ordinary => exact .inl ⟨_, stands, ordinary⟩
  | idle stands quiet =>
    simp only [Reading.due, Reading.Fits, stands] at due fits
    exact .inr (.inr ⟨by omega, by omega⟩)
  | _ => simp [Conns.goTo] at returned

/-- The deadline passes, and nobody has used the session. -/
def idleClient : Conns Link :=
  ([.move .client (.receive ⟨[], some .deadlineExceeded⟩), .move .client .load].foldlM
    (machine 10 Link 0).step quietClient).get (by decide)

theorem idle_read_returns_idleClient :
    0 + 10 ≤ idleClient.now ∧
      (idleClient.heard + 10 ≤ idleClient.now + 1 ∨ idleClient.now ≤ idleClient.heard + 3) := by
  have reached : (machine 10 Link 0).Reaches (Prompt 1) idleClient :=
    quietClient_reached.foldlM _ (by simp [Prompt]) (Option.some_get _).symm
  obtain ⟨result, stands, -⟩ | ⟨stands, -⟩ | bounds :=
    @idle_read_returns _ _ _ _ _ _ _ _ _ (by decide) (by decide) reached
      (show idleClient.reading .client = some ⟨0, 0, 10, .deciding _ 0⟩ from rfl) .decide
      (Option.some_get (show (idleClient.step 10 (.move .client .decide)).isSome by decide)).symm
      (by decide)
  · cases stands
  · cases stands
  · exact bounds

end Timeliness

section Transparency

/-- A connection that never returns bytes together with an exceeded deadline. -/
def Untorn : Conns ι → Action ι → Prop
  | _, .move _ (.receive result) => result.bytes = [] ∨ result.error ≠ some .deadlineExceeded
  | _, _ => True

def result? (reading : Reading) : Option Result :=
  match reading.point with
  | .stamping result => some result
  | .storing result _ => some result
  | .checking result => some result
  | .deciding result _ => some result
  | _ => none

def parts (result : Result) : List Bytes := if result.bytes = [] then [] else [result.bytes]

/-- What a call has read and not yet handed on. -/
def held (reading : Option Reading) : List Bytes := ((reading.bind result?).map parts).getD []

/-- The invariant of the bytes: all that were read are in a call's hands or were handed on. -/
structure Whole (conns : Conns ι) : Prop where
  kept : ∀ conn, conns.taken conn = held (conns.reading conn) ++ conns.given conn
  untorn : ∀ conn reading result, conns.reading conn = some reading →
    result? reading = some result → result.bytes = [] ∨ result.error ≠ some .deadlineExceeded
  exceeded : ∀ conn reading result seen, conns.reading conn = some reading →
    reading.point = .deciding result seen → result.error = some .deadlineExceeded

omit [DecidableEq ι] in
private theorem whole_opened (start : Int) : Whole (opened ι start) where
  kept _ := rfl
  untorn _ _ _ absent := by cases absent
  exceeded _ _ _ _ absent := by cases absent

theorem Whole.change (whole : Whole conns) {changed : Option Reading} {activity heard : Int}
    {taken given : ι → List Bytes}
    (elsewhere : ∀ other, other ≠ conn →
      taken other = conns.taken other ∧ given other = conns.given other)
    (kept : taken conn = held changed ++ given conn)
    (untorn : ∀ after result, changed = some after → result? after = some result →
      result.bytes = [] ∨ result.error ≠ some .deadlineExceeded)
    (exceeded : ∀ after result seen, changed = some after → after.point = .deciding result seen →
      result.error = some .deadlineExceeded) :
    Whole { conns with
      reading := Function.update conns.reading conn changed, activity, heard, taken, given } := by
  refine ⟨?_, ?_, ?_⟩
  · intro other
    by_cases same : other = conn
    · subst same
      simpa only [Function.update_self] using kept
    · obtain ⟨read, passed⟩ := elsewhere other same
      simpa only [Function.update_of_ne same, read, passed] using whole.kept other
  · intro other after result there
    by_cases same : other = conn
    · subst same
      exact untorn after result (by simpa only [Function.update_self] using there)
    · exact whole.untorn other after result ((Function.update_of_ne same ..).symm.trans there)
  · intro other after result seen there
    by_cases same : other = conn
    · subst same
      exact exceeded after result seen (by simpa only [Function.update_self] using there)
    · exact whole.exceeded other after result seen
        ((Function.update_of_ne same ..).symm.trans there)

theorem Whole.goTo (whole : Whole conns) {before : Reading} {point : Point} {activity : Int}
    (present : conns.reading conn = some before)
    (same : result? { reading with since := conns.now, point } = result? before)
    (exceeded : ∀ result seen, point = .deciding result seen →
      result.error = some .deadlineExceeded) :
    Whole { conns.goTo conn reading point with activity } := by
  refine whole.change (fun _ _ => ⟨rfl, rfl⟩) ?_ ?_ ?_
  · have before := whole.kept conn
    simpa only [present, held, Option.bind_some, same, Conns.goTo] using before
  · rintro after result ⟨⟩ holds
    exact whole.untorn conn before result present (same.symm.trans holds)
  · rintro after result seen ⟨⟩ stands
    exact exceeded result seen stands

theorem Whole.handBack (whole : Whole conns) {result : Result}
    (present : conns.reading conn = some reading)
    (holds : ((result? reading).map parts).getD [] = parts result) :
    Whole (conns.handBack conn result) := by
  refine whole.change ?_ ?_ nofun nofun
  · intro other different
    refine ⟨rfl, ?_⟩
    split
    · rfl
    · exact Function.update_of_ne different ..
  · have before := whole.kept conn
    rw [present, held, Option.bind_some, holds] at before
    unfold parts at before
    split
    · rename_i empty
      simpa [held, empty] using before
    · rename_i nonempty
      simpa [held, nonempty] using before

theorem Whole.move {move : Move} (whole : Whole conns) (present : conns.reading conn = some reading)
    (untorn : Untorn conns (.move conn move))
    (moved : conns.move timeout conn reading move = some next) : Whole next := by
  cases move_moved moved with
  | armed stands => exact whole.goTo present (by simp [result?, stands]) nofun
  | closed stands => exact whole.handBack present (by simp [result?, stands, parts])
  | @nothing deadline result stands timely empty =>
    refine whole.change (fun _ _ => ⟨rfl, rfl⟩) ?_ ?_ (by rintro after found seen ⟨⟩ ⟨⟩)
    · simpa [present, held, result?, stands, parts, empty] using whole.kept conn
    · rintro after found ⟨⟩ ⟨⟩
      exact .inl empty
  | @received deadline result stands timely nonempty =>
    refine whole.change ?_ ?_ ?_ (by rintro after found seen ⟨⟩ ⟨⟩)
    · intro other different
      exact ⟨Function.update_of_ne different .., rfl⟩
    · have before := whole.kept conn
      simpa [present, held, result?, stands, parts, nonempty, Conns.goTo] using before
    · rintro after found ⟨⟩ ⟨⟩
      exact untorn
  | stamped stands => exact whole.goTo present (by simp [result?, stands]) nofun
  | stored stands => exact whole.goTo present (by simp [result?, stands]) nofun
  | loaded stands exceeded =>
    refine whole.goTo present (by simp [result?, stands]) ?_
    rintro result seen ⟨⟩
    exact exceeded
  | finished stands => exact whole.handBack present (by simp [result?, stands])
  | @again result seen stands active =>
    -- nothing is lost: a result with an exceeded deadline has no bytes
    have exceeded := whole.exceeded conn reading result seen present stands
    have untorn := whole.untorn conn reading result present (by simp [result?, stands])
    have empty := untorn.resolve_right fun ordinary => ordinary exceeded
    refine whole.change (fun _ _ => ⟨rfl, rfl⟩) ?_ (by rintro after found ⟨⟩ ⟨⟩)
      (by rintro after found seen ⟨⟩ ⟨⟩)
    simpa [present, held, result?, stands, parts, empty] using whole.kept conn
  | idle stands => exact whole.handBack present (by simp [result?, stands])

theorem Whole.step {action : Action ι} (whole : Whole conns) (untorn : Untorn conns action)
    (stepped : conns.step timeout action = some next) : Whole next := by
  cases action with
  | pass duration =>
    cases stepped
    exact ⟨whole.kept, whole.untorn, whole.exceeded⟩
  | read conn =>
    simp only [Conns.step] at stepped
    split at stepped
    · rename_i absent
      cases stepped
      refine whole.change (fun _ _ => ⟨rfl, rfl⟩) ?_ (by rintro after found ⟨⟩ ⟨⟩)
        (by rintro after found seen ⟨⟩ ⟨⟩)
      simpa [absent, held, result?] using whole.kept conn
    · cases stepped
  | move conn move =>
    simp only [Conns.step] at stepped
    split at stepped
    · cases stepped
    · rename_i reading present
      exact whole.move present untorn stepped

/-- The timeout takes nothing away: at all times what the reads of a connection have returned
is what came over the connection, in its order, up to what the current call still holds. This
needs a connection that does not return bytes together with an exceeded deadline. -/
theorem idle_transparent {start : Int}
    (reached : (machine timeout ι start).Reaches Untorn conns) (conn : ι) :
    conns.taken conn = held (conns.reading conn) ++ conns.given conn ∧
      (conns.reading conn = none → conns.given conn = conns.taken conn) := by
  have whole : Whole conns := reached.invariant (whole_opened start)
    fun _ _ _ _ whole untorn stepped => whole.step untorn stepped
  refine ⟨whole.kept conn, ?_⟩
  intro absent
  rw [whole.kept conn, absent]
  rfl

/-- Bytes that come with an exceeded deadline are lost while the session is active. -/
example : ((machine 10 Link 0).after [.read .client, .move .client (.arm true), .pass 10,
    .move .client (.receive ⟨[43], some .deadlineExceeded⟩), .move .client .stamp,
    .move .client .store, .move .client .load, .move .client .decide]).map
      (fun conns => (conns.taken .client, held (conns.reading .client), conns.given .client)) =
    some ([[43]], [], []) := by decide

/-- Two reads over a connection, the second one still under way. -/
def busyClient : Conns Link :=
  ((machine 10 Link 0).after [.read .client, .move .client (.arm true),
    .move .client (.receive ⟨[43, 79], none⟩), .move .client .stamp, .move .client .store,
    .move .client .load, .read .client, .move .client (.arm true),
    .move .client (.receive ⟨[75], none⟩)]).get (by decide)

theorem idle_transparent_busyClient :
    busyClient.taken .client = held (busyClient.reading .client) ++ busyClient.given .client ∧
      busyClient.given .client = [[43, 79]] := by
  have reached : (machine 10 Link 0).Reaches Untorn busyClient :=
    Machine.Reaches.foldlM _ .start (by simp [Untorn]) (Option.some_get _).symm
  exact ⟨(idle_transparent reached .client).1, by decide⟩

end Transparency

end Conns

end SentinelProxy.Proxy
