import Mathlib.Data.List.Basic

/-! Tasks that are started together and waited for together: the first error that one of them
returns is the error of them all. -/

namespace SentinelProxy.Transition

/-- The tasks that have not reported yet, and the first error that was reported. -/
structure Group (ι : Type u) (ε : Type v) where
  running : List ι
  failure : Option ε
  deriving DecidableEq, Repr

namespace Group

variable {ι : Type u} {ε : Type v}

/-- Waiting for the group returns its error once all tasks have reported. -/
def wait (group : Group ι ε) : Option (Option ε) :=
  if group.running.isEmpty then some group.failure else none

/-- What the group knows agrees with what its tasks have returned. -/
structure Tells (group : Group ι ε) (result : ι → Option (Option ε)) : Prop where
  reported : ∀ task, task ∉ group.running → ∃ outcome, result task = some outcome
  error : ∀ error, group.failure = some error → ∃ task, result task = some (some error)
  clean : group.failure = none → ∀ task, task ∉ group.running → result task = some none

variable {group next : Group ι ε} {result later : ι → Option (Option ε)} {outcome : Option ε}

theorem Tells.start {tasks : List ι} (all : ∀ task, task ∈ tasks) :
    Tells (⟨tasks, none⟩ : Group ι ε) result :=
  ⟨fun task absent => absurd (all task) absent, nofun,
    fun _ task absent => absurd (all task) absent⟩

/-- A task returns once. -/
theorem Tells.mono (tells : group.Tells result)
    (kept : ∀ task outcome, result task = some outcome → later task = some outcome) :
    group.Tells later := by
  refine ⟨?_, ?_, ?_⟩
  · intro task absent
    obtain ⟨outcome, returned⟩ := tells.reported task absent
    exact ⟨outcome, kept task outcome returned⟩
  · intro error failed
    obtain ⟨task, returned⟩ := tells.error error failed
    exact ⟨task, kept task _ returned⟩
  · intro fine task absent
    exact kept task none (tells.clean fine task absent)

theorem wait_eq_some :
    group.wait = some outcome ↔ group.running = [] ∧ group.failure = outcome := by
  unfold wait
  split
  · rename_i empty
    simp [List.isEmpty_iff.mp empty]
  · rename_i busy
    simp [mt List.isEmpty_iff.mpr busy]

/-- When the wait is over every task has returned. -/
theorem Tells.all (tells : group.Tells result) (waited : group.wait = some outcome) (task : ι) :
    ∃ outcome, result task = some outcome := by
  refine tells.reported task ?_
  rw [(wait_eq_some.mp waited).1]
  exact List.not_mem_nil

/-- The wait is over without an error only if no task has returned one. -/
theorem Tells.quiet (tells : group.Tells result) (waited : group.wait = some none) (task : ι) :
    result task = some none := by
  obtain ⟨empty, fine⟩ := wait_eq_some.mp waited
  refine tells.clean fine task ?_
  rw [empty]
  exact List.not_mem_nil

variable [DecidableEq ι]

/-- A task reports its outcome; all errors but the first are dropped. -/
def finish (group : Group ι ε) (task : ι) (outcome : Option ε) : Option (Group ι ε) :=
  if task ∈ group.running then
    some ⟨group.running.filter (· ≠ task), group.failure.or outcome⟩
  else none

variable {task : ι}

theorem finish_eq_some (finished : group.finish task outcome = some next) :
    task ∈ group.running ∧ next.running = group.running.filter (· ≠ task) ∧
      next.failure = group.failure.or outcome := by
  unfold finish at finished
  split at finished
  · rename_i present
    cases finished
    exact ⟨present, rfl, rfl⟩
  · cases finished

theorem running_finish_lt (finished : group.finish task outcome = some next) :
    next.running.length < group.running.length := by
  obtain ⟨present, running, -⟩ := finish_eq_some finished
  rw [running]
  exact List.length_filter_lt_length_iff_exists.mpr ⟨task, present, by simp⟩

theorem Tells.finish (tells : group.Tells result) (returned : result task = some outcome)
    (finished : group.finish task outcome = some next) : next.Tells result := by
  obtain ⟨-, running, failure⟩ := finish_eq_some finished
  have split {other : ι} (absent : other ∉ next.running) :
      other = task ∨ other ∉ group.running := by
    by_cases same : other = task
    · exact .inl same
    · refine .inr fun present => absent ?_
      rw [running]
      exact List.mem_filter.mpr ⟨present, by simpa using same⟩
  refine ⟨?_, ?_, ?_⟩
  · intro other absent
    rcases split absent with rfl | earlier
    · exact ⟨outcome, returned⟩
    · exact tells.reported other earlier
  · intro error failed
    rw [failure, Option.or_eq_some_iff] at failed
    rcases failed with before | ⟨-, rfl⟩
    · exact tells.error error before
    · exact ⟨task, returned⟩
  · intro fine other absent
    rw [failure, Option.or_eq_none_iff] at fine
    rcases split absent with rfl | earlier
    · rw [returned, fine.2]
    · exact tells.clean fine.1 other earlier

end Group

end SentinelProxy.Transition
