import Mathlib.Logic.Relation

/-! Machines that take one labelled step at a time: what their runs lead to, invariants of
all runs, and simulations of one machine by another. -/

namespace SentinelProxy.Transition

/-- A machine with its first state; `none` is a step that cannot be taken. -/
structure Machine (σ : Type u) (α : Type v) where
  start : σ
  step : σ → α → Option σ

namespace Machine

/-- What runs of allowed steps lead to. -/
inductive Reaches (machine : Machine σ α) (allowed : σ → α → Prop) : σ → Prop where
  | start : Reaches machine allowed machine.start
  | step {state next : σ} {action : α} (earlier : Reaches machine allowed state)
      (permitted : allowed state action) (stepped : machine.step state action = some next) :
      Reaches machine allowed next

/-- The state after a list of actions. -/
def after (machine : Machine σ α) (actions : List α) : Option σ :=
  actions.foldlM machine.step machine.start

variable {machine : Machine σ α} {allowed : σ → α → Prop} {state : σ}

/-- What holds at the start and is kept by every step of a run holds throughout. -/
theorem Reaches.invariant {holds : σ → Prop} (reached : machine.Reaches allowed state)
    (initially : holds machine.start)
    (kept : ∀ state action next, machine.Reaches allowed state → holds state →
      allowed state action → machine.step state action = some next → holds next) :
    holds state := by
  induction reached with
  | start => exact initially
  | step earlier permitted stepped ih => exact kept _ _ _ earlier ih permitted stepped

/-- Further steps, all of them allowed. -/
theorem Reaches.foldlM {last : σ} (actions : List α) (reached : machine.Reaches allowed state)
    (permitted : ∀ action ∈ actions, ∀ state, allowed state action)
    (ran : actions.foldlM machine.step state = some last) : machine.Reaches allowed last := by
  induction actions generalizing state with
  | nil =>
    cases ran
    exact reached
  | cons action actions ih =>
    rw [List.foldlM_cons] at ran
    obtain ⟨next, stepped, ran⟩ := Option.bind_eq_some_iff.mp ran
    exact ih (reached.step (permitted action List.mem_cons_self state) stepped)
      (fun later member => permitted later (List.mem_cons_of_mem action member)) ran

theorem Reaches.after {actions : List α} (ran : machine.after actions = some state) :
    machine.Reaches (fun _ _ => True) state :=
  Reaches.foldlM actions .start (fun _ _ _ => trivial) ran

end Machine

/-- Every step of the one machine is a step of the other, or is not seen there. -/
structure Simulation (concrete : Machine σ α) (abstract : Machine τ β) (view : σ → τ) : Prop where
  start : view concrete.start = abstract.start
  step : ∀ {state action next}, concrete.Reaches (fun _ _ => True) state →
    concrete.step state action = some next →
    view next = view state ∨ ∃ shadow, abstract.step (view state) shadow = some (view next)

theorem Simulation.reaches {concrete : Machine σ α} {abstract : Machine τ β} {view : σ → τ}
    {state : σ} (simulation : Simulation concrete abstract view)
    (reached : concrete.Reaches (fun _ _ => True) state) :
    abstract.Reaches (fun _ _ => True) (view state) := by
  induction reached with
  | start =>
    rw [simulation.start]
    exact .start
  | step earlier _ stepped ih =>
    rcases simulation.step earlier stepped with same | ⟨shadow, moved⟩
    · rw [same]
      exact ih
    · exact ih.step trivial moved

end SentinelProxy.Transition
