import Mathlib.Order.WellFounded
import SentinelProxy.Transition.Machine

/-! Goals a machine is driven at: every step of its own brings it closer, and whoever else takes
steps cannot take that back. -/

namespace SentinelProxy.Transition

namespace Machine

variable {machine : Machine σ α} {willing : σ → α → Prop} {goal holds : σ → Prop}

/-- What steps that do not count lead to. -/
def Drifts (machine : Machine σ α) (aside : σ → α → Prop) : σ → σ → Prop :=
  Relation.ReflTransGen fun state next =>
    ∃ action, aside state action ∧ machine.step state action = some next

/-- However many other steps come in between, the next of the machine's own steps brings it
closer to the goal, and until it is there one of the steps that are to be expected can be taken:
only who holds these up for good can keep the machine from the goal. -/
inductive Driven (machine : Machine σ α) (own aside willing : σ → α → Prop) (goal : σ → Prop) :
    σ → Prop where
  | now {state : σ} (there : goal state) : Driven machine own aside willing goal state
  | later {state : σ}
      (able : ∀ middle, machine.Drifts aside state middle → goal middle ∨
        ∃ action next, willing middle action ∧ machine.step middle action = some next)
      (all : ∀ middle action next, machine.Drifts aside state middle → own middle action →
        machine.step middle action = some next → Driven machine own aside willing goal next) :
      Driven machine own aside willing goal state

variable {own aside : σ → α → Prop}

theorem Drifts.invariant {state last : σ} (holds : σ → Prop)
    (drifts : machine.Drifts aside state last)
    (kept : ∀ state action next, holds state → aside state action →
      machine.step state action = some next → holds next) (holding : holds state) :
    holds last := by
  induction drifts with
  | refl => exact holding
  | tail _ last ih =>
    obtain ⟨action, beside, stepped⟩ := last
    exact kept _ action _ ih beside stepped

/-- A goal is driven at if the machine is never stuck before it, its own steps cost something
or are there, and the others do not pay it back. -/
theorem Driven.of_measure {β : Type w} [Preorder β] [WellFoundedLT β] (measure : σ → β)
    (kept : ∀ state action next, holds state → own state action →
      machine.step state action = some next →
        goal next ∨ holds next ∧ measure next < measure state)
    (beside : ∀ state action next, holds state → aside state action →
      machine.step state action = some next → holds next ∧ measure next ≤ measure state)
    (able : ∀ state, holds state → ¬goal state →
      ∃ action next, willing state action ∧ machine.step state action = some next)
    {state : σ} (holding : holds state) : machine.Driven own aside willing goal state := by
  generalize size : measure state = bound
  induction bound using WellFoundedLT.induction generalizing state with
  | ind bound ih =>
    subst size
    have drifted {middle : σ} (drifts : machine.Drifts aside state middle) :
        holds middle ∧ measure middle ≤ measure state := by
      refine drifts.invariant (fun middle => holds middle ∧ measure middle ≤ measure state) ?_
        ⟨holding, le_rfl⟩
      intro before action after ⟨still, less⟩ other stepped
      obtain ⟨remains, no_more⟩ := beside before action after still other stepped
      exact ⟨remains, no_more.trans less⟩
    refine .later ?_ ?_
    · intro middle drifts
      by_cases there : goal middle
      · exact .inl there
      · exact .inr (able middle (drifted drifts).1 there)
    · intro middle action next drifts ours stepped
      obtain ⟨still, less⟩ := drifted drifts
      rcases kept middle action next still ours stepped with there | ⟨after, lower⟩
      · exact .now there
      · exact ih _ (lower.trans_le less) after rfl

end Machine

end SentinelProxy.Transition
