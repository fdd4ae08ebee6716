import Mathlib.Data.List.Basic
import Mathlib.Algebra.Order.Ring.Int
import Mathlib.Tactic.Ring

/-! Moments in time that keep a distance, and how many of them fit into a window. -/

namespace SentinelProxy.Counting

/-- Moments, the latest first, each at least `gap` after all earlier ones. -/
def Spaced (gap : Int) (times : List Int) : Prop :=
  times.Pairwise fun later earlier => earlier + gap ≤ later

theorem Spaced.nil (gap : Int) : Spaced gap [] := List.Pairwise.nil

/-- It is enough to keep the distance from the moment before. -/
theorem Spaced.cons {gap time : Int} {times : List Int} (spaced : Spaced gap times)
    (nonneg : 0 ≤ gap) (apart : ∀ last, times.head? = some last → last + gap ≤ time) :
    Spaced gap (time :: times) := by
  refine List.pairwise_cons.mpr ⟨?_, spaced⟩
  intro earlier member
  cases times with
  | nil => cases member
  | cons last times =>
    have near := apart last rfl
    rcases List.mem_cons.mp member with rfl | older
    · exact near
    · have far := (List.pairwise_cons.mp spaced).1 earlier older
      omega

/-- So many moments take at least so much time. -/
theorem Spaced.extent {gap first last : Int} {times : List Int} (spaced : Spaced gap times)
    (nonneg : 0 ≤ gap) (after : ∀ time ∈ times, first ≤ time)
    (before : ∀ time ∈ times, time ≤ last) (within : first ≤ last) :
    ((times.length : Int) - 1) * gap ≤ last - first := by
  induction times generalizing last with
  | nil =>
    simp only [List.length_nil, Int.ofNat_zero]
    omega
  | cons time times ih =>
    obtain ⟨apart, spaced⟩ := List.pairwise_cons.mp spaced
    have reached := before time List.mem_cons_self
    rw [List.length_cons]
    cases times with
    | nil =>
      simp only [List.length_nil, Nat.zero_add, Nat.cast_one, sub_self, zero_mul]
      omega
    | cons other times =>
      have begun := after other (by simp)
      have near := apart other List.mem_cons_self
      have shorter := @ih (time - gap) spaced
        (fun earlier member => after earlier (List.mem_cons_of_mem time member))
        (fun earlier member => by have := apart earlier member; omega) (by omega)
      have split : (((other :: times).length + 1 : Nat) - 1 : Int) * gap =
          (((other :: times).length : Int) - 1) * gap + gap := by
        push_cast
        ring
      rw [split]
      omega

/-- How many moments fit into a window. -/
theorem Spaced.window {gap first last : Int} {times : List Int} (spaced : Spaced gap times)
    (positive : 0 < gap) (within : first ≤ last) :
    ((times.filter fun time => first ≤ time ∧ time ≤ last).length : Int) ≤
      (last - first) / gap + 1 := by
  have inside : ∀ time ∈ times.filter fun time => first ≤ time ∧ time ≤ last,
      first ≤ time ∧ time ≤ last := by
    intro time member
    simpa using (List.mem_filter.mp member).2
  have extent := Spaced.extent (spaced.filter _) positive.le
    (fun time member => (inside time member).1) (fun time member => (inside time member).2) within
  have fits := (Int.le_ediv_iff_mul_le positive).mpr extent
  omega

end SentinelProxy.Counting
