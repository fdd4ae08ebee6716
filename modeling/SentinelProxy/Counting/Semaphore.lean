import Mathlib.Data.List.Basic

/-! A counting semaphore as a channel of tokens has it: a fixed number of slots, taken
without waiting or not at all, and given back one at a time. -/

namespace SentinelProxy.Counting

/-- Slots of which never more are taken than there are. -/
structure Semaphore where
  capacity : Nat
  taken : Nat
  fits : taken ≤ capacity
  deriving DecidableEq, Repr

namespace Semaphore

def new (capacity : Nat) : Semaphore := ⟨capacity, 0, Nat.zero_le capacity⟩

/-- Take a slot if one is free. -/
def tryAcquire (semaphore : Semaphore) : Option Semaphore :=
  if free : semaphore.taken < semaphore.capacity then
    some ⟨semaphore.capacity, semaphore.taken + 1, free⟩
  else none

/-- Give a slot back. While none is taken this waits for one. -/
def release (semaphore : Semaphore) : Option Semaphore :=
  if 0 < semaphore.taken then
    some ⟨semaphore.capacity, semaphore.taken - 1, Nat.le_trans (Nat.sub_le _ 1) semaphore.fits⟩
  else none

variable {semaphore next : Semaphore}

theorem tryAcquire_some (acquired : semaphore.tryAcquire = some next) :
    next.capacity = semaphore.capacity ∧ next.taken = semaphore.taken + 1 ∧
      semaphore.taken < semaphore.capacity := by
  unfold tryAcquire at acquired
  split at acquired
  · rename_i free
    cases acquired
    exact ⟨rfl, rfl, free⟩
  · cases acquired

/-- A slot is refused exactly when all are taken. -/
theorem tryAcquire_none : semaphore.tryAcquire = none ↔ semaphore.taken = semaphore.capacity := by
  have bound := semaphore.fits
  unfold tryAcquire
  split
  · simp only [reduceCtorEq, false_iff]
    omega
  · simp only [true_iff]
    omega

theorem release_some (released : semaphore.release = some next) :
    next.capacity = semaphore.capacity ∧ next.taken + 1 = semaphore.taken := by
  unfold release at released
  split at released
  · cases released
    exact ⟨rfl, by simp only; omega⟩
  · cases released

/-- Giving a slot back does not wait while one is taken. -/
theorem release_ready (held : 0 < semaphore.taken) : ∃ next, semaphore.release = some next := by
  rw [release, if_pos held]
  exact ⟨_, rfl⟩

end Semaphore

end SentinelProxy.Counting
