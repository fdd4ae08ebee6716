import Mathlib.Logic.Function.Basic
import SentinelProxy.Counting.Spacing

/-! Values that are kept for a while: what is read from such a cache was stored not long ago,
and what is stored only where nothing could be read is stored rarely. -/

namespace SentinelProxy.Counting

/-- A value with the moment it was stored. -/
structure Dated (ν : Type v) where
  value : ν
  since : Int
  deriving DecidableEq, Repr

/-- A cache by key. -/
def Expiring (κ : Type u) (ν : Type v) : Type (max u v) := κ → Option (Dated ν)

namespace Expiring

variable {κ : Type u} {ν : Type v}

def empty : Expiring κ ν := fun _ => none

/-- The value of an entry that is younger than `ttl`. -/
def fresh (cache : Expiring κ ν) (ttl now : Int) (key : κ) : Option ν :=
  match cache key with
  | none => none
  | some entry => if now - entry.since < ttl then some entry.value else none

def store [DecidableEq κ] (cache : Expiring κ ν) (now : Int) (key : κ) (value : ν) :
    Expiring κ ν :=
  Function.update cache key (some ⟨value, now⟩)

/-- What was stored under a key, the latest first. -/
def entries [DecidableEq κ] (history : List (κ × Dated ν)) (key : κ) : List (Dated ν) :=
  (history.filter (·.1 = key)).map Prod.snd

/-- A cache that holds the latest of what was stored, where nothing was stored under a key
before the last value had expired. -/
structure Keeps [DecidableEq κ] (ttl : Int) (history : List (κ × Dated ν)) (cache : Expiring κ ν) :
    Prop where
  latest : ∀ key, cache key = (entries history key).head?
  spaced : ∀ key, Spaced ttl ((entries history key).map Dated.since)

variable [DecidableEq κ] {ttl now : Int} {history : List (κ × Dated ν)} {cache : Expiring κ ν}
  {key : κ} {value : ν}

private theorem mem_entries {entry : Dated ν} :
    entry ∈ entries history key ↔ (key, entry) ∈ history := by
  simp [entries]

private theorem entries_cons_self (entry : Dated ν) :
    entries ((key, entry) :: history) key = entry :: entries history key := by
  simp [entries]

private theorem entries_cons_ne {other : κ} (different : other ≠ key) (entry : Dated ν) :
    entries ((key, entry) :: history) other = entries history other := by
  simp [entries, different.symm]

theorem keeps_empty (ttl : Int) : Keeps ttl [] (empty : Expiring κ ν) :=
  ⟨fun _ => rfl, fun _ => .nil ttl⟩

/-- What is read was stored less than `ttl` ago. -/
theorem Keeps.recent (keeps : Keeps ttl history cache)
    (found : cache.fresh ttl now key = some value) :
    ∃ since, (key, (⟨value, since⟩ : Dated ν)) ∈ history ∧ now - since < ttl := by
  unfold fresh at found
  split at found
  · cases found
  · rename_i entry present
    split at found
    · rename_i young
      cases found
      rw [keeps.latest key] at present
      exact ⟨entry.since, mem_entries.mp (List.mem_of_mem_head? present), young⟩
    · cases found

/-- Storing a value where none could be read. -/
theorem Keeps.store (keeps : Keeps ttl history cache) {begun : Int} (nonneg : 0 ≤ ttl)
    (missed : cache.fresh ttl begun key = none) (later : begun ≤ now) (value : ν) :
    Keeps ttl ((key, ⟨value, now⟩) :: history) (cache.store now key value) := by
  refine ⟨?_, ?_⟩
  · intro other
    by_cases same : other = key
    · subst same
      rw [entries_cons_self]
      exact Function.update_self ..
    · rw [entries_cons_ne same, ← keeps.latest other]
      exact Function.update_of_ne same _ cache
  · intro other
    by_cases same : other = key
    · subst same
      rw [entries_cons_self, List.map_cons]
      refine (keeps.spaced other).cons nonneg ?_
      intro last newest
      obtain ⟨entry, head, rfl⟩ : ∃ entry, (entries history other).head? = some entry ∧
          entry.since = last := by
        rw [List.head?_map, Option.map_eq_some_iff] at newest
        exact newest
      rw [← keeps.latest other] at head
      simp only [fresh, head] at missed
      split at missed
      · cases missed
      · dsimp only
        omega
    · rw [entries_cons_ne same]
      exact keeps.spaced other

end Expiring

end SentinelProxy.Counting
