import Mathlib.Data.List.Count
import Mathlib.Data.List.Nodup

/-! Residues of consecutive numbers. -/

namespace SentinelProxy.Counting

/-- How often a residue occurs among consecutive numbers. -/
def hits (count start length residue : Nat) : Nat :=
  (List.range length).countP fun offset => (start + offset) % count == residue

variable (count start residue : Nat)

private theorem hits_add (first second : Nat) :
    hits count start (first + second) residue =
      hits count start first residue + hits count (start + first) second residue := by
  simp only [hits, List.range_add, List.countP_append, List.countP_map]
  congr 1
  refine List.countP_congr fun offset _ => ?_
  simp [Nat.add_assoc]

private theorem hits_one :
    hits count start 1 residue = if start % count = residue then 1 else 0 := by
  simp [hits, List.range_succ]

/-- A window of full length has every residue once, wherever it begins. -/
theorem hits_window (inside : residue < count) :
    hits count start count residue = 1 := by
  induction start with
  | zero =>
    have plain : hits count 0 count residue = (List.range count).count residue := by
      refine List.countP_congr fun offset member => ?_
      rw [Nat.zero_add, Nat.mod_eq_of_lt (List.mem_range.mp member)]
    rw [plain]
    exact List.count_eq_one_of_mem List.nodup_range (List.mem_range.mpr inside)
  | succ start ih =>
    -- the number that leaves the window has the residue of the one that enters it
    have leaves := hits_add count start residue 1 count
    have enters := hits_add count start residue count 1
    rw [hits_one] at leaves enters
    rw [Nat.add_mod_right] at enters
    rw [Nat.add_comm 1 count] at leaves
    omega

private theorem hits_windows (inside : residue < count) (windows rest : Nat) :
    hits count start (windows * count + rest) residue =
      windows + hits count (start + windows * count) rest residue := by
  induction windows generalizing start with
  | zero => simp
  | succ windows ih =>
    rw [show (windows + 1) * count + rest = count + (windows * count + rest) by
      rw [Nat.succ_mul]
      omega, hits_add, hits_window count start residue inside, ih]
    rw [show start + count + windows * count = start + (windows + 1) * count by
      rw [Nat.succ_mul]
      omega]
    omega

/-- Consecutive numbers have every residue equally often, up to one. -/
theorem hits_even (inside : residue < count) (length : Nat) :
    hits count start length residue = length / count ∨
      hits count start length residue = (length + count - 1) / count := by
  obtain ⟨windows, rest, short, rfl⟩ : ∃ windows rest, rest < count ∧
      length = windows * count + rest :=
    ⟨length / count, length % count, Nat.mod_lt _ (by omega), (Nat.div_add_mod' _ _).symm⟩
  have few : hits count (start + windows * count) rest residue ≤ 1 := by
    have whole := hits_add count (start + windows * count) residue rest (count - rest)
    rw [Nat.add_sub_of_le (Nat.le_of_lt short), hits_window count _ residue inside] at whole
    omega
  have below : (windows * count + rest) / count = windows := by
    rw [Nat.mul_comm, Nat.mul_add_div (by omega), Nat.div_eq_of_lt short, Nat.add_zero]
  rw [hits_windows count start residue inside, below]
  cases rest with
  | zero => exact .inl rfl
  | succ rest =>
    have above : (windows * count + (rest + 1) + count - 1) / count = windows + 1 := by
      rw [show windows * count + (rest + 1) + count - 1 = count * (windows + 1) + rest by
        rw [Nat.mul_succ, Nat.mul_comm]
        omega, Nat.mul_add_div (by omega), Nat.div_eq_of_lt (by omega), Nat.add_zero]
    rw [above]
    omega

end SentinelProxy.Counting
