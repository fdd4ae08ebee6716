import Mathlib.Data.List.Basic

/-! The order of texts by their code points, which is that of their UTF-8 bytes. -/

namespace SentinelProxy.Text

def charsLE : List Char → List Char → Bool
  | [], _ => true
  | _ :: _, [] => false
  | first :: rest, other :: others =>
    if first = other then charsLE rest others else first.toNat < other.toNat

def textLE (first second : String) : Bool := charsLE first.toList second.toList

theorem charsLE_total (first second : List Char) :
    charsLE first second = true ∨ charsLE second first = true := by
  induction first generalizing second with
  | nil => exact .inl rfl
  | cons char rest ih =>
    cases second with
    | nil => exact .inr rfl
    | cons other others =>
      by_cases same : char = other
      · subst same
        simpa [charsLE] using ih others
      · have distinct : char.toNat ≠ other.toNat := fun equal => same (Char.toNat_inj.mp equal)
        simp only [charsLE, same, Ne.symm same, if_false, decide_eq_true_eq]
        omega

theorem charsLE_trans {first second third : List Char} (left : charsLE first second = true)
    (right : charsLE second third = true) : charsLE first third = true := by
  induction first generalizing second third with
  | nil => rfl
  | cons char rest ih =>
    cases second with
    | nil => cases left
    | cons other others =>
      cases third with
      | nil => cases right
      | cons last final =>
        simp only [charsLE] at left right ⊢
        by_cases same : char = other
        · subst same
          simp only [if_true] at left
          by_cases equal : char = last
          · simp only [equal, if_true] at right ⊢
            exact ih left right
          · simpa [equal] using right
        · simp only [same, if_false, decide_eq_true_eq] at left
          by_cases equal : other = last
          · subst equal
            simpa [same] using left
          · simp only [equal, if_false, decide_eq_true_eq] at right
            have smaller : char.toNat < last.toNat := Nat.lt_trans left right
            have distinct : char ≠ last := by
              intro clash
              rw [clash] at smaller
              exact Nat.lt_irrefl _ smaller
            simpa [distinct] using smaller

private theorem charsLE_antisymm {first second : List Char} (left : charsLE first second = true)
    (right : charsLE second first = true) : first = second := by
  induction first generalizing second with
  | nil =>
    cases second with
    | nil => rfl
    | cons other others => cases right
  | cons char rest ih =>
    cases second with
    | nil => cases left
    | cons other others =>
      simp only [charsLE] at left right
      by_cases same : char = other
      · subst same
        simp only [if_true] at left right
        rw [ih left right]
      · simp only [same, Ne.symm same, if_false, decide_eq_true_eq] at left right
        exact absurd left (Nat.lt_asymm right)

theorem textLE_antisymm {first second : String} (left : textLE first second = true)
    (right : textLE second first = true) : first = second :=
  String.toList_inj.mp (charsLE_antisymm left right)

end SentinelProxy.Text
