import Mathlib.Algebra.Order.Ring.Int
import SentinelProxy.Stream.Reader

/-! Decimal integers of 64 bits as byte strings: the reader of the standard
library (sign, leading zeros, range check) and the canonical writer. -/

namespace SentinelProxy.Text

open SentinelProxy.Stream

def bytesOf (text : String) : Bytes := text.toUTF8.data.toList

def digit? (byte : UInt8) : Option Nat :=
  if 48 ≤ byte.toNat ∧ byte.toNat ≤ 57 then some (byte.toNat - 48) else none

/-- Value of a run of digits, read after those already accumulated. -/
def parseDigits (value : Nat) : Bytes → Option Nat
  | [] => some value
  | byte :: rest =>
    match digit? byte with
    | none => none
    | some digit => parseDigits (value * 10 + digit) rest

/-- Base 10, 64 bits: an optional sign, at least one digit, nothing else, and a
value the signed type can hold. -/
def parseInt (text : Bytes) : Option Int :=
  let (negative, digits) := match text with
    | 43 :: rest => (false, rest)
    | 45 :: rest => (true, rest)
    | _ => (false, text)
  if digits = [] then none
  else
    match parseDigits 0 digits with
    | none => none
    | some value =>
      if negative then
        if value ≤ 2 ^ 63 then some (-(value : Int)) else none
      else if value < 2 ^ 63 then some (value : Int) else none

def atoi (text : String) : Option Int := parseInt (bytesOf text)

/-- Canonical decimal form: no sign, no leading zeros. -/
def decimal (value : Nat) : Bytes :=
  if value < 10 then [UInt8.ofNat (48 + value)]
  else decimal (value / 10) ++ [UInt8.ofNat (48 + value % 10)]

private theorem digit?_lineFeed : digit? 10 = none := by decide

private theorem digit?_ofNat (digit : Nat) (small : digit < 10) :
    digit? (UInt8.ofNat (48 + digit)) = some digit := by
  have wrap : (UInt8.ofNat (48 + digit)).toNat = 48 + digit := by
    rw [UInt8.toNat_ofNat']
    omega
  simp only [digit?, wrap]
  rw [if_pos (by omega)]
  congr 1
  omega

private theorem parseDigits_lineFeed (value : Nat) (digits : Bytes) (member : 10 ∈ digits) :
    parseDigits value digits = none := by
  induction digits generalizing value with
  | nil => simp at member
  | cons byte rest ih =>
    simp only [parseDigits]
    split
    · rfl
    · rename_i digit readable
      rcases List.mem_cons.mp member with same | later
      · rw [← same, digit?_lineFeed] at readable
        cases readable
      · exact ih _ later

/-- An accepted integer never spans a line end. -/
theorem parseInt_no_lineFeed {text : Bytes} {value : Int} (parsed : parseInt text = some value) :
    10 ∉ text := by
  intro member
  unfold parseInt at parsed
  split at parsed
  rename_i negative digits sign
  have inDigits : 10 ∈ digits := by
    split at sign
    · obtain ⟨rfl, rfl⟩ := Prod.mk.inj sign
      simpa using member
    · obtain ⟨rfl, rfl⟩ := Prod.mk.inj sign
      simpa using member
    · obtain ⟨rfl, rfl⟩ := Prod.mk.inj sign
      exact member
  rw [parseDigits_lineFeed 0 digits inDigits] at parsed
  simp at parsed

private theorem parseDigits_append (value : Nat) (front back : Bytes) :
    parseDigits value (front ++ back) =
      (parseDigits value front).bind fun middle => parseDigits middle back := by
  induction front generalizing value with
  | nil => rfl
  | cons byte front ih =>
    simp only [List.cons_append, parseDigits]
    split
    · rfl
    · exact ih _

private theorem parseDigits_decimal (value : Nat) : parseDigits 0 (decimal value) = some value := by
  fun_induction decimal value with
  | case1 value small =>
    simp only [parseDigits, digit?_ofNat value small, Nat.zero_mul, Nat.zero_add]
  | case2 value large ih =>
    rw [parseDigits_append, ih]
    simp only [Option.bind_some, parseDigits, digit?_ofNat (value % 10) (by omega)]
    congr 1
    omega

/-- A canonical form starts with a digit, so with no sign. -/
theorem decimal_head (value : Nat) :
    ∃ byte rest, decimal value = byte :: rest ∧ byte ≠ 43 ∧ byte ≠ 45 := by
  fun_induction decimal value with
  | case1 value small =>
    refine ⟨_, [], rfl, ?_, ?_⟩
    all_goals
      intro same
      have code := congrArg digit? same
      rw [digit?_ofNat value small] at code
      exact absurd code (by simp [digit?])
  | case2 value large ih =>
    obtain ⟨byte, rest, front, positive, negative⟩ := ih
    exact ⟨byte, rest ++ _, by rw [front]; rfl, positive, negative⟩

/-- The reader gives back every number the writer wrote. -/
theorem parseInt_decimal (value : Nat) (fits : value < 2 ^ 63) :
    parseInt (decimal value) = some (value : Int) := by
  obtain ⟨byte, rest, shape, positive, negative⟩ := decimal_head value
  have digits := parseDigits_decimal value
  unfold parseInt
  rw [shape] at digits ⊢
  simp [positive, negative, digits]
  omega

theorem decimal_length (value width : Nat) (small : value < 10 ^ (width + 1)) :
    (decimal value).length ≤ width + 1 := by
  induction width generalizing value with
  | zero =>
    unfold decimal
    rw [if_pos (by omega)]
    simp
  | succ width ih =>
    unfold decimal
    split
    · simp
    · have shorter : value / 10 < 10 ^ (width + 1) := by
        rw [Nat.div_lt_iff_lt_mul (by omega), ← Nat.pow_succ]
        exact small
      simpa using ih (value / 10) shorter

end SentinelProxy.Text
