import SentinelProxy.Net.Resolve

/-! Which texts of endpoints stand for the unspecified address, or for none. The text of an
endpoint decides it: no other address shares a text with `0.0.0.0`, `::` or a lone port. -/

namespace SentinelProxy.Net

/-- The text of an endpoint at `0.0.0.0` or `::` or without an IP, as in `:6379`, whatever its
zone and its port. -/
def UnspecifiedText (text : String) : Prop :=
  ∃ addr : TCPAddr, isLocalSystem addr.ip = true ∧ addr.string = text

/-- How the text of an unspecified host begins; a zone or a bracket ends a lone `::`. -/
def unspecifiedHost (host : List Char) : Bool :=
  ['0', '.', '0', '.', '0', '.', '0'].isPrefixOf host || [':', ':', ']'].isPrefixOf host ||
    [':', ':', '%'].isPrefixOf host

/-- Without a host, the text begins with its zone or its port. -/
def unspecifiedChars (text : List Char) : Bool :=
  match text with
  | ':' :: _ => true
  | '%' :: _ => true
  | '[' :: '%' :: _ => true
  | '[' :: host => unspecifiedHost host
  | host => unspecifiedHost host

section Digits

def hexChars : List Char :=
  ['0', '1', '2', '3', '4', '5', '6', '7', '8', '9', 'a', 'b', 'c', 'd', 'e', 'f']

private theorem digitChar_hex : ∀ digit < 16, Nat.digitChar digit ∈ hexChars := by
  decide

private theorem toDigits_hex (base value : Nat) (two : 1 < base) (small : base ≤ 16) :
    ∀ char ∈ Nat.toDigits base value, char ∈ hexChars := by
  induction value using Nat.strongRecOn with
  | ind value ih =>
    intro char member
    rw [Nat.toDigits_eq_if two] at member
    split at member
    · rename_i single
      rw [List.mem_singleton.mp member]
      exact digitChar_hex value (by omega)
    · rename_i several
      rcases List.mem_append.mp member with front | last
      · exact ih (value / base) (Nat.div_lt_self (by omega) two) char front
      · rw [List.mem_singleton.mp last]
        exact digitChar_hex _ (Nat.lt_of_lt_of_le (Nat.mod_lt _ (by omega)) small)

private theorem toDigits_cons (base value : Nat) (two : 1 < base) (small : base ≤ 16) :
    ∃ char rest, Nat.toDigits base value = char :: rest ∧ char ∈ hexChars := by
  obtain ⟨char, rest, shape⟩ := List.exists_cons_of_ne_nil (@Nat.toDigits_ne_nil value base)
  exact ⟨char, rest, shape, toDigits_hex base value two small char (by rw [shape]; simp)⟩

theorem toDigits_zero_head (value : Nat) (leading : (Nat.toDigits 10 value).head? = some '0') :
    value = 0 := by
  induction value using Nat.strongRecOn with
  | ind value ih =>
    rw [Nat.toDigits_eq_if (by decide)] at leading
    split at leading
    · rename_i single
      have digits : ∀ digit < 10, Nat.digitChar digit = '0' → digit = 0 := by decide
      exact digits value single (by simpa using leading)
    · rename_i several
      rw [List.head?_append_of_ne_nil _ Nat.toDigits_ne_nil] at leading
      have front := ih (value / 10) (by omega) leading
      omega

end Digits

section Hosts

private theorem hexChars_plain :
    ∀ char ∈ hexChars, char ≠ ':' ∧ char ≠ '.' ∧ char ≠ ']' ∧ char ≠ '%' ∧
    char ≠ '[' := by
  have plain : (hexChars.all fun char =>
      char ≠ ':' && char ≠ '.' && char ≠ ']' && char ≠ '%' && char ≠ '[') = true := by
    decide
  intro char member
  simpa [and_assoc] using List.all_eq_true.mp plain char member

/-- An octet and what follows it, against a zero octet and what follows that. -/
theorem octet_prefix (octet : UInt8) (wanted rest : List Char) :
    ('0' :: wanted).isPrefixOf (Nat.toDigits 10 octet.toNat ++ rest) =
      (octet == 0 && wanted.isPrefixOf rest) := by
  by_cases zero : octet = 0
  · subst zero
    simp [Nat.toDigits_zero]
  · obtain ⟨char, digits, shape, _⟩ := toDigits_cons 10 octet.toNat (by decide) (by decide)
    have other : '0' ≠ char := by
      rintro rfl
      refine zero (UInt8.toNat_inj.mp ?_)
      exact toDigits_zero_head _ (by rw [shape]; rfl)
    simp [shape, beq_eq_false_iff_ne.mpr zero, beq_eq_false_iff_ne.mpr other, List.isPrefixOf]

private theorem unspecifiedHost_octets (a b c d : UInt8) (rest : List Char) :
    unspecifiedHost
        ((".".intercalate ([a, b, c, d].map fun octet => toString octet.toNat)).toList ++ rest) =
      ([a, b, c, d] == [0, 0, 0, 0]) := by
  obtain ⟨char, digits, shape, hex⟩ := toDigits_cons 10 a.toNat (by decide) (by decide)
  obtain ⟨colon, _⟩ := hexChars_plain char hex
  have plain (wanted rest : List Char) :
      (':' :: wanted).isPrefixOf (Nat.toDigits 10 a.toNat ++ rest) = false := by
    simp [shape, beq_eq_false_iff_ne.mpr (Ne.symm colon), List.isPrefixOf]
  have point (wanted rest : List Char) :
      ('.' :: wanted).isPrefixOf ('.' :: rest) = wanted.isPrefixOf rest := by
    simp [List.isPrefixOf]
  simp [unspecifiedHost, octet_prefix, plain, point]

private theorem groups_length (count : Nat) (ip : IP) (size : ip.length = 2 * count) :
    (groups ip).length = count := by
  induction count generalizing ip with
  | zero =>
    obtain rfl : ip = [] := List.length_eq_zero_iff.mp size
    rfl
  | succ count ih =>
    obtain ⟨high, low, rest, rfl⟩ : ∃ high low rest, ip = high :: low :: rest := by
      match ip, size with
      | high :: low :: rest, _ => exact ⟨high, low, rest, rfl⟩
    simp only [groups, List.length_cons]
    rw [ih rest (by simp only [List.length_cons] at size; omega)]

theorem groups_zero (count : Nat) (ip : IP) (size : ip.length = 2 * count)
    (zeros : ∀ group ∈ groups ip, group = 0) : ip = List.replicate (2 * count) 0 := by
  induction count generalizing ip with
  | zero => exact List.length_eq_zero_iff.mp size
  | succ count ih =>
    obtain ⟨high, low, rest, rfl⟩ : ∃ high low rest, ip = high :: low :: rest := by
      match ip, size with
      | high :: low :: rest, _ => exact ⟨high, low, rest, rfl⟩
    have first : high.toNat * 256 + low.toNat = 0 := zeros _ (by simp [groups])
    have others := ih rest (by simp only [List.length_cons] at size; omega)
      (fun group member => zeros group (by simp [groups, member]))
    obtain rfl : high = 0 := UInt8.toNat_inj.mp (by simp only [UInt8.toNat_zero]; omega)
    obtain rfl : low = 0 := UInt8.toNat_inj.mp (by simp only [UInt8.toNat_zero]; omega)
    rw [others, show 2 * (count + 1) = 2 * count + 1 + 1 by omega]
    rfl

theorem zeroRun_some {groups : List Nat} {start length : Nat}
    (found : zeroRun groups = some (start, length)) :
    ((groups.drop start).takeWhile (· == 0)).length = length := by
  have scan (starts : List Nat) (best : Option (Nat × Nat))
      (known : ∀ run, best = some run →
        ((groups.drop run.1).takeWhile (· == 0)).length = run.2) :
      ∀ run, starts.foldl (fun best start =>
        let length := ((groups.drop start).takeWhile (· == 0)).length
        if 2 ≤ length ∧ (best.map Prod.snd).getD 0 < length then some (start, length) else best)
          best = some run → ((groups.drop run.1).takeWhile (· == 0)).length = run.2 := by
    induction starts generalizing best with
    | nil => exact known
    | cons start starts ih =>
      rw [List.foldl_cons]
      apply ih
      intro run chosen
      dsimp only at chosen
      split at chosen
      · cases chosen
        rfl
      · exact known run chosen
  exact scan _ none (by simp) (start, length) found

/-- A host that begins with a group of digits and a colon is not unspecified. -/
theorem unspecifiedHost_group (group : Nat) (rest : List Char) :
    unspecifiedHost (Nat.toDigits 16 group ++ ':' :: rest) = false := by
  obtain ⟨first, digits, shape, hex⟩ := toDigits_cons 16 group (by decide) (by decide)
  obtain ⟨colon, _⟩ := hexChars_plain first hex
  have inside : ∀ char ∈ digits, char ∈ hexChars := fun char member =>
    toDigits_hex 16 group (by decide) (by decide) char (by rw [shape]; simp [member])
  rw [shape]
  cases digits with
  | nil => simp [unspecifiedHost, List.isPrefixOf, beq_eq_false_iff_ne.mpr (Ne.symm colon)]
  | cons second digits =>
    obtain ⟨_, point, _⟩ := hexChars_plain second (inside second (by simp))
    simp [unspecifiedHost, List.isPrefixOf, beq_eq_false_iff_ne.mpr (Ne.symm colon),
      beq_eq_false_iff_ne.mpr (Ne.symm point)]

private theorem hexText_toList (value : Nat) : (hexText value).toList = Nat.toDigits 16 value := by
  simp [hexText]

theorem joined_cons (group : Nat) (rest : List Nat) :
    ∃ more, (":".intercalate ((group :: rest).map hexText)).toList =
      Nat.toDigits 16 group ++ more ∧
      (rest ≠ [] → ∃ others, more = ':' :: others) ∧ (rest = [] → more = []) := by
  cases rest with
  | nil => exact ⟨[], by simp [hexText_toList], by simp, by simp⟩
  | cons second rest =>
    refine ⟨':' :: (":".intercalate ((second :: rest).map hexText)).toList, ?_, by simp, by simp⟩
    rw [List.map_cons, List.map_cons, String.intercalate_cons_cons]
    simp [hexText_toList]

theorem unspecifiedHost_groups {groups : List Nat} {group : Nat} (several : 2 ≤ groups.length)
    (member : group ∈ groups) (present : group ≠ 0) (rest : List Char) :
    unspecifiedHost ((match zeroRun groups with
      | none => ":".intercalate (groups.map hexText)
      | some (start, length) =>
        ":".intercalate ((groups.take start).map hexText) ++ "::" ++
          ":".intercalate ((groups.drop (start + length)).map hexText)).toList ++ rest) =
      false := by
  obtain ⟨first, others, rfl⟩ := List.exists_cons_of_ne_nil (List.ne_nil_of_mem member)
  split
  · obtain ⟨more, shape, colon, _⟩ := joined_cons first others
    obtain ⟨final, rfl⟩ := colon (by rintro rfl; simp at several)
    rw [shape]
    simpa using unspecifiedHost_group first (final ++ rest)
  · rename_i start length found
    cases start with
    | zero =>
      -- the ellipsis leads, and the groups after it are not all zero
      have run := zeroRun_some found
      have remaining : (first :: others).drop length ≠ [] := by
        intro none?
        have all : ((first :: others).takeWhile (· == 0)).length = (first :: others).length := by
          refine Nat.le_antisymm (List.takeWhile_sublist _).length_le ?_
          rw [List.drop_zero] at run
          rw [run]
          exact List.drop_eq_nil_iff.mp none?
        have whole := (List.takeWhile_prefix (· == 0)).eq_of_length all
        rw [← whole] at member
        exact present (by simpa using List.all_eq_true.mp List.all_takeWhile group member)
      obtain ⟨next, after, shape⟩ := List.exists_cons_of_ne_nil remaining
      obtain ⟨more, text, _⟩ := joined_cons next after
      obtain ⟨char, digits, hexed, hex⟩ := toDigits_cons 16 next (by decide) (by decide)
      obtain ⟨_, _, bracket, percent, _⟩ := hexChars_plain char hex
      rw [Nat.zero_add, shape]
      simp only [List.take_zero, List.map_nil, String.intercalate_nil, String.toList_append, text,
        hexed]
      simp [unspecifiedHost, List.isPrefixOf, beq_eq_false_iff_ne.mpr (Ne.symm bracket),
        beq_eq_false_iff_ne.mpr (Ne.symm percent)]
    | succ start =>
      obtain ⟨more, shape, colon, alone⟩ := joined_cons first (others.take start)
      rw [List.take_succ_cons]
      simp only [String.toList_append, shape]
      by_cases single : others.take start = []
      · rw [alone single]
        simpa using unspecifiedHost_group first _
      · obtain ⟨final, rfl⟩ := colon single
        simpa using unspecifiedHost_group first _

private theorem ipString_zeros : ipString (List.replicate 16 0) = "::" := by
  decide +kernel

private theorem to4_length {ip : IP} {octets : List UInt8} (four : to4 ip = some octets) :
    octets.length = 4 := by
  unfold to4 at four
  split at four
  · cases four
    assumption
  · split at four
    · rename_i long
      cases four
      simp [long.1]
    · cases four

private theorem to4_octets {ip : IP} {octets : List UInt8} (four : to4 ip = some octets) :
    ∃ a b c d, octets = [a, b, c, d] := by
  match octets, to4_length four with
  | [a, b, c, d], _ => exact ⟨a, b, c, d, rfl⟩

/-- The text of a host tells whether it is unspecified; a bracket or a zone follows `::`. -/
theorem unspecifiedHost_ipString (ip : IP) (nonempty : ip ≠ []) (rest : List Char)
    (ends : ip = List.replicate 16 0 →
      ∃ char tail, rest = char :: tail ∧ (char = ']' ∨ char = '%')) :
    unspecifiedHost ((ipString ip).toList ++ rest) = isUnspecified ip := by
  by_cases zero : ip = List.replicate 16 0
  · subst zero
    obtain ⟨char, tail, rfl, which⟩ := ends rfl
    rw [ipString_zeros]
    rcases which with rfl | rfl
    · rfl
    · rfl
  · have other := beq_eq_false_iff_ne.mpr zero
    rw [isUnspecified, other, Bool.or_false, ipString]
    cases four : to4 ip with
    | some octets =>
      obtain ⟨a, b, c, d, rfl⟩ := to4_octets four
      dsimp only
      rw [unspecifiedHost_octets]
      rfl
    | none =>
      dsimp only
      rw [if_neg nonempty]
      split
      · simp [unspecifiedHost, List.isPrefixOf]
      · rename_i sixteen
        rw [not_not] at sixteen
        have count := groups_length 8 ip sixteen
        obtain ⟨group, member, present⟩ : ∃ group ∈ groups ip, group ≠ 0 := by
          by_contra none?
          simp only [not_exists, not_and, not_not] at none?
          exact zero (groups_zero 8 ip sixteen none?)
        exact unspecifiedHost_groups (by omega) member present rest

/-- No host's text begins like a bracketed one or like a zone. -/
theorem ipString_bare (ip : IP) (nonempty : ip ≠ []) :
    ∃ char rest, (ipString ip).toList = char :: rest ∧ char ≠ '[' ∧ char ≠ '%' := by
  have hexed (base value : Nat) (two : 1 < base) (small : base ≤ 16) (more : List Char) :
      ∃ char rest, Nat.toDigits base value ++ more = char :: rest ∧ char ≠ '[' ∧ char ≠ '%' := by
    obtain ⟨char, rest, shape, hex⟩ := toDigits_cons base value two small
    obtain ⟨_, _, _, percent, bare⟩ := hexChars_plain char hex
    exact ⟨char, rest ++ more, by rw [shape]; rfl, bare, percent⟩
  unfold ipString
  cases four : to4 ip with
  | some octets =>
    obtain ⟨a, b, c, d, rfl⟩ := to4_octets four
    simpa using hexed 10 a.toNat (by decide) (by decide) _
  | none =>
    dsimp only
    rw [if_neg nonempty]
    split
    · exact ⟨'?', _, by simp; rfl, by decide⟩
    · rename_i sixteen
      have count := groups_length 8 ip (by omega)
      obtain ⟨first, others, shape⟩ := List.exists_cons_of_length_pos (l := groups ip) (by omega)
      rw [shape]
      split
      · obtain ⟨more, text, _⟩ := joined_cons first others
        rw [text]
        exact hexed 16 first (by decide) (by decide) more
      · rename_i start length found
        cases start with
        | zero => exact ⟨':', _, by simp; rfl, by decide⟩
        | succ start =>
          obtain ⟨more, text, _⟩ := joined_cons first (others.take start)
          rw [List.take_succ_cons]
          simp only [String.toList_append, text, List.append_assoc]
          exact hexed 16 first (by decide) (by decide) _

end Hosts

section Texts

private theorem unspecifiedChars_hostless (zone : String) (port : Nat) :
    unspecifiedChars (TCPAddr.string ⟨[], port, zone⟩).toList = true := by
  simp only [TCPAddr.string, joinHostPort, if_true]
  split
  · split
    · simp [unspecifiedChars]
    · simp [unspecifiedChars]
  · simp [unspecifiedChars]

private theorem unspecifiedChars_bare {ip : IP} (nonempty : ip ≠ [])
    (plain : ':' ∉ (ipString ip).toList)
    (rest : List Char) :
    unspecifiedChars ((ipString ip).toList ++ rest) =
      unspecifiedHost ((ipString ip).toList ++ rest) := by
  obtain ⟨char, tail, shape, bare, percent⟩ := ipString_bare ip nonempty
  have colon : char ≠ ':' := by
    rintro rfl
    simp [shape] at plain
  rw [shape]
  simp [unspecifiedChars, bare, percent, colon]

private theorem unspecifiedChars_bracketed {ip : IP} (nonempty : ip ≠ []) (rest : List Char) :
    unspecifiedChars ('[' :: ((ipString ip).toList ++ rest)) =
      unspecifiedHost ((ipString ip).toList ++ rest) := by
  obtain ⟨char, tail, shape, _, percent⟩ := ipString_bare ip nonempty
  rw [shape]
  simp [unspecifiedChars, percent]

/-- The text of an endpoint tells whether its host is there and specified. -/
theorem unspecifiedChars_string (addr : TCPAddr) :
    unspecifiedChars addr.string.toList = isLocalSystem addr.ip := by
  obtain ⟨ip, port, zone⟩ := addr
  by_cases nonempty : ip = []
  · subst nonempty
    exact unspecifiedChars_hostless zone port
  · have host := unspecifiedHost_ipString ip nonempty
    rw [isLocalSystem_of_ne_nil nonempty]
    simp only [TCPAddr.string, joinHostPort, if_neg nonempty]
    by_cases zoned : zone = ""
    · rw [if_neg (not_not.mpr zoned)]
      split
      · simp only [String.toList_append, List.append_assoc]
        exact (unspecifiedChars_bracketed nonempty _).trans (host _ (by simp))
      · rename_i plain
        simp only [String.toList_append, List.append_assoc]
        refine (unspecifiedChars_bare nonempty plain _).trans (host _ ?_)
        rintro rfl
        rw [ipString_zeros] at plain
        exact absurd (by decide) plain
    · rw [if_pos zoned]
      split
      · simp only [String.toList_append, List.append_assoc]
        exact (unspecifiedChars_bracketed nonempty _).trans (host _ (by simp))
      · rename_i plain
        simp only [String.toList_append, List.append_assoc]
        have outside : ':' ∉ (ipString ip).toList := by
          intro inside
          exact plain (by simp [inside])
        exact (unspecifiedChars_bare nonempty outside _).trans (host _ (by simp))

/-- Endpoints with one text are unspecified together. -/
theorem unspecifiedText_string (addr : TCPAddr) :
    UnspecifiedText addr.string ↔ isLocalSystem addr.ip = true := by
  constructor
  · rintro ⟨other, unspecified, same⟩
    rw [← unspecifiedChars_string, ← same, unspecifiedChars_string, unspecified]
  · intro unspecified
    exact ⟨addr, unspecified, rfl⟩

theorem not_unspecifiedText_empty : ¬UnspecifiedText "" := by
  rintro ⟨addr, _, empty⟩
  exact addr.string_ne_empty empty

end Texts

end SentinelProxy.Net
