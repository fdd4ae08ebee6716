import SentinelProxy.Text.Upper

/-! Which byte strings have a plain ASCII upper-case form: the ASCII spellings of it, and
those that use one of the two runes that fold to ASCII. -/

namespace SentinelProxy.Text

open SentinelProxy.Stream

/-- Equality of names as a server compares them: bytes, up to the case of ASCII letters. -/
def sameName (first second : Bytes) : Bool := first.map asciiUpper == second.map asciiUpper

/-- Upper case of ASCII and of the two runes that fold to it, by the letters they fold to. -/
def foldUpper (rune : Nat) : Nat :=
  if rune = 0x131 then 73
  else if rune = 0x17F then 83
  else if 97 ≤ rune ∧ rune ≤ 122 then rune - 32
  else rune

/-- A spelling of a name that has a dotless i for an `I` or a long s for an `S`. -/
def FoldedSpelling (bytes name : Bytes) : Prop :=
  ∃ runes : List Nat, bytes = runes.flatMap encodeRune ∧
    runes.map foldUpper = name.map UInt8.toNat ∧ ∃ rune ∈ runes, foldsToAscii rune = true

/-- A name in upper-case ASCII. -/
def PlainName (name : Bytes) : Prop :=
  (∀ byte ∈ name, byte.toNat < 0x80) ∧ name.map asciiUpper = name

/-- Runes of one or two bytes are decoded from their own encoding only. -/
theorem decodeRune_small {byte : UInt8} {rest : Bytes}
    (small : (decodeRune (byte :: rest)).1 < 0x800) :
    byte :: rest = encodeRune (decodeRune (byte :: rest)).1 ++
      (byte :: rest).drop (decodeRune (byte :: rest)).2 := by
  rcases decodeRune_cases byte rest with
    ⟨ascii, decoded⟩ | ⟨second, others, rfl, leads, continues, decoded⟩ | ⟨large, _⟩
  · rw [decoded, encodeRune_ascii _ ascii, UInt8.ofNat_toNat]
    rfl
  · rw [decoded] at small ⊢
    simp only [continuation, Bool.and_eq_true, decide_eq_true_eq] at continues
    have lead : 0xC0 + (byte.toNat % 32 * 64 + second.toNat % 64) / 64 = byte.toNat := by omega
    have trail : 0x80 + (byte.toNat % 32 * 64 + second.toNat % 64) % 64 = second.toNat := by
      omega
    rw [encodeRune, if_neg (by omega), if_pos small, lead, trail, UInt8.ofNat_toNat,
      UInt8.ofNat_toNat]
    rfl
  · omega

/-- A string with a plain image is the encoding of runes whose images are plain. -/
theorem mapRunes_plain (bytes : Bytes)
    (plain : ∀ byte ∈ mapRunes upperRune bytes, byte.toNat < 0x80) :
    ∃ runes : List Nat, bytes = runes.flatMap encodeRune ∧
      ∀ rune ∈ runes, upperRune rune < 0x80 := by
  fun_induction mapRunes upperRune bytes with
  | case1 => exact ⟨[], rfl, by simp⟩
  | case2 byte rest ih =>
    obtain ⟨runes, later, others⟩ := ih fun other member =>
      plain other (List.mem_append_right _ member)
    have small : upperRune (decodeRune (byte :: rest)).1 < 0x80 :=
      encodeRune_all_ascii _ fun other member => plain other (List.mem_append_left _ member)
    have narrow : (decodeRune (byte :: rest)).1 < 0x800 := by
      by_contra wide
      have folds := upperRune_ascii (by omega) small
      simp only [foldsToAscii, Bool.or_eq_true, beq_iff_eq] at folds
      omega
    refine ⟨(decodeRune (byte :: rest)).1 :: runes, ?_, List.forall_mem_cons.mpr ⟨small, others⟩⟩
    rw [List.flatMap_cons, ← later]
    exact decodeRune_small narrow

private theorem upperRune_foldUpper {rune : Nat} (small : upperRune rune < 0x80) :
    upperRune rune = foldUpper rune := by
  by_cases ascii : rune < 0x80
  · have dotted : rune ≠ 0x131 := by omega
    have short : rune ≠ 0x17F := by omega
    rw [upperRune, if_pos ascii, foldUpper, if_neg dotted, if_neg short]
  · have folds := upperRune_ascii (by omega) small
    simp only [foldsToAscii, Bool.or_eq_true, beq_iff_eq] at folds
    rcases folds with rfl | rfl
    · decide +kernel
    · decide +kernel

private theorem foldUpper_plain {rune : Nat} (small : foldUpper rune < 0x80) :
    ValidRune rune ∧ upperRune rune = foldUpper rune := by
  have narrow : rune < 0x80 ∨ foldsToAscii rune = true := by
    simp only [foldsToAscii, Bool.or_eq_true, beq_iff_eq]
    unfold foldUpper at small
    repeat' split at small
    all_goals omega
  rcases narrow with ascii | folds
  · have stays : upperRune rune < 0x80 := by
      rw [upperRune, if_pos ascii]
      split <;> omega
    exact ⟨.inl (by omega), upperRune_foldUpper stays⟩
  · refine ⟨?_, upperRune_foldUpper (caseRanges_fold rune folds)⟩
    simp only [foldsToAscii, Bool.or_eq_true, beq_iff_eq] at folds
    exact .inl (by omega)

private theorem toUpper_ascii {bytes : Bytes} (plain : ∀ byte ∈ bytes, byte.toNat < 0x80) :
    toUpper bytes = bytes.map asciiUpper :=
  if_pos (List.all_eq_true.mpr fun byte member => by simpa using plain byte member)

private theorem asciiUpper_plain {byte : UInt8} (plain : (asciiUpper byte).toNat < 0x80) :
    byte.toNat < 0x80 := by
  unfold asciiUpper at plain
  split at plain
  · omega
  · exact plain

/-- Only ASCII has a plain name in ASCII case. -/
theorem sameName_ascii {bytes name : Bytes} (plain : PlainName name)
    (same : sameName bytes name = true) : ∀ byte ∈ bytes, byte.toNat < 0x80 := by
  intro byte member
  rw [sameName, beq_iff_eq, plain.2] at same
  apply asciiUpper_plain
  apply plain.1
  rw [← same]
  exact List.mem_map_of_mem member

theorem folded_not_ascii {bytes name : Bytes} (folded : FoldedSpelling bytes name) :
    ¬∀ byte ∈ bytes, byte.toNat < 0x80 := by
  intro ascii
  obtain ⟨runes, rfl, _, rune, member, folds⟩ := folded
  have small : rune < 0x80 := encodeRune_all_ascii rune fun byte present =>
    ascii byte (List.mem_flatMap.mpr ⟨rune, member, present⟩)
  simp only [foldsToAscii, Bool.or_eq_true, beq_iff_eq] at folds
  omega

private theorem flatMap_encodeRune {runes : List Nat} (small : ∀ rune ∈ runes, rune < 0x80) :
    runes.flatMap encodeRune = runes.map UInt8.ofNat := by
  induction runes with
  | nil => rfl
  | cons rune runes ih =>
    rw [List.flatMap_cons, encodeRune_ascii rune (small rune (by simp)),
      ih fun other member => small other (by simp [member])]
    rfl

private theorem encodes_plain {name : Bytes} (runes : List Nat)
    (small : ∀ rune ∈ runes, rune < 0x80) :
    runes.flatMap encodeRune = name ↔ runes = name.map UInt8.toNat := by
  rw [flatMap_encodeRune small]
  constructor
  · rintro rfl
    rw [List.map_map]
    symm
    refine (List.map_congr_left fun rune member => ?_).trans (List.map_id _)
    have fits := small rune member
    exact byte_toNat (by omega)
  · rintro rfl
    rw [List.map_map]
    refine (List.map_congr_left fun byte _ => ?_).trans (List.map_id _)
    exact UInt8.ofNat_toNat

private theorem folds_of_not_ascii {runes : List Nat}
    (small : ∀ rune ∈ runes, upperRune rune < 0x80)
    (other : ¬∀ byte ∈ runes.flatMap encodeRune, byte.toNat < 0x80) :
    ∃ rune ∈ runes, foldsToAscii rune = true := by
  by_contra none
  apply other
  have ascii : ∀ rune ∈ runes, rune < 0x80 := by
    intro rune member
    by_contra large
    exact none ⟨rune, member, upperRune_ascii (by omega) (small rune member)⟩
  intro byte member
  rw [flatMap_encodeRune ascii] at member
  obtain ⟨rune, present, rfl⟩ := List.mem_map.mp member
  have fits := ascii rune present
  rw [byte_toNat (by omega)]
  exact fits

/-- The strings with a given plain upper-case form: the name itself in some ASCII case, and
its folded spellings. -/
theorem toUpper_eq_plain {bytes name : Bytes} (plain : PlainName name) :
    toUpper bytes = name ↔ sameName bytes name = true ∨ FoldedSpelling bytes name := by
  constructor
  · intro upper
    by_cases ascii : ∀ byte ∈ bytes, byte.toNat < 0x80
    · left
      rw [sameName, beq_iff_eq, ← toUpper_ascii ascii, upper, plain.2]
    · right
      have image : mapRunes upperRune bytes = name := by
        rw [← upper, toUpper, if_neg]
        simpa using ascii
      obtain ⟨runes, rfl, small⟩ := mapRunes_plain bytes fun byte member =>
        plain.1 byte (image ▸ member)
      have folds : ∀ rune ∈ runes, upperRune rune = foldUpper rune := fun rune member =>
        upperRune_foldUpper (small rune member)
      refine ⟨runes, rfl, ?_, folds_of_not_ascii small ascii⟩
      have valid : ∀ rune ∈ runes, ValidRune rune := fun rune member =>
        (foldUpper_plain (folds rune member ▸ small rune member)).1
      rw [mapRunes_encode upperRune runes valid, encodes_plain _ (by simpa using small)] at image
      rw [← image]
      exact (List.map_congr_left folds).symm
  · intro spelled
    rcases spelled with same | folded
    · rw [toUpper_ascii (sameName_ascii plain same)]
      rwa [sameName, beq_iff_eq, plain.2] at same
    · obtain ⟨runes, rfl, letters, _⟩ := folded
      have small : ∀ rune ∈ runes, foldUpper rune < 0x80 := by
        intro rune member
        obtain ⟨byte, present, code⟩ :=
          List.mem_map.mp (letters ▸ List.mem_map_of_mem member)
        rw [← code]
        exact plain.1 byte present
      have upper : runes.map upperRune = runes.map foldUpper :=
        List.map_congr_left fun rune member => (foldUpper_plain (small rune member)).2
      rw [toUpper_encode runes fun rune member => (foldUpper_plain (small rune member)).1, upper,
        encodes_plain _ (by simpa using small)]
      exact letters

end SentinelProxy.Text
