import SentinelProxy.Stream.Reader

/-! Upper-casing of byte strings the way the standard library does it: UTF-8 is
decoded rune by rune, each rune goes through the Unicode case table, and a byte
that decodes to nothing becomes the replacement rune. -/

namespace SentinelProxy.Text

open SentinelProxy.Stream

/-- Replacement rune, standing for every undecodable byte. -/
def runeError : Nat := 0xFFFD

def continuation (byte : UInt8) : Bool := 0x80 ≤ byte.toNat && byte.toNat ≤ 0xBF

/-- Second bytes a three-byte sequence may have after its first one; the bounds
exclude overlong forms and surrogates. -/
def accept3 (first second : UInt8) : Bool :=
  (if first.toNat = 0xE0 then 0xA0 else 0x80) ≤ second.toNat &&
    second.toNat ≤ (if first.toNat = 0xED then 0x9F else 0xBF)

/-- The same for four-byte sequences, up to the last code point. -/
def accept4 (first second : UInt8) : Bool :=
  (if first.toNat = 0xF0 then 0x90 else 0x80) ≤ second.toNat &&
    second.toNat ≤ (if first.toNat = 0xF4 then 0x8F else 0xBF)

/-- The first rune of a byte string and its width in bytes; an undecodable byte is
the replacement rune with width 1. -/
def decodeRune : Bytes → Nat × Nat
  | [] => (runeError, 0)
  | a :: rest =>
    if a.toNat < 0x80 then (a.toNat, 1)
    else if 0xC2 ≤ a.toNat ∧ a.toNat ≤ 0xDF then
      match rest with
      | b :: _ =>
        if continuation b then (a.toNat % 32 * 64 + b.toNat % 64, 2) else (runeError, 1)
      | [] => (runeError, 1)
    else if 0xE0 ≤ a.toNat ∧ a.toNat ≤ 0xEF then
      match rest with
      | b :: c :: _ =>
        if accept3 a b && continuation c then
          (a.toNat % 16 * 4096 + b.toNat % 64 * 64 + c.toNat % 64, 3)
        else (runeError, 1)
      | _ => (runeError, 1)
    else if 0xF0 ≤ a.toNat ∧ a.toNat ≤ 0xF4 then
      match rest with
      | b :: c :: d :: _ =>
        if accept4 a b && continuation c && continuation d then
          (a.toNat % 8 * 262144 + b.toNat % 64 * 4096 + c.toNat % 64 * 64 + d.toNat % 64, 4)
        else (runeError, 1)
      | _ => (runeError, 1)
    else (runeError, 1)

/-- A code point UTF-8 can carry. -/
def ValidRune (rune : Nat) : Prop := rune < 0xD800 ∨ (0xDFFF < rune ∧ rune ≤ 0x10FFFF)

instance (rune : Nat) : Decidable (ValidRune rune) :=
  inferInstanceAs (Decidable (_ ∨ _))

def encodeRune (rune : Nat) : Bytes :=
  if rune < 0x80 then [UInt8.ofNat rune]
  else if rune < 0x800 then [UInt8.ofNat (0xC0 + rune / 64), UInt8.ofNat (0x80 + rune % 64)]
  else if ¬ ValidRune rune then [0xEF, 0xBF, 0xBD]
  else if rune < 0x10000 then
    [UInt8.ofNat (0xE0 + rune / 4096), UInt8.ofNat (0x80 + rune / 64 % 64),
      UInt8.ofNat (0x80 + rune % 64)]
  else
    [UInt8.ofNat (0xF0 + rune / 262144), UInt8.ofNat (0x80 + rune / 4096 % 64),
      UInt8.ofNat (0x80 + rune / 64 % 64), UInt8.ofNat (0x80 + rune % 64)]

/-- Runes with an upper-case form: a constant distance, or (`none`) an alternation
of upper-case runes and the lower-case runes right after them. -/
structure CaseRange where
  lo : Nat
  hi : Nat
  delta : Option Int
  deriving DecidableEq, Repr

/-- The simple upper-case mappings of Unicode 14.0 outside ASCII. -/
def caseRanges : List CaseRange :=
  [⟨0xb5, 0xb5, some 743⟩, ⟨0xe0, 0xf6, some (-32)⟩, ⟨0xf8, 0xfe, some (-32)⟩,
   ⟨0xff, 0xff, some 121⟩, ⟨0x100, 0x12f, none⟩, ⟨0x131, 0x131, some (-232)⟩,
   ⟨0x132, 0x137, none⟩, ⟨0x139, 0x148, none⟩, ⟨0x14a, 0x177, none⟩, ⟨0x179, 0x17e, none⟩,
   ⟨0x17f, 0x17f, some (-300)⟩, ⟨0x180, 0x180, some 195⟩, ⟨0x182, 0x185, none⟩,
   ⟨0x188, 0x188, some (-1)⟩, ⟨0x18c, 0x18c, some (-1)⟩, ⟨0x192, 0x192, some (-1)⟩,
   ⟨0x195, 0x195, some 97⟩, ⟨0x199, 0x199, some (-1)⟩, ⟨0x19a, 0x19a, some 163⟩,
   ⟨0x19e, 0x19e, some 130⟩, ⟨0x1a0, 0x1a5, none⟩, ⟨0x1a8, 0x1a8, some (-1)⟩,
   ⟨0x1ad, 0x1ad, some (-1)⟩, ⟨0x1b0, 0x1b0, some (-1)⟩, ⟨0x1b3, 0x1b6, none⟩,
   ⟨0x1b9, 0x1b9, some (-1)⟩, ⟨0x1bd, 0x1bd, some (-1)⟩, ⟨0x1bf, 0x1bf, some 56⟩,
   ⟨0x1c5, 0x1c5, some (-1)⟩, ⟨0x1c6, 0x1c6, some (-2)⟩, ⟨0x1c8, 0x1c8, some (-1)⟩,
   ⟨0x1c9, 0x1c9, some (-2)⟩, ⟨0x1cb, 0x1cb, some (-1)⟩, ⟨0x1cc, 0x1cc, some (-2)⟩,
   ⟨0x1cd, 0x1dc, none⟩, ⟨0x1dd, 0x1dd, some (-79)⟩, ⟨0x1de, 0x1ef, none⟩,
   ⟨0x1f2, 0x1f2, some (-1)⟩, ⟨0x1f3, 0x1f3, some (-2)⟩, ⟨0x1f5, 0x1f5, some (-1)⟩,
   ⟨0x1f8, 0x21f, none⟩, ⟨0x222, 0x233, none⟩, ⟨0x23c, 0x23c, some (-1)⟩,
   ⟨0x23f, 0x240, some 10815⟩, ⟨0x242, 0x242, some (-1)⟩, ⟨0x246, 0x24f, none⟩,
   ⟨0x250, 0x250, some 10783⟩, ⟨0x251, 0x251, some 10780⟩, ⟨0x252, 0x252, some 10782⟩,
   ⟨0x253, 0x253, some (-210)⟩, ⟨0x254, 0x254, some (-206)⟩, ⟨0x256, 0x257, some (-205)⟩,
   ⟨0x259, 0x259, some (-202)⟩, ⟨0x25b, 0x25b, some (-203)⟩, ⟨0x25c, 0x25c, some 42319⟩,
   ⟨0x260, 0x260, some (-205)⟩, ⟨0x261, 0x261, some 42315⟩, ⟨0x263, 0x263, some (-207)⟩,
   ⟨0x265, 0x265, some 42280⟩, ⟨0x266, 0x266, some 42308⟩, ⟨0x268, 0x268, some (-209)⟩,
   ⟨0x269, 0x269, some (-211)⟩, ⟨0x26a, 0x26a, some 42308⟩, ⟨0x26b, 0x26b, some 10743⟩,
   ⟨0x26c, 0x26c, some 42305⟩, ⟨0x26f, 0x26f, some (-211)⟩, ⟨0x271, 0x271, some 10749⟩,
   ⟨0x272, 0x272, some (-213)⟩, ⟨0x275, 0x275, some (-214)⟩, ⟨0x27d, 0x27d, some 10727⟩,
   ⟨0x280, 0x280, some (-218)⟩, ⟨0x282, 0x282, some 42307⟩, ⟨0x283, 0x283, some (-218)⟩,
   ⟨0x287, 0x287, some 42282⟩, ⟨0x288, 0x288, some (-218)⟩, ⟨0x289, 0x289, some (-69)⟩,
   ⟨0x28a, 0x28b, some (-217)⟩, ⟨0x28c, 0x28c, some (-71)⟩, ⟨0x292, 0x292, some (-219)⟩,
   ⟨0x29d, 0x29d, some 42261⟩, ⟨0x29e, 0x29e, some 42258⟩, ⟨0x345, 0x345, some 84⟩,
   ⟨0x370, 0x373, none⟩, ⟨0x377, 0x377, some (-1)⟩, ⟨0x37b, 0x37d, some 130⟩,
   ⟨0x3ac, 0x3ac, some (-38)⟩, ⟨0x3ad, 0x3af, some (-37)⟩, ⟨0x3b1, 0x3c1, some (-32)⟩,
   ⟨0x3c2, 0x3c2, some (-31)⟩, ⟨0x3c3, 0x3cb, some (-32)⟩, ⟨0x3cc, 0x3cc, some (-64)⟩,
   ⟨0x3cd, 0x3ce, some (-63)⟩, ⟨0x3d0, 0x3d0, some (-62)⟩, ⟨0x3d1, 0x3d1, some (-57)⟩,
   ⟨0x3d5, 0x3d5, some (-47)⟩, ⟨0x3d6, 0x3d6, some (-54)⟩, ⟨0x3d7, 0x3d7, some (-8)⟩,
   ⟨0x3d8, 0x3ef, none⟩, ⟨0x3f0, 0x3f0, some (-86)⟩, ⟨0x3f1, 0x3f1, some (-80)⟩,
   ⟨0x3f2, 0x3f2, some 7⟩, ⟨0x3f3, 0x3f3, some (-116)⟩, ⟨0x3f5, 0x3f5, some (-96)⟩,
   ⟨0x3f8, 0x3f8, some (-1)⟩, ⟨0x3fb, 0x3fb, some (-1)⟩, ⟨0x430, 0x44f, some (-32)⟩,
   ⟨0x450, 0x45f, some (-80)⟩, ⟨0x460, 0x481, none⟩, ⟨0x48a, 0x4bf, none⟩, ⟨0x4c1, 0x4ce, none⟩,
   ⟨0x4cf, 0x4cf, some (-15)⟩, ⟨0x4d0, 0x52f, none⟩, ⟨0x561, 0x586, some (-48)⟩,
   ⟨0x10d0, 0x10fa, some 3008⟩, ⟨0x10fd, 0x10ff, some 3008⟩, ⟨0x13f8, 0x13fd, some (-8)⟩,
   ⟨0x1c80, 0x1c80, some (-6254)⟩, ⟨0x1c81, 0x1c81, some (-6253)⟩, ⟨0x1c82, 0x1c82, some (-6244)⟩,
   ⟨0x1c83, 0x1c84, some (-6242)⟩, ⟨0x1c85, 0x1c85, some (-6243)⟩, ⟨0x1c86, 0x1c86, some (-6236)⟩,
   ⟨0x1c87, 0x1c87, some (-6181)⟩, ⟨0x1c88, 0x1c88, some 35266⟩, ⟨0x1d79, 0x1d79, some 35332⟩,
   ⟨0x1d7d, 0x1d7d, some 3814⟩, ⟨0x1d8e, 0x1d8e, some 35384⟩, ⟨0x1e00, 0x1e95, none⟩,
   ⟨0x1e9b, 0x1e9b, some (-59)⟩, ⟨0x1ea0, 0x1eff, none⟩, ⟨0x1f00, 0x1f07, some 8⟩,
   ⟨0x1f10, 0x1f15, some 8⟩, ⟨0x1f20, 0x1f27, some 8⟩, ⟨0x1f30, 0x1f37, some 8⟩,
   ⟨0x1f40, 0x1f45, some 8⟩, ⟨0x1f51, 0x1f51, some 8⟩, ⟨0x1f53, 0x1f53, some 8⟩,
   ⟨0x1f55, 0x1f55, some 8⟩, ⟨0x1f57, 0x1f57, some 8⟩, ⟨0x1f60, 0x1f67, some 8⟩,
   ⟨0x1f70, 0x1f71, some 74⟩, ⟨0x1f72, 0x1f75, some 86⟩, ⟨0x1f76, 0x1f77, some 100⟩,
   ⟨0x1f78, 0x1f79, some 128⟩, ⟨0x1f7a, 0x1f7b, some 112⟩, ⟨0x1f7c, 0x1f7d, some 126⟩,
   ⟨0x1f80, 0x1f87, some 8⟩, ⟨0x1f90, 0x1f97, some 8⟩, ⟨0x1fa0, 0x1fa7, some 8⟩,
   ⟨0x1fb0, 0x1fb1, some 8⟩, ⟨0x1fb3, 0x1fb3, some 9⟩, ⟨0x1fbe, 0x1fbe, some (-7205)⟩,
   ⟨0x1fc3, 0x1fc3, some 9⟩, ⟨0x1fd0, 0x1fd1, some 8⟩, ⟨0x1fe0, 0x1fe1, some 8⟩,
   ⟨0x1fe5, 0x1fe5, some 7⟩, ⟨0x1ff3, 0x1ff3, some 9⟩, ⟨0x214e, 0x214e, some (-28)⟩,
   ⟨0x2170, 0x217f, some (-16)⟩, ⟨0x2184, 0x2184, some (-1)⟩, ⟨0x24d0, 0x24e9, some (-26)⟩,
   ⟨0x2c30, 0x2c5f, some (-48)⟩, ⟨0x2c61, 0x2c61, some (-1)⟩, ⟨0x2c65, 0x2c65, some (-10795)⟩,
   ⟨0x2c66, 0x2c66, some (-10792)⟩, ⟨0x2c67, 0x2c6c, none⟩, ⟨0x2c73, 0x2c73, some (-1)⟩,
   ⟨0x2c76, 0x2c76, some (-1)⟩, ⟨0x2c80, 0x2ce3, none⟩, ⟨0x2ceb, 0x2cee, none⟩,
   ⟨0x2cf3, 0x2cf3, some (-1)⟩, ⟨0x2d00, 0x2d25, some (-7264)⟩, ⟨0x2d27, 0x2d27, some (-7264)⟩,
   ⟨0x2d2d, 0x2d2d, some (-7264)⟩, ⟨0xa640, 0xa66d, none⟩, ⟨0xa680, 0xa69b, none⟩,
   ⟨0xa722, 0xa72f, none⟩, ⟨0xa732, 0xa76f, none⟩, ⟨0xa779, 0xa77c, none⟩, ⟨0xa77e, 0xa787, none⟩,
   ⟨0xa78c, 0xa78c, some (-1)⟩, ⟨0xa790, 0xa793, none⟩, ⟨0xa794, 0xa794, some 48⟩,
   ⟨0xa796, 0xa7a9, none⟩, ⟨0xa7b4, 0xa7c3, none⟩, ⟨0xa7c7, 0xa7ca, none⟩,
   ⟨0xa7d1, 0xa7d1, some (-1)⟩, ⟨0xa7d6, 0xa7d9, none⟩, ⟨0xa7f6, 0xa7f6, some (-1)⟩,
   ⟨0xab53, 0xab53, some (-928)⟩, ⟨0xab70, 0xabbf, some (-38864)⟩, ⟨0xff41, 0xff5a, some (-32)⟩,
   ⟨0x10428, 0x1044f, some (-40)⟩, ⟨0x104d8, 0x104fb, some (-40)⟩, ⟨0x10597, 0x105a1, some (-39)⟩,
   ⟨0x105a3, 0x105b1, some (-39)⟩, ⟨0x105b3, 0x105b9, some (-39)⟩, ⟨0x105bb, 0x105bc, some (-39)⟩,
   ⟨0x10cc0, 0x10cf2, some (-64)⟩, ⟨0x118c0, 0x118df, some (-32)⟩, ⟨0x16e60, 0x16e7f, some (-32)⟩,
   ⟨0x1e922, 0x1e943, some (-34)⟩]

def CaseRange.upper (range : CaseRange) (rune : Nat) : Nat :=
  match range.delta with
  | some delta => ((rune : Int) + delta).toNat
  | none => range.lo + (rune - range.lo) / 2 * 2

/-- Simple upper-case mapping of one rune. -/
def upperRune (rune : Nat) : Nat :=
  if rune < 0x80 then if 97 ≤ rune ∧ rune ≤ 122 then rune - 32 else rune
  else
    match caseRanges.find? (fun range => range.lo ≤ rune && rune ≤ range.hi) with
    | some range => range.upper rune
    | none => rune

private theorem decodeRune_width (byte : UInt8) (rest : Bytes) :
    0 < (decodeRune (byte :: rest)).2 := by
  simp only [decodeRune]
  repeat' split
  all_goals simp

def mapRunes (mapping : Nat → Nat) : Bytes → Bytes
  | [] => []
  | byte :: rest =>
    encodeRune (mapping (decodeRune (byte :: rest)).1) ++
      mapRunes mapping ((byte :: rest).drop (decodeRune (byte :: rest)).2)
termination_by bytes => bytes.length
decreasing_by
  have width := decodeRune_width byte rest
  simp only [List.length_drop, List.length_cons]
  omega

def asciiUpper (byte : UInt8) : UInt8 :=
  if 97 ≤ byte.toNat ∧ byte.toNat ≤ 122 then byte - 32 else byte

/-- Upper-casing: byte by byte when the string is plain ASCII, rune by rune else. -/
def toUpper (bytes : Bytes) : Bytes :=
  if bytes.all (fun byte => byte.toNat < 0x80) then bytes.map asciiUpper
  else mapRunes upperRune bytes

theorem byte_toNat {code : Nat} (small : code < 256) :
    (UInt8.ofNat code).toNat = code := by
  rw [UInt8.toNat_ofNat']
  omega

private theorem encodeRune_ne_nil (rune : Nat) : encodeRune rune ≠ [] := by
  unfold encodeRune
  repeat' split
  all_goals simp

private theorem decodeRune_two (rune : Nat) (large : 0x80 ≤ rune) (small : rune < 0x800)
    (rest : Bytes) : decodeRune (encodeRune rune ++ rest) = (rune, 2) := by
  have first := byte_toNat (show 0xC0 + rune / 64 < 256 by omega)
  have second := byte_toNat (show 0x80 + rune % 64 < 256 by omega)
  rw [encodeRune, if_neg (by omega), if_pos small]
  simp only [List.cons_append, List.nil_append, decodeRune, first, second, continuation]
  rw [if_neg (by omega), if_pos (by omega), if_pos (by simp; omega)]
  congr 1
  omega

private theorem decodeRune_three (rune : Nat) (large : 0x800 ≤ rune) (small : rune < 0x10000)
    (valid : ValidRune rune) (rest : Bytes) :
    decodeRune (encodeRune rune ++ rest) = (rune, 3) := by
  have first := byte_toNat (show 0xE0 + rune / 4096 < 256 by omega)
  have second := byte_toNat (show 0x80 + rune / 64 % 64 < 256 by omega)
  have third := byte_toNat (show 0x80 + rune % 64 < 256 by omega)
  rw [encodeRune, if_neg (by omega), if_neg (by omega), if_neg (by simpa using valid),
    if_pos small]
  simp only [List.cons_append, List.nil_append, decodeRune, first, second, third, accept3,
    continuation]
  unfold ValidRune at valid
  rw [if_neg (by omega), if_neg (by omega), if_pos (by omega), if_pos]
  · congr 1
    omega
  · simp only [Bool.and_eq_true, decide_eq_true_eq]
    refine ⟨⟨?_, ?_⟩, by omega, by omega⟩
    · split <;> omega
    · split <;> omega

private theorem decodeRune_four (rune : Nat) (large : 0x10000 ≤ rune) (valid : ValidRune rune)
    (rest : Bytes) : decodeRune (encodeRune rune ++ rest) = (rune, 4) := by
  have bound : rune ≤ 0x10FFFF := by unfold ValidRune at valid; omega
  have first := byte_toNat (show 0xF0 + rune / 262144 < 256 by omega)
  have second := byte_toNat (show 0x80 + rune / 4096 % 64 < 256 by omega)
  have third := byte_toNat (show 0x80 + rune / 64 % 64 < 256 by omega)
  have fourth := byte_toNat (show 0x80 + rune % 64 < 256 by omega)
  rw [encodeRune, if_neg (by omega), if_neg (by omega), if_neg (by simpa using valid),
    if_neg (by omega)]
  simp only [List.cons_append, List.nil_append, decodeRune, first, second, third, fourth, accept4,
    continuation]
  rw [if_neg (by omega), if_neg (by omega), if_neg (by omega), if_pos (by omega), if_pos]
  · congr 1
    omega
  · simp only [Bool.and_eq_true, decide_eq_true_eq]
    refine ⟨⟨⟨?_, ?_⟩, by omega, by omega⟩, by omega, by omega⟩
    · split <;> omega
    · split <;> omega

/-- Decoding undoes encoding, whatever bytes follow. -/
theorem decodeRune_encodeRune (rune : Nat) (valid : ValidRune rune) (rest : Bytes) :
    decodeRune (encodeRune rune ++ rest) = (rune, (encodeRune rune).length) := by
  by_cases ascii : rune < 0x80
  · have first := byte_toNat (show rune < 256 by omega)
    simp [encodeRune, ascii, decodeRune, first]
  · by_cases two : rune < 0x800
    · rw [decodeRune_two rune (by omega) two]
      simp [encodeRune, ascii, two]
    · by_cases three : rune < 0x10000
      · rw [decodeRune_three rune (by omega) three valid]
        simp [encodeRune, ascii, two, three, valid]
      · rw [decodeRune_four rune (by omega) valid]
        simp [encodeRune, ascii, two, three, valid]

/-- A decoded rune is a byte of ASCII, comes from two bytes, or is at least as large as the
runes of three bytes are. -/
theorem decodeRune_cases (byte : UInt8) (rest : Bytes) :
    (byte.toNat < 0x80 ∧ decodeRune (byte :: rest) = (byte.toNat, 1)) ∨
    (∃ second others, rest = second :: others ∧ (0xC2 ≤ byte.toNat ∧ byte.toNat ≤ 0xDF) ∧
      continuation second = true ∧
      decodeRune (byte :: rest) = (byte.toNat % 32 * 64 + second.toNat % 64, 2)) ∨
    (0x800 ≤ (decodeRune (byte :: rest)).1 ∧ ValidRune (decodeRune (byte :: rest)).1) := by
  have replacement : 0x800 ≤ runeError ∧ ValidRune runeError := by decide
  have bound := byte.toNat_lt
  unfold decodeRune
  by_cases ascii : byte.toNat < 0x80
  · exact .inl ⟨ascii, if_pos ascii⟩
  · right
    simp only [ascii, if_false]
    by_cases two : 0xC2 ≤ byte.toNat ∧ byte.toNat ≤ 0xDF
    · simp only [two, and_self, if_true]
      split
      · rename_i second others
        split
        · rename_i continues
          exact .inl ⟨second, others, rfl, trivial, continues, rfl⟩
        · exact .inr replacement
      · exact .inr replacement
    · right
      simp only [two, if_false]
      split
      · split
        · split
          · rename_i accepted
            simp only [accept3, Bool.and_eq_true, decide_eq_true_eq] at accepted
            obtain ⟨⟨low, high⟩, _⟩ := accepted
            unfold ValidRune
            simp only
            split at low <;> split at high <;> omega
          · exact replacement
        · exact replacement
      · split
        · split
          · split
            · rename_i accepted
              simp only [accept4, Bool.and_eq_true, decide_eq_true_eq] at accepted
              obtain ⟨⟨⟨low, high⟩, _⟩, _⟩ := accepted
              unfold ValidRune
              simp only
              split at low <;> split at high <;> omega
            · exact replacement
          · exact replacement
        · exact replacement

private theorem decodeRune_valid (bytes : Bytes) : ValidRune (decodeRune bytes).1 := by
  cases bytes with
  | nil => exact (by decide : ValidRune runeError)
  | cons byte rest =>
    rcases decodeRune_cases byte rest with
      ⟨ascii, decoded⟩ | ⟨second, others, _, _, _, decoded⟩ | ⟨_, valid⟩
    · rw [decoded]
      exact .inl (by simp only; omega)
    · rw [decoded]
      exact .inl (by simp only; omega)
    · exact valid

theorem mapRunes_encode (mapping : Nat → Nat) (runes : List Nat)
    (valid : ∀ rune ∈ runes, ValidRune rune) :
    mapRunes mapping (runes.flatMap encodeRune) = (runes.map mapping).flatMap encodeRune := by
  induction runes with
  | nil => simp [mapRunes]
  | cons rune runes ih =>
    have decoded := decodeRune_encodeRune rune (valid rune (by simp)) (runes.flatMap encodeRune)
    obtain ⟨byte, rest, shape⟩ : ∃ byte rest,
        encodeRune rune ++ runes.flatMap encodeRune = byte :: rest := by
      obtain ⟨byte, rest, front⟩ := List.exists_cons_of_ne_nil (encodeRune_ne_nil rune)
      exact ⟨byte, rest ++ runes.flatMap encodeRune, by rw [front]; rfl⟩
    rw [List.flatMap_cons, List.map_cons, List.flatMap_cons, shape, mapRunes, ← shape, decoded,
      List.drop_left, ih (fun other member => valid other (by simp [member]))]

/-- Every mapped string is the encoding of mapped valid runes. -/
theorem mapRunes_runes (mapping : Nat → Nat) (bytes : Bytes) :
    ∃ runes : List Nat, (∀ rune ∈ runes, ValidRune rune) ∧
      mapRunes mapping bytes = (runes.map mapping).flatMap encodeRune := by
  fun_induction mapRunes mapping bytes with
  | case1 => exact ⟨[], by simp, rfl⟩
  | case2 byte rest ih =>
    obtain ⟨runes, valid, same⟩ := ih
    refine ⟨(decodeRune (byte :: rest)).1 :: runes, ?_, ?_⟩
    · intro rune member
      rcases List.mem_cons.mp member with first | later
      · rw [first]
        exact decodeRune_valid _
      · exact valid rune later
    · rw [same, List.map_cons, List.flatMap_cons]

theorem CaseRange.upper_between (range : CaseRange) {rune : Nat} (low : range.lo ≤ rune)
    (high : rune ≤ range.hi) :
    range.upper range.lo ≤ range.upper rune ∧ range.upper rune ≤ range.upper range.hi := by
  unfold CaseRange.upper
  split
  · omega
  · omega

/-- The two runes outside ASCII whose upper-case form is an ASCII letter: the
dotless i and the long s. -/
def foldsToAscii (rune : Nat) : Bool := rune == 0x131 || rune == 0x17F

/-- What the images of one table entry have in common: they are valid runes, none
of them folds to ASCII again, and only the two folding runes reach ASCII at all. -/
def CaseRange.tame (range : CaseRange) : Bool :=
  let first := range.upper range.lo
  let last := range.upper range.hi
  (0x80 ≤ first || range.lo == range.hi && foldsToAscii range.lo && 65 ≤ first && last ≤ 90) &&
    (last < 0xD800 || 0xDFFF < first && last ≤ 0x10FFFF) &&
    (last < 0x131 || 0x131 < first) && (last < 0x17F || 0x17F < first)

private theorem caseRanges_tame : ∀ range ∈ caseRanges, range.tame = true := by
  decide +kernel

theorem caseRanges_fold : ∀ rune, foldsToAscii rune = true → upperRune rune < 0x80 := by
  intro rune folds
  simp only [foldsToAscii, Bool.or_eq_true, beq_iff_eq] at folds
  rcases folds with rfl | rfl
  · decide +kernel
  · decide +kernel

/-- A rune that a second upper-casing cannot turn into another ASCII rune. -/
def Settled (rune : Nat) : Prop := foldsToAscii rune = false ∧ ¬ (97 ≤ rune ∧ rune ≤ 122)

theorem CaseRange.tame_upper {range : CaseRange} {rune : Nat} (tame : range.tame = true)
    (low : range.lo ≤ rune) (high : rune ≤ range.hi) :
    ValidRune (range.upper rune) ∧ Settled (range.upper rune) ∧
      (range.upper rune < 0x80 → foldsToAscii rune = true) := by
  have bounds := range.upper_between low high
  simp only [CaseRange.tame, Bool.and_eq_true, Bool.or_eq_true, decide_eq_true_eq,
    beq_iff_eq] at tame
  refine ⟨?_, ⟨?_, ?_⟩, ?_⟩
  · unfold ValidRune
    omega
  · simp only [foldsToAscii, Bool.or_eq_false_iff, beq_eq_false_iff_ne]
    omega
  · omega
  · intro small
    obtain ⟨⟨⟨reaches, _⟩, _⟩, _⟩ := tame
    rcases reaches with outside | ⟨⟨⟨single, folds⟩, _⟩, _⟩
    · omega
    · have only : rune = range.lo := by omega
      rw [only]
      exact folds

/-- Upper-casing keeps a rune outside ASCII, or takes it into the images of the table. -/
private theorem upperRune_cases (rune : Nat) (large : 0x80 ≤ rune) :
    upperRune rune = rune ∧ foldsToAscii rune = false ∨
      ValidRune (upperRune rune) ∧ Settled (upperRune rune) ∧
        (upperRune rune < 0x80 → foldsToAscii rune = true) := by
  cases found : caseRanges.find? (fun range => range.lo ≤ rune && rune ≤ range.hi) with
  | none =>
    have kept : upperRune rune = rune := by
      rw [upperRune, if_neg (by omega)]
      simp [found]
    refine .inl ⟨kept, ?_⟩
    by_contra folds
    have small := caseRanges_fold rune (by simpa using folds)
    omega
  | some range =>
    have inside := List.find?_some found
    simp only [Bool.and_eq_true, decide_eq_true_eq] at inside
    have mapped : upperRune rune = range.upper rune := by
      rw [upperRune, if_neg (by omega)]
      simp [found]
    rw [mapped]
    exact .inr (CaseRange.tame_upper (caseRanges_tame range (List.mem_of_find?_eq_some found))
      inside.1 inside.2)

private theorem upperRune_valid (rune : Nat) (valid : ValidRune rune) :
    ValidRune (upperRune rune) := by
  by_cases ascii : rune < 0x80
  · refine .inl ?_
    rw [upperRune, if_pos ascii]
    split <;> omega
  · rcases upperRune_cases rune (by omega) with ⟨same, _⟩ | ⟨mapped, _, _⟩
    · rw [same]
      exact valid
    · exact mapped

/-- Only the dotless i and the long s enter ASCII from outside. -/
theorem upperRune_ascii {rune : Nat} (large : 0x80 ≤ rune) (small : upperRune rune < 0x80) :
    foldsToAscii rune = true := by
  rcases upperRune_cases rune large with ⟨same, _⟩ | ⟨_, _, folds⟩
  · omega
  · exact folds small

private theorem upperRune_settled (rune : Nat) : Settled (upperRune rune) := by
  by_cases ascii : rune < 0x80
  · unfold Settled
    rw [upperRune, if_pos ascii]
    simp only [foldsToAscii, Bool.or_eq_false_iff, beq_eq_false_iff_ne]
    split <;> omega
  · rcases upperRune_cases rune (by omega) with ⟨same, plain⟩ | ⟨_, settled, _⟩
    · rw [same]
      exact ⟨plain, by omega⟩
    · exact settled

private theorem upperRune_of_settled {rune : Nat} (settled : Settled rune)
    (small : upperRune rune < 0x80) : upperRune rune = rune := by
  by_cases ascii : rune < 0x80
  · rw [upperRune, if_pos ascii, if_neg settled.2]
  · have folds := upperRune_ascii (by omega) small
    rw [settled.1] at folds
    cases folds

theorem encodeRune_ascii (rune : Nat) (small : rune < 0x80) :
    encodeRune rune = [UInt8.ofNat rune] := by
  simp [encodeRune, small]

theorem encodeRune_all_ascii (rune : Nat)
    (plain : ∀ byte ∈ encodeRune rune, byte.toNat < 0x80) : rune < 0x80 := by
  by_contra large
  have first : ∀ code rest, encodeRune rune = UInt8.ofNat code :: rest → 0x80 ≤ code →
      code < 256 → False := by
    intro code rest shape low high
    have small := plain (UInt8.ofNat code) (by simp [shape])
    rw [byte_toNat high] at small
    omega
  by_cases two : rune < 0x800
  · exact first (0xC0 + rune / 64) _ (by rw [encodeRune, if_neg large, if_pos two])
      (by omega) (by omega)
  · by_cases valid : ValidRune rune
    · by_cases three : rune < 0x10000
      · exact first (0xE0 + rune / 4096) _
          (by rw [encodeRune, if_neg large, if_neg two, if_neg (by simpa using valid),
            if_pos three]) (by omega) (by omega)
      · refine first (0xF0 + rune / 262144) _
          (by rw [encodeRune, if_neg large, if_neg two, if_neg (by simpa using valid),
            if_neg three]) (by omega) ?_
        unfold ValidRune at valid
        omega
    · exact first 0xEF _ (by rw [encodeRune, if_neg large, if_neg two, if_pos valid]; rfl)
        (by omega) (by omega)

private theorem asciiUpper_toNat (byte : UInt8) (small : byte.toNat < 0x80) :
    (asciiUpper byte).toNat = upperRune byte.toNat := by
  rw [upperRune, if_pos small, asciiUpper]
  split
  · rename_i lower
    rw [UInt8.toNat_sub_of_le _ _ (by rw [UInt8.le_iff_toNat_le]; simp; omega)]
    rfl
  · rfl

/-- On plain ASCII the two ways of upper-casing agree. -/
private theorem map_asciiUpper (bytes : Bytes) (plain : ∀ byte ∈ bytes, byte.toNat < 0x80) :
    bytes.map asciiUpper = ((bytes.map UInt8.toNat).map upperRune).flatMap encodeRune := by
  induction bytes with
  | nil => rfl
  | cons byte bytes ih =>
    have small := plain byte (by simp)
    have stays : upperRune byte.toNat < 0x80 := by
      rw [upperRune, if_pos small]
      split <;> omega
    simp only [List.map_cons, List.flatMap_cons]
    rw [encodeRune_ascii _ stays, ← asciiUpper_toNat byte small, UInt8.ofNat_toNat,
      ih (fun other member => plain other (by simp [member]))]
    rfl

private theorem all_ascii {bytes : Bytes} (plain : bytes.all (fun byte => byte.toNat < 0x80)) :
    ∀ byte ∈ bytes, byte.toNat < 0x80 := by
  intro byte member
  simpa using List.all_eq_true.mp plain byte member

/-- An upper-cased string is an encoding of upper-cased valid runes. -/
theorem toUpper_runes (bytes : Bytes) :
    ∃ runes : List Nat, (∀ rune ∈ runes, ValidRune rune) ∧
      toUpper bytes = (runes.map upperRune).flatMap encodeRune := by
  unfold toUpper
  split
  · rename_i plain
    refine ⟨bytes.map UInt8.toNat, ?_, map_asciiUpper bytes (all_ascii plain)⟩
    intro rune member
    obtain ⟨byte, present, rfl⟩ := List.mem_map.mp member
    have small := all_ascii plain byte present
    exact .inl (by omega)
  · exact mapRunes_runes upperRune bytes

theorem toUpper_encode (runes : List Nat) (valid : ∀ rune ∈ runes, ValidRune rune) :
    toUpper (runes.flatMap encodeRune) = (runes.map upperRune).flatMap encodeRune := by
  unfold toUpper
  split
  · rename_i plain
    have small : ∀ rune ∈ runes, rune < 0x80 := by
      intro rune member
      apply encodeRune_all_ascii
      intro byte present
      exact all_ascii plain byte (List.mem_flatMap.mpr ⟨rune, member, present⟩)
    rw [map_asciiUpper _ (all_ascii plain)]
    congr 2
    clear plain valid
    induction runes with
    | nil => rfl
    | cons rune runes ih =>
      have first := small rune (by simp)
      rw [List.flatMap_cons, encodeRune_ascii rune first, List.map_append,
        ih (fun other member => small other (by simp [member]))]
      simp only [List.map_cons, List.map_nil, List.cons_append, List.nil_append]
      rw [byte_toNat (by omega)]
  · exact mapRunes_encode upperRune runes valid

theorem toUpper_eq_nil (bytes : Bytes) : toUpper bytes = [] ↔ bytes = [] := by
  constructor
  · intro empty
    cases bytes with
    | nil => rfl
    | cons byte rest =>
      unfold toUpper at empty
      split at empty
      · simp at empty
      · rw [mapRunes, List.append_eq_nil_iff] at empty
        exact absurd empty.1 (encodeRune_ne_nil _)
  · rintro rfl
    rfl

/-- Upper-casing twice yields an ASCII string only where the first pass already
had: looking a name up again in upper case finds nothing new. -/
theorem toUpper_toUpper {bytes : Bytes}
    (plain : ∀ byte ∈ toUpper (toUpper bytes), byte.toNat < 0x80) :
    toUpper (toUpper bytes) = toUpper bytes := by
  obtain ⟨runes, valid, shape⟩ := toUpper_runes bytes
  have validUpper : ∀ rune ∈ runes.map upperRune, ValidRune rune := by
    intro rune member
    obtain ⟨source, present, rfl⟩ := List.mem_map.mp member
    exact upperRune_valid source (valid source present)
  rw [shape, toUpper_encode _ validUpper] at plain ⊢
  congr 1
  rw [List.map_map]
  apply List.map_congr_left
  intro rune member
  apply upperRune_of_settled (upperRune_settled rune)
  apply encodeRune_all_ascii
  intro byte present
  apply plain byte
  exact List.mem_flatMap.mpr ⟨_, by simpa using ⟨rune, member, rfl⟩, present⟩

end SentinelProxy.Text
