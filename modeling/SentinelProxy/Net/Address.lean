import Mathlib.Data.List.Basic

/-! IP addresses and TCP endpoints: their textual forms as Go's `net` package reads
and writes them. -/

namespace SentinelProxy.Net

/-- An address as its 4 or 16 bytes. -/
abbrev IP := List UInt8

/-- An IPv4 address in its 16-byte form. -/
def mapped (octets : List UInt8) : IP := List.replicate 10 0 ++ [255, 255] ++ octets

/-- The four bytes of an IPv4 address, in either form. -/
def to4 (ip : IP) : Option (List UInt8) :=
  if ip.length = 4 then some ip
  else if ip.length = 16 ∧ ip.take 12 = mapped [] then some (ip.drop 12)
  else none

/-- `0.0.0.0` in either form, or `::`. -/
def isUnspecified (ip : IP) : Bool :=
  to4 ip == some [0, 0, 0, 0] || ip == List.replicate 16 0

/-- No IP at all, or the unspecified one: what is dialled instead is the local system. -/
def isLocalSystem (ip : IP) : Bool := ip.isEmpty || isUnspecified ip

theorem isLocalSystem_eq_false {ip : IP} :
    isLocalSystem ip = false ↔ ip ≠ [] ∧ isUnspecified ip = false := by
  rw [isLocalSystem, Bool.or_eq_false_iff, List.isEmpty_eq_false_iff]

theorem isLocalSystem_of_ne_nil {ip : IP} (nonempty : ip ≠ []) :
    isLocalSystem ip = isUnspecified ip := by
  rw [isLocalSystem, List.isEmpty_eq_false_iff.mpr nonempty, Bool.false_or]

/-- Dotted decimal, from the digits of the current octet and the octets before it:
one to three digits each, none above 255, no leading zeros. -/
def parseIPv4 (value digits : Nat) (octets : List UInt8) : List Char → Option (List UInt8)
  | [] => if octets.length = 3 then some (octets ++ [UInt8.ofNat value]) else none
  | char :: rest =>
    if char.isDigit then
      if digits = 1 ∧ value = 0 then none
      else if 255 < value * 10 + (char.toNat - 48) then none
      else parseIPv4 (value * 10 + (char.toNat - 48)) (digits + 1) octets rest
    else if char = '.' then
      if digits = 0 ∨ rest = [] ∨ octets.length = 3 then none
      else parseIPv4 0 0 (octets ++ [UInt8.ofNat value]) rest
    else none

def hexDigit? (char : Char) : Option Nat :=
  if char.isDigit then some (char.toNat - 48)
  else if 'a' ≤ char ∧ char ≤ 'f' then some (char.toNat - 87)
  else if 'A' ≤ char ∧ char ≤ 'F' then some (char.toNat - 55)
  else none

def hexValue (digits : List Char) : Nat :=
  digits.foldl (fun value char => value * 16 + (hexDigit? char).getD 0) 0

/-- The colon-separated groups of an IPv6 address, at most `left` more of them: where
the ellipsis stood, the bytes so far, and what is left of the text. -/
def parseGroups : (left : Nat) → (ellipsis : Option Nat) → (bytes : List UInt8) → List Char →
    Option (Option Nat × List UInt8 × List Char)
  | 0, ellipsis, bytes, text => some (ellipsis, bytes, text)
  | left + 1, ellipsis, bytes, text =>
    let digits := text.takeWhile fun char => (hexDigit? char).isSome
    let rest := text.dropWhile fun char => (hexDigit? char).isSome
    if digits = [] ∨ 4 < digits.length then none
    else if rest.head? = some '.' then
      -- an embedded IPv4 address stands for the last two groups
      if ellipsis = none ∧ bytes.length ≠ 12 then none
      else if 16 < bytes.length + 4 then none
      else (parseIPv4 0 0 [] text).map fun octets => (ellipsis, bytes ++ octets, [])
    else
      let group := hexValue digits
      let bytes := bytes ++ [UInt8.ofNat (group / 256), UInt8.ofNat (group % 256)]
      match rest with
      | [] => some (ellipsis, bytes, [])
      | [':'] => none
      | ':' :: ':' :: more =>
        if ellipsis.isSome then none
        else if more = [] then some (some bytes.length, bytes, [])
        else parseGroups left (some bytes.length) bytes more
      | ':' :: more => parseGroups left ellipsis bytes more
      | _ => none

/-- The ellipsis stands for at least one group of zeros. -/
def expand : Option Nat × List UInt8 × List Char → Option IP
  | (ellipsis, bytes, rest) =>
    if rest ≠ [] then none
    else if bytes.length < 16 then
      ellipsis.map fun position =>
        bytes.take position ++ List.replicate (16 - bytes.length) 0 ++ bytes.drop position
    else if ellipsis.isSome then none
    else some bytes

def parseIPv6 (text : List Char) : Option IP :=
  match text with
  | [':', ':'] => some (List.replicate 16 0)
  | ':' :: ':' :: rest => (parseGroups 8 (some 0) [] rest).bind expand
  | _ => (parseGroups 8 none [] text).bind expand

/-- An IP literal in its 16-byte form, with its zone. -/
def parseAddr (host : String) : Option (IP × String) :=
  let text := host.toList
  match text.find? fun char => char == '.' || char == ':' || char == '%' with
  | some '.' => (parseIPv4 0 0 [] text).map fun octets => (mapped octets, "")
  | some ':' =>
    let zone := (text.dropWhile (· != '%')).drop 1
    if '%' ∈ text ∧ zone = [] then none
    else (parseIPv6 (text.takeWhile (· != '%'))).map fun ip => (ip, String.ofList zone)
  | _ => none

/-- An IP literal without a zone. -/
def parseIP (host : String) : Option IP :=
  (parseAddr host).bind fun (ip, zone) => if zone = "" then some ip else none

example : parseIP "0.0.0.0" = some (mapped [0, 0, 0, 0]) := by decide +kernel

example : parseIP "::ffff:10.1.2.3" = some (mapped [10, 1, 2, 3]) := by decide +kernel

def groups : IP → List Nat
  | high :: low :: rest => (high.toNat * 256 + low.toNat) :: groups rest
  | _ => []

def hexText (value : Nat) : String := String.ofList (Nat.toDigits 16 value)

/-- The first longest run of at least two zero groups: its start and its length. -/
def zeroRun (groups : List Nat) : Option (Nat × Nat) :=
  (List.range groups.length).foldl (fun best start =>
    let length := ((groups.drop start).takeWhile (· == 0)).length
    if 2 ≤ length ∧ (best.map Prod.snd).getD 0 < length then some (start, length) else best) none

def ipString (ip : IP) : String :=
  match to4 ip with
  | some octets => ".".intercalate (octets.map fun octet => toString octet.toNat)
  | none =>
    if ip = [] then "<nil>"
    else if ip.length ≠ 16 then
      "?" ++ "".intercalate (ip.map fun byte =>
        hexText (byte.toNat / 16) ++ hexText (byte.toNat % 16))
    else
      let groups := groups ip
      match zeroRun groups with
      | none => ":".intercalate (groups.map hexText)
      | some (start, length) =>
        ":".intercalate ((groups.take start).map hexText) ++ "::" ++
          ":".intercalate ((groups.drop (start + length)).map hexText)

/-- A host with a colon is put in brackets. -/
def joinHostPort (host port : String) : String :=
  if ':' ∈ host.toList then "[" ++ host ++ "]:" ++ port else host ++ ":" ++ port

structure TCPAddr where
  ip : IP
  port : Nat
  zone : String
  deriving DecidableEq, Repr

def TCPAddr.string (addr : TCPAddr) : String :=
  let host := if addr.ip = [] then "" else ipString addr.ip
  if addr.zone ≠ "" then joinHostPort (host ++ "%" ++ addr.zone) (toString addr.port)
  else joinHostPort host (toString addr.port)

theorem joinHostPort_ne_empty (host port : String) : joinHostPort host port ≠ "" := by
  unfold joinHostPort
  split
  · intro empty
    have chars := congrArg String.toList empty
    simp at chars
  · intro empty
    have chars := congrArg String.toList empty
    simp at chars

theorem TCPAddr.string_ne_empty (addr : TCPAddr) : addr.string ≠ "" := by
  simp only [TCPAddr.string]
  by_cases zoned : addr.zone ≠ ""
  · rw [if_pos zoned]
    exact joinHostPort_ne_empty _ _
  · rw [if_neg zoned]
    exact joinHostPort_ne_empty _ _

end SentinelProxy.Net
