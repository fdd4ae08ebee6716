import SentinelProxy.Text.Decimal
import SentinelProxy.Net.Resolve

/-! From a host and a port reported apart to the endpoint they are resolved to: which name
is looked up once the two have been joined and split again, and what the port becomes. -/

namespace SentinelProxy.Net

open SentinelProxy.Text

/-- A decimal number that is a port of an endpoint. -/
def ValidPort (port : String) : Prop :=
  ∃ number, atoi port = some number ∧ 1 ≤ number ∧ number ≤ 65535

def bracketFree (text : List Char) : Prop := '[' ∉ text ∧ ']' ∉ text

instance (text : List Char) : Decidable (bracketFree text) := inferInstanceAs (Decidable (_ ∧ _))

/-- The name looked up for a reported host; brackets around a host without a colon are
taken for those of an address. -/
def dialHost (host : String) : Option String :=
  let text := host.toList
  let inner := (text.drop 1).takeWhile (· != ']')
  if ':' ∈ text ∨ text.head? ≠ some '[' then if bracketFree text then some host else none
  else if text = '[' :: inner ++ [']'] ∧ '[' ∉ inner then some (String.ofList inner)
  else none

section Ports

private theorem bytesOf_chars (text : String) :
    bytesOf text = text.toList.flatMap String.utf8EncodeChar := by
  rw [bytesOf, String.toUTF8, ← String.utf8Encode_toList, List.utf8Encode]
  simp

private theorem utf8EncodeChar_ascii {char : Char} (ascii : char.toNat ≤ 127) :
    String.utf8EncodeChar char = [UInt8.ofNat char.toNat] := by
  unfold String.utf8EncodeChar
  exact if_pos ascii

private theorem utf8EncodeChar_wide {char : Char} (wide : ¬char.toNat ≤ 127) :
    ∃ byte rest, String.utf8EncodeChar char = byte :: rest ∧ 128 ≤ byte.toNat := by
  unfold String.utf8EncodeChar
  rw [Char.toNat] at wide
  simp only [if_neg wide]
  split
  · refine ⟨_, _, rfl, ?_⟩
    rw [UInt8.toNat_ofNat']
    omega
  · split
    · refine ⟨_, _, rfl, ?_⟩
      rw [UInt8.toNat_ofNat']
      omega
    · refine ⟨_, _, rfl, ?_⟩
      rw [UInt8.toNat_ofNat']
      omega

private theorem isDigit_iff (char : Char) :
    char.isDigit = true ↔ 48 ≤ char.toNat ∧ char.toNat ≤ 57 := by
  simp only [Char.isDigit, Bool.and_eq_true, decide_eq_true_eq, ge_iff_le, UInt32.le_iff_toNat_le]
  rfl

/-- Digits that are no large number are read alike with and without a range check. -/
theorem portDigits_of_parseDigits {chars : List Char} {value result : Nat}
    (parsed : parseDigits value (chars.flatMap String.utf8EncodeChar) = some result) :
    (∀ char ∈ chars, char.isDigit = true) ∧ value ≤ result ∧
      (result < 2 ^ 30 → portDigits value chars = some result) := by
  induction chars generalizing value with
  | nil =>
    obtain rfl : value = result := by simpa [parseDigits] using parsed
    simp [portDigits]
  | cons char rest ih =>
    rw [List.flatMap_cons] at parsed
    by_cases ascii : char.toNat ≤ 127
    · rw [utf8EncodeChar_ascii ascii, List.singleton_append, parseDigits] at parsed
      split at parsed
      · cases parsed
      · rename_i digit readable
        have code : (UInt8.ofNat char.toNat).toNat = char.toNat := by
          rw [UInt8.toNat_ofNat']
          omega
        simp only [digit?, code, Option.ite_none_right_eq_some, Option.some.injEq] at readable
        obtain ⟨range, rfl⟩ := readable
        have isDigit := (isDigit_iff char).mpr range
        obtain ⟨others, grows, agree⟩ := ih parsed
        refine ⟨List.forall_mem_cons.mpr ⟨isDigit, others⟩, by omega, ?_⟩
        intro small
        rw [portDigits, if_neg (by simp [isDigit]), if_neg (by omega)]
        dsimp only
        rw [Nat.mod_eq_of_lt (by omega), if_neg (by omega)]
        exact agree small
    · obtain ⟨byte, tail, shape, large⟩ := utf8EncodeChar_wide ascii
      rw [shape, List.cons_append, parseDigits] at parsed
      have unreadable : digit? byte = none := by
        rw [digit?, if_neg (by omega)]
      rw [unreadable] at parsed
      cases parsed

private theorem isDigit_plain {char : Char} (digit : char.isDigit = true) :
    char ≠ ':' ∧ char ≠ '[' ∧ char ≠ ']' := by
  refine ⟨?_, ?_, ?_⟩
  all_goals
    rintro rfl
    exact absurd digit (by decide)

private theorem digits_plain {chars : List Char} (digits : ∀ char ∈ chars, char.isDigit = true) :
    ':' ∉ chars ∧ bracketFree chars :=
  ⟨fun member => (isDigit_plain (digits _ member)).1 rfl,
    fun member => (isDigit_plain (digits _ member)).2.1 rfl,
    fun member => (isDigit_plain (digits _ member)).2.2 rfl⟩

theorem utf8EncodeChar_plus {char : Char} {rest : Stream.Bytes} {tail : Stream.Bytes}
    (shape : String.utf8EncodeChar char ++ rest = 43 :: tail) : char = '+' ∧ rest = tail := by
  by_cases ascii : char.toNat ≤ 127
  · rw [utf8EncodeChar_ascii ascii] at shape
    obtain ⟨same, rfl⟩ := List.cons.inj shape
    have code := congrArg UInt8.toNat same
    rw [UInt8.toNat_ofNat', Nat.mod_eq_of_lt (by omega)] at code
    exact ⟨Char.toNat_inj.mp code, rfl⟩
  · obtain ⟨byte, more, encoded, large⟩ := utf8EncodeChar_wide ascii
    rw [encoded] at shape
    obtain ⟨rfl, _⟩ := List.cons.inj shape
    exact absurd large (by decide)

/-- A positive number is written as digits, with or without a plus sign. -/
theorem parseInt_positive {text : Stream.Bytes} {number : Int}
    (parsed : parseInt text = some number) (low : 1 ≤ number) :
    ∃ digits value, (text = 43 :: digits ∨ text = digits) ∧
      parseDigits 0 digits = some value ∧ number = value := by
  unfold parseInt at parsed
  split at parsed
  rename_i negative digits sign
  split at parsed
  · cases parsed
  · split at parsed
    · cases parsed
    · rename_i value read
      have positive : negative = false ∧ number = value := by
        cases negative with
        | false =>
          simp only [Bool.false_eq_true, if_false, Option.ite_none_right_eq_some,
            Option.some.injEq] at parsed
          exact ⟨rfl, parsed.2.symm⟩
        | true =>
          simp only [if_true, Option.ite_none_right_eq_some, Option.some.injEq] at parsed
          omega
      obtain ⟨rfl, rfl⟩ := positive
      refine ⟨digits, value, ?_, read, rfl⟩
      split at sign
      · obtain ⟨_, rfl⟩ := Prod.mk.inj sign
        exact .inl rfl
      · cases sign
      · obtain ⟨_, rfl⟩ := Prod.mk.inj sign
        exact .inr rfl

theorem parseInt_chars {chars : List Char} {number : Int}
    (parsed : parseInt (chars.flatMap String.utf8EncodeChar) = some number) (low : 1 ≤ number) :
    ∃ digits value, (chars = '+' :: digits ∨ chars = digits) ∧
      parseDigits 0 (digits.flatMap String.utf8EncodeChar) = some value ∧ number = value := by
  obtain ⟨digits, value, shape, read, rfl⟩ := parseInt_positive parsed low
  rcases shape with signed | bare
  · cases chars with
    | nil => cases signed
    | cons char rest =>
      rw [List.flatMap_cons] at signed
      obtain ⟨rfl, rfl⟩ := utf8EncodeChar_plus signed
      exact ⟨rest, value, .inl rfl, read, rfl⟩
  · subst bare
    exact ⟨chars, value, .inr rfl, read, rfl⟩

/-- A port that the range check accepts is the port of the endpoint, and its text is free
of what splits an address. -/
theorem parsePort_atoi {port : String} {number : Int} (parsed : atoi port = some number)
    (low : 1 ≤ number) (high : number ≤ 65535) :
    parsePort port = some number ∧ ':' ∉ port.toList ∧ bracketFree port.toList := by
  rw [atoi, bytesOf_chars] at parsed
  obtain ⟨digits, value, shape, read, rfl⟩ := parseInt_chars parsed low
  obtain ⟨allDigits, _, agree⟩ := portDigits_of_parseDigits read
  have small : value < 2 ^ 30 := by omega
  have whole : min (value : Int) 1073741823 = value := by omega
  obtain ⟨colon, brackets⟩ := digits_plain allDigits
  rw [parsePort]
  rcases shape with text | text
  · rw [text]
    refine ⟨by simp [agree small, whole], ?_, ?_⟩
    · simpa using colon
    · simpa [bracketFree] using brackets
  · rw [text]
    refine ⟨?_, colon, brackets⟩
    split
    · exact absurd (allDigits '+' List.mem_cons_self) (by decide)
    · exact absurd (allDigits '-' List.mem_cons_self) (by decide)
    · simp [agree small, whole]

end Ports

section Hosts

theorem splitHostPort_front {address : String} {front port : List Char}
    (text : address.toList = front ++ ':' :: port) (colon : ':' ∉ port)
    (free : bracketFree port) :
    splitHostPort address =
      if front.head? = some '[' then
        let host := (front.drop 1).takeWhile (· != ']')
        if front = '[' :: host ++ [']'] ∧ '[' ∉ host then
          some (String.ofList host, String.ofList port)
        else none
      else if ':' ∉ front ∧ bracketFree front then some (String.ofList front, String.ofList port)
      else none := by
  have found : (address.toList.reverse.takeWhile (· != ':')).reverse = port := by
    rw [text, List.reverse_append, List.reverse_cons, List.append_assoc,
      List.takeWhile_append_of_pos, List.singleton_append, List.takeWhile_cons_of_neg (by simp),
      List.append_nil, List.reverse_reverse]
    intro char member
    simp only [bne_iff_ne, ne_eq]
    rintro rfl
    exact colon (List.mem_reverse.mp member)
  have before : address.toList.take (address.toList.length - port.length - 1) = front := by
    rw [text, List.length_append, List.length_cons,
      show front.length + (port.length + 1) - port.length - 1 = front.length by omega,
      List.take_left]
  have head : address.toList.head? = some '[' ↔ front.head? = some '[' := by
    rw [text]
    cases front with
    | nil => simp
    | cons char rest => simp
  have member : ':' ∈ address.toList := by simp [text]
  simp only [splitHostPort, found, before, head, member, not_true, if_false]
  have brackets : ('[' ∈ address.toList ∨ ']' ∈ address.toList) ↔ ¬bracketFree front := by
    simp [text, bracketFree, free.1, free.2]
    tauto
  split
  · generalize (front.drop 1).takeWhile (· != ']') = host
    by_cases shape : front = '[' :: host ++ [']']
    · rw [if_neg (not_not.mpr shape)]
      simp [shape, free.1, free.2]
    · rw [if_pos shape, if_neg fun both => shape both.1]
  · simp only [brackets]
    by_cases inside : ':' ∈ front
    · simp [inside]
    · simp [inside]

private theorem takeWhile_closing (text : List Char) :
    text = (text ++ [']']).takeWhile (· != ']') ↔ ']' ∉ text := by
  induction text with
  | nil => simp
  | cons char rest ih =>
    by_cases closing : char = ']'
    · simp [closing]
    · simp [closing, ← ih, Ne.symm closing]

theorem splitHostPort_joinHostPort (host port : String) (colon : ':' ∉ port.toList)
    (free : bracketFree port.toList) :
    splitHostPort (joinHostPort host port) = (dialHost host).map fun name => (name, port) := by
  unfold joinHostPort
  split
  · rename_i inside
    have text : ("[" ++ host ++ "]:" ++ port).toList =
        ('[' :: host.toList ++ [']']) ++ ':' :: port.toList := by simp
    rw [splitHostPort_front text colon free]
    simp only [dialHost, inside, true_or, if_true]
    by_cases closing : ']' ∈ host.toList
    · have short := (takeWhile_closing host.toList).not.mpr (not_not.mpr closing)
      simp [bracketFree, closing, short]
    · have whole := (takeWhile_closing host.toList).mpr closing
      by_cases opening : '[' ∈ host.toList
      · simp [bracketFree, ← whole, opening]
      · simp [bracketFree, ← whole, opening, closing]
  · rename_i outside
    have text : (host ++ ":" ++ port).toList = host.toList ++ ':' :: port.toList := by simp
    rw [splitHostPort_front text colon free]
    by_cases bracketed : host.toList.head? = some '['
    · simp [dialHost, outside, bracketed]
    · simp [dialHost, outside, bracketed]

/-- Whether the joined address has a bracket, and with it a preference for IPv6. -/
def prefersV6 (host : String) : Bool := ':' ∈ host.toList ∨ '[' ∈ host.toList

private theorem joinHostPort_bracket (host port : String) (free : bracketFree port.toList) :
    decide ('[' ∈ (joinHostPort host port).toList) = prefersV6 host := by
  unfold joinHostPort prefersV6
  split
  · rename_i inside
    simp [inside]
  · rename_i outside
    simp [outside, free.1]

/-- What a host and a port in range are resolved to. -/
theorem resolveTCPAddr_joinHostPort (lookups : Lookups) (host : String) {port : String}
    {number : Int} (parsed : atoi port = some number) (low : 1 ≤ number)
    (high : number ≤ 65535) :
    resolveTCPAddr lookups (joinHostPort host port) =
      match dialHost host with
      | none => .error .address
      | some name =>
        if name = "" then .ok ⟨[], number.toNat, ""⟩
        else
          match lookupIPAddr lookups name with
          | .error error => .error error
          | .ok addresses =>
            match pickAddress (prefersV6 host) (withFallback addresses) with
            | none => .error .address
            | some (ip, zone) => .ok ⟨ip, number.toNat, zone⟩ := by
  obtain ⟨service, colon, free⟩ := parsePort_atoi parsed low high
  have known : lookupPort lookups port = .ok number.toNat := by
    rw [lookupPort, service]
    exact if_pos ⟨by omega, high⟩
  rw [resolveTCPAddr, if_neg (joinHostPort_ne_empty host port),
    splitHostPort_joinHostPort host port colon free, joinHostPort_bracket host port free]
  cases dialHost host with
  | none => rfl
  | some name =>
    rw [Option.map_some]
    dsimp only
    split
    · rename_i failed
      cases known.symm.trans failed
    · rename_i found
      cases known.symm.trans found
      rfl

end Hosts

section Literals

/-- An unbracketed host is looked up as it is, and no literal is in brackets. -/
theorem dialHost_some {host name : String} (dialled : dialHost host = some name) :
    name = host ∨ parseAddr host = none := by
  unfold dialHost at dialled
  dsimp only at dialled
  split at dialled
  · split at dialled
    · exact .inl (Option.some.inj dialled).symm
    · cases dialled
  · rename_i bracketed
    rw [not_or, not_not] at bracketed
    obtain ⟨outside, opening⟩ := bracketed
    obtain ⟨rest, text⟩ : ∃ rest, host.toList = '[' :: rest := List.head?_eq_some_iff.mp opening
    right
    unfold parseAddr
    dsimp only
    split
    · rw [text]
      simp [parseIPv4]
    · rename_i found
      exact absurd (List.mem_of_find?_eq_some found) outside
    · rfl

private theorem expand_ne_nil {parts : Option Nat × List UInt8 × List Char} {ip : IP}
    (expanded : expand parts = some ip) : ip ≠ [] := by
  obtain ⟨ellipsis, bytes, rest⟩ := parts
  dsimp only [expand] at expanded
  split at expanded
  · cases expanded
  · split at expanded
    · rename_i short
      obtain ⟨position, _, rfl⟩ := Option.map_eq_some_iff.mp expanded
      simp only [ne_eq, List.append_eq_nil_iff, List.replicate_eq_nil_iff]
      omega
    · rename_i long
      split at expanded
      · cases expanded
      · cases expanded
        rintro rfl
        exact long (by decide)

theorem parseAddr_ne_nil {host zone : String} {ip : IP}
    (parsed : parseAddr host = some (ip, zone)) :
    ip ≠ [] := by
  unfold parseAddr at parsed
  dsimp only at parsed
  split at parsed
  · obtain ⟨octets, _, same⟩ := Option.map_eq_some_iff.mp parsed
    cases same
    simp [mapped]
  · split at parsed
    · cases parsed
    · obtain ⟨ip, six, same⟩ := Option.map_eq_some_iff.mp parsed
      cases same
      unfold parseIPv6 at six
      split at six
      · cases six
        decide
      · obtain ⟨parts, _, expanded⟩ := Option.bind_eq_some_iff.mp six
        exact expand_ne_nil expanded
      · obtain ⟨parts, _, expanded⟩ := Option.bind_eq_some_iff.mp six
        exact expand_ne_nil expanded
  · cases parsed

/-- A lone `::` is as unspecified as what may stand for it. -/
theorem pickAddress_withFallback (bracketed : Bool) (addresses : List (IP × String)) :
    (pickAddress bracketed (withFallback addresses)).map (fun picked => isLocalSystem picked.1) =
      (pickAddress bracketed addresses).map fun picked => isLocalSystem picked.1 := by
  unfold withFallback
  split
  · split
    · rename_i ip zone zero
      subst zero
      cases bracketed <;> rfl
    · rfl
  · rfl

end Literals

end SentinelProxy.Net
