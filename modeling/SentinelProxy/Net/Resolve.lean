import Mathlib.Algebra.Order.Ring.Int
import SentinelProxy.Net.Address

/-! Resolving `host:port` to a TCP endpoint as Go's `net` package does it: the text is
split, the port is a number or a service name, the host an IP literal or a DNS name. -/

namespace SentinelProxy.Net

/-- Host and port of `host:port` or `[host]:port`; the port follows the last colon. -/
def splitHostPort (address : String) : Option (String × String) :=
  let text := address.toList
  let port := (text.reverse.takeWhile (· != ':')).reverse
  if ':' ∉ text then none
  else
    let front := text.take (text.length - port.length - 1)
    if text.head? = some '[' then
      -- the first closing bracket ends the front, and no other bracket is left
      let host := (front.drop 1).takeWhile (· != ']')
      if front ≠ '[' :: host ++ [']'] then none
      else if '[' ∈ host ∨ '[' ∈ port ∨ ']' ∈ port then none
      else some (String.ofList host, String.ofList port)
    else if ':' ∈ front then none
    else if '[' ∈ text ∨ ']' ∈ text then none
    else some (String.ofList front, String.ofList port)

/-- Digits as a 32-bit number; the cut-off at 2^30 does not keep the product in range. -/
def portDigits (value : Nat) : List Char → Option Nat
  | [] => some value
  | char :: rest =>
    if !char.isDigit then none
    else if 2 ^ 30 ≤ value then some (2 ^ 32 - 1)
    else
      let shifted := value * 10 % 2 ^ 32
      let next := shifted + (char.toNat - 48)
      if 2 ^ 32 ≤ next then some (2 ^ 32 - 1) else portDigits next rest

/-- A decimal port; `none` asks for a service name. -/
def parsePort (service : String) : Option Int :=
  match service.toList with
  | '+' :: digits => (portDigits 0 digits).map fun value => min (value : Int) (2 ^ 30 - 1)
  | '-' :: digits => (portDigits 0 digits).map fun value => -min (value : Int) (2 ^ 30)
  | digits => (portDigits 0 digits).map fun value => min (value : Int) (2 ^ 30 - 1)

/-- Why a lookup fails; `notFound` is a name that does not exist. -/
inductive LookupError where
  | address
  | dns (notFound : Bool)
  deriving DecidableEq, Repr

/-- The answers of the name services. -/
structure Lookups where
  lookupHost : String → Except LookupError (List (IP × String))
  lookupPort : String → Except LookupError Nat

def lookupPort (lookups : Lookups) (service : String) : Except LookupError Nat :=
  match parsePort service with
  | some port => if 0 ≤ port ∧ port ≤ 65535 then .ok port.toNat else .error .address
  | none =>
    match lookups.lookupPort service with
    | .error error => .error error
    | .ok port => if port ≤ 65535 then .ok port else .error .address

def lookupIPAddr (lookups : Lookups) (host : String) :
    Except LookupError (List (IP × String)) :=
  match parseAddr host with
  | some literal => .ok [literal]
  | none => lookups.lookupHost host

/-- A lone `::` may stand for `0.0.0.0`. -/
def withFallback (addresses : List (IP × String)) : List (IP × String) :=
  match addresses with
  | [(ip, zone)] =>
    if ip = List.replicate 16 0 then [(ip, zone), (mapped [0, 0, 0, 0], "")] else addresses
  | _ => addresses

/-- The preferred family if there is one, and the first address otherwise. -/
def pickAddress (bracketed : Bool) (addresses : List (IP × String)) : Option (IP × String) :=
  (addresses.find? fun (ip, _) => (to4 ip).isSome != bracketed).or addresses.head?

def resolveTCPAddr (lookups : Lookups) (address : String) : Except LookupError TCPAddr :=
  match if address = "" then some ("", "") else splitHostPort address with
  | none => .error .address
  | some (host, service) =>
    match lookupPort lookups service with
    | .error error => .error error
    | .ok port =>
      if host = "" then .ok ⟨[], port, ""⟩
      else
        match lookupIPAddr lookups host with
        | .error error => .error error
        | .ok addresses =>
          match pickAddress ('[' ∈ address.toList) (withFallback addresses) with
          | none => .error .address
          | some (ip, zone) => .ok ⟨ip, port, zone⟩

/-- The name services a host without any has. -/
def Lookups.silent : Lookups where
  lookupHost _ := .error (.dns true)
  lookupPort _ := .error (.dns true)

example : (resolveTCPAddr .silent "[::1]:6379").toOption.map TCPAddr.string =
    some "[::1]:6379" := by decide +kernel

end SentinelProxy.Net
