import SentinelProxy.Net.Resolve
import SentinelProxy.Text.Decimal

/-! What the resolver makes of single answers: addresses reported by Sentinel, role
probes, and the entries of the replica list. -/

namespace SentinelProxy.Resolver

open SentinelProxy.Text SentinelProxy.Net

/-- Sentinel's answer to the query for the master's address. -/
inductive MasterReply where
  | nil
  | failed
  | elements (texts : List String)
  deriving DecidableEq, Repr

inductive RoleElement where
  | text (role : String)
  | other
  deriving DecidableEq, Repr

/-- A node's answer to `ROLE`. -/
inductive RoleReply where
  | failed
  | elements (elements : List RoleElement)
  deriving DecidableEq, Repr

/-- What the network answers at one moment: name services, the role of the node at an
address, and the reverse lookup of an IP. -/
structure Network extends Lookups where
  role : String → RoleReply
  lookupPTR : String → String

instance : Inhabited Network :=
  ⟨{ Lookups.silent with role := fun _ => .failed, lookupPTR := fun _ => "" }⟩

inductive RoleFault where
  | querying
  | empty
  | unexpected
  | mismatch (want role : String)
  deriving DecidableEq, Repr

/-- Why a round fails. -/
inductive Fault where
  | unknownMaster
  | querying
  | elements (count : Nat)
  | emptyAddress (host port : String)
  | placeholder (host : String)
  | invalidPort (port : String)
  | unresolvable (error : LookupError)
  | role (fault : RoleFault)
  deriving DecidableEq, Repr

def RoleFault.message : RoleFault → String
  | .querying => "error querying ROLE"
  | .empty => "empty ROLE reply"
  | .unexpected => "unexpected ROLE reply element"
  | .mismatch want role => "resolved address is not a " ++ want ++ " (role=" ++ role.quote ++ ")"

/-- The text of a fault, up to the text of a library error it wraps. -/
def Fault.message : Fault → String
  | .unknownMaster => "sentinel returned nil reply (unknown master name?)"
  | .querying => "error getting master address from sentinel"
  | .elements count => "expected 2 elements from sentinel, got " ++ toString count
  | .emptyAddress host port => "sentinel returned empty address " ++ host.quote ++ ":" ++ port.quote
  | .placeholder host => "sentinel returned placeholder host " ++ host.quote ++
      ": sentinel is not ready yet"
  | .invalidPort port => "sentinel returned invalid port " ++ port.quote
  | .unresolvable _ => "error resolving redis node"
  | .role fault => "error checking redis master: " ++ fault.message

/-- Faults that go away by themselves: the startup placeholder and a name that does not
exist at the moment. -/
def Fault.notReady : Fault → Bool
  | .placeholder _ => true
  | .unresolvable (.dns notFound) => notFound
  | _ => false

def usableTCPAddr (lookups : Lookups) (host port : String) : Except Fault TCPAddr :=
  if host = "" ∨ port = "" then .error (.emptyAddress host port)
  else if (parseIP host).any isUnspecified then .error (.placeholder host)
  else
    match atoi port with
    | none => .error (.invalidPort port)
    | some number =>
      if number < 1 ∨ 65535 < number then .error (.invalidPort port)
      else
        match resolveTCPAddr lookups (joinHostPort host port) with
        | .error error => .error (.unresolvable error)
        | .ok addr => .ok addr

def checkRole (network : Network) (addr : TCPAddr) (want : String) : Except RoleFault Unit :=
  match network.role addr.string with
  | .failed => .error .querying
  | .elements [] => .error .empty
  | .elements (.other :: _) => .error .unexpected
  | .elements (.text role :: _) => if role ≠ want then .error (.mismatch want role) else .ok ()

/-- The name of a node in the log. -/
def displayName (network : Network) (host port : String) (addr : TCPAddr) : String :=
  let name := if (parseIP host).isSome then network.lookupPTR (ipString addr.ip) else host
  if name = "" then addr.string
  else joinHostPort name port ++ " (" ++ ipString addr.ip ++ ")"

def masterTarget : MasterReply → Except Fault (String × String)
  | .nil => .error .unknownMaster
  | .failed => .error .querying
  | .elements [host, port] => .ok (host, port)
  | .elements texts => .error (.elements texts.length)

def probeMaster (network : Network) (host port : String) : Except Fault (TCPAddr × String) :=
  match usableTCPAddr network.toLookups host port with
  | .error fault => .error fault
  | .ok addr =>
    match checkRole network addr "master" with
    | .error fault => .error (.role fault)
    | .ok () => .ok (addr, displayName network host port addr)

def resolveMasterAddress (reply : MasterReply) (network : Network) :
    Except Fault (TCPAddr × String) :=
  match masterTarget reply with
  | .error fault => .error fault
  | .ok (host, port) => probeMaster network host port

/-- One entry of Sentinel's replica list. -/
abbrev Fields := List (String × String)

/-- A missing field reads as the empty text. -/
def Fields.text (fields : Fields) (key : String) : String := (List.lookup key fields).getD ""

def contains (text pattern : String) : Bool :=
  text.toList.tails.any fun suffix => pattern.toList.isPrefixOf suffix

/-- Neither flagged down or disconnected nor with a broken replication link. -/
def healthy (fields : Fields) : Bool :=
  !(contains (fields.text "flags") "s_down" || contains (fields.text "flags") "o_down" ||
    contains (fields.text "flags") "disconnected") &&
  (List.lookup "master-link-status" fields).all (· == "ok")

structure Replica where
  addr : String
  name : String
  deriving DecidableEq, Repr

/-- The body of the loop over Sentinel's entries; `none` skips the entry. -/
def examine (network : Network) (fields : Fields) : Option Replica :=
  if !healthy fields then none
  else
    match usableTCPAddr network.toLookups (fields.text "ip") (fields.text "port") with
    | .error _ => none
    | .ok addr =>
      match checkRole network addr "slave" with
      | .error _ => none
      | .ok () =>
        some ⟨addr.string, displayName network (fields.text "ip") (fields.text "port") addr⟩

theorem checkRole_ok {network : Network} {addr : TCPAddr} {want : String}
    (passed : checkRole network addr want = .ok ()) :
    ∃ rest, network.role addr.string = .elements (.text want :: rest) := by
  unfold checkRole at passed
  split at passed
  case h_4 role rest answered =>
    split at passed
    · cases passed
    · rename_i same
      obtain rfl : role = want := not_not.mp same
      exact ⟨rest, answered⟩
  all_goals cases passed

theorem probeMaster_ok {network : Network} {host port name : String} {addr : TCPAddr}
    (probed : probeMaster network host port = .ok (addr, name)) :
    usableTCPAddr network.toLookups host port = .ok addr ∧
      checkRole network addr "master" = .ok () ∧ name = displayName network host port addr := by
  unfold probeMaster at probed
  split at probed
  · cases probed
  · rename_i usable accepted
    split at probed
    · cases probed
    · rename_i passed
      cases probed
      exact ⟨accepted, passed, rfl⟩

/-- An entry that is kept, with everything that is kept of it. -/
theorem examine_found {network : Network} {fields : Fields} {replica : Replica}
    (found : examine network fields = some replica) :
    healthy fields = true ∧ ∃ addr,
      usableTCPAddr network.toLookups (fields.text "ip") (fields.text "port") = .ok addr ∧
      checkRole network addr "slave" = .ok () ∧
      replica = ⟨addr.string,
        displayName network (fields.text "ip") (fields.text "port") addr⟩ := by
  unfold examine at found
  split at found
  · cases found
  · rename_i sound
    split at found
    · cases found
    · rename_i addr usable
      split at found
      · cases found
      · rename_i passed
        cases found
        exact ⟨by simpa using sound, addr, usable, passed, rfl⟩

theorem examine_some {network : Network} {fields : Fields} {replica : Replica}
    (found : examine network fields = some replica) :
    healthy fields = true ∧ ∃ addr,
      usableTCPAddr network.toLookups (fields.text "ip") (fields.text "port") = .ok addr ∧
      checkRole network addr "slave" = .ok () ∧ replica.addr = addr.string := by
  obtain ⟨sound, addr, usable, passed, rfl⟩ := examine_found found
  exact ⟨sound, addr, usable, passed, rfl⟩

end SentinelProxy.Resolver
