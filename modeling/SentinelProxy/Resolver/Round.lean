import Mathlib.Data.List.Sort
import SentinelProxy.Text.Order
import SentinelProxy.Config.Load
import SentinelProxy.Resolver.Probe

/-! The resolver's stored addresses and one update round run on its own. -/

namespace SentinelProxy.Resolver

open SentinelProxy.Text SentinelProxy.Net

/-- What a resolver is built with. -/
structure RedisMasterResolver where
  masterName : String
  sentinelAddr : String
  username : String
  password : String
  sentinelTLSConf : Option TLSConf
  masterTLSConf : Option TLSConf
  masterUsername : String
  masterPassword : String
  retryOnMasterResolveFail : Int
  trackReplicas : Bool
  deriving DecidableEq, Repr

/-- The role probe reuses the credentials for Sentinel unless it has its own. -/
def newRedisMasterResolver (config : Config) : Except Config.Failure RedisMasterResolver := do
  let username := config.username.getD ""
  let password := config.password.getD ""
  let masterName ← Config.deref config.master
  let sentinelAddr ← Config.deref config.sentinel
  let retryOnMasterResolveFail ← Config.deref config.resolveRetries
  return {
    masterName, sentinelAddr, username, password
    sentinelTLSConf := config.tls.sentinel
    masterTLSConf := config.tls.masterProbe
    masterUsername := config.masterUsername.getD username
    masterPassword := config.masterPassword.getD password
    retryOnMasterResolveFail
    trackReplicas := Config.strSet config.replicaListen }

/-- The addresses handed out to readers. -/
structure Store where
  masterAddr : String := ""
  masterDisplay : String := ""
  replicaAddrs : List String := []
  replicaNames : List String := []
  replicaIdx : UInt64 := 0
  deriving DecidableEq, Repr

/-- A reader's result: no replica known, or the one at the index, if there is one. -/
inductive Picked where
  | unavailable
  | address (addr : String)
  | outOfRange
  deriving DecidableEq, Repr

namespace Store

def setMasterAddress (store : Store) (addr : TCPAddr) (name : String) : Store :=
  { store with masterAddr := addr.string, masterDisplay := name }

def setReplicaAddresses (store : Store) (addrs names : List String) : Store :=
  { store with replicaAddrs := addrs, replicaNames := names }

/-- Whether storing these replicas is reported as a change. -/
def reportsChange (store : Store) (addrs : List String) : Bool := store.replicaAddrs != addrs

/-- Round robin: the counter advances with every address handed out. -/
def replicaAddress (store : Store) : Picked × Store :=
  if store.replicaAddrs = [] then (.unavailable, store)
  else
    let next := store.replicaIdx + 1
    let index := (next - 1).toNat % store.replicaAddrs.length
    (match store.replicaAddrs[index]? with
      | none => .outOfRange
      | some addr => .address addr,
      { store with replicaIdx := next })

end Store

/-- Sorting by address, as a library may do it: not necessarily stable. -/
structure Sorter where
  sort : List Replica → List Replica
  perm : ∀ replicas, (sort replicas).Perm replicas
  sorted : ∀ replicas, (sort replicas).Pairwise fun first second => textLE first.addr second.addr

/-- Insertion sort, the library's choice for short lists. -/
def insertionSorter : Sorter where
  sort := List.insertionSort fun first second => textLE first.addr second.addr = true
  perm := List.perm_insertionSort _
  sorted := by
    have total : Std.Total fun first second : Replica => textLE first.addr second.addr = true :=
      ⟨fun _ _ => charsLE_total _ _⟩
    have trans : IsTrans Replica fun first second => textLE first.addr second.addr = true :=
      ⟨fun _ _ _ => charsLE_trans⟩
    exact List.pairwise_insertionSort _

/-- The addresses and the names of the replicas found, in the order of the addresses. -/
def Sorter.lists (sorter : Sorter) (found : List Replica) : List String × List String :=
  ((sorter.sort found).map Replica.addr, (sorter.sort found).map Replica.name)

/-- The answers one round gets, the network's at each probe. -/
structure Answers where
  master : MasterReply
  masterNetwork : Network
  replicas : Option (List Fields)
  replicaNetwork : Nat → Network

/-- The replicas worth keeping, each entry examined with the network's next answer. -/
def gather (networks : Nat → Network) : List Fields → List Replica
  | [] => []
  | fields :: rest =>
    (examine (networks 0) fields).toList ++ gather (fun index => networks (index + 1)) rest

/-- `none` is a failed query. -/
def resolveReplicaAddresses (sorter : Sorter) (replicas : Option (List Fields))
    (networks : Nat → Network) : Option (List String × List String) :=
  replicas.map fun entries => sorter.lists (gather networks entries)

/-- One round: a failed replica query leaves no replicas and does not fail the round. -/
def updateMasterAddress (resolver : RedisMasterResolver) (sorter : Sorter) (answers : Answers)
    (store : Store) : Option Fault × Store :=
  match resolveMasterAddress answers.master answers.masterNetwork with
  | .error fault => (some fault, store)
  | .ok (addr, name) =>
    let store := store.setMasterAddress addr name
    if resolver.trackReplicas then
      let (addrs, names) :=
        (resolveReplicaAddresses sorter answers.replicas answers.replicaNetwork).getD ([], [])
      (none, store.setReplicaAddresses addrs names)
    else (none, store)

section Readers

variable {store : Store}

theorem replicaAddress_store (store : Store) :
    store.replicaAddress.2 = store ∨
      store.replicaAddress.2 = { store with replicaIdx := store.replicaIdx + 1 } := by
  unfold Store.replicaAddress
  split
  · exact .inl rfl
  · exact .inr rfl

theorem replicaAddress_known (known : store.replicaAddrs ≠ []) :
    ∃ addr, store.replicaAddress.1 = .address addr := by
  have positive : 0 < store.replicaAddrs.length := List.length_pos_iff.mpr known
  have inside := Nat.mod_lt (store.replicaIdx + 1 - 1).toNat positive
  refine ⟨store.replicaAddrs[(store.replicaIdx + 1 - 1).toNat % store.replicaAddrs.length], ?_⟩
  simp only [Store.replicaAddress, known, if_false, List.getElem?_eq_getElem inside]

theorem replicaAddress_mem {addr : String} (picked : store.replicaAddress.1 = .address addr) :
    addr ∈ store.replicaAddrs := by
  unfold Store.replicaAddress at picked
  split at picked
  · cases picked
  · dsimp only at picked
    split at picked
    · cases picked
    · rename_i found
      cases picked
      exact List.mem_of_getElem? found

end Readers

section Replicas

variable {sorter : Sorter} {found : List Replica}

theorem Sorter.mem_addrs {addr : String} :
    addr ∈ (sorter.lists found).1 ↔ ∃ replica ∈ found, replica.addr = addr := by
  simp [Sorter.lists, (sorter.perm found).mem_iff]

theorem gather_nonempty {networks : Nat → Network} {entries : List Fields} {index : Nat}
    {fields : Fields} (entry : entries[index]? = some fields)
    (kept : (examine (networks index) fields).isSome) : gather networks entries ≠ [] := by
  induction entries generalizing networks index with
  | nil => simp at entry
  | cons head rest ih =>
    cases index with
    | zero =>
      obtain rfl : head = fields := by simpa using entry
      obtain ⟨replica, examined⟩ := Option.isSome_iff_exists.mp kept
      simp [gather, examined]
    | succ index =>
      have later : gather (fun index => networks (index + 1)) rest ≠ [] :=
        ih (by simpa using entry) kept
      simp [gather, later]

end Replicas

end SentinelProxy.Resolver
