import SentinelProxy.Resolver.Sequence

/-! Which replicas a round keeps: exactly the healthy ones, whatever the order in which
Sentinel lists them. -/

namespace SentinelProxy.Resolver

open SentinelProxy.Text SentinelProxy.Net

/-- The flags of a replica that is down or out of reach. -/
def downFlags : List String := ["s_down", "o_down", "disconnected"]

/-- An entry of Sentinel's list describes a replica worth keeping, at this address. -/
structure Selected (network : Network) (fields : Fields) (node : TCPAddr) : Prop where
  flags : ∀ flag ∈ downFlags, contains (fields.text "flags") flag = false
  link : ∀ status, List.lookup "master-link-status" fields = some status → status = "ok"
  usable : usableTCPAddr network.toLookups (fields.text "ip") (fields.text "port") = .ok node
  role : ∃ rest, network.role node.string = .elements (.text "slave" :: rest)

def selected? (network : Network) (fields : Fields) : Option String :=
  (examine network fields).map Replica.addr

/-- Names resolve and nodes answer the same way for as long as the replicas are probed. -/
def Unchanging (network : Network) (networks : Nat → Network) : Prop :=
  ∀ index, (networks index).toLookups = network.toLookups ∧ (networks index).role = network.role

section Entries

variable {network other : Network} {fields : Fields} {node : TCPAddr} {replica : Replica}

private theorem healthy_iff :
    healthy fields = true ↔ (∀ flag ∈ downFlags, contains (fields.text "flags") flag = false) ∧
      ∀ status, List.lookup "master-link-status" fields = some status → status = "ok" := by
  cases link : List.lookup "master-link-status" fields with
  | none => simp [healthy, downFlags, link, and_assoc]
  | some status => simp [healthy, downFlags, link, and_assoc]

private theorem checkRole_slave {rest : List RoleElement}
    (given : network.role node.string = .elements (.text "slave" :: rest)) :
    checkRole network node "slave" = .ok () := by
  simp [checkRole, given]

theorem examine_iff :
    examine network fields = some replica ↔ ∃ node, Selected network fields node ∧
      replica = ⟨node.string,
        displayName network (fields.text "ip") (fields.text "port") node⟩ := by
  constructor
  · intro found
    obtain ⟨sane, node, usable, passed, same⟩ := examine_found found
    obtain ⟨flags, link⟩ := healthy_iff.mp sane
    exact ⟨node, ⟨flags, link, usable, checkRole_ok passed⟩, same⟩
  · rintro ⟨node, ⟨flags, link, usable, rest, given⟩, rfl⟩
    have sane := healthy_iff.mpr ⟨flags, link⟩
    simp [examine, sane, usable, checkRole_slave given]

theorem Selected.congr (selected : Selected network fields node)
    (lookups : other.toLookups = network.toLookups) (role : other.role = network.role) :
    Selected other fields node :=
  ⟨selected.flags, selected.link, lookups ▸ selected.usable, role ▸ selected.role⟩

private theorem selected?_iff {addr : String} :
    selected? network fields = some addr ↔
      ∃ node, Selected network fields node ∧ node.string = addr := by
  constructor
  · intro chosen
    obtain ⟨replica, found, rfl⟩ := Option.map_eq_some_iff.mp chosen
    obtain ⟨node, selected, rfl⟩ := examine_iff.mp found
    exact ⟨node, selected, rfl⟩
  · rintro ⟨node, selected, rfl⟩
    exact Option.map_eq_some_iff.mpr ⟨_, examine_iff.mpr ⟨node, selected, rfl⟩, rfl⟩

theorem selected?_congr (lookups : other.toLookups = network.toLookups)
    (role : other.role = network.role) : selected? other fields = selected? network fields := by
  refine Option.ext fun addr => ?_
  rw [selected?_iff, selected?_iff]
  constructor
  · rintro ⟨node, selected, same⟩
    exact ⟨node, selected.congr lookups.symm role.symm, same⟩
  · rintro ⟨node, selected, same⟩
    exact ⟨node, selected.congr lookups role, same⟩

end Entries

section Lists

variable {sorter : Sorter} {network : Network} {networks : Nat → Network} {entries : List Fields}

private theorem gather_addrs (same : Unchanging network networks) :
    (gather networks entries).map Replica.addr = entries.filterMap (selected? network) := by
  induction entries generalizing networks with
  | nil => rfl
  | cons fields rest ih =>
    have first := @selected?_congr network (networks 0) fields (same 0).1 (same 0).2
    rw [gather, List.map_append, ih fun index => same (index + 1), List.filterMap_cons, ← first,
      selected?]
    cases examine (networks 0) fields with
    | none => rfl
    | some replica => rfl

theorem mem_gather {replica : Replica} (found : replica ∈ gather networks entries) :
    ∃ position fields, entries[position]? = some fields ∧
      examine (networks position) fields = some replica := by
  induction entries generalizing networks with
  | nil => cases found
  | cons fields rest ih =>
    rcases List.mem_append.mp found with here | later
    · exact ⟨0, fields, rfl, Option.mem_toList.mp here⟩
    · obtain ⟨position, entry, member, kept⟩ := ih later
      exact ⟨position + 1, entry, member, kept⟩

theorem sorted_addrs (found : List Replica) :
    (sorter.lists found).1.Pairwise fun first second => textLE first second = true :=
  List.pairwise_map.mpr (sorter.sorted found)

theorem perm_addrs (found : List Replica) :
    (sorter.lists found).1.Perm (found.map Replica.addr) :=
  (sorter.perm found).map Replica.addr

theorem sorted_unique {first second : List String}
    (one : first.Pairwise fun left right => textLE left right = true)
    (two : second.Pairwise fun left right => textLE left right = true)
    (same : first.Perm second) : first = second :=
  same.eq_of_pairwise (fun _ _ _ _ => textLE_antisymm) one two

/-- The name at a position is that of a replica with the address there. -/
theorem lists_aligned {found : List Replica} {index : Nat} {addr name : String}
    (here : (sorter.lists found).1[index]? = some addr)
    (there : (sorter.lists found).2[index]? = some name) : (⟨addr, name⟩ : Replica) ∈ found := by
  simp only [Sorter.lists, List.getElem?_map, Option.map_eq_some_iff] at here there
  obtain ⟨replica, at?, rfl⟩ := here
  obtain ⟨other, again, rfl⟩ := there
  cases at?.symm.trans again
  exact (sorter.perm found).mem_iff.mp (List.mem_of_getElem? at?)

private theorem runRounds_sorted {resolver : RedisMasterResolver} (rounds : List Answers)
    {store : Store}
    (sorted : store.replicaAddrs.Pairwise fun first second => textLE first second = true) :
    (runRounds resolver sorter rounds store).replicaAddrs.Pairwise
      fun first second => textLE first second = true := by
  induction rounds generalizing store with
  | nil => exact sorted
  | cons round rest ih =>
    refine ih ?_
    dsimp only
    cases outcome : resolveMasterAddress round.master round.masterNetwork with
    | error fault => rwa [updateMasterAddress_failed outcome]
    | ok verified =>
      rw [updateMasterAddress_resolved outcome]
      cases resolver.trackReplicas with
      | false => exact sorted
      | true =>
        cases listed : round.replicas with
        | none => simp [Answers.replicaLists, resolveReplicaAddresses, listed,
            Store.setReplicaAddresses]
        | some entries =>
          simpa [Answers.replicaLists, resolveReplicaAddresses, listed,
            Store.setReplicaAddresses] using sorted_addrs _

end Lists

/-- The lists a round gets from Sentinel's entries. -/
structure ExactSelection (resolver : RedisMasterResolver) (sorter : Sorter) (network : Network)
    (networks : Nat → Network) (entries : List Fields) (addrs names : List String) : Prop where
  returned : resolveReplicaAddresses sorter (some entries) networks = some (addrs, names)
  sorted : addrs.Pairwise fun first second => textLE first second = true
  /-- Each entry counts for itself, and the entries that count are the healthy ones. -/
  chosen : addrs.Perm (entries.filterMap (selected? network)) ∧
    ∀ fields addr, selected? network fields = some addr ↔
      ∃ node, Selected network fields node ∧ node.string = addr
  aligned : names.length = addrs.length ∧ ∀ (index : Nat) addr name, addrs[index]? = some addr →
    names[index]? = some name → ∃ (position : Nat) (fields : Fields) (node : TCPAddr),
      entries[position]? = some fields ∧ Selected network fields node ∧ node.string = addr ∧
      name = displayName (networks position) (fields.text "ip") (fields.text "port") node
  /-- Neither the order of the entries nor the way of sorting matters. -/
  unordered : ∀ other sorter networks, other.Perm entries → Unchanging network networks →
    (resolveReplicaAddresses sorter (some other) networks).map Prod.fst = some addrs
  /-- An entry that is skipped might as well not be there. -/
  skipped : ∀ before fields after, entries = before ++ fields :: after →
    selected? network fields = none →
    (resolveReplicaAddresses sorter (some (before ++ after)) networks).map Prod.fst = some addrs
  /-- After any rounds, a change is reported if and only if the addresses have changed. -/
  reported : ∀ rounds, (runRounds resolver sorter rounds {}).reportsChange addrs = true ↔
    ¬(runRounds resolver sorter rounds {}).replicaAddrs.Perm addrs

section Exact

variable {network : Network} {networks : Nat → Network}

/-- Lists of entries that contribute the same addresses give the same list. -/
theorem addrs_of_perm {first second : Sorter} {others : Nat → Network} {entries other : List Fields}
    (same : Unchanging network networks) (alike : Unchanging network others)
    (contribute : (other.filterMap (selected? network)).Perm
      (entries.filterMap (selected? network))) :
    (first.lists (gather others other)).1 = (second.lists (gather networks entries)).1 := by
  refine sorted_unique (sorted_addrs _) (sorted_addrs _) ?_
  have one := @perm_addrs first (gather others other)
  have two := @perm_addrs second (gather networks entries)
  rw [gather_addrs alike] at one
  rw [gather_addrs same] at two
  exact (one.trans contribute).trans two.symm

/-- The selection of replicas is exact and does not depend on any order. -/
theorem selection_exact (same : Unchanging network networks) (resolver : RedisMasterResolver)
    (sorter : Sorter) (entries : List Fields) :
    ∃ addrs names,
      ExactSelection resolver sorter network networks entries addrs names := by
  refine ⟨_, _, rfl, sorted_addrs _, ⟨?_, fun _ _ => selected?_iff⟩, ⟨?_, ?_⟩, ?_, ?_, ?_⟩
  · rw [← gather_addrs same]
    exact perm_addrs _
  · simp
  · intro index addr name here there
    obtain ⟨position, fields, entry, kept⟩ := mem_gather (lists_aligned here there)
    obtain ⟨node, selected, shape⟩ := examine_iff.mp kept
    cases shape
    exact ⟨position, fields, node, entry,
      selected.congr (same position).1.symm (same position).2.symm, rfl, rfl⟩
  · intro other sorter others permuted alike
    exact congrArg some (addrs_of_perm same alike (permuted.filterMap _))
  · rintro before fields after rfl none?
    refine congrArg some (addrs_of_perm same same ?_)
    simp [none?]
  · intro rounds
    rw [Store.reportsChange, bne_iff_ne, ne_eq, not_iff_not]
    constructor
    · intro equal
      rw [equal]
    · intro permuted
      exact sorted_unique (runRounds_sorted rounds List.Pairwise.nil) (sorted_addrs _) permuted

def promotedNode : Network :=
  nodes [("10.0.0.1:6379", "master"), ("10.0.0.2:6379", "slave"), ("10.0.0.3:6379", "slave")]

theorem selection_exact_promotedNode :
    resolveReplicaAddresses insertionSorter
        (some [entry "10.0.0.3", entry "10.0.0.1", entry "10.0.0.2"]) (fun _ => promotedNode) =
      some (["10.0.0.2:6379", "10.0.0.3:6379"], ["10.0.0.2:6379", "10.0.0.3:6379"]) ∧
    ∃ addrs names, ExactSelection tracker insertionSorter promotedNode (fun _ => promotedNode)
      [entry "10.0.0.3", entry "10.0.0.1", entry "10.0.0.2"] addrs names :=
  ⟨by decide +kernel, selection_exact (fun _ => ⟨rfl, rfl⟩) tracker insertionSorter _⟩

end Exact

end SentinelProxy.Resolver
