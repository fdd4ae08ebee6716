import SentinelProxy.Resolver.System

/-! Update rounds one after another: what the store holds after any mix of rounds that
succeed and rounds that fail. -/

namespace SentinelProxy.Resolver

open SentinelProxy.Net

def runRounds (resolver : RedisMasterResolver) (sorter : Sorter) (rounds : List Answers)
    (store : Store) : Store :=
  rounds.foldl (fun store answers => (updateMasterAddress resolver sorter answers store).2) store

def Answers.Fails (answers : Answers) : Prop :=
  ∃ fault, resolveMasterAddress answers.master answers.masterNetwork = .error fault

/-- The replicas a round makes known. -/
def Answers.replicaLists (sorter : Sorter) (answers : Answers) : List String × List String :=
  (resolveReplicaAddresses sorter answers.replicas answers.replicaNetwork).getD ([], [])

section Rounds

variable {resolver : RedisMasterResolver} {sorter : Sorter} {answers : Answers} {store : Store}

theorem updateMasterAddress_failed {fault : Fault}
    (failed : resolveMasterAddress answers.master answers.masterNetwork = .error fault) :
    updateMasterAddress resolver sorter answers store = (some fault, store) := by
  simp only [updateMasterAddress, failed]

theorem updateMasterAddress_resolved {addr : TCPAddr} {name : String}
    (resolved : resolveMasterAddress answers.master answers.masterNetwork = .ok (addr, name)) :
    updateMasterAddress resolver sorter answers store =
      (none, if resolver.trackReplicas then
        (store.setMasterAddress addr name).setReplicaAddresses (answers.replicaLists sorter).1
          (answers.replicaLists sorter).2
      else store.setMasterAddress addr name) := by
  simp only [updateMasterAddress, resolved, Answers.replicaLists]
  split <;> rfl

/-- A round fails with the fault of its master resolve and not otherwise. -/
theorem updateMasterAddress_none :
    (updateMasterAddress resolver sorter answers store).1 = none ↔ ¬answers.Fails := by
  cases outcome : resolveMasterAddress answers.master answers.masterNetwork with
  | error fault => simp [updateMasterAddress_failed outcome, Answers.Fails, outcome]
  | ok verified => simp [updateMasterAddress_resolved outcome, Answers.Fails, outcome]

private theorem runRounds_failed {rounds : List Answers} (failed : ∀ round ∈ rounds, round.Fails) :
    runRounds resolver sorter rounds store = store := by
  induction rounds with
  | nil => rfl
  | cons round rest ih =>
    obtain ⟨fault, fails⟩ := failed round List.mem_cons_self
    rw [runRounds, List.foldl_cons, updateMasterAddress_failed fails]
    exact ih fun later member => failed later (List.mem_cons_of_mem _ member)

/-- Rounds leave the replicas alone where they are not tracked. -/
theorem runRounds_untracked (untracked : resolver.trackReplicas = false) (rounds : List Answers) :
    (runRounds resolver sorter rounds store).replicaAddrs = store.replicaAddrs ∧
      (runRounds resolver sorter rounds store).replicaNames = store.replicaNames := by
  induction rounds generalizing store with
  | nil => exact ⟨rfl, rfl⟩
  | cons round rest ih =>
    rw [runRounds, List.foldl_cons]
    obtain ⟨addrs, names⟩ := @ih (updateMasterAddress resolver sorter round store).2
    cases outcome : resolveMasterAddress round.master round.masterNetwork with
    | error fault =>
      rw [updateMasterAddress_failed outcome] at addrs names ⊢
      exact ⟨addrs, names⟩
    | ok verified =>
      rw [updateMasterAddress_resolved outcome, untracked] at addrs names ⊢
      exact ⟨addrs, names⟩

/-- The store after any rounds is what the last round with a verified master left; failed
rounds change nothing, and a failed replica query fails no round. -/
theorem runRounds_intact (resolver : RedisMasterResolver) (sorter : Sorter) :
    (∀ before last later addr name,
      resolveMasterAddress last.master last.masterNetwork = .ok (addr, name) →
      (∀ round ∈ later, round.Fails) →
      let store := runRounds resolver sorter (before ++ last :: later) {}
      store.masterAddr = addr.string ∧ store.masterDisplay = name ∧
        (store.replicaAddrs, store.replicaNames) =
          if resolver.trackReplicas then last.replicaLists sorter else ([], [])) ∧
    (∀ rounds, (∀ round ∈ rounds, round.Fails) → runRounds resolver sorter rounds {} = {}) ∧
    (∀ answers store, answers.Fails →
      (updateMasterAddress resolver sorter answers store).2 = store) ∧
    (∀ answers store, (updateMasterAddress resolver sorter answers store).1 = none ↔
      ¬answers.Fails) ∧
    (resolver.trackReplicas = false →
      ∀ rounds, (runRounds resolver sorter rounds {}).replicaAddrs = []) := by
  refine ⟨?_, fun _ => runRounds_failed, ?_, fun _ _ => updateMasterAddress_none, ?_⟩
  · intro before last later addr name resolved failed
    have final : runRounds resolver sorter (before ++ last :: later) {} =
        (updateMasterAddress resolver sorter last (runRounds resolver sorter before {})).2 := by
      rw [runRounds, List.foldl_append, List.foldl_cons]
      exact runRounds_failed failed
    rw [final, updateMasterAddress_resolved resolved]
    cases tracking : resolver.trackReplicas with
    | true => exact ⟨rfl, rfl, rfl⟩
    | false =>
      obtain ⟨addrs, names⟩ := @runRounds_untracked resolver sorter {} tracking before
      exact ⟨rfl, rfl, Prod.ext addrs names⟩
  · rintro answers store ⟨fault, failed⟩
    rw [updateMasterAddress_failed failed]
  · intro untracked rounds
    exact (runRounds_untracked untracked rounds).1

end Rounds

section Scenarios

def masterOnly : Answers where
  master := .elements ["10.0.0.1", "6379"]
  masterNetwork := nodes [("10.0.0.1:6379", "master")]
  replicas := none
  replicaNetwork := fun _ => nodes []

def unknown : Answers where
  master := .nil
  masterNetwork := nodes []
  replicas := none
  replicaNetwork := fun _ => nodes []

theorem runRounds_intact_unknown :
    (runRounds tracker insertionSorter [unknown, masterOnly, unknown] {}).masterAddr =
        "10.0.0.1:6379" ∧
      (runRounds tracker insertionSorter [unknown, masterOnly, unknown] {}).replicaAddrs = [] := by
  have fails : unknown.Fails := ⟨.unknownMaster, rfl⟩
  have resolved : resolveMasterAddress masterOnly.master masterOnly.masterNetwork =
      .ok (⟨mapped [10, 0, 0, 1], 6379, ""⟩, "10.0.0.1:6379") := by decide +kernel
  obtain ⟨master, _, replicas⟩ := (runRounds_intact tracker insertionSorter).1 [unknown] masterOnly
    [unknown] _ _ resolved (by simpa using fails)
  refine ⟨master.trans (by decide +kernel), ?_⟩
  exact congrArg Prod.fst replicas

end Scenarios

end SentinelProxy.Resolver
