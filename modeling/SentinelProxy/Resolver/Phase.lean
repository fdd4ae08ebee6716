import SentinelProxy.Resolver.Round

/-! An update round as a sequence of atomic steps, each waiting for one answer of the
network or taking the store's lock. -/

namespace SentinelProxy.Resolver

open SentinelProxy.Net

/-- What a round is about to do. -/
inductive Phase where
  | query
  | probe (host port : String)
  | storeMaster (addr : TCPAddr) (name : String)
  | listReplicas
  | examine (found : List Replica) (rest : List Fields)
  | storeReplicas (addrs names : List String)
  deriving DecidableEq, Repr

/-- What a step waits for; `quiet` steps ask nobody. -/
inductive Answer where
  | master (reply : MasterReply)
  | network (network : Network)
  | replicas (entries : Option (List Fields))
  | quiet

inductive Progress where
  | busy (phase : Phase)
  | done (outcome : Option Fault)

namespace Phase

variable (resolver : RedisMasterResolver) (sorter : Sorter)

/-- One step, `none` where the answer is not the one the phase waits for. -/
def step : Phase → Answer → Store → Option (Progress × Store)
  | .query, .master reply, store =>
    match masterTarget reply with
    | .error fault => some (.done (some fault), store)
    | .ok (host, port) => some (.busy (.probe host port), store)
  | .probe host port, .network network, store =>
    match probeMaster network host port with
    | .error fault => some (.done (some fault), store)
    | .ok (addr, name) => some (.busy (.storeMaster addr name), store)
  | .storeMaster addr name, .quiet, store =>
    some (if resolver.trackReplicas then .busy .listReplicas else .done none,
      store.setMasterAddress addr name)
  | .listReplicas, .replicas none, store => some (.busy (.storeReplicas [] []), store)
  | .listReplicas, .replicas (some entries), store => some (.busy (.examine [] entries), store)
  | .examine found [], .quiet, store =>
    some (.busy (.storeReplicas (sorter.lists found).1 (sorter.lists found).2), store)
  | .examine found (fields :: rest), .network network, store =>
    some (.busy (.examine (found ++ (Resolver.examine network fields).toList) rest), store)
  | .storeReplicas addrs names, .quiet, store =>
    some (.done none, store.setReplicaAddresses addrs names)
  | _, _, _ => none

/-- The steps of a round, one by one. -/
inductive Moves : Phase → Answer → Store → Progress → Store → Prop where
  | unanswered {reply : MasterReply} {fault : Fault} {store : Store}
      (failed : masterTarget reply = .error fault) :
      Moves .query (.master reply) store (.done (some fault)) store
  | answered {reply : MasterReply} {host port : String} {store : Store}
      (target : masterTarget reply = .ok (host, port)) :
      Moves .query (.master reply) store (.busy (.probe host port)) store
  | refused {host port : String} {network : Network} {fault : Fault} {store : Store}
      (failed : probeMaster network host port = .error fault) :
      Moves (.probe host port) (.network network) store (.done (some fault)) store
  | verified {host port name : String} {network : Network} {addr : TCPAddr} {store : Store}
      (probed : probeMaster network host port = .ok (addr, name)) :
      Moves (.probe host port) (.network network) store (.busy (.storeMaster addr name)) store
  | stored {addr : TCPAddr} {name : String} {store : Store}
      (tracking : resolver.trackReplicas = true) :
      Moves (.storeMaster addr name) .quiet store (.busy .listReplicas)
        (store.setMasterAddress addr name)
  | storedLast {addr : TCPAddr} {name : String} {store : Store}
      (untracked : resolver.trackReplicas = false) :
      Moves (.storeMaster addr name) .quiet store (.done none) (store.setMasterAddress addr name)
  | unlisted {store : Store} :
      Moves .listReplicas (.replicas none) store (.busy (.storeReplicas [] [])) store
  | listed {entries : List Fields} {store : Store} :
      Moves .listReplicas (.replicas (some entries)) store (.busy (.examine [] entries)) store
  | examined {found : List Replica} {fields : Fields} {rest : List Fields} {store : Store}
      (network : Network) :
      Moves (.examine found (fields :: rest)) (.network network) store
        (.busy (.examine (found ++ (Resolver.examine network fields).toList) rest)) store
  | gathered {found : List Replica} {store : Store} :
      Moves (.examine found []) .quiet store
        (.busy (.storeReplicas (sorter.lists found).1 (sorter.lists found).2)) store
  | replaced {addrs names : List String} {store : Store} :
      Moves (.storeReplicas addrs names) .quiet store (.done none)
        (store.setReplicaAddresses addrs names)

variable {resolver sorter}

theorem step_moves {phase : Phase} {answer : Answer} {store next : Store} {progress : Progress}
    (stepped : phase.step resolver sorter answer store = some (progress, next)) :
    Moves resolver sorter phase answer store progress next := by
  unfold step at stepped
  split at stepped
  case h_1 reply _ =>
    split at stepped
    · rename_i failed
      cases stepped
      exact .unanswered failed
    · rename_i target
      cases stepped
      exact .answered target
  case h_2 host port network _ =>
    split at stepped
    · rename_i failed
      cases stepped
      exact .refused failed
    · rename_i probed
      cases stepped
      exact .verified probed
  case h_3 =>
    cases tracking : resolver.trackReplicas <;> simp only [tracking] at stepped <;> cases stepped
    · exact .storedLast tracking
    · exact .stored tracking
  case h_4 =>
    cases stepped
    exact .unlisted
  case h_5 =>
    cases stepped
    exact .listed
  case h_6 =>
    cases stepped
    exact .gathered
  case h_7 =>
    cases stepped
    exact .examined _
  case h_8 =>
    cases stepped
    exact .replaced
  case h_9 => cases stepped

/-- The relation has no move that the code does not take. -/
theorem moves_step {phase : Phase} {answer : Answer} {store next : Store} {progress : Progress}
    (moves : Moves resolver sorter phase answer store progress next) :
    phase.step resolver sorter answer store = some (progress, next) := by
  cases moves with
  | unanswered failed => simp [step, failed]
  | answered target => simp [step, target]
  | refused failed => simp [step, failed]
  | verified probed => simp [step, probed]
  | stored tracking => simp [step, tracking]
  | storedLast untracked => simp [step, untracked]
  | _ => rfl

variable (resolver sorter)

/-- A round carried to its end with nothing in between. -/
inductive Runs : Phase → Store → Option Fault → Store → Prop where
  | done {phase : Phase} {store final : Store} {outcome : Option Fault} {answer : Answer}
      (last : Moves resolver sorter phase answer store (.done outcome) final) :
      Runs phase store outcome final
  | busy {phase next : Phase} {store middle final : Store} {outcome : Option Fault}
      {answer : Answer} (first : Moves resolver sorter phase answer store (.busy next) middle)
      (rest : Runs next middle outcome final) : Runs phase store outcome final

variable {resolver : RedisMasterResolver} {sorter : Sorter} {store final : Store}
  {outcome : Option Fault}

private theorem runs_storeReplicas {addrs names : List String} :
    Runs resolver sorter (.storeReplicas addrs names) store outcome final ↔
      outcome = none ∧ final = store.setReplicaAddresses addrs names := by
  constructor
  · intro run
    cases run with
    | done last =>
      cases last
      exact ⟨rfl, rfl⟩
    | busy first => cases first
  · rintro ⟨rfl, rfl⟩
    exact .done .replaced

private theorem runs_examine {found : List Replica} {entries : List Fields} :
    Runs resolver sorter (.examine found entries) store outcome final ↔
      outcome = none ∧ ∃ networks, final = store.setReplicaAddresses
        (sorter.lists (found ++ gather networks entries)).1
        (sorter.lists (found ++ gather networks entries)).2 := by
  induction entries generalizing found with
  | nil =>
    constructor
    · intro run
      cases run with
      | done last => cases last
      | busy first rest =>
        cases first
        obtain ⟨rfl, rfl⟩ := runs_storeReplicas.mp rest
        exact ⟨rfl, fun _ => default, by simp [gather]⟩
    · rintro ⟨rfl, networks, rfl⟩
      exact .busy .gathered (by simp [runs_storeReplicas, gather])
  | cons fields rest ih =>
    constructor
    · intro run
      cases run with
      | done last => cases last
      | busy first run =>
        cases first with
        | examined network =>
          obtain ⟨rfl, networks, rfl⟩ := ih.mp run
          refine ⟨rfl, fun index => index.casesOn network networks, ?_⟩
          simp [gather]
    · rintro ⟨rfl, networks, rfl⟩
      refine .busy (.examined (networks 0)) (ih.mpr ⟨rfl, fun index => networks (index + 1), ?_⟩)
      simp [gather]

private theorem runs_listReplicas :
    Runs resolver sorter .listReplicas store outcome final ↔
      outcome = none ∧ ∃ replicas networks, final = store.setReplicaAddresses
        ((resolveReplicaAddresses sorter replicas networks).getD ([], [])).1
        ((resolveReplicaAddresses sorter replicas networks).getD ([], [])).2 := by
  constructor
  · intro run
    cases run with
    | done last => cases last
    | busy first rest =>
      cases first with
      | unlisted =>
        obtain ⟨rfl, rfl⟩ := runs_storeReplicas.mp rest
        exact ⟨rfl, none, fun _ => default, rfl⟩
      | @listed entries =>
        obtain ⟨rfl, networks, rfl⟩ := runs_examine.mp rest
        exact ⟨rfl, some entries, networks, rfl⟩
  · rintro ⟨rfl, replicas, networks, rfl⟩
    cases replicas with
    | none => exact .busy .unlisted (runs_storeReplicas.mpr ⟨rfl, rfl⟩)
    | some entries => exact .busy .listed (runs_examine.mpr ⟨rfl, networks, rfl⟩)

end Phase

private theorem probed_round {resolver : RedisMasterResolver} {sorter : Sorter}
    {store final : Store}
    {outcome : Option Fault} {reply : MasterReply} {host port : String}
    (target : masterTarget reply = .ok (host, port))
    (run : Phase.Runs resolver sorter (.probe host port) store outcome final) :
    ∃ answers, updateMasterAddress resolver sorter answers store = (outcome, final) := by
  cases run with
  | done last =>
    cases last with
    | @refused _ _ network _ _ failed =>
      exact ⟨⟨reply, network, none, default⟩, by
        simp [updateMasterAddress, resolveMasterAddress, target, failed]⟩
  | busy first rest =>
    cases first with
    | @verified _ _ _ network _ _ probed =>
      cases rest with
      | done last =>
        cases last with
        | storedLast untracked =>
          exact ⟨⟨reply, network, none, default⟩, by
            simp [updateMasterAddress, resolveMasterAddress, target, probed, untracked]⟩
      | busy first rest =>
        cases first with
        | stored tracking =>
          obtain ⟨rfl, replicas, networks, rfl⟩ := Phase.runs_listReplicas.mp rest
          exact ⟨⟨reply, network, replicas, networks⟩, by
            simp [updateMasterAddress, resolveMasterAddress, target, probed, tracking]⟩

/-- The steps of a round, taken one after another, do what the round does as a whole. -/
theorem runs_query {resolver : RedisMasterResolver} {sorter : Sorter} {store final : Store}
    {outcome : Option Fault} :
    Phase.Runs resolver sorter .query store outcome final ↔
      ∃ answers, updateMasterAddress resolver sorter answers store = (outcome, final) := by
  constructor
  · intro run
    cases run with
    | done last =>
      cases last with
      | @unanswered reply _ _ failed =>
        exact ⟨⟨reply, default, none, default⟩, by
          simp [updateMasterAddress, resolveMasterAddress, failed]⟩
    | busy first rest =>
      cases first with
      | @answered reply _ _ _ target =>
        exact probed_round target rest
  · rintro ⟨answers, updated⟩
    cases target : masterTarget answers.master with
    | error fault =>
      simp only [updateMasterAddress, resolveMasterAddress, target] at updated
      cases updated
      exact .done (.unanswered target)
    | ok address =>
      refine .busy (.answered target) ?_
      cases probed : probeMaster answers.masterNetwork address.1 address.2 with
      | error fault =>
        simp only [updateMasterAddress, resolveMasterAddress, target, probed] at updated
        cases updated
        exact .done (.refused probed)
      | ok verified =>
        refine .busy (.verified probed) ?_
        cases tracking : resolver.trackReplicas with
        | false =>
          simp only [updateMasterAddress, resolveMasterAddress, target, probed, tracking] at updated
          cases updated
          exact .done (.storedLast tracking)
        | true =>
          simp only [updateMasterAddress, resolveMasterAddress, target, probed, tracking] at updated
          cases updated
          exact .busy (.stored tracking) (Phase.runs_listReplicas.mpr
            ⟨rfl, answers.replicas, answers.replicaNetwork, rfl⟩)

end SentinelProxy.Resolver
