import SentinelProxy.Resolver.System

/-! Whatever the interleaving, readers are handed verified addresses only, and only after
the initial resolve. -/

namespace SentinelProxy.Resolver

open SentinelProxy.Net

/-- A node answered the role probe of a round with this role. -/
def RoleGiven (log : List Event) (round : Nat) (addr role : String) : Prop :=
  ∃ rest, .role round addr (.elements (.text role :: rest)) ∈ log

/-- An address came from a healthy entry of the list a round got from Sentinel, and the
node there said it is a replica. -/
def Verified (log : List Event) (round : Nat) (addr : String) : Prop :=
  ∃ entries fields node, .listed round entries ∈ log ∧ fields ∈ entries ∧
    healthy fields = true ∧ .located round (fields.text "ip") (fields.text "port") node ∈ log ∧
    node.string = addr ∧ RoleGiven log round addr "slave"

def MasterStored (log : List Event) : Prop := ∃ round addr, .masterStored round addr ∈ log

def Finished (log : List Event) : Prop := ∃ outcome, .initialFinished outcome ∈ log

/-- The round that stored the replicas last, and what it stored. -/
def lastStored (log : List Event) : Option (Nat × List String) :=
  log.findSome? fun
    | .replicasStored round addrs => some (round, addrs)
    | _ => none

/-- What has to have happened before an event. -/
def Justified (log : List Event) : Event → Prop
  | .masterRead addr =>
    Finished log ∧ (addr ≠ "" → ∃ round, RoleGiven log round addr "master") ∧
      (addr = "" → ¬MasterStored log ∧ ∃ fault, .initialFinished (some fault) ∈ log)
  | .replicaRead picked =>
    Finished log ∧ ∀ addr, picked = .address addr →
      ∃ round addrs, lastStored log = some (round, addrs) ∧ addr ∈ addrs ∧ Verified log round addr
  | .refreshing _ => Finished log
  | _ => True

/-- Every event of a log was justified when it happened. -/
def Audited : List Event → Prop
  | [] => True
  | event :: log => Justified log event ∧ Audited log

/-- What a round relies on in each of its phases. -/
def Supported (log : List Event) (round : Nat) : Phase → Prop
  | .query => True
  | .probe _ _ => True
  | .storeMaster addr _ => RoleGiven log round addr.string "master"
  | .listReplicas => MasterStored log
  | .examine found rest => MasterStored log ∧ ∃ entries, .listed round entries ∈ log ∧
      (∀ fields ∈ rest, fields ∈ entries) ∧ ∀ replica ∈ found, Verified log round replica.addr
  | .storeReplicas addrs _ => MasterStored log ∧ ∀ addr ∈ addrs, Verified log round addr

/-- What the stored addresses rest on. -/
structure StoreSupported (log : List Event) (store : Store) : Prop where
  master : store.masterAddr = "" ∧ ¬MasterStored log ∨
    store.masterAddr ≠ "" ∧ ∃ round, RoleGiven log round store.masterAddr "master"
  replicas : ∀ addr ∈ store.replicaAddrs, ∃ round,
    lastStored log = some (round, store.replicaAddrs) ∧ Verified log round addr

/-- The invariant of every run. -/
structure Sound (state : State) : Prop where
  rounds : ∀ thread round, state.active thread = some round →
    Supported state.log round.id round.phase
  store : StoreSupported state.log state.store
  audited : Audited state.log
  finished : state.initialDone = true → Finished state.log
  waiting : ∀ id, state.callers id = .waiting → state.initialDone = true
  succeeded : .initialFinished none ∈ state.log → MasterStored state.log

section Growth

variable {log longer : List Event} {round : Nat} {addr role : String}

theorem RoleGiven.mono (given : RoleGiven log round addr role) (grown : log ⊆ longer) :
    RoleGiven longer round addr role := by
  obtain ⟨rest, seen⟩ := given
  exact ⟨rest, grown seen⟩

theorem Verified.mono (verified : Verified log round addr) (grown : log ⊆ longer) :
    Verified longer round addr := by
  obtain ⟨entries, fields, node, listed, member, sound, located, same, given⟩ := verified
  exact ⟨entries, fields, node, grown listed, member, sound, grown located, same, given.mono grown⟩

theorem MasterStored.mono (stored : MasterStored log) (grown : log ⊆ longer) :
    MasterStored longer := by
  obtain ⟨round, addr, seen⟩ := stored
  exact ⟨round, addr, grown seen⟩

theorem Supported.mono {phase : Phase} (supported : Supported log round phase)
    (grown : log ⊆ longer) : Supported longer round phase := by
  cases phase with
  | query => trivial
  | probe host port => trivial
  | storeMaster addr name => exact RoleGiven.mono supported grown
  | listReplicas => exact MasterStored.mono supported grown
  | examine found rest =>
    obtain ⟨stored, entries, listed, inside, verified⟩ := supported
    exact ⟨stored.mono grown, entries, grown listed, inside,
      fun replica member => (verified replica member).mono grown⟩
  | storeReplicas addrs names =>
    obtain ⟨stored, verified⟩ := supported
    exact ⟨stored.mono grown, fun addr member => (verified addr member).mono grown⟩

/-- Events that record a change of the store. -/
def Event.stores : Event → Bool
  | .masterStored _ _ => true
  | .replicasStored _ _ => true
  | _ => false

private theorem masterStored_append {events : List Event}
    (quiet : ∀ event ∈ events, event.stores = false) :
    MasterStored (events ++ log) ↔ MasterStored log := by
  constructor
  · rintro ⟨round, addr, seen⟩
    rcases List.mem_append.mp seen with fresh | old
    · cases quiet _ fresh
    · exact ⟨round, addr, old⟩
  · intro stored
    exact stored.mono (List.subset_append_right _ _)

private theorem lastStored_append {events : List Event}
    (quiet : ∀ event ∈ events, event.stores = false) :
    lastStored (events ++ log) = lastStored log := by
  induction events with
  | nil => rfl
  | cons event rest ih =>
    have tail := ih fun later member => quiet later (List.mem_cons_of_mem event member)
    have head := quiet event List.mem_cons_self
    cases event with
    | replicasStored => cases head
    | _ => exact tail

theorem StoreSupported.append {store : Store} (supported : StoreSupported log store)
    (events : List Event) (quiet : ∀ event ∈ events, event.stores = false) :
    StoreSupported (events ++ log) store := by
  have grown : log ⊆ events ++ log := List.subset_append_right _ _
  refine ⟨?_, ?_⟩
  · rw [masterStored_append quiet]
    rcases supported.master with unset | ⟨set, round, given⟩
    · exact .inl unset
    · exact .inr ⟨set, round, given.mono grown⟩
  · intro addr member
    rw [lastStored_append quiet]
    obtain ⟨round, last, verified⟩ := supported.replicas addr member
    exact ⟨round, last, verified.mono grown⟩

theorem Audited.append {events : List Event} (audited : Audited log)
    (justified : ∀ event ∈ events, ∀ log, Justified log event) : Audited (events ++ log) := by
  induction events with
  | nil => exact audited
  | cons event rest ih =>
    exact ⟨justified event List.mem_cons_self _,
      ih fun later member => justified later (List.mem_cons_of_mem event member)⟩

/-- An audit covers every moment of the log. -/
theorem Audited.at {later : List Event} {event : Event}
    (audited : Audited (later ++ event :: log)) : Justified log event := by
  induction later with
  | nil => exact audited.1
  | cons _ _ ih => exact ih audited.2

end Growth

section Steps

variable {resolver : RedisMasterResolver} {sorter : Sorter} {log : List Event} {round : Nat}
  {phase : Phase} {answer : Answer} {progress : Progress} {store next : Store}

/-- Events of a round, as opposed to those of readers and callers. -/
def Event.ofRound : Event → Bool
  | .initialFinished _ => false
  | .refreshing _ => false
  | .masterRead _ => false
  | .replicaRead _ => false
  | _ => true

private theorem justified_of_round {event : Event} (own : event.ofRound = true) (log : List Event) :
    Justified log event := by
  cases event <;> trivial

private theorem probeEvents_ok {network : Network} {host port : String} {addr : TCPAddr}
    (usable : usableTCPAddr network.toLookups host port = .ok addr) :
    probeEvents round network host port =
      [.role round addr.string (network.role addr.string), .located round host port addr] := by
  simp only [probeEvents, usable]

private theorem probeEvents_kind {network : Network} {host port : String} :
    ∀ event ∈ probeEvents round network host port,
      event.ofRound = true ∧ event.stores = false := by
  intro event member
  rcases mem_probeEvents member with ⟨addr, reply, rfl⟩ | ⟨addr, rfl⟩
  · exact ⟨rfl, rfl⟩
  · exact ⟨rfl, rfl⟩

theorem events_ofRound :
    ∀ event ∈ phase.events sorter round answer, event.ofRound = true := by
  intro event member
  unfold Phase.events at member
  split at member
  case h_2 =>
    split at member
    · exact (probeEvents_kind event member).1
    · rcases List.mem_cons.mp member with rfl | member
      · rfl
      · exact (probeEvents_kind event member).1
  case h_7 =>
    split at member
    · exact (probeEvents_kind event member).1
    · cases member
  case h_9 => cases member
  all_goals
    rw [List.mem_singleton.mp member]
    rfl

private theorem roleGiven_of_probe {network : Network} {host port want : String} {addr : TCPAddr}
    {events : List Event} (usable : usableTCPAddr network.toLookups host port = .ok addr)
    (passed : checkRole network addr want = .ok ())
    (probed : probeEvents round network host port ⊆ events) :
    RoleGiven events round addr.string want ∧ .located round host port addr ∈ events := by
  rw [probeEvents_ok usable] at probed
  obtain ⟨rest, given⟩ := checkRole_ok passed
  refine ⟨⟨rest, ?_⟩, probed (by simp)⟩
  rw [← given]
  exact probed (by simp)

/-- An entry kept by a round is verified by what the round has seen. -/
theorem verified_of_examine {network : Network} {fields : Fields} {replica : Replica}
    {entries : List Fields} {events : List Event} (kept : examine network fields = some replica)
    (listed : .listed round entries ∈ events) (member : fields ∈ entries)
    (probed : probeEvents round network (fields.text "ip") (fields.text "port") ⊆ events) :
    Verified events round replica.addr := by
  obtain ⟨sound, addr, usable, passed, same⟩ := examine_some kept
  obtain ⟨given, located⟩ := roleGiven_of_probe usable passed probed
  exact ⟨entries, fields, addr, listed, member, sound, located, same.symm, same ▸ given⟩

/-- What a step of a round leaves supports the phase it leads to. -/
theorem moves_supported {following : Phase}
    (moved : phase.Moves resolver sorter answer store (.busy following) next)
    (supported : Supported log round phase) :
    Supported (phase.events sorter round answer ++ log) round following := by
  have grown : log ⊆ phase.events sorter round answer ++ log := List.subset_append_right _ _
  cases moved with
  | answered target => trivial
  | verified probed =>
    obtain ⟨usable, passed, _⟩ := probeMaster_ok probed
    refine (roleGiven_of_probe usable passed ?_).1
    intro event member
    simp [Phase.events, probed, member]
  | stored tracking => exact ⟨round, _, List.mem_cons_self⟩
  | unlisted => exact ⟨MasterStored.mono supported grown, by simp⟩
  | listed =>
    exact ⟨MasterStored.mono supported grown, _, List.mem_cons_self, fun _ member => member,
      by simp⟩
  | @examined found fields rest _ network =>
    obtain ⟨stored, entries, listed, inside, verified⟩ := supported
    refine ⟨stored.mono grown, entries, grown listed,
      fun later member => inside later (List.mem_cons_of_mem fields member), ?_⟩
    intro replica member
    rcases List.mem_append.mp member with old | fresh
    · exact (verified replica old).mono grown
    · have kept : examine network fields = some replica := by simpa using fresh
      refine verified_of_examine kept (grown listed) (inside fields List.mem_cons_self) ?_
      intro event member
      simp [Phase.events, (examine_some kept).1, member]
  | gathered =>
    obtain ⟨stored, entries, listed, inside, verified⟩ := supported
    refine ⟨stored.mono grown, ?_⟩
    intro addr member
    obtain ⟨replica, found, rfl⟩ := Sorter.mem_addrs.mp member
    exact (verified replica found).mono grown

/-- A step of a round keeps the store supported. -/
theorem moves_store (moved : phase.Moves resolver sorter answer store progress next)
    (supported : Supported log round phase) (before : StoreSupported log store) :
    StoreSupported (phase.events sorter round answer ++ log) next := by
  have grown : log ⊆ phase.events sorter round answer ++ log := List.subset_append_right _ _
  have master {addr : TCPAddr} {name : String} (given : RoleGiven log round addr.string "master") :
      StoreSupported ([.masterStored round addr] ++ log) (store.setMasterAddress addr name) := by
    refine ⟨.inr ⟨addr.string_ne_empty, round, given.mono (List.subset_append_right _ _)⟩, ?_⟩
    intro replica member
    obtain ⟨source, last, verified⟩ := before.replicas replica member
    exact ⟨source, last, verified.mono (List.subset_append_right _ _)⟩
  cases moved with
  | unanswered | answered | unlisted | listed | gathered =>
    exact before.append _ (by simp [Phase.events, Event.stores])
  | refused failed =>
    simp only [Phase.events, failed]
    exact before.append _ fun event member => (probeEvents_kind event member).2
  | verified probed =>
    simp only [Phase.events, probed]
    refine before.append _ fun event member => ?_
    rcases List.mem_cons.mp member with rfl | member
    · rfl
    · exact (probeEvents_kind event member).2
  | stored tracking => exact master supported
  | storedLast untracked => exact master supported
  | examined network =>
    simp only [Phase.events]
    refine before.append _ fun event member => ?_
    split at member
    · exact (probeEvents_kind event member).2
    · cases member
  | replaced =>
    obtain ⟨stored, verified⟩ := supported
    refine ⟨?_, fun addr member => ⟨round, rfl, (verified addr member).mono grown⟩⟩
    rcases before.master with ⟨_, absent⟩ | ⟨set, source, given⟩
    · exact absurd stored absent
    · exact .inr ⟨set, source, given.mono grown⟩

/-- A round that succeeds has stored a master. -/
theorem moves_succeeded (moved : phase.Moves resolver sorter answer store (.done none) next)
    (supported : Supported log round phase) :
    MasterStored (phase.events sorter round answer ++ log) := by
  cases moved with
  | storedLast untracked => exact ⟨round, _, List.mem_cons_self⟩
  | replaced => exact supported.1.mono (List.subset_append_right _ _)

end Steps

section Invariant

variable {resolver : RedisMasterResolver} {sorter : Sorter} {state next : State}

theorem sound_init : Sound State.init where
  rounds thread round running := by
    cases thread with
    | loop =>
      cases running
      trivial
    | caller id => cases running
  store := ⟨.inl ⟨rfl, by rintro ⟨_, _, seen⟩; cases seen⟩, by intro addr member; cases member⟩
  audited := trivial
  finished done := by cases done
  waiting id waits := by cases waits
  succeeded seen := by cases seen

/-- A step keeps the invariant if the rounds, the store and the new part of the log are
accounted for. -/
theorem Sound.extend (sound : Sound state) (events : List Event)
    (log : next.log = events ++ state.log)
    (rounds : ∀ thread round, next.active thread = some round →
      Supported next.log round.id round.phase)
    (store : StoreSupported next.log next.store) (audited : Audited next.log)
    (finished : next.initialDone = true →
      state.initialDone = true ∨ ∃ outcome, .initialFinished outcome ∈ events)
    (stays : state.initialDone = true → next.initialDone = true)
    (waiting : ∀ id, next.callers id = .waiting →
      state.callers id = .waiting ∨ state.initialDone = true)
    (succeeded : .initialFinished none ∈ events → MasterStored next.log) : Sound next := by
  have grown : state.log ⊆ next.log := log ▸ List.subset_append_right _ _
  refine ⟨rounds, store, audited, ?_, ?_, ?_⟩
  · intro done
    rcases finished done with before | ⟨outcome, fresh⟩
    · obtain ⟨outcome, seen⟩ := sound.finished before
      exact ⟨outcome, grown seen⟩
    · exact ⟨outcome, log ▸ List.mem_append_left _ fresh⟩
  · intro id waits
    rcases waiting id waits with before | done
    · exact stays (sound.waiting id before)
    · exact stays done
  · intro seen
    rw [log] at seen
    rcases List.mem_append.mp seen with fresh | old
    · exact succeeded fresh
    · exact (sound.succeeded old).mono grown

theorem Sound.start {thread : Thread} (sound : Sound state)
    (active : next.active = Function.update state.active thread (some ⟨state.started, .query⟩))
    (waiting : ∀ id, next.callers id = .waiting → state.callers id = .waiting)
    (store : next.store = state.store) (initial : next.initialDone = state.initialDone)
    (log : next.log = state.log ∨
      ∃ id, state.callers id = .waiting ∧ next.log = .refreshing id :: state.log) : Sound next := by
  have rounds (grown : state.log ⊆ next.log) : ∀ other round, next.active other = some round →
      Supported next.log round.id round.phase := by
    intro other round runs
    rcases active_after_start active runs with ⟨_, rfl⟩ | ⟨_, elsewhere⟩
    · trivial
    · exact (sound.rounds other round elsewhere).mono grown
  have stays : state.initialDone = true → next.initialDone = true := fun done => initial ▸ done
  have finished : next.initialDone = true → state.initialDone = true := fun done => initial ▸ done
  rcases log with same | ⟨id, waits, logged⟩
  · refine sound.extend [] same (rounds (same ▸ fun _ member => member)) ?_
      (same ▸ sound.audited) (fun done => .inl (finished done)) stays
      (fun id waits => .inl (waiting id waits)) (by simp)
    rw [same, store]
    exact sound.store
  · refine sound.extend [.refreshing id] logged (rounds (logged ▸ List.subset_cons_self _ _)) ?_ ?_
      (fun done => .inl (finished done)) stays
      (fun id waits => .inl (waiting id waits)) (by simp)
    · rw [logged, store]
      exact sound.store.append [.refreshing id] (by simp [Event.stores])
    · rw [logged]
      exact ⟨sound.finished (sound.waiting id waits), sound.audited⟩

theorem Sound.justified_master (sound : Sound state) (ready : state.initialDone = true) :
    Justified state.log (.masterRead state.store.masterAddr) := by
  have finished := sound.finished ready
  refine ⟨finished, ?_, ?_⟩
  · intro set
    exact (sound.store.master.resolve_left fun unset => set unset.1).2
  · intro unset
    have absent := (sound.store.master.resolve_right fun set => set.1 unset).2
    obtain ⟨outcome, seen⟩ := finished
    cases outcome with
    | none => exact absurd (sound.succeeded seen) absent
    | some fault => exact ⟨absent, fault, seen⟩

theorem Sound.justified_replica (sound : Sound state) (ready : state.initialDone = true) :
    Justified state.log (.replicaRead state.store.replicaAddress.1) := by
  refine ⟨sound.finished ready, ?_⟩
  intro addr picked
  have member := replicaAddress_mem picked
  obtain ⟨round, last, verified⟩ := sound.store.replicas addr member
  exact ⟨round, state.store.replicaAddrs, last, member, verified⟩

theorem StoreSupported.replicaAddress {log : List Event} {store : Store}
    (supported : StoreSupported log store) : StoreSupported log store.replicaAddress.2 := by
  rcases replicaAddress_store store with same | advanced
  · rwa [same]
  · rw [advanced]
    exact ⟨supported.master, supported.replicas⟩

theorem Sound.aside (sound : Sound state) (active : next.active = state.active)
    (waiting : ∀ id, next.callers id = .waiting →
      state.callers id = .waiting ∨ state.initialDone = true)
    (step : Aside state next) : Sound next := by
  have rounds (grown : state.log ⊆ next.log) : ∀ thread round, next.active thread = some round →
      Supported next.log round.id round.phase := by
    intro thread round running
    exact (sound.rounds thread round (active ▸ running)).mono grown
  cases step with
  | quiet store log initial =>
    refine sound.extend [] log (rounds (log ▸ fun _ member => member)) ?_
      (log ▸ sound.audited) (fun done => .inl (initial ▸ done)) (fun done => initial ▸ done)
      waiting (by simp)
    rw [log, store]
    exact sound.store
  | @gaveUp fault store log initial =>
    refine sound.extend [.initialFinished (some fault)] log
      (rounds (log ▸ List.subset_cons_self _ _)) ?_ (log ▸ ⟨trivial, sound.audited⟩)
      (fun _ => .inr ⟨some fault, List.mem_cons_self⟩) (fun _ => initial) waiting (by simp)
    rw [log, store]
    exact sound.store.append [.initialFinished (some fault)] (by simp [Event.stores])
  | readMaster ready store log initial =>
    refine sound.extend [.masterRead state.store.masterAddr] log
      (rounds (log ▸ List.subset_cons_self _ _)) ?_
      (log ▸ ⟨sound.justified_master ready, sound.audited⟩) (fun _ => .inl ready)
      (fun _ => initial) waiting (by simp)
    rw [log, store]
    exact sound.store.append [.masterRead _] (by simp [Event.stores])
  | readReplica ready store log initial =>
    refine sound.extend [.replicaRead state.store.replicaAddress.1] log
      (rounds (log ▸ List.subset_cons_self _ _)) ?_
      (log ▸ ⟨sound.justified_replica ready, sound.audited⟩) (fun _ => .inl ready)
      (fun _ => initial) waiting (by simp)
    rw [log, store]
    exact sound.store.replicaAddress.append [.replicaRead _] (by simp [Event.stores])

theorem Sound.work {thread : Thread} {round : Round} {answer : Answer} {progress : Progress}
    (sound : Sound state) (running : state.active thread = some round)
    (moved : round.phase.Moves resolver sorter answer state.store progress next.store)
    (active : next.active = Function.update state.active thread (progress.round? round.id))
    (waiting : ∀ id, next.callers id = .waiting → state.callers id = .waiting)
    (recorded : Recorded state next (round.phase.events sorter round.id answer) progress) :
    Sound next := by
  have supported := sound.rounds thread round running
  have stored := moves_store moved supported sound.store
  have audited : Audited (round.phase.events sorter round.id answer ++ state.log) :=
    sound.audited.append fun event member => justified_of_round (events_ofRound event member)
  have rounds (grown : round.phase.events sorter round.id answer ++ state.log ⊆ next.log) :
      ∀ thread round, next.active thread = some round →
        Supported next.log round.id round.phase := by
    intro other later runs
    rcases active_after_work active runs with ⟨_, rfl, same⟩ | ⟨_, elsewhere⟩
    · rw [same]
      exact (moves_supported moved supported).mono grown
    · refine (sound.rounds other later elsewhere).mono ?_
      intro event member
      exact grown (List.mem_append_right _ member)
  cases recorded with
  | plain log initial =>
    refine sound.extend _ log (rounds (log ▸ fun _ member => member)) (log ▸ stored)
      (log ▸ audited) (fun done => .inl (initial ▸ done)) (fun done => initial ▸ done)
      (fun id waits => .inl (waiting id waits)) ?_
    intro seen
    cases events_ofRound _ seen
  | @initial outcome last log initial =>
    subst last
    refine sound.extend (.initialFinished outcome :: round.phase.events sorter round.id answer) log
      (rounds (log ▸ List.subset_cons_self _ _)) ?_ (log ▸ ⟨trivial, audited⟩)
      (fun _ => .inr ⟨outcome, List.mem_cons_self⟩) (fun _ => initial)
      (fun id waits => .inl (waiting id waits)) ?_
    · rw [log]
      exact stored.append [.initialFinished outcome] (by simp [Event.stores])
    · intro seen
      rcases List.mem_cons.mp seen with finished | fresh
      · cases finished
        exact (moves_succeeded moved supported).mono (log ▸ List.subset_cons_self _ _)
      · cases events_ofRound _ fresh

theorem Sound.step {action : Action} (sound : Sound state)
    (stepped : state.step resolver sorter action = some next) : Sound next := by
  cases step_effect stepped with
  | work _ running moved active _ waiting recorded =>
    exact sound.work running moved active waiting recorded
  | start _ _ active _ waiting store initial log =>
    exact sound.start active waiting store initial log
  | aside _ active _ waiting step => exact sound.aside active waiting step

end Invariant

section Readers

variable {resolver : RedisMasterResolver} {sorter : Sorter} {state next : State}

private theorem moves_masterAddr {phase : Phase} {answer : Answer} {progress : Progress}
    {before after : Store} (moved : phase.Moves resolver sorter answer before progress after)
    (set : before.masterAddr ≠ "") : after.masterAddr ≠ "" := by
  cases moved with
  | @stored addr => exact addr.string_ne_empty
  | @storedLast addr => exact addr.string_ne_empty
  | _ => exact set

private theorem step_masterAddr {action : Action} (set : state.store.masterAddr ≠ "")
    (stepped : state.step resolver sorter action = some next) : next.store.masterAddr ≠ "" := by
  cases step_effect stepped with
  | work _ _ moved => exact moves_masterAddr moved set
  | start _ _ _ _ _ store => rwa [store]
  | aside _ _ _ _ step => rwa [step.addresses.1]

/-- Readers are handed only addresses whose role was verified, by the round that stored
them for replicas; nothing is read and no refresh resolves before the initial resolve is
over; a stored master is never lost. -/
theorem readers_verified (reached : State.Reachable resolver sorter (fun _ _ => True) state) :
    (∀ later addr earlier, state.log = later ++ .masterRead addr :: earlier →
      Finished earlier ∧ (addr ≠ "" → ∃ round, RoleGiven earlier round addr "master") ∧
        (addr = "" → ¬MasterStored earlier ∧ ∃ fault, .initialFinished (some fault) ∈ earlier)) ∧
    (∀ later picked earlier, state.log = later ++ .replicaRead picked :: earlier →
      Finished earlier ∧ ∀ addr, picked = .address addr → ∃ round addrs,
        lastStored earlier = some (round, addrs) ∧ addr ∈ addrs ∧ Verified earlier round addr) ∧
    (∀ later caller earlier, state.log = later ++ .refreshing caller :: earlier →
      Finished earlier) ∧
    (∀ next, State.Leads resolver sorter (fun _ _ => True) state next →
      state.store.masterAddr ≠ "" → next.store.masterAddr ≠ "") := by
  have sound : Sound state := State.Leads.invariant reached sound_init
    fun _ _ _ before _ stepped => before.step stepped
  refine ⟨?_, ?_, ?_, ?_⟩
  · intro later addr earlier log
    exact (log ▸ sound.audited).at
  · intro later picked earlier log
    exact (log ▸ sound.audited).at
  · intro later caller earlier log
    exact (log ▸ sound.audited).at
  · intro next run set
    exact run.invariant set fun _ _ _ before _ stepped => step_masterAddr before stepped

/-- A first round, and a reader of each kind after it. -/
def observed : State :=
  (State.init.steps tracker insertionSorter
    (masterSteps .loop (nodes [("10.0.0.1:6379", "master"), ("10.0.0.2:6379", "slave")])
        "10.0.0.1" ++
      replicaSteps .loop (nodes [("10.0.0.1:6379", "master"), ("10.0.0.2:6379", "slave")])
        ["10.0.0.2"] ++ [.readMaster, .readReplica])).get (by decide +kernel)

theorem readers_verified_observed :
    (∃ round, RoleGiven (observed.log.drop 2) round "10.0.0.1:6379" "master") ∧
      ∃ round addrs, lastStored (observed.log.drop 1) = some (round, addrs) ∧
        "10.0.0.2:6379" ∈ addrs ∧ Verified (observed.log.drop 1) round "10.0.0.2:6379" := by
  have reached : State.Reachable tracker insertionSorter (fun _ _ => True) observed :=
    State.Reachable.steps .refl (Option.some_get _).symm (fun _ _ _ _ _ _ => trivial)
  obtain ⟨master, replica, _⟩ := readers_verified reached
  exact ⟨(master [.replicaRead (.address "10.0.0.2:6379")] "10.0.0.1:6379" _
      (by decide +kernel)).2.1 (by decide),
    (replica [] (.address "10.0.0.2:6379") _ (by decide +kernel)).2 _ rfl⟩

end Readers

end SentinelProxy.Resolver
