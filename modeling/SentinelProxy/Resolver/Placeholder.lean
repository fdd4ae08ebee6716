import SentinelProxy.Net.Dial
import SentinelProxy.Net.Unspecified
import SentinelProxy.Resolver.System

/-! Whether the unspecified address, or none at all, can become a backend: the check looks at
the reported host, the address used is the one it resolves to. -/

namespace SentinelProxy.Resolver

open SentinelProxy.Text SentinelProxy.Net

/-- How a reported host stands for the local system without being the literal the check looks
for: a literal with a zone or in brackets, a name resolved to it, or brackets around nothing,
which leave no IP to dial. -/
inductive Evades (lookups : Lookups) (host : String) : Prop where
  | literal {name zone : String} {ip : IP} (dialled : dialHost host = some name)
      (parsed : parseAddr name = some (ip, zone)) (unseen : name ≠ host ∨ zone ≠ "")
      (unspecified : isUnspecified ip = true)
  | resolved {name zone : String} {ip : IP} {addresses : List (IP × String)}
      (dialled : dialHost host = some name) (present : name ≠ "")
      (unparsed : parseAddr name = none) (found : lookups.lookupHost name = .ok addresses)
      (picked : pickAddress (prefersV6 host) addresses = some (ip, zone))
      (unspecified : isLocalSystem ip = true)
  | hostless (named : host ≠ "") (dialled : dialHost host = some "")

structure Serviceable (addr : TCPAddr) : Prop where
  port : 1 ≤ addr.port ∧ addr.port ≤ 65535
  present : addr.ip ≠ []
  specified : isUnspecified addr.ip = false

def Harmless (lookups : Lookups) (host port : String) : Prop :=
  ValidPort port → ¬Evades lookups host

section Usable

variable {lookups : Lookups} {host port : String} {addr : TCPAddr}

private theorem usableTCPAddr_ok_iff :
    usableTCPAddr lookups host port = .ok addr ↔
      host ≠ "" ∧ (parseIP host).any isUnspecified = false ∧
        ∃ number, atoi port = some number ∧ 1 ≤ number ∧ number ≤ 65535 ∧
          resolveTCPAddr lookups (joinHostPort host port) = .ok addr := by
  unfold usableTCPAddr
  by_cases missing : host = "" ∨ port = ""
  · rw [if_pos missing]
    refine ⟨nofun, ?_⟩
    rintro ⟨named, _, number, parsed, _⟩
    rw [missing.resolve_left named, show atoi "" = none by decide] at parsed
    cases parsed
  · rw [if_neg missing]
    obtain ⟨named, _⟩ := not_or.mp missing
    cases (parseIP host).any isUnspecified with
    | true => simp
    | false =>
      cases atoi port with
      | none => simp
      | some number =>
        by_cases outside : number < 1 ∨ 65535 < number
        · simp [outside]
          omega
        · cases resolveTCPAddr lookups (joinHostPort host port) with
          | error error => simp [outside]
          | ok resolved =>
            have inside : 1 ≤ number ∧ number ≤ 65535 := by omega
            simp [outside, named, inside.1, inside.2]

/-- What a reported pair is resolved to, by the name that is looked up for it. -/
theorem resolved_iff {number : Int} (parsed : atoi port = some number) (low : 1 ≤ number)
    (high : number ≤ 65535) :
    resolveTCPAddr lookups (joinHostPort host port) = .ok addr ↔
      ∃ name, dialHost host = some name ∧
        (name = "" ∧ addr = ⟨[], number.toNat, ""⟩ ∨
          name ≠ "" ∧ ∃ addresses picked, lookupIPAddr lookups name = .ok addresses ∧
            pickAddress (prefersV6 host) (withFallback addresses) = some picked ∧
            addr = ⟨picked.1, number.toNat, picked.2⟩) := by
  rw [resolveTCPAddr_joinHostPort lookups host parsed low high]
  cases dialHost host with
  | none => simp
  | some name =>
    by_cases empty : name = ""
    · simp [empty, eq_comm]
    · cases found : lookupIPAddr lookups name with
      | error error => simp [empty, found]
      | ok addresses =>
        cases chosen : pickAddress (prefersV6 host) (withFallback addresses) with
        | none => simp [empty, found, chosen]
        | some picked =>
          obtain ⟨ip, zone⟩ := picked
          simp [empty, found, chosen, eq_comm]

private theorem parseAddr_empty : parseAddr "" = none := by decide

private theorem pickAddress_literal (bracketed : Bool) (literal : IP × String) :
    pickAddress bracketed [literal] = some literal := by
  simp only [pickAddress, List.find?_cons, List.find?_nil]
  split <;> rfl

theorem Evades.unseen (evades : Evades lookups host) :
    ∃ name, dialHost host = some name ∧ host ≠ "" ∧
      (parseIP host).any isUnspecified = false := by
  have named {name : String} (dialled : dialHost host = some name) (present : name ≠ "") :
      host ≠ "" := by
    rintro rfl
    cases dialled
    exact present rfl
  cases evades with
  | @literal name zone ip dialled parsed unseen =>
    refine ⟨name, dialled, named dialled ?_, ?_⟩
    · rintro rfl
      rw [parseAddr_empty] at parsed
      cases parsed
    · rcases dialHost_some dialled with rfl | bracketed
      · simp [parseIP, parsed, unseen.resolve_left (by simp)]
      · simp [parseIP, bracketed]
  | @resolved name _ _ _ dialled present unparsed =>
    refine ⟨name, dialled, named dialled present, ?_⟩
    rcases dialHost_some dialled with rfl | bracketed
    · simp [parseIP, unparsed]
    · simp [parseIP, bracketed]
  | hostless named dialled =>
    refine ⟨"", dialled, named, ?_⟩
    rcases dialHost_some dialled with rfl | bracketed
    · exact absurd rfl named
    · simp [parseIP, bracketed]

/-- Past the check, what evades it is what the lookup turns into the local system. -/
theorem evades_iff {name : String} (dialled : dialHost host = some name) (present : name ≠ "")
    (unseen : (parseIP host).any isUnspecified = false) :
    Evades lookups host ↔ ∃ addresses picked, lookupIPAddr lookups name = .ok addresses ∧
      pickAddress (prefersV6 host) addresses = some picked ∧ isLocalSystem picked.1 = true := by
  constructor
  · intro evades
    cases evades with
    | literal found parsed _ unspecified =>
      obtain rfl := Option.some.inj (dialled.symm.trans found)
      refine ⟨_, _, by rw [lookupIPAddr, parsed], pickAddress_literal _ _, ?_⟩
      rw [isLocalSystem_of_ne_nil (parseAddr_ne_nil parsed)]
      exact unspecified
    | resolved found _ unparsed answered picked unspecified =>
      obtain rfl := Option.some.inj (dialled.symm.trans found)
      exact ⟨_, _, by rw [lookupIPAddr, unparsed]; exact answered, picked, unspecified⟩
    | hostless _ found => exact absurd (Option.some.inj (dialled.symm.trans found)) present
  · rintro ⟨addresses, picked, answered, chosen, unspecified⟩
    rw [lookupIPAddr] at answered
    split at answered
    · rename_i literal parsed
      cases answered
      rw [pickAddress_literal] at chosen
      cases chosen
      rw [isLocalSystem_of_ne_nil (parseAddr_ne_nil parsed)] at unspecified
      refine .literal dialled parsed ?_ unspecified
      by_contra seen
      obtain ⟨rfl, bare⟩ : name = host ∧ picked.2 = "" := by simpa using seen
      simp [parseIP, parsed, bare, unspecified] at unseen
    · rename_i unparsed
      exact .resolved dialled present unparsed answered chosen unspecified

/-- An accepted address has a port in range, and is the local system if the host evaded the
check and only then. -/
theorem usable_localSystem (accepted : usableTCPAddr lookups host port = .ok addr) :
    (1 ≤ addr.port ∧ addr.port ≤ 65535) ∧
      (isLocalSystem addr.ip = true ↔ Evades lookups host) := by
  obtain ⟨named, unseen, number, parsed, low, high, resolved⟩ := usableTCPAddr_ok_iff.mp accepted
  obtain ⟨name, dialled, ⟨rfl, rfl⟩ | ⟨present, addresses, picked, answered, chosen, rfl⟩⟩ :=
    (resolved_iff parsed low high).mp resolved
  · exact ⟨by dsimp only; omega, iff_of_true rfl (.hostless named dialled)⟩
  · refine ⟨by dsimp only; omega, ?_⟩
    rw [evades_iff dialled present unseen]
    have same := pickAddress_withFallback (prefersV6 host) addresses
    rw [chosen, Option.map_some] at same
    obtain ⟨other, first, agree⟩ := Option.map_eq_some_iff.mp same.symm
    constructor
    · intro unspecified
      exact ⟨addresses, other, answered, first, agree.trans unspecified⟩
    · rintro ⟨_, _, found, picked, unspecified⟩
      cases answered.symm.trans found
      cases first.symm.trans picked
      exact agree.symm.trans unspecified

theorem evades_accepted (valid : ValidPort port) (evades : Evades lookups host) :
    ∃ addr, usableTCPAddr lookups host port = .ok addr := by
  obtain ⟨number, parsed, low, high⟩ := valid
  obtain ⟨name, dialled, named, unseen⟩ := evades.unseen
  have accepted {addr : TCPAddr} (resolved : resolveTCPAddr lookups (joinHostPort host port) =
      .ok addr) : ∃ addr, usableTCPAddr lookups host port = .ok addr :=
    ⟨addr, usableTCPAddr_ok_iff.mpr ⟨named, unseen, number, parsed, low, high, resolved⟩⟩
  by_cases present : name = ""
  · exact accepted ((resolved_iff parsed low high).mpr ⟨name, dialled, .inl ⟨present, rfl⟩⟩)
  · obtain ⟨addresses, picked, answered, chosen, _⟩ :=
      (evades_iff dialled present unseen).mp evades
    have same := pickAddress_withFallback (prefersV6 host) addresses
    rw [chosen, Option.map_some] at same
    obtain ⟨other, first, _⟩ := Option.map_eq_some_iff.mp same
    exact accepted ((resolved_iff parsed low high).mpr
      ⟨name, dialled, .inr ⟨present, addresses, other, answered, first, rfl⟩⟩)

/-- The reported pairs for which only proper backends are accepted. -/
theorem serviceable_iff :
    (∀ addr, usableTCPAddr lookups host port = .ok addr → Serviceable addr) ↔
      Harmless lookups host port := by
  constructor
  · intro serviceable valid evades
    obtain ⟨addr, accepted⟩ := evades_accepted valid evades
    have reached := (usable_localSystem accepted).2.mpr evades
    obtain ⟨_, present, specified⟩ := serviceable addr accepted
    rw [isLocalSystem_eq_false.mpr ⟨present, specified⟩] at reached
    cases reached
  · intro harmless addr accepted
    obtain ⟨_, _, number, parsed, low, high, _⟩ := usableTCPAddr_ok_iff.mp accepted
    obtain ⟨range, reaches⟩ := usable_localSystem accepted
    have elsewhere : isLocalSystem addr.ip = false := by
      rw [← Bool.not_eq_true, reaches]
      exact harmless ⟨number, parsed, low, high⟩
    obtain ⟨present, specified⟩ := isLocalSystem_eq_false.mp elsewhere
    exact ⟨range, present, specified⟩

end Usable

def Phase.target? : Phase → Option (String × String)
  | .probe host port => some (host, port)
  | .examine _ (fields :: _) =>
    if healthy fields then some (fields.text "ip", fields.text "port") else none
  | _ => none

/-- Probes of hosts that do not evade the check. -/
def HarmlessProbe (state : State) : Action → Prop
  | .work thread (.network network) => ∀ round host port, state.active thread = some round →
      round.phase.target? = some (host, port) → Harmless network.toLookups host port
  | _ => True

section Addresses

variable (sound : String → Prop)

def Phase.Sound : Phase → Prop
  | .storeMaster addr _ => sound addr.string
  | .examine found _ => ∀ replica ∈ found, sound replica.addr
  | .storeReplicas addrs _ => ∀ addr ∈ addrs, sound addr
  | _ => True

structure Store.Sound (store : Store) : Prop where
  master : sound store.masterAddr
  replicas : ∀ addr ∈ store.replicaAddrs, sound addr

/-- Every address stored or about to be stored has the property. -/
structure State.Sound (state : State) : Prop where
  store : state.store.Sound sound
  rounds : ∀ thread round, state.active thread = some round → round.phase.Sound sound

variable {sound}

section Steps

variable {resolver : RedisMasterResolver} {sorter : Sorter} {phase : Phase} {answer : Answer}
  {progress : Progress} {store next : Store}

theorem moves_sound {following : Phase}
    (moved : phase.Moves resolver sorter answer store (.busy following) next)
    (accepts : ∀ network host port addr, answer = .network network →
      phase.target? = some (host, port) →
      usableTCPAddr network.toLookups host port = .ok addr → sound addr.string)
    (before : phase.Sound sound) : following.Sound sound := by
  cases moved with
  | verified probed => exact accepts _ _ _ _ rfl rfl (probeMaster_ok probed).1
  | @examined found fields rest _ network =>
    intro replica member
    rcases List.mem_append.mp member with old | fresh
    · exact before replica old
    · obtain ⟨sane, addr, usable, _, same⟩ := examine_some
        (show examine network fields = some replica by simpa using fresh)
      rw [same]
      exact accepts network _ _ addr rfl (if_pos sane) usable
  | gathered =>
    intro addr member
    obtain ⟨replica, found, rfl⟩ := Sorter.mem_addrs.mp member
    exact before replica found
  | unlisted => simp [Phase.Sound]
  | listed => simp [Phase.Sound]
  | answered => trivial
  | stored => trivial

private theorem moves_store_sound (moved : phase.Moves resolver sorter answer store progress next)
    (before : phase.Sound sound) (stored : store.Sound sound) : next.Sound sound := by
  cases moved with
  | stored => exact ⟨before, stored.replicas⟩
  | storedLast => exact ⟨before, stored.replicas⟩
  | replaced => exact ⟨stored.master, before⟩
  | _ => exact stored

end Steps

variable {resolver : RedisMasterResolver} {sorter : Sorter} {state next : State} {action : Action}

theorem State.Sound.step (kept : state.Sound sound)
    (accepts : ∀ thread network round host port addr, action = .work thread (.network network) →
      state.active thread = some round → round.phase.target? = some (host, port) →
      usableTCPAddr network.toLookups host port = .ok addr → sound addr.string)
    (stepped : state.step resolver sorter action = some next) : next.Sound sound := by
  cases step_effect stepped with
  | @work thread round answer progress taken running moved active =>
    have before := kept.rounds thread round running
    refine ⟨moves_store_sound moved before kept.store, ?_⟩
    intro other later runs
    rcases active_after_work active runs with ⟨rfl, rfl, _⟩ | ⟨_, elsewhere⟩
    · refine moves_sound moved ?_ before
      rintro network host port addr rfl target usable
      exact accepts other network round host port addr taken running target usable
    · exact kept.rounds other later elsewhere
  | start _ _ active _ _ store =>
    refine ⟨store ▸ kept.store, ?_⟩
    intro other later runs
    rcases active_after_start active runs with ⟨_, rfl⟩ | ⟨_, elsewhere⟩
    · trivial
    · exact kept.rounds other later elsewhere
  | aside _ active _ _ step =>
    obtain ⟨master, replicas⟩ := step.addresses
    refine ⟨⟨master ▸ kept.store.master, replicas ▸ kept.store.replicas⟩, ?_⟩
    rw [active]
    exact kept.rounds

end Addresses

section Runs

variable {resolver : RedisMasterResolver} {sorter : Sorter}

private theorem specified_init : State.init.Sound fun text => ¬UnspecifiedText text where
  store := ⟨not_unspecifiedText_empty, by simp [State.init]⟩
  rounds thread round running := by
    cases thread <;> cases running
    trivial

/-- Which reported hosts and ports are only ever accepted as proper backends, and that the
stored addresses are specified as long as no others are probed. -/
theorem backends_specified (resolver : RedisMasterResolver) (sorter : Sorter) :
    (∀ lookups host port,
      (∀ addr, usableTCPAddr lookups host port = .ok addr → Serviceable addr) ↔
        Harmless lookups host port) ∧
    ∀ state, State.Reachable resolver sorter HarmlessProbe state →
      ¬UnspecifiedText state.store.masterAddr ∧
        ∀ addr ∈ state.store.replicaAddrs, ¬UnspecifiedText addr := by
  refine ⟨fun _ _ _ => serviceable_iff, ?_⟩
  intro state reached
  have kept : state.Sound fun text => ¬UnspecifiedText text := by
    refine State.Leads.invariant reached specified_init ?_
    intro before after action sound harmless stepped
    refine sound.step ?_ stepped
    rintro thread network round host port addr rfl running target usable unspecified
    obtain ⟨_, present, specified⟩ :=
      serviceable_iff.mpr (harmless round host port running target) addr usable
    rw [unspecifiedText_string, isLocalSystem_eq_false.mpr ⟨present, specified⟩] at unspecified
    cases unspecified
  exact ⟨kept.store.master, kept.store.replicas⟩

end Runs

section Scenarios

def ordinary : Network := nodes [("10.0.0.1:6379", "master")]

def askedState : State :=
  (State.init.step tracker insertionSorter
    (.work .loop (.master (.elements ["10.0.0.1", "6379"])))).get (by decide +kernel)

def probedState : State :=
  (askedState.step tracker insertionSorter (.work .loop (.network ordinary))).get
    (by decide +kernel)

def keptState : State :=
  (probedState.step tracker insertionSorter (.work .loop .quiet)).get (by decide +kernel)

private theorem ordinary_harmless : Harmless ordinary.toLookups "10.0.0.1" "6379" := by
  rw [← serviceable_iff]
  intro addr accepted
  have known : usableTCPAddr ordinary.toLookups "10.0.0.1" "6379" =
      .ok ⟨mapped [10, 0, 0, 1], 6379, ""⟩ := by decide +kernel
  cases known.symm.trans accepted
  exact ⟨by decide, by decide, by decide⟩

theorem backends_specified_keptState :
    keptState.store.masterAddr = "10.0.0.1:6379" ∧
      ¬UnspecifiedText keptState.store.masterAddr := by
  have probing : askedState.active .loop = some ⟨0, .probe "10.0.0.1" "6379"⟩ := by
    decide +kernel
  have asked : State.Reachable tracker insertionSorter HarmlessProbe askedState :=
    .tail .refl ⟨.work .loop (.master (.elements ["10.0.0.1", "6379"])), trivial,
      (Option.some_get _).symm⟩
  have probed : State.Reachable tracker insertionSorter HarmlessProbe probedState := by
    refine asked.tail ⟨.work .loop (.network ordinary), ?_, (Option.some_get _).symm⟩
    intro round host port running target
    cases probing.symm.trans running
    cases target
    exact ordinary_harmless
  have kept : State.Reachable tracker insertionSorter HarmlessProbe keptState :=
    probed.tail ⟨.work .loop .quiet, trivial, (Option.some_get _).symm⟩
  exact ⟨by decide +kernel, ((backends_specified tracker insertionSorter).2 keptState kept).1⟩

/-- A node that answers on the unspecified address, as the proxy's own listener does. -/
def selfConnect : Network := nodes [("[::%eth0]:6379", "master")]

def zonedState : State :=
  (State.init.steps tracker insertionSorter (masterSteps .loop selfConnect "::%eth0")).get
    (by decide +kernel)

def wildcard : Lookups := { Lookups.silent with
  lookupHost := fun _ => .ok [(mapped [0, 0, 0, 0], "")] }

/-- The proxy's own port, dialled without a host. -/
def hostlessNode : Network := nodes [(":6379", "master")]

/-- The first round has stored an endpoint without an IP. -/
def hostlessState : State :=
  (State.init.steps tracker insertionSorter (masterSteps .loop hostlessNode "[]")).get
    (by decide +kernel)

/-- A zone hides the placeholder from the check, and so does a name; brackets around nothing
leave a port alone. -/
theorem zonedState_unspecified :
    usableTCPAddr selfConnect.toLookups "::%eth0" "6379" =
        .ok ⟨List.replicate 16 0, 6379, "eth0"⟩ ∧
      State.Reachable tracker insertionSorter (fun _ _ => True) zonedState ∧
      zonedState.store.masterAddr = "[::%eth0]:6379" ∧
      UnspecifiedText zonedState.store.masterAddr ∧
      usableTCPAddr wildcard "redis-0" "6379" = .ok ⟨mapped [0, 0, 0, 0], 6379, ""⟩ ∧
      isUnspecified (mapped [0, 0, 0, 0]) = true ∧
      usableTCPAddr hostlessNode.toLookups "[]" "6379" = .ok ⟨[], 6379, ""⟩ ∧
      State.Reachable tracker insertionSorter (fun _ _ => True) hostlessState ∧
      hostlessState.store.masterAddr = ":6379" ∧
      UnspecifiedText hostlessState.store.masterAddr := by
  have stored : zonedState.store.masterAddr = "[::%eth0]:6379" := by decide +kernel
  have hostless : hostlessState.store.masterAddr = ":6379" := by decide +kernel
  refine ⟨by decide +kernel, ?_, stored, ?_, by decide +kernel, by decide, by decide +kernel, ?_,
    hostless, ?_⟩
  · exact State.Reachable.steps .refl (Option.some_get _).symm fun _ _ _ _ _ _ => trivial
  · rw [stored]
    exact ⟨⟨List.replicate 16 0, 6379, "eth0"⟩, by decide, by decide +kernel⟩
  · exact State.Reachable.steps .refl (Option.some_get _).symm fun _ _ _ _ _ _ => trivial
  · rw [hostless]
    exact ⟨⟨[], 6379, ""⟩, by decide, by decide +kernel⟩

end Scenarios

end SentinelProxy.Resolver
