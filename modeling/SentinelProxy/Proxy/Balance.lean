import Mathlib.Data.List.Nodup
import SentinelProxy.Proxy.Serve

/-! Balance of slots and sessions: what a step of a session and a step of the proxy can do,
and the invariant that every run keeps. -/

namespace SentinelProxy.Proxy

open SentinelProxy.Counting

def Session.active (session : Session) : Bool := session.phase ≠ .ended

/-- Sessions that an accept loop has let in and not started yet. -/
def Listener.launches : Listener → Nat
  | .launching _ => 1
  | _ => 0

/-- The accepted connection that an accept loop has at hand. -/
def Listener.held : Listener → List Nat
  | .deciding conn | .launching conn => [conn]
  | _ => []

namespace Server

/-- Sessions running across both endpoints: from the moment a connection is let in to the
end of its goroutine. -/
def running (server : Server) : Nat :=
  server.sessions.countP Session.active + (server.listener .master).launches +
    (server.listener .replica).launches

def occupied (server : Server) : Nat := (server.sem.map Semaphore.taken).getD 0

/-- The accepted connections, each with the part of the proxy that has it. -/
def owners (server : Server) : List Nat :=
  server.sessions.map Session.conn ++ server.turned ++
    ((server.listener .master).held ++ (server.listener .replica).held)

end Server

/-- What holds of a session at any time: an open connection has its deferred close, and
nothing is deferred once the session has returned. -/
structure Session.Orderly (session : Session) : Prop where
  covered : ∀ link ∈ session.opened, link ∈ session.deferred
  returned : session.phase = .releasing ∨ session.phase = .ended → session.deferred = []
  once : session.released = if session.phase = .ended then 1 else 0

def Phase.busy : Phase → Bool
  | .releasing | .ended => false
  | _ => true

/-- What a step of a session can do to it. -/
inductive Moved (session : Session) : Session → Prop where
  | advances (before : session.phase.busy = true) (phase : Phase) (after : phase.busy = true) :
      Moved session { session with phase }
  | connects (before : session.phase.busy = true) (link : Link) (phase : Phase)
      (after : phase.busy = true) : Moved session { session.connect link with phase }
  | drops (before : session.phase.busy = true) (link : Link) (phase : Phase)
      (after : phase.busy = true) : Moved session { session.disconnect link with phase }
  | closes (before : session.phase.busy = true) (link : Link) (rest : List Link)
      (last : session.deferred = link :: rest) :
      Moved session { session.disconnect link with deferred := rest }
  | returns (before : session.phase.busy = true) (none : session.deferred = []) :
      Moved session { session with phase := .releasing }

section Moves

variable {proxy : RedisSentinelProxy} {session next : Session} {move : Move}

/-- A session that has returned takes no step of its own but the last. -/
theorem move_busy (moved : session.move proxy move = some next) : session.phase.busy = true := by
  cases phase : session.phase with
  | releasing => simp [Session.move, phase] at moved
  | ended => simp [Session.move, phase] at moved
  | _ => rfl

theorem move_moved (moved : session.move proxy move = some next) : Moved session next := by
  have before := move_busy moved
  unfold Session.move at moved
  split at moved
  -- handshake
  · split at moved
    · cases moved
      exact .advances before _ rfl
    · split at moved
      · cases moved
        exact .advances before _ rfl
      · cases moved
  -- an attempt, first or second
  · split at moved
    · cases moved
      exact .connects before _ _ (by split <;> rfl)
    · split at moved
      · cases moved
        exact .advances before _ rfl
      · cases moved
        exact .advances before _ rfl
  · cases moved
    exact .advances before _ rfl
  -- the replica of a routed session
  · split at moved
    · cases moved
      exact .advances before _ rfl
    · split at moved
      · cases moved
        exact .advances before _ rfl
      · cases moved
        exact .advances before _ rfl
  · cases moved
    exact .advances before _ rfl
  · split at moved
    · cases moved
      exact .connects before _ _ rfl
    · cases moved
      exact .advances before _ rfl
  -- routing and piping
  · cases moved
    exact .advances before _ rfl
  · cases moved
    exact .drops before _ _ (by split <;> rfl)
  · cases moved
    exact .advances before _ (by split <;> rfl)
  -- the deferred closes
  · split at moved
    · rename_i none
      cases moved
      exact .returns before none
    · rename_i link rest last
      cases moved
      exact .closes before link rest last
  · cases moved

theorem Session.active_of_busy (busy : session.phase.busy = true) : session.active = true := by
  unfold Session.active
  cases phase : session.phase <;> simp_all [Phase.busy]

theorem Session.Orderly.unreleased (orderly : session.Orderly)
    (before : session.phase.busy = true) : session.released = 0 := by
  rw [orderly.once, if_neg]
  intro ended
  rw [ended] at before
  cases before

/-- Sessions that have not returned yet owe nothing but the closes of what they have open. -/
theorem Session.Orderly.of_busy (busy : session.phase.busy = true)
    (covered : ∀ link ∈ session.opened, link ∈ session.deferred)
    (unreleased : session.released = 0) : session.Orderly := by
  refine ⟨covered, ?_, ?_⟩
  · rintro (releasing | ended)
    · rw [releasing] at busy
      cases busy
    · rw [ended] at busy
      cases busy
  · rw [unreleased, if_neg]
    intro ended
    rw [ended] at busy
    cases busy

theorem Moved.conn (moved : Moved session next) : next.conn = session.conn := by
  cases moved <;> rfl

theorem Moved.active (moved : Moved session next) :
    session.active = true ∧ next.active = true := by
  cases moved with
  | advances before phase after =>
    exact ⟨session.active_of_busy before, Session.active_of_busy after⟩
  | connects before link phase after =>
    exact ⟨session.active_of_busy before, Session.active_of_busy after⟩
  | drops before link phase after =>
    exact ⟨session.active_of_busy before, Session.active_of_busy after⟩
  | closes before link rest last =>
    exact ⟨session.active_of_busy before, Session.active_of_busy before⟩
  | returns before none => exact ⟨session.active_of_busy before, rfl⟩

theorem Moved.orderly (moved : Moved session next) (orderly : session.Orderly) :
    next.Orderly := by
  cases moved with
  | advances before phase after =>
    exact .of_busy after orderly.covered (orderly.unreleased before)
  | connects before link phase after =>
    refine .of_busy after ?_ (orderly.unreleased before)
    intro other member
    rcases List.mem_cons.mp member with rfl | older
    · exact List.mem_cons_self
    · exact List.mem_cons_of_mem _ (orderly.covered other older)
  | drops before link phase after =>
    refine .of_busy after ?_ (orderly.unreleased before)
    intro other member
    exact orderly.covered other (List.mem_filter.mp member).1
  | closes before link rest last =>
    refine .of_busy before ?_ (orderly.unreleased before)
    intro other member
    obtain ⟨older, different⟩ := List.mem_filter.mp member
    have deferred := orderly.covered other older
    rw [last] at deferred
    exact (List.mem_cons.mp deferred).resolve_left (by simpa using different)
  | returns before none =>
    exact ⟨orderly.covered, fun _ => none, orderly.unreleased before⟩

theorem Session.Orderly.ends (orderly : session.Orderly) (releasing : session.phase = .releasing) :
    session.giveBack.Orderly := by
  have unreleased : session.released = 0 := by
    rw [orderly.once, releasing]
    rfl
  exact ⟨orderly.covered, fun _ => orderly.returned (.inl releasing), congrArg (· + 1) unreleased⟩

end Moves

def Endpoint.other : Endpoint → Endpoint
  | .master => .replica
  | .replica => .master

namespace Server

variable {server : Server}

/-- The connections that the accept loop of an endpoint does not have at hand. -/
def elsewhere (server : Server) (endpoint : Endpoint) : List Nat :=
  server.sessions.map Session.conn ++ server.turned ++ (server.listener endpoint.other).held

private theorem owners_perm (server : Server) (endpoint : Endpoint) :
    server.owners.Perm ((server.listener endpoint).held ++ server.elsewhere endpoint) := by
  unfold owners elsewhere
  cases endpoint with
  | master => exact List.perm_append_comm_assoc ..
  | replica =>
    rw [← List.append_assoc]
    exact List.perm_append_comm

private theorem listener_set (endpoint : Endpoint) (listener : Listener) :
    (server.set endpoint listener).listener endpoint = listener :=
  Function.update_self ..

private theorem elsewhere_set (endpoint : Endpoint) (listener : Listener) :
    (server.set endpoint listener).elsewhere endpoint = server.elsewhere endpoint := by
  cases endpoint <;> rfl

private theorem running_set (endpoint : Endpoint) (listener : Listener) :
    (server.set endpoint listener).running + (server.listener endpoint).launches =
      server.running + listener.launches := by
  cases endpoint with
  | master =>
    have other : (server.set .master listener).listener .replica = server.listener .replica := rfl
    simp only [running, listener_set, other]
    simp only [set]
    omega
  | replica =>
    have other : (server.set .replica listener).listener .master = server.listener .master := rfl
    simp only [running, listener_set, other]
    simp only [set]
    omega

/-- The invariant of a limited proxy: the slots taken are those of the running sessions,
and every accepted connection is in one place. -/
structure Balanced (capacity : Nat) (server : Server) : Prop where
  limited : ∃ sem, server.sem = some sem ∧ sem.capacity = capacity ∧ sem.taken = server.running
  unique : server.owners.Nodup
  numbered : ∀ conn ∈ server.owners, conn < server.accepted
  orderly : ∀ session ∈ server.sessions, session.Orderly

variable {capacity : Nat} {next : Server}

theorem Balanced.of_perm (balanced : server.Balanced capacity)
    (limited : ∃ sem, next.sem = some sem ∧ sem.capacity = capacity ∧ sem.taken = next.running)
    (owners : next.owners.Perm server.owners) (accepted : next.accepted = server.accepted)
    (orderly : ∀ session ∈ next.sessions, session.Orderly) : next.Balanced capacity := by
  refine ⟨limited, owners.nodup_iff.mpr balanced.unique, ?_, orderly⟩
  intro conn member
  rw [accepted]
  exact balanced.numbered conn (owners.mem_iff.mp member)

/-- An accept loop that moves on with the connection it has, or without one, keeps the
balance unless it lets the connection in or starts its session. -/
theorem Balanced.set (balanced : server.Balanced capacity) {endpoint : Endpoint}
    {listener : Listener} (held : listener.held = (server.listener endpoint).held)
    (launches : listener.launches = (server.listener endpoint).launches) :
    (server.set endpoint listener).Balanced capacity := by
  have same := @running_set server endpoint listener
  obtain ⟨sem, limit, size, taken⟩ := balanced.limited
  refine balanced.of_perm ⟨sem, limit, size, by omega⟩ ?_ rfl balanced.orderly
  refine (owners_perm _ endpoint).trans (.trans ?_ (owners_perm server endpoint).symm)
  rw [listener_set, elsewhere_set, held]

theorem Balanced.accept (balanced : server.Balanced capacity) {endpoint : Endpoint}
    (accepting : server.listener endpoint = .accepting) :
    Balanced capacity { server.set endpoint (.deciding server.accepted) with
      accepted := server.accepted + 1 } := by
  have same := @running_set server endpoint (.deciding server.accepted)
  have before := owners_perm server endpoint
  have after := owners_perm (server.set endpoint (.deciding server.accepted)) endpoint
  rw [accepting] at same before
  rw [listener_set, elsewhere_set] at after
  obtain ⟨sem, limit, size, taken⟩ := balanced.limited
  refine ⟨⟨sem, limit, size, taken.trans same.symm⟩, ?_, ?_, balanced.orderly⟩
  · refine after.nodup_iff.mpr (List.nodup_cons.mpr ⟨?_, before.nodup_iff.mp balanced.unique⟩)
    intro member
    exact Nat.lt_irrefl _ (balanced.numbered _ (before.mem_iff.mpr member))
  · intro conn member
    rcases List.mem_cons.mp (after.mem_iff.mp member) with rfl | older
    · exact Nat.lt_succ_self _
    · exact Nat.lt_succ_of_lt (balanced.numbered conn (before.mem_iff.mpr older))

theorem owners_passed_on {endpoint : Endpoint} {listener : Listener} {conn : Nat}
    (before : server.listener endpoint = listener) (held : listener.held = [conn])
    (after : (next.listener endpoint).held = [])
    (moved : (next.elsewhere endpoint).Perm (conn :: server.elsewhere endpoint)) :
    next.owners.Perm server.owners := by
  refine (owners_perm next endpoint).trans (.trans ?_ (owners_perm server endpoint).symm)
  rw [before, held, after]
  exact moved

private theorem elsewhere_turned (endpoint : Endpoint) (conn : Nat) :
    (elsewhere { server.set endpoint .looping with turned := conn :: server.turned }
      endpoint).Perm (conn :: server.elsewhere endpoint) := by
  rw [← @elsewhere_set server endpoint .looping]
  exact List.perm_middle.append_right _

private theorem elsewhere_started (endpoint : Endpoint) (conn : Nat) (routed : Bool) :
    (elsewhere { server.set endpoint .looping with
      sessions := server.sessions ++ [.start conn routed] } endpoint).Perm
        (conn :: server.elsewhere endpoint) := by
  have conns : (server.sessions ++ [Session.start conn routed]).map Session.conn ++
      server.turned = server.sessions.map Session.conn ++ conn :: server.turned := by
    simp [Session.start]
  rw [← @elsewhere_set server endpoint .looping]
  exact ((List.Perm.of_eq conns).trans List.perm_middle).append_right _

private theorem running_started (endpoint : Endpoint) (conn : Nat) (routed : Bool) :
    running { server.set endpoint .looping with
      sessions := server.sessions ++ [.start conn routed] } =
        (server.set endpoint .looping).running + 1 := by
  have one : [Session.start conn routed].countP Session.active = 1 := rfl
  simp only [running, List.countP_append, one]
  simp only [Server.set]
  omega

theorem Balanced.letIn (balanced : server.Balanced capacity) {endpoint : Endpoint} {conn : Nat}
    (deciding : server.listener endpoint = .deciding conn) :
    (server.letIn endpoint conn).Balanced capacity := by
  obtain ⟨sem, limit, size, taken⟩ := balanced.limited
  have before := owners_perm server endpoint
  rw [deciding] at before
  unfold Server.letIn
  rw [limit]
  dsimp only
  cases acquired : sem.tryAcquire with
  | some left =>
    obtain ⟨kept, more, _⟩ := Semaphore.tryAcquire_some acquired
    have same := @running_set server endpoint (.launching conn)
    rw [deciding] at same
    refine balanced.of_perm ⟨left, rfl, kept.trans size, ?_⟩ ?_ rfl balanced.orderly
    · rw [more, taken]
      exact same.symm
    · refine (owners_perm (server.set endpoint (.launching conn)) endpoint).trans
        (.trans ?_ before.symm)
      rw [listener_set, elsewhere_set]
      rfl
  | none =>
    have same := @running_set server endpoint .looping
    rw [deciding] at same
    refine balanced.of_perm ⟨sem, limit, size, taken.trans same.symm⟩ ?_ rfl balanced.orderly
    exact owners_passed_on deciding rfl (by rw [listener_set]; rfl) (elsewhere_turned endpoint conn)

theorem Balanced.launch (balanced : server.Balanced capacity) {endpoint : Endpoint} {conn : Nat}
    (launching : server.listener endpoint = .launching conn) (routed : Bool) :
    Balanced capacity { server.set endpoint .looping with
      sessions := server.sessions ++ [.start conn routed] } := by
  have same := @running_set server endpoint .looping
  rw [launching] at same
  obtain ⟨sem, limit, size, taken⟩ := balanced.limited
  refine balanced.of_perm ⟨sem, limit, size, ?_⟩ ?_ rfl ?_
  · rw [taken, running_started]
    exact same.symm
  · exact owners_passed_on launching rfl (by rw [listener_set]; rfl)
      (elsewhere_started endpoint conn routed)
  · intro session member
    rcases List.mem_append.mp member with older | started
    · exact balanced.orderly session older
    · rw [List.mem_singleton.mp started]
      exact .of_busy rfl (fun _ => id) rfl

section Sessions

variable {index : Nat} {session : Session}

private theorem conns_set (present : server.sessions[index]? = some session) {changed : Session}
    (same : changed.conn = session.conn) :
    (server.sessions.set index changed).map Session.conn = server.sessions.map Session.conn := by
  obtain ⟨inside, rfl⟩ := List.getElem?_eq_some_iff.mp present
  rw [List.map_set, same]
  have stays := @List.set_getElem_self _ (server.sessions.map Session.conn) index (by simpa)
  rwa [List.getElem_map] at stays

private theorem orderly_set (orderly : ∀ session ∈ server.sessions, session.Orderly)
    {changed : Session}
    (still : changed.Orderly) : ∀ session ∈ server.sessions.set index changed, session.Orderly := by
  intro other member
  rcases List.mem_or_eq_of_mem_set member with older | rfl
  · exact orderly other older
  · exact still

private theorem active_set (present : server.sessions[index]? = some session)
    (running : session.active)
    (changed : Session) :
    (server.sessions.set index changed).countP Session.active + 1 =
      server.sessions.countP Session.active + if changed.active then 1 else 0 := by
  obtain ⟨inside, rfl⟩ := List.getElem?_eq_some_iff.mp present
  have positive : 0 < server.sessions.countP Session.active :=
    List.countP_pos_iff.mpr ⟨_, List.getElem_mem inside, running⟩
  rw [List.countP_set inside, if_pos running]
  omega

theorem Balanced.move (balanced : server.Balanced capacity)
    (present : server.sessions[index]? = some session) {changed : Session}
    (moved : Moved session changed) :
    Balanced capacity { server with sessions := server.sessions.set index changed } := by
  have count := active_set present moved.active.1 changed
  rw [if_pos moved.active.2] at count
  obtain ⟨sem, limit, size, taken⟩ := balanced.limited
  have member := List.mem_of_getElem? present
  refine balanced.of_perm ⟨sem, limit, size, ?_⟩ ?_ rfl
    (orderly_set balanced.orderly (moved.orderly (balanced.orderly session member)))
  · rw [taken]
    simp only [running]
    omega
  · refine List.Perm.of_eq ?_
    simp only [owners, conns_set present moved.conn]

theorem Balanced.release (balanced : server.Balanced capacity)
    (present : server.sessions[index]? = some session) (releasing : session.phase = .releasing)
    (released : server.release index session = some next) : next.Balanced capacity := by
  obtain ⟨sem, limit, size, taken⟩ := balanced.limited
  have active : session.active = true := by
    rw [Session.active, releasing]
    rfl
  have member := List.mem_of_getElem? present
  unfold Server.release at released
  rw [limit] at released
  dsimp only at released
  split at released
  · cases released
  · rename_i left freed
    obtain ⟨kept, fewer⟩ := Semaphore.release_some freed
    cases released
    have count := active_set present active session.giveBack
    have ended : session.giveBack.active = false := rfl
    rw [if_neg (by rw [ended]; decide)] at count
    refine balanced.of_perm ⟨left, rfl, kept.trans size, ?_⟩ ?_ rfl
      (orderly_set balanced.orderly ((balanced.orderly session member).ends releasing))
    · simp only [running] at taken ⊢
      omega
    · refine List.Perm.of_eq ?_
      simp only [owners, @conns_set server index session present session.giveBack rfl]

end Sessions

/-- What a step of the proxy can do. -/
inductive Stepped (server : Server) : Action → Server → Prop where
  | cancels : Stepped server .cancel { server with cancelled := true }
  | turns {action : Action} (endpoint : Endpoint) (listener : Listener)
      (held : listener.held = (server.listener endpoint).held)
      (launches : listener.launches = (server.listener endpoint).launches) :
      Stepped server action (server.set endpoint listener)
  | accepts (endpoint : Endpoint) (accepting : server.listener endpoint = .accepting) :
      Stepped server (.accept endpoint true)
        { server.set endpoint (.deciding server.accepted) with accepted := server.accepted + 1 }
  | decides (endpoint : Endpoint) (conn : Nat)
      (deciding : server.listener endpoint = .deciding conn) :
      Stepped server (.decide endpoint) (server.letIn endpoint conn)
  | launches (endpoint : Endpoint) (conn : Nat)
      (launching : server.listener endpoint = .launching conn) :
      Stepped server (.launch endpoint)
        { server.set endpoint .looping with
          sessions := server.sessions ++ [.start conn (server.proxy.routes endpoint)] }
  | moves (index : Nat) (move : Move) (session changed : Session)
      (present : server.sessions[index]? = some session) (moved : Moved session changed) :
      Stepped server (.move index move)
        { server with sessions := server.sessions.set index changed }
  | releases (index : Nat) (session : Session) (next : Server)
      (present : server.sessions[index]? = some session) (releasing : session.phase = .releasing)
      (released : server.release index session = some next) :
      Stepped server (.release index) next

theorem step_stepped {action : Action} (stepped : server.step action = some next) :
    Stepped server action next := by
  cases action with
  | cancel =>
    cases stepped
    exact .cancels
  | listen endpoint =>
    simp only [Server.step] at stepped
    split at stepped
    · rename_i looping
      cases stepped
      exact .turns _ _ (by rw [looping]; split <;> rfl) (by rw [looping]; split <;> rfl)
    · cases stepped
  | accept endpoint success =>
    simp only [Server.step] at stepped
    split at stepped
    · rename_i accepting
      split at stepped
      · rename_i success
        cases stepped
        rw [success]
        exact .accepts endpoint accepting
      · cases stepped
        exact .turns _ _ (by rw [accepting]; split <;> rfl) (by rw [accepting]; split <;> rfl)
    · cases stepped
  | decide endpoint =>
    simp only [Server.step] at stepped
    split at stepped
    · rename_i conn deciding
      cases stepped
      exact .decides endpoint conn deciding
    · cases stepped
  | launch endpoint =>
    simp only [Server.step] at stepped
    split at stepped
    · rename_i conn launching
      cases stepped
      exact .launches endpoint conn launching
    · cases stepped
  | move index move =>
    simp only [Server.step] at stepped
    split at stepped
    · cases stepped
    · rename_i session present
      split at stepped
      · cases stepped
      · rename_i changed moved
        cases stepped
        exact .moves index move session changed present (move_moved moved)
  | release index =>
    simp only [Server.step] at stepped
    split at stepped
    · cases stepped
    · rename_i session present
      split at stepped
      · rename_i releasing
        exact .releases index session next present releasing stepped
      · cases stepped

theorem Balanced.step (balanced : server.Balanced capacity) {action : Action}
    (stepped : server.step action = some next) : next.Balanced capacity := by
  cases step_stepped stepped with
  | cancels => exact ⟨balanced.limited, balanced.unique, balanced.numbered, balanced.orderly⟩
  | turns endpoint listener held launches => exact balanced.set held launches
  | accepts endpoint accepting => exact balanced.accept accepting
  | decides endpoint conn deciding => exact balanced.letIn deciding
  | launches endpoint conn launching => exact balanced.launch launching _
  | moves index move session changed present moved => exact balanced.move present moved
  | releases index session _ present releasing released =>
    exact balanced.release present releasing released

theorem Balanced.start {proxy : RedisSentinelProxy} {limit : Int}
    (limited : proxy.sem = some limit) : (start proxy).Balanced limit.toNat := by
  have idle : ∀ endpoint, ((Server.start proxy).listener endpoint).held = [] ∧
      ((Server.start proxy).listener endpoint).launches = 0 := by
    intro endpoint
    simp only [Server.start]
    split <;> exact ⟨rfl, rfl⟩
  have owners : (Server.start proxy).owners = [] := by
    simp only [Server.owners, (idle _).1]
    rfl
  refine ⟨⟨.new limit.toNat, by simp [Server.start, limited], rfl, ?_⟩, ?_, ?_, ?_⟩
  · simp only [running, (idle _).2]
    rfl
  · rw [owners]
    exact List.nodup_nil
  · rw [owners]
    intro conn member
    cases member
  · intro session member
    cases member

theorem Balanced.leads (balanced : server.Balanced capacity) (run : server.Leads next) :
    next.Balanced capacity := by
  induction run with
  | refl => exact balanced
  | tail _ stepped ih =>
    obtain ⟨action, stepped⟩ := stepped
    exact ih.step stepped

end Server

end SentinelProxy.Proxy
