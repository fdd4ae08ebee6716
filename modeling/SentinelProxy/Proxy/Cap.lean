import SentinelProxy.Proxy.Balance

/-! The connection limit over whole runs: the slots taken are the sessions running, a slot
is given back once by the session that has it, and nobody else gets one. -/

namespace SentinelProxy.Proxy

open SentinelProxy.Counting SentinelProxy.Net

namespace Server

variable {server next : Server} {capacity : Nat}

/-- The connection limit in one state of the proxy. -/
structure Capped (limit : Nat) (server : Server) : Prop where
  slots : server.running = server.occupied ∧ server.occupied ≤ limit
  decided : ∀ endpoint conn, server.listener endpoint = .deciding conn →
    ∃ next, server.step (.decide endpoint) = some next ∧
      (next.turned = conn :: server.turned ↔ server.running = limit) ∧
      next.occupied = server.occupied + (if server.running = limit then 0 else 1) ∧
      next.sessions = server.sessions
  -- in no state has it a session, which is what takes a slot and dials
  refused : ∀ conn ∈ server.turned, (∀ session ∈ server.sessions, session.conn ≠ conn) ∧
    ∀ endpoint, conn ∉ (server.listener endpoint).held
  single : (server.sessions.map Session.conn).Nodup
  once : ∀ session ∈ server.sessions, session.released = if session.phase = .ended then 1 else 0
  given : ∀ action next, server.step action = some next → next.occupied < server.occupied →
    ∃ index session, action = .release index ∧ server.sessions[index]? = some session ∧
      session.phase = .releasing ∧ session.opened = [] ∧
      next.sessions = server.sessions.set index session.giveBack ∧
      next.occupied + 1 = server.occupied
  unblocked : ∀ index session, server.sessions[index]? = some session →
    session.phase = .releasing → ∃ next, server.step (.release index) = some next
  ends : ∀ index session, server.sessions[index]? = some session → session.phase = .returning →
    ∃ actions next, (∀ action ∈ actions, action = .move index .close ∨ action = .release index) ∧
      server.steps actions = some next ∧ (next.sessions[index]?.map Session.phase) = some .ended
  freed : (∀ session ∈ server.sessions, session.phase = .ended) →
    (∀ endpoint conn, server.listener endpoint ≠ .launching conn) → server.occupied = 0

theorem Balanced.occupied (balanced : server.Balanced capacity) :
    server.running = server.occupied ∧ server.occupied ≤ capacity := by
  obtain ⟨sem, limit, size, taken⟩ := balanced.limited
  have taken? : server.occupied = sem.taken := by simp [Server.occupied, limit]
  exact ⟨by rw [taken?, taken], by rw [taken?, ← size]; exact sem.fits⟩

theorem Balanced.decided (balanced : server.Balanced capacity) {endpoint : Endpoint} {conn : Nat}
    (deciding : server.listener endpoint = .deciding conn) :
    ∃ next, server.step (.decide endpoint) = some next ∧
      (next.turned = conn :: server.turned ↔ server.running = capacity) ∧
      next.occupied = server.occupied + (if server.running = capacity then 0 else 1) ∧
      next.sessions = server.sessions := by
  obtain ⟨sem, limit, size, taken⟩ := balanced.limited
  refine ⟨server.letIn endpoint conn, by simp only [Server.step, deciding], ?_⟩
  unfold Server.letIn
  rw [limit, ← taken, ← size]
  dsimp only
  cases acquired : sem.tryAcquire with
  | none =>
    have full := Semaphore.tryAcquire_none.mp acquired
    refine ⟨iff_of_true rfl full, ?_, rfl⟩
    rw [if_pos full]
    rfl
  | some left =>
    obtain ⟨_, more, free⟩ := Semaphore.tryAcquire_some acquired
    have room : sem.taken ≠ sem.capacity := Nat.ne_of_lt free
    refine ⟨iff_of_false ?_ room, ?_, rfl⟩
    · intro same
      have longer := congrArg List.length same
      simp [Server.set] at longer
    · rw [if_neg room]
      simp [Server.occupied, limit, more]

theorem Balanced.refused (balanced : server.Balanced capacity) {conn : Nat}
    (turned : conn ∈ server.turned) :
    (∀ session ∈ server.sessions, session.conn ≠ conn) ∧
      ∀ endpoint, conn ∉ (server.listener endpoint).held := by
  have unique := balanced.unique
  unfold owners at unique
  obtain ⟨served, _, apart⟩ := List.nodup_append.mp unique
  refine ⟨?_, ?_⟩
  · rintro session member rfl
    exact (List.nodup_append.mp served).2.2 _ (List.mem_map_of_mem member) _ turned rfl
  · intro endpoint held
    refine apart conn (List.mem_append_right _ turned) conn ?_ rfl
    cases endpoint with
    | master => exact List.mem_append_left _ held
    | replica => exact List.mem_append_right _ held

/-- A slot is given back by a session that has returned and closed its connections. -/
theorem Balanced.given (balanced : server.Balanced capacity) {action : Action}
    (stepped : server.step action = some next) (fewer : next.occupied < server.occupied) :
    ∃ index session, action = .release index ∧ server.sessions[index]? = some session ∧
      session.phase = .releasing ∧ session.opened = [] ∧
      next.sessions = server.sessions.set index session.giveBack ∧
      next.occupied + 1 = server.occupied := by
  cases step_stepped stepped with
  | decides endpoint conn deciding =>
    obtain ⟨other, again, _, more, _⟩ := balanced.decided deciding
    cases stepped.symm.trans again
    omega
  | releases index session _ present releasing released =>
    have orderly := balanced.orderly session (List.mem_of_getElem? present)
    have closed : session.opened = [] := by
      refine List.eq_nil_iff_forall_not_mem.mpr fun link member => ?_
      have deferred := orderly.covered link member
      rw [orderly.returned (.inl releasing)] at deferred
      cases deferred
    obtain ⟨sem, limit, _, _⟩ := balanced.limited
    simp only [Server.release, limit] at released
    split at released
    · cases released
    · rename_i left freed
      cases released
      refine ⟨index, session, rfl, present, releasing, closed, rfl, ?_⟩
      simpa [Server.occupied, limit] using (Semaphore.release_some freed).2
  | _ => exact absurd fewer (Nat.lt_irrefl _)

theorem Balanced.unblocked (balanced : server.Balanced capacity) {index : Nat} {session : Session}
    (present : server.sessions[index]? = some session) (releasing : session.phase = .releasing) :
    ∃ next, server.step (.release index) = some next ∧
      next.sessions = server.sessions.set index session.giveBack := by
  obtain ⟨sem, limit, _, taken⟩ := balanced.limited
  have active : session.active = true := by
    rw [Session.active, releasing]
    rfl
  have running : 0 < server.sessions.countP Session.active :=
    List.countP_pos_iff.mpr ⟨session, List.mem_of_getElem? present, active⟩
  obtain ⟨left, freed⟩ := @Semaphore.release_ready sem (by
    rw [taken, Server.running]
    omega)
  refine ⟨{ server with sem := some left, sessions := server.sessions.set index session.giveBack },
    ?_, rfl⟩
  simp only [Server.step, present, releasing, if_true, Server.release, limit, freed]

section Returning

variable {index : Nat} {session changed : Session} {proxy : RedisSentinelProxy}

private theorem close_last (returning : session.phase = .returning) (none : session.deferred = []) :
    session.move proxy .close = some { session with phase := .releasing } := by
  simp [Session.move, returning, none]

private theorem close_next {link : Link} {rest : List Link} (returning : session.phase = .returning)
    (last : session.deferred = link :: rest) :
    session.move proxy .close = some { session.disconnect link with deferred := rest } := by
  simp [Session.move, returning, last]

private theorem step_close (present : server.sessions[index]? = some session)
    (moved : session.move server.proxy .close = some changed) :
    server.step (.move index .close) =
      some { server with sessions := server.sessions.set index changed } := by
  simp only [Server.step, present, moved]

end Returning

/-- Once a session has returned, its own steps end it. -/
theorem Balanced.ends (balanced : server.Balanced capacity) {index : Nat} {session : Session}
    (present : server.sessions[index]? = some session) (returning : session.phase = .returning) :
    ∃ actions next, (∀ action ∈ actions, action = .move index .close ∨ action = .release index) ∧
      server.steps actions = some next ∧
      (next.sessions[index]?.map Session.phase) = some .ended := by
  induction closes : session.deferred generalizing server session with
  | nil =>
    obtain ⟨inside, _⟩ := List.getElem?_eq_some_iff.mp present
    have returned := step_close present (close_last returning closes)
    have there := @List.getElem?_set_self _ _ _ { session with phase := .releasing } inside
    obtain ⟨next, released, changed⟩ := (balanced.step returned).unblocked there rfl
    refine ⟨[.move index .close, .release index], next, by simp, ?_, ?_⟩
    · simp only [Server.steps, returned, released]
    · rw [changed]
      simp [inside, Session.giveBack]
  | cons link rest ih =>
    obtain ⟨inside, _⟩ := List.getElem?_eq_some_iff.mp present
    have closed := step_close present (close_next returning closes)
    have there := @List.getElem?_set_self _ _ _
      { session.disconnect link with deferred := rest } inside
    obtain ⟨actions, next, own, run, ended⟩ :=
      ih (balanced.step closed) there returning rfl
    refine ⟨.move index .close :: actions, next, ?_, ?_, ended⟩
    · intro action member
      rcases List.mem_cons.mp member with rfl | later
      · exact .inl rfl
      · exact own action later
    · simp only [Server.steps, closed, run]

theorem Balanced.freed (balanced : server.Balanced capacity)
    (finished : ∀ session ∈ server.sessions, session.phase = .ended)
    (idle : ∀ endpoint conn, server.listener endpoint ≠ .launching conn) : server.occupied = 0 := by
  have none : ∀ endpoint, (server.listener endpoint).launches = 0 := by
    intro endpoint
    cases state : server.listener endpoint with
    | launching conn => exact absurd state (idle endpoint conn)
    | _ => rfl
  have ended : server.sessions.countP Session.active = 0 := by
    refine List.countP_eq_zero.mpr fun session member => ?_
    simp [Session.active, finished session member]
  rw [← balanced.occupied.1, running, ended, none, none]

theorem Balanced.capped (balanced : server.Balanced capacity) : server.Capped capacity := by
  have unique := balanced.unique
  unfold owners at unique
  obtain ⟨served, _⟩ := List.nodup_append.mp unique
  exact {
    slots := balanced.occupied
    decided := fun _ _ => balanced.decided
    refused := fun _ => balanced.refused
    single := (List.nodup_append.mp served).1
    once := fun session member => (balanced.orderly session member).once
    given := fun _ _ => balanced.given
    unblocked := fun _ _ present releasing => (balanced.unblocked present releasing).imp
      fun _ => And.left
    ends := fun _ _ => balanced.ends
    freed := balanced.freed }

end Server

section Limit

variable {lookups : Lookups} {abilities : Abilities} {config : Config}
  {proxy : RedisSentinelProxy}

/-- The limit of a built proxy is the configured one. -/
theorem newRedisSentinelProxy_sem {limit : Int}
    (built : newRedisSentinelProxy lookups abilities config = .ok proxy)
    (limited : config.maxConnections = some limit) (positive : 0 < limit) :
    proxy.sem = some limit := by
  obtain ⟨configured, dereferenced, built⟩ := Config.bind_eq_ok.mp built
  obtain ⟨_, _, built⟩ := Config.bind_eq_ok.mp built
  obtain ⟨_, _, built⟩ := Config.bind_eq_ok.mp built
  obtain ⟨_, _, built⟩ := Config.bind_eq_ok.mp built
  obtain ⟨_, _, built⟩ := Config.bind_eq_ok.mp built
  rw [limited] at dereferenced
  cases dereferenced
  dsimp only at built
  split at built
  · cases built
  · obtain ⟨_, _, built⟩ := Config.bind_eq_ok.mp built
    cases built
    rfl

/-- With a connection limit, in every state that any interleaving of the two accept loops
and the sessions can reach, the sessions running take one slot each and no more than the
limit; a connection is turned away exactly when the limit is reached, and never has a
session; a session gives its slot back once, without waiting and after all its connections
are closed. -/
theorem connection_cap {limit : Int} {server : Server}
    (built : newRedisSentinelProxy lookups abilities config = .ok proxy)
    (limited : config.maxConnections = some limit) (positive : 0 < limit)
    (run : (Server.start proxy).Leads server) : server.Capped limit.toNat :=
  ((Server.Balanced.start (newRedisSentinelProxy_sem built limited positive)).leads run).capped

end Limit

/-- A proxy for one connection at a time, with both endpoints. -/
def singleConnection : Config :=
  { Config.default with
    listen := some ":10000", replicaListen := some ":10001", maxConnections := some 1 }

/-- The master endpoint lets a connection in, and the replica endpoint turns one away. -/
def secondComer : List Action :=
  [.listen .master, .accept .master true, .decide .master, .launch .master, .listen .replica,
    .accept .replica true, .decide .replica]

theorem connection_cap_secondComer : ∃ proxy server,
    newRedisSentinelProxy .silent redisMasterResolver singleConnection = .ok proxy ∧
      (Server.start proxy).steps secondComer = some server ∧ server.turned = [1] ∧
      server.running = 1 ∧ server.Capped 1 := by
  refine ⟨_, _, rfl, rfl, rfl, rfl, ?_⟩
  exact @connection_cap .silent redisMasterResolver singleConnection _ 1 _ rfl rfl (by decide)
    (@Server.Leads.steps _ _ secondComer rfl)

end SentinelProxy.Proxy
