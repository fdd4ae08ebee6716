import SentinelProxy.Proxy.Cap

/-! What the proxy costs the servers behind it: how many connections to them a session has
open in each of its phases, and all sessions together. -/

namespace SentinelProxy.Proxy

open SentinelProxy.Net

/-- A routed session, from its first backend up to its pin. -/
def Phase.routes : Phase → Bool
  | .replicaAddress _ | .replicaRefreshing | .replicaDial | .routing => true
  | _ => false

/-- The connections that may be open, the latest one first. -/
def Phase.allowed (routed : Bool) : Phase → List Link
  | .handshake | .attempt _ | .refreshing => [.client]
  | .replicaAddress _ | .replicaRefreshing | .replicaDial | .piping _ => [.backend, .client]
  | .routing => [.replica, .backend, .client]
  | .returning => if routed then [.replica, .backend, .client] else [.backend, .client]
  | .releasing | .ended => []

/-- The connections to servers that a session has open. -/
def Session.backends (session : Session) : Nat := session.opened.countP (· ≠ .client)

def Server.backends (server : Server) : Nat := (server.sessions.map Session.backends).sum

/-- A session that routes was asked to, and has open what its phase allows. -/
structure Session.Frugal (session : Session) : Prop where
  routed : session.phase.routes = true → session.routed = true
  opened : session.opened.Sublist (session.phase.allowed session.routed)

section Sessions

variable {proxy : RedisSentinelProxy} {session next : Session} {step : Move}

theorem Session.start_frugal (conn : Nat) (routed : Bool) : (Session.start conn routed).Frugal where
  routed := by simp [Session.start, Phase.routes]
  opened := .refl _

/-- Everything a session may have open, it may still have open when it returns. -/
theorem Session.Frugal.returning (frugal : session.Frugal) (busy : session.phase.busy = true) :
    Session.Frugal { session with phase := .returning } where
  routed := by simp [Phase.routes]
  opened := by
    refine frugal.opened.trans ?_
    have asked := frugal.routed
    dsimp only
    cases phase : session.phase <;> cases routed : session.routed <;>
      simp_all [Phase.allowed, Phase.busy, Phase.routes]

theorem Session.Frugal.move (frugal : session.Frugal) (orderly : session.Orderly)
    (moved : session.move proxy step = some next) : next.Frugal := by
  have busy := move_busy moved
  have opened := frugal.opened
  have asked := frugal.routed
  unfold Session.move at moved
  split at moved <;> try rw [‹session.phase = _›] at opened asked
  · split at moved
    · cases moved
      exact ⟨by simp [Phase.routes], opened⟩
    · split at moved
      · cases moved
        exact frugal.returning busy
      · cases moved
  · split at moved
    · cases moved
      have more : (Link.backend :: session.opened).Sublist [.backend, .client] := opened.cons_cons _
      cases routed : session.routed with
      | false => exact ⟨by simp [Phase.routes], more⟩
      | true => exact ⟨fun _ => routed, more⟩
    · split at moved
      · cases moved
        exact frugal.returning busy
      · cases moved
        exact ⟨by simp [Phase.routes], opened⟩
  · cases moved
    exact ⟨by simp [Phase.routes], opened⟩
  · split at moved
    · cases moved
      exact ⟨fun _ => asked rfl, opened⟩
    · split at moved
      · cases moved
        exact ⟨fun _ => asked rfl, opened.cons _⟩
      · cases moved
        exact ⟨fun _ => asked rfl, opened⟩
  · cases moved
    exact ⟨fun _ => asked rfl, opened⟩
  · split at moved
    · cases moved
      exact ⟨fun _ => asked rfl, opened.cons_cons _⟩
    · cases moved
      exact ⟨fun _ => asked rfl, opened.cons _⟩
  · cases moved
    exact frugal.returning busy
  -- a pin closes the connection to the replica
  · cases moved
    have fewer : (session.disconnect .replica).opened.Sublist [.backend, .client] :=
      List.Sublist.filter _ opened
    split
    · exact ⟨by simp [Phase.routes], fewer⟩
    · refine ⟨by simp [Phase.routes], fewer.trans ?_⟩
      simp [Phase.allowed, Session.disconnect, asked rfl]
  · cases moved
    split
    · exact frugal.returning busy
    · exact ⟨by simp [Phase.routes], opened⟩
  -- once nothing is deferred nothing is open
  · split at moved
    · rename_i none
      cases moved
      have nothing : session.opened = [] := by
        refine List.eq_nil_iff_forall_not_mem.mpr fun link member => ?_
        have deferred := orderly.covered link member
        rw [none] at deferred
        cases deferred
      exact ⟨by simp [Phase.routes], by simp [nothing, Phase.allowed]⟩
    · cases moved
      exact ⟨frugal.routed, List.filter_sublist.trans frugal.opened⟩
  · cases moved

theorem Phase.allowed_le {phase : Phase} {routed : Bool}
    (asked : phase.routes = true → routed = true) :
    (phase.allowed routed).countP (· ≠ .client) ≤
      if phase ≠ .ended then (if routed then 2 else 1) else 0 := by
  revert asked
  cases phase <;> cases routed <;> simp [Phase.allowed, Phase.routes]

theorem Session.Frugal.backends_allowed (frugal : session.Frugal) :
    session.backends ≤ (session.phase.allowed session.routed).countP (· ≠ .client) :=
  frugal.opened.countP_le

theorem Session.Frugal.backends_le (frugal : session.Frugal) :
    session.backends ≤ if session.active then (if session.routed then 2 else 1) else 0 := by
  simpa [Session.active] using frugal.backends_allowed.trans (Phase.allowed_le frugal.routed)

end Sessions

namespace Server

variable {proxy : RedisSentinelProxy} {server next : Server} {capacity : Nat}

/-- The sessions of one proxy, each with what its phase allows. -/
structure Footed (proxy : RedisSentinelProxy) (server : Server) : Prop where
  served : server.proxy = proxy
  frugal : ∀ session ∈ server.sessions, session.Frugal
  routed : ∀ session ∈ server.sessions, session.routed = true → proxy.router = true

theorem Footed.same (footed : server.Footed proxy) (one : next.proxy = server.proxy)
    (two : next.sessions = server.sessions) : next.Footed proxy :=
  ⟨one.trans footed.served, two ▸ footed.frugal, two ▸ footed.routed⟩

/-- One session is replaced by itself at a later time. -/
theorem Footed.replaced (footed : server.Footed proxy) {index : Nat} {session changed : Session}
    (present : server.sessions[index]? = some session) (frugal : changed.Frugal)
    (kept : changed.routed = session.routed) (one : next.proxy = server.proxy)
    (two : next.sessions = server.sessions.set index changed) : next.Footed proxy := by
  refine ⟨one.trans footed.served, ?_, ?_⟩
  · intro other member
    rw [two] at member
    rcases List.mem_or_eq_of_mem_set member with before | rfl
    · exact footed.frugal other before
    · exact frugal
  · intro other member
    rw [two] at member
    rcases List.mem_or_eq_of_mem_set member with before | rfl
    · exact footed.routed other before
    · rw [kept]
      exact footed.routed session (List.mem_of_getElem? present)

private theorem move_routed {session changed : Session} {step : Move}
    (moved : session.move proxy step = some changed) : changed.routed = session.routed := by
  cases move_moved moved <;> rfl

theorem Footed.step (footed : server.Footed proxy) (balanced : server.Balanced capacity)
    {action : Action} (stepped : server.step action = some next) : next.Footed proxy := by
  cases step_stepped stepped with
  | cancels => exact footed.same rfl rfl
  | turns endpoint listener => exact footed.same rfl rfl
  | accepts endpoint accepting => exact footed.same rfl rfl
  | decides endpoint conn deciding =>
    unfold Server.letIn
    split
    · exact footed.same rfl rfl
    · split <;> exact footed.same rfl rfl
  | launches endpoint conn launching =>
    refine ⟨footed.served, ?_, ?_⟩
    · intro session member
      rcases List.mem_append.mp member with before | new
      · exact footed.frugal session before
      · rw [List.mem_singleton.mp new]
        exact Session.start_frugal _ _
    · intro session member
      rcases List.mem_append.mp member with before | new
      · exact footed.routed session before
      · rw [List.mem_singleton.mp new, footed.served]
        cases endpoint with
        | master => exact id
        | replica =>
          intro never
          cases never
  | moves index move session changed present moved =>
    simp only [Server.step, present] at stepped
    split at stepped
    · cases stepped
    · rename_i after advanced
      have orderly := balanced.orderly session (List.mem_of_getElem? present)
      have frugal := footed.frugal session (List.mem_of_getElem? present)
      have same := congrArg Server.sessions (Option.some.inj stepped)
      exact footed.replaced present (frugal.move orderly advanced) (move_routed advanced) rfl
        same.symm
  | releases index session _ present releasing released =>
    have opened := (footed.frugal session (List.mem_of_getElem? present)).opened
    rw [releasing] at opened
    unfold Server.release at released
    split at released
    · cases released
      have ended : Session.Frugal { session with phase := .ended } :=
        ⟨by simp [Phase.routes], opened⟩
      exact footed.replaced present ended rfl rfl rfl
    · split at released
      · cases released
      · cases released
        have ended : session.giveBack.Frugal := ⟨by simp [Session.giveBack, Phase.routes], opened⟩
        exact footed.replaced present ended rfl rfl rfl

theorem Footed.leads (balanced : server.Balanced capacity) (footed : server.Footed proxy)
    (run : server.Leads next) : next.Footed proxy := by
  induction run with
  | refl => exact footed
  | tail earlier stepped ih =>
    obtain ⟨action, stepped⟩ := stepped
    exact ih.step (balanced.leads earlier) stepped

private theorem sum_le_mul_countP {α : Type} {cost : α → Nat} {counts : α → Bool} {width : Nat}
    {items : List α} (each : ∀ item ∈ items, cost item ≤ if counts item then width else 0) :
    (items.map cost).sum ≤ width * items.countP counts := by
  induction items with
  | nil => simp
  | cons item items ih =>
    have first := each item List.mem_cons_self
    have rest := ih fun other member => each other (List.mem_cons_of_mem _ member)
    rw [List.map_cons, List.sum_cons, List.countP_cons]
    split at first
    · rename_i counted
      rw [if_pos counted, Nat.mul_succ]
      omega
    · rename_i ignored
      rw [if_neg ignored, Nat.add_zero]
      omega

theorem Footed.backends_le (footed : server.Footed proxy) :
    server.backends ≤ (if proxy.router then 2 else 1) * server.running := by
  have each : ∀ session ∈ server.sessions,
      session.backends ≤ if session.active then (if proxy.router then 2 else 1) else 0 := by
    intro session member
    have most := (footed.frugal session member).backends_le
    have asked := footed.routed session member
    cases routed : session.routed with
    | true => simpa [routed, asked routed] using most
    | false =>
      rw [routed] at most
      refine most.trans ?_
      cases session.active <;> cases proxy.router <;> simp
  refine (sum_le_mul_countP each).trans (Nat.mul_le_mul_left _ ?_)
  rw [running, Nat.add_assoc]
  exact Nat.le_add_right _ _

end Server

section Limit

variable {lookups : Lookups} {abilities : Abilities} {config : Config}
  {proxy : RedisSentinelProxy}

/-- A connection limit also bounds the connections to the servers, by the limit itself and in
router mode by twice the limit. No session has one open before its client's handshake is over
or after the session has ended. -/
theorem backends_bounded {limit : Int} {server : Server}
    (built : newRedisSentinelProxy lookups abilities config = .ok proxy)
    (limited : config.maxConnections = some limit) (positive : 0 < limit)
    (run : (Server.start proxy).Leads server) :
    server.backends ≤ (if proxy.router then 2 else 1) * limit.toNat ∧
      ∀ session ∈ server.sessions, session.phase = .handshake ∨ session.phase = .ended →
        session.backends = 0 := by
  have start := Server.Balanced.start (newRedisSentinelProxy_sem built limited positive)
  have initial : (Server.start proxy).Footed proxy :=
    ⟨rfl, fun _ member => absurd member List.not_mem_nil,
      fun _ member => absurd member List.not_mem_nil⟩
  have footed := initial.leads start run
  obtain ⟨running, fits⟩ := (start.leads run).occupied
  refine ⟨footed.backends_le.trans (Nat.mul_le_mul_left _ (running ▸ fits)), ?_⟩
  intro session member phase
  have most := (footed.frugal session member).backends_allowed
  rcases phase with handshake | ended
  · rw [handshake] at most
    exact Nat.le_zero.mp most
  · rw [ended] at most
    exact Nat.le_zero.mp most

/-- A client of the single-connection proxy that is being served. -/
def firstComer : List Action :=
  [.listen .master, .accept .master true, .decide .master, .launch .master,
    .move 0 (.handshake true), .move 0 (.attempt true)]

theorem backends_bounded_firstComer : ∃ proxy server,
    newRedisSentinelProxy .silent redisMasterResolver singleConnection = .ok proxy ∧
      (Server.start proxy).steps firstComer = some server ∧ server.backends = 1 ∧
      server.backends ≤ (if proxy.router then 2 else 1) * 1 := by
  refine ⟨_, _, rfl, rfl, rfl, ?_⟩
  exact (@backends_bounded .silent redisMasterResolver singleConnection _ 1 _ rfl rfl (by decide)
    (@Server.Leads.steps _ _ firstComer rfl)).1

end Limit

end SentinelProxy.Proxy
