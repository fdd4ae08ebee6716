import Mathlib.Logic.Relation
import SentinelProxy.Counting.Semaphore
import SentinelProxy.Proxy.Construct

/-! The proxy at work: two accept loops that share the connection limit, and one session
for every connection they let in. A run interleaves single steps of all of them. -/

namespace SentinelProxy.Proxy

open SentinelProxy.Counting

inductive Endpoint where
  | master
  | replica
  deriving DecidableEq, Repr

/-- The connections of a session: `backend` is the one it is proxied to, `replica` the
second one of a routed session. -/
inductive Link where
  | client
  | backend
  | replica
  deriving DecidableEq, Repr

/-- Where a session is. `attempt` and `replicaAddress` tell whether the addresses have been
refreshed before, `piping` how many of its two pipes are still copying, and `returning` that
its deferred closes are left. -/
inductive Phase where
  | handshake
  | attempt (refreshed : Bool)
  | refreshing
  | replicaAddress (refreshed : Bool)
  | replicaRefreshing
  | replicaDial
  | routing
  | piping (left : Nat)
  | returning
  | releasing
  | ended
  deriving DecidableEq, Repr

/-- A session: its client connection by number, the stack of its deferred closes, the
connections it has open, and how often it has given its slot back. -/
structure Session where
  conn : Nat
  routed : Bool
  phase : Phase
  deferred : List Link
  opened : List Link
  released : Nat
  deriving DecidableEq, Repr

/-- A step of a session, with what its peers answer. -/
inductive Move where
  | handshake (success : Bool)
  | attempt (connected : Bool)
  | refresh
  | replicaAddress (known : Bool)
  | replicaRefresh
  | replicaDial (connected : Bool)
  | finish
  | pin (forwarded : Bool)
  | pipeDone
  | close
  deriving DecidableEq, Repr

namespace Session

def start (conn : Nat) (routed : Bool) : Session where
  conn
  routed
  phase := .handshake
  deferred := [.client]
  opened := [.client]
  released := 0

/-- A dialled connection is closed when the session returns. -/
def connect (session : Session) (link : Link) : Session :=
  { session with opened := link :: session.opened, deferred := link :: session.deferred }

def disconnect (session : Session) (link : Link) : Session :=
  { session with opened := session.opened.filter (· ≠ link) }

def giveBack (session : Session) : Session :=
  { session with phase := .ended, released := session.released + 1 }

/-- The steps of `proxy` and `routedProxy` up to their return. A backend that cannot be
picked is a failed attempt like one that cannot be dialled. -/
def move (proxy : RedisSentinelProxy) (session : Session) (move : Move) : Option Session :=
  match session.phase, move with
  | .handshake, .handshake success =>
    if success then some { session with phase := .attempt false }
    -- only a TLS listener has a handshake that can fail
    else if proxy.tlsConf.isSome then some { session with phase := .returning }
    else none
  | .attempt refreshed, .attempt connected =>
    if connected then
      some { session.connect .backend with
        phase := if session.routed then .replicaAddress false else .piping 2 }
    else if refreshed || !proxy.refresher then some { session with phase := .returning }
    else some { session with phase := .refreshing }
  | .refreshing, .refresh => some { session with phase := .attempt true }
  | .replicaAddress refreshed, .replicaAddress known =>
    if known then some { session with phase := .replicaDial }
    else if refreshed || !proxy.refresher then some { session with phase := .routing }
    else some { session with phase := .replicaRefreshing }
  | .replicaRefreshing, .replicaRefresh => some { session with phase := .replicaAddress true }
  | .replicaDial, .replicaDial connected =>
    if connected then some { session.connect .replica with phase := .routing }
    else some { session with phase := .routing }
  | .routing, .finish => some { session with phase := .returning }
  | .routing, .pin forwarded =>
    some { session.disconnect .replica with
      phase := if forwarded then .piping 2 else .returning }
  | .piping left, .pipeDone =>
    some { session with phase := if left ≤ 1 then .returning else .piping (left - 1) }
  | .returning, .close =>
    match session.deferred with
    | [] => some { session with phase := .releasing }
    | link :: rest => some { session.disconnect link with deferred := rest }
  | _, _ => none

end Session

/-- Where an accept loop is: at its head, waiting for a connection, about to take a slot
for one, or about to start the session that has it. -/
inductive Listener where
  | looping
  | accepting
  | deciding (conn : Nat)
  | launching (conn : Nat)
  | stopped
  deriving DecidableEq, Repr

/-- The running proxy. Connections are numbered as they are accepted; `turned` are those
that were turned away. -/
structure Server where
  proxy : RedisSentinelProxy
  sem : Option Semaphore
  cancelled : Bool
  listener : Endpoint → Listener
  accepted : Nat
  sessions : List Session
  turned : List Nat

inductive Action where
  | cancel
  | listen (endpoint : Endpoint)
  | accept (endpoint : Endpoint) (success : Bool)
  | decide (endpoint : Endpoint)
  | launch (endpoint : Endpoint)
  | move (index : Nat) (move : Move)
  | release (index : Nat)
  deriving DecidableEq, Repr

/-- Router mode is for the master endpoint. -/
def RedisSentinelProxy.routes (proxy : RedisSentinelProxy) : Endpoint → Bool
  | .master => proxy.router
  | .replica => false

def RedisSentinelProxy.serves (proxy : RedisSentinelProxy) : Endpoint → Bool
  | .master => proxy.localAddr.isSome
  | .replica => proxy.replicaAddr.isSome

namespace Server

def start (proxy : RedisSentinelProxy) : Server where
  proxy
  sem := proxy.sem.map fun capacity => .new capacity.toNat
  cancelled := false
  listener endpoint := if proxy.serves endpoint then .looping else .stopped
  accepted := 0
  sessions := []
  turned := []

def set (server : Server) (endpoint : Endpoint) (listener : Listener) : Server :=
  { server with listener := Function.update server.listener endpoint listener }

/-- The select of the accept loop: a slot, or the connection is closed. -/
def letIn (server : Server) (endpoint : Endpoint) (conn : Nat) : Server :=
  match server.sem with
  | none => server.set endpoint (.launching conn)
  | some sem =>
    match sem.tryAcquire with
    | some sem => { server.set endpoint (.launching conn) with sem := some sem }
    | none => { server.set endpoint .looping with turned := conn :: server.turned }

def release (server : Server) (index : Nat) (session : Session) : Option Server :=
  match server.sem with
  | none =>
    some { server with sessions := server.sessions.set index { session with phase := .ended } }
  | some sem =>
    match sem.release with
    | none => none
    | some sem =>
      some { server with
        sem := some sem
        sessions := server.sessions.set index session.giveBack }

def step (server : Server) : Action → Option Server
  | .cancel => some { server with cancelled := true }
  | .listen endpoint =>
    match server.listener endpoint with
    | .looping => some (server.set endpoint (if server.cancelled then .stopped else .accepting))
    | _ => none
  | .accept endpoint success =>
    match server.listener endpoint with
    | .accepting =>
      if success then
        some { server.set endpoint (.deciding server.accepted) with
          accepted := server.accepted + 1 }
      else some (server.set endpoint (if server.cancelled then .stopped else .looping))
    | _ => none
  | .decide endpoint =>
    match server.listener endpoint with
    | .deciding conn => some (server.letIn endpoint conn)
    | _ => none
  | .launch endpoint =>
    match server.listener endpoint with
    | .launching conn =>
      some { server.set endpoint .looping with
        sessions := server.sessions ++ [.start conn (server.proxy.routes endpoint)] }
    | _ => none
  | .move index move =>
    match server.sessions[index]? with
    | none => none
    | some session =>
      match session.move server.proxy move with
      | none => none
      | some next => some { server with sessions := server.sessions.set index next }
  | .release index =>
    match server.sessions[index]? with
    | none => none
    | some session => if session.phase = .releasing then server.release index session else none

def steps (server : Server) : List Action → Option Server
  | [] => some server
  | action :: actions =>
    match server.step action with
    | none => none
    | some next => next.steps actions

def Leads : Server → Server → Prop :=
  Relation.ReflTransGen fun server next => ∃ action, server.step action = some next

theorem Leads.steps {server last : Server} {actions : List Action}
    (run : server.steps actions = some last) : server.Leads last := by
  induction actions generalizing server with
  | nil =>
    cases run
    exact .refl
  | cons action actions ih =>
    unfold Server.steps at run
    split at run
    · cases run
    · rename_i next moved
      exact .head ⟨action, moved⟩ (ih run)

end Server

end SentinelProxy.Proxy
