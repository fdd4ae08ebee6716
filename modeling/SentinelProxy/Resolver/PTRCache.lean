import SentinelProxy.Counting.Expiring
import SentinelProxy.Transition.Machine

/-! The cache of reverse lookups, shared by the update loop and the callers that refresh: one
lock, held through a query, and answers that are kept for a minute. -/

namespace SentinelProxy.Resolver

open SentinelProxy.Counting SentinelProxy.Transition

/-- A minute in nanoseconds. -/
def ptrCacheTTL : Int := 60000000000

section Names

/-- The text that starts the name of an address that is only re-encoded. -/
def dashed (ip : String) : String :=
  String.ofList (ip.toList.map fun char => if char = '.' ∨ char = ':' then '-' else char) ++ "."

def trimDot (name : String) : String :=
  if name.toList.getLast? = some '.' then String.ofList name.toList.dropLast else name

def startsWith (name start : String) : Bool := start.toList.isPrefixOf name.toList

/-- The loop over the names, with the best one so far. -/
def pickFrom (start : String) (best : String) : List String → String
  | [] => best
  | name :: names =>
    let name := trimDot name
    let best := if best = "" then name else best
    if !startsWith name start then name else pickFrom start best names

def pickPTRName (ip : String) (names : List String) : String := pickFrom (dashed ip) "" names

variable {start best : String} {names : List String}

private theorem startsWith_ne_empty {name : String} (start : String)
    (starts : startsWith name (start ++ ".") = true) : name ≠ "" := by
  rintro rfl
  simp [startsWith] at starts

private theorem pickFrom_eq (best : String) (chosen : best ≠ "") (names : List String) :
    pickFrom start best names =
      ((names.map trimDot).find? fun name => !startsWith name start).getD best := by
  induction names with
  | nil => rfl
  | cons name names ih =>
    rw [pickFrom, List.map_cons, List.find?_cons]
    simp only [if_neg chosen]
    cases starts : startsWith (trimDot name) start with
    | true => simpa using ih
    | false => rfl

/-- The first name that is not the address again, or else the first name there is. -/
theorem pickPTRName_eq (ip : String) (names : List String) :
    pickPTRName ip names = ((names.map trimDot).find? fun name => !startsWith name (dashed ip)).getD
      ((names.map trimDot).head?.getD "") := by
  cases names with
  | nil => rfl
  | cons name names =>
    rw [pickPTRName, pickFrom, List.map_cons, List.find?_cons]
    cases starts : startsWith (trimDot name) (dashed ip) with
    | true =>
      have chosen : trimDot name ≠ "" := startsWith_ne_empty _ starts
      simpa using pickFrom_eq (trimDot name) chosen names
    | false => rfl

/-- Kubernetes publishes the pod name next to the address. -/
example : pickPTRName "10.42.4.18" ["10-42-4-18.redis.default.svc.", "redis-0.redis.default.svc."] =
    "redis-0.redis.default.svc" := by decide +kernel

end Names

/-- Where a caller of `Lookup` stands; the one that asks the name service holds the lock. -/
inductive Lookup where
  | idle
  | waiting (ip : String)
  | asking (ip : String) (begun : Int)
  deriving DecidableEq, Repr

/-- A query of the name service: what it said, if anything, and when. -/
structure Query where
  ip : String
  names : Option (List String)
  ended : Int
  deriving DecidableEq, Repr

/-- The name an answer of the name service is good for. -/
def Query.name (query : Query) : String :=
  match query.names with
  | none => ""
  | some names => pickPTRName query.ip names

structure Returned where
  ip : String
  name : String
  moment : Int
  deriving DecidableEq, Repr

/-- The cache with a clock and its callers, and a record of all queries and of all that was
returned. -/
structure PTRCache where
  now : Int
  entries : Expiring String String
  lock : Option Nat
  lookup : Nat → Lookup
  queries : List Query
  returned : List Returned

namespace PTRCache

inductive Action where
  | pass (nanoseconds : Nat)
  | call (id : Nat) (ip : String)
  | acquire (id : Nat)
  | answer (id : Nat) (names : Option (List String))

def newPTRCache (now : Int) : PTRCache where
  now
  entries := .empty
  lock := none
  lookup _ := .idle
  queries := []
  returned := []

/-- The caller returns and gives the lock back. -/
def finish (cache : PTRCache) (id : Nat) (ip name : String) : PTRCache :=
  { cache with
    lock := none
    lookup := Function.update cache.lookup id .idle
    returned := ⟨ip, name, cache.now⟩ :: cache.returned }

def step (cache : PTRCache) : Action → Option PTRCache
  | .pass nanoseconds => some { cache with now := cache.now + nanoseconds }
  | .call id ip =>
    match cache.lookup id with
    | .idle => some { cache with lookup := Function.update cache.lookup id (.waiting ip) }
    | _ => none
  | .acquire id =>
    match cache.lookup id, cache.lock with
    | .waiting ip, none =>
      match cache.entries.fresh ptrCacheTTL cache.now ip with
      | some name => some (cache.finish id ip name)
      | none =>
        some { cache with
          lock := some id
          lookup := Function.update cache.lookup id (.asking ip cache.now) }
    | _, _ => none
  | .answer id names =>
    match cache.lookup id with
    | .asking ip _ =>
      let query : Query := ⟨ip, names, cache.now⟩
      -- a failed query is kept as well
      some ({ cache with
        entries := cache.entries.store cache.now ip query.name
        queries := query :: cache.queries }.finish id ip query.name)
    | _ => none

def machine (start : Int) : Machine PTRCache Action := ⟨newPTRCache start, step⟩

/-- What a step does. -/
inductive Stepped (cache : PTRCache) : Action → PTRCache → Prop where
  | pass (nanoseconds : Nat) :
      Stepped cache (.pass nanoseconds) { cache with now := cache.now + nanoseconds }
  | call {id : Nat} {ip : String} (idle : cache.lookup id = .idle) :
      Stepped cache (.call id ip)
        { cache with lookup := Function.update cache.lookup id (.waiting ip) }
  | hit {id : Nat} {ip name : String} (waits : cache.lookup id = .waiting ip)
      (free : cache.lock = none)
      (found : cache.entries.fresh ptrCacheTTL cache.now ip = some name) :
      Stepped cache (.acquire id) (cache.finish id ip name)
  | miss {id : Nat} {ip : String} (waits : cache.lookup id = .waiting ip)
      (free : cache.lock = none) (missed : cache.entries.fresh ptrCacheTTL cache.now ip = none) :
      Stepped cache (.acquire id)
        { cache with
          lock := some id
          lookup := Function.update cache.lookup id (.asking ip cache.now) }
  | answer {id : Nat} {ip : String} {begun : Int} (asks : cache.lookup id = .asking ip begun)
      (names : Option (List String)) :
      Stepped cache (.answer id names)
        ({ cache with
          entries := cache.entries.store cache.now ip (Query.name ⟨ip, names, cache.now⟩)
          queries := ⟨ip, names, cache.now⟩ :: cache.queries }.finish id ip
            (Query.name ⟨ip, names, cache.now⟩))

variable {cache next : PTRCache} {start : Int}

theorem step_stepped {action : Action} (stepped : cache.step action = some next) :
    Stepped cache action next := by
  cases action with
  | pass nanoseconds =>
    cases stepped
    exact .pass nanoseconds
  | call id ip =>
    simp only [step] at stepped
    split at stepped
    · rename_i idle
      cases stepped
      exact .call idle
    · cases stepped
  | acquire id =>
    simp only [step] at stepped
    split at stepped
    · rename_i waits free
      split at stepped
      · rename_i found
        cases stepped
        exact .hit waits free found
      · rename_i missed
        cases stepped
        exact .miss waits free missed
    · cases stepped
  | answer id names =>
    simp only [step] at stepped
    split at stepped
    · rename_i asks
      cases stepped
      exact .answer asks names
    · cases stepped

/-- The queries as the cache keeps them. -/
def kept (query : Query) : String × Dated String := (query.ip, ⟨query.name, query.ended⟩)

/-- The name was the name service's answer for the same address, less than the time to live
before it was returned. -/
def Vouched (queries : List Query) (returned : Returned) : Prop :=
  ∃ query ∈ queries, query.ip = returned.ip ∧ query.name = returned.name ∧
    query.ended ≤ returned.moment ∧ returned.moment - query.ended < ptrCacheTTL

/-- The lock is the asking caller's, and it asks for what the cache does not have. -/
structure Sound (cache : PTRCache) : Prop where
  keeps : cache.entries.Keeps ptrCacheTTL (cache.queries.map kept)
  ended : ∀ query ∈ cache.queries, query.ended ≤ cache.now
  asking : ∀ id ip begun, cache.lookup id = .asking ip begun → cache.lock = some id ∧
    begun ≤ cache.now ∧ cache.entries.fresh ptrCacheTTL begun ip = none
  vouched : ∀ returned ∈ cache.returned, Vouched cache.queries returned

theorem Vouched.mono {queries : List Query} {returned : Returned} (query : Query)
    (vouched : Vouched queries returned) : Vouched (query :: queries) returned := by
  obtain ⟨earlier, member, rest⟩ := vouched
  exact ⟨earlier, List.mem_cons_of_mem query member, rest⟩

private theorem sound_start (start : Int) : Sound (newPTRCache start) :=
  ⟨Expiring.keeps_empty ptrCacheTTL, nofun, nofun, nofun⟩

theorem Sound.step (sound : Sound cache) {action : Action}
    (stepped : Stepped cache action next) : Sound next := by
  obtain ⟨keeps, ended, asking, vouched⟩ := sound
  cases stepped with
  | pass nanoseconds =>
    refine ⟨keeps, ?_, ?_, vouched⟩
    · intro query member
      have before := ended query member
      dsimp only
      omega
    · intro id ip begun asks
      obtain ⟨held, before, missed⟩ := asking id ip begun asks
      refine ⟨held, ?_, missed⟩
      dsimp only
      omega
  | @call id ip idle =>
    refine ⟨keeps, ended, ?_, vouched⟩
    intro other otherIP begun asks
    dsimp only at asks
    by_cases same : other = id
    · subst same
      simp at asks
    · rw [Function.update_of_ne same] at asks
      exact asking other otherIP begun asks
  | @hit id ip name waits free found =>
    refine ⟨keeps, ended, ?_, ?_⟩
    · intro other otherIP begun asks
      dsimp only [finish] at asks ⊢
      by_cases same : other = id
      · subst same
        simp at asks
      · rw [Function.update_of_ne same] at asks
        cases free.symm.trans (asking other otherIP begun asks).1
    · intro returned member
      rcases List.mem_cons.mp member with rfl | earlier
      · obtain ⟨since, stored, recent⟩ := keeps.recent found
        obtain ⟨query, asked, same⟩ := List.mem_map.mp stored
        cases same
        exact ⟨query, asked, rfl, rfl, ended query asked, recent⟩
      · exact vouched returned earlier
  | @miss id ip waits free missed =>
    refine ⟨keeps, ended, ?_, vouched⟩
    intro other otherIP begun asks
    dsimp only at asks ⊢
    by_cases same : other = id
    · subst same
      rw [Function.update_self] at asks
      cases asks
      exact ⟨rfl, le_rfl, missed⟩
    · rw [Function.update_of_ne same] at asks
      cases free.symm.trans (asking other otherIP begun asks).1
  | @answer id ip begun asks names =>
    obtain ⟨held, before, missed⟩ := asking id ip begun asks
    refine ⟨keeps.store (by decide) missed before _, ?_, ?_, ?_⟩
    · intro query member
      rcases List.mem_cons.mp member with rfl | earlier
      · exact le_rfl
      · exact ended query earlier
    · intro other otherIP otherBegun otherAsks
      dsimp only [finish] at otherAsks
      by_cases same : other = id
      · subst same
        simp at otherAsks
      · rw [Function.update_of_ne same] at otherAsks
        have also := (asking other otherIP otherBegun otherAsks).1
        cases same (Option.some.inj (also.symm.trans held))
    · intro returned member
      rcases List.mem_cons.mp member with rfl | earlier
      · exact ⟨_, List.mem_cons_self, rfl, rfl, le_rfl, by simp [ptrCacheTTL]⟩
      · exact (vouched returned earlier).mono _

theorem sound_of_reaches (reached : (machine start).Reaches (fun _ _ => True) cache) :
    Sound cache :=
  reached.invariant (sound_start start) fun _ _ _ _ sound _ stepped =>
    sound.step (step_stepped stepped)

/-- Two lookups of one address in a minute, and a third one later. -/
def lookedUp : PTRCache :=
  ((machine 0).after
    [.call 0 "10.0.0.1", .call 1 "10.0.0.1", .acquire 0, .answer 0 (some ["redis-0."]), .acquire 1,
      .pass 60000000000, .call 0 "10.0.0.1", .acquire 0, .answer 0 none]).get (by decide +kernel)

private theorem lookedUp_reached : (machine 0).Reaches (fun _ _ => True) lookedUp :=
  .after (Option.some_get _).symm

/-- Every name that is returned was the name service's answer for this address, less than a
minute before; the name service is asked by one caller at a time, and for one address not more
than once a minute. -/
theorem lookup_recent (reached : (machine start).Reaches (fun _ _ => True) cache) :
    (∀ returned ∈ cache.returned, Vouched cache.queries returned) ∧
      (∀ one other ip otherIP begun otherBegun, cache.lookup one = .asking ip begun →
        cache.lookup other = .asking otherIP otherBegun → one = other) ∧
      ∀ ip first last, first ≤ last →
        ((((cache.queries.filter (·.ip = ip)).map Query.ended).filter fun ended =>
          first ≤ ended ∧ ended ≤ last).length : Int) ≤ (last - first) / ptrCacheTTL + 1 := by
  have sound := sound_of_reaches reached
  refine ⟨sound.vouched, ?_, ?_⟩
  · intro one other ip otherIP begun otherBegun asks otherAsks
    have held := (sound.asking one ip begun asks).1
    have also := (sound.asking other otherIP otherBegun otherAsks).1
    exact Option.some.inj (held.symm.trans also)
  · intro ip first last within
    have spaced := sound.keeps.spaced ip
    have same : (Expiring.entries (cache.queries.map kept) ip).map Dated.since =
        (cache.queries.filter (·.ip = ip)).map Query.ended := by
      simp only [Expiring.entries, List.filter_map, List.map_map]
      rfl
    rw [same] at spaced
    exact spaced.window (by decide) within

theorem lookup_recent_lookedUp :
    lookedUp.returned.map Returned.name = ["", "redis-0", "redis-0"] ∧
      ∀ returned ∈ lookedUp.returned, Vouched lookedUp.queries returned :=
  ⟨by decide +kernel, (lookup_recent lookedUp_reached).1⟩

end PTRCache

end SentinelProxy.Resolver
