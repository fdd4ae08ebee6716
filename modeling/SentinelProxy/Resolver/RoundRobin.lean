import Mathlib.Data.List.Perm.Basic
import SentinelProxy.Counting.Window
import SentinelProxy.Resolver.System

/-! How evenly the replicas are handed out: readers that hold the read lock and draw from
one counter, interleaved step by step, and a writer that replaces the list while no reader
is inside. -/

namespace SentinelProxy.Resolver

open SentinelProxy.Counting

/-- A caller of `ReplicaAddress`. Outside `idle` it holds the read lock; draws are numbered
for the record. -/
inductive Reader where
  | idle
  | reading
  | drawn (number : Nat) (next : UInt64)
  deriving DecidableEq, Repr

/-- An answer to a caller: the draw it goes back to, the position in the list, and what was
found there. -/
structure Handout where
  number : Nat
  position : Nat
  picked : Picked
  deriving DecidableEq, Repr

structure Desk where
  store : Store
  readers : Nat → Reader
  draws : Nat
  handouts : List Handout

def found (addrs : List String) (position : Nat) : Picked :=
  match addrs[position]? with
  | none => .outOfRange
  | some addr => .address addr

namespace Desk

def handout (desk : Desk) (number : Nat) (next : UInt64) : Handout :=
  let position := (next - 1).toNat % desk.store.replicaAddrs.length
  { number, position, picked := found desk.store.replicaAddrs position }

def Quiet (desk : Desk) : Prop := ∀ id, desk.readers id = .idle

inductive Step : Desk → Desk → Prop where
  | lock {desk : Desk} {id : Nat} (idle : desk.readers id = .idle) :
      Step desk { desk with readers := Function.update desk.readers id .reading }
  | miss {desk : Desk} {id : Nat} (reading : desk.readers id = .reading)
      (empty : desk.store.replicaAddrs = []) :
      Step desk { desk with readers := Function.update desk.readers id .idle }
  | draw {desk : Desk} {id : Nat} (reading : desk.readers id = .reading)
      (known : desk.store.replicaAddrs ≠ []) :
      Step desk { desk with
        store := { desk.store with replicaIdx := desk.store.replicaIdx + 1 }
        readers := Function.update desk.readers id
          (.drawn desk.draws (desk.store.replicaIdx + 1))
        draws := desk.draws + 1 }
  | answer {desk : Desk} {id number : Nat} {next : UInt64}
      (drawn : desk.readers id = .drawn number next) :
      Step desk { desk with
        readers := Function.update desk.readers id .idle
        handouts := desk.handout number next :: desk.handouts }
  | replace {desk : Desk} (addrs names : List String) (free : desk.Quiet) :
      Step desk { desk with store := desk.store.setReplicaAddresses addrs names }

/-- Calls and replacements in any order. -/
def Runs : Desk → Desk → Prop := Relation.ReflTransGen Step

/-- Calls in any order while the list stays as it is. -/
def RunsUnchanged : Desk → Desk → Prop :=
  Relation.ReflTransGen fun desk next =>
    Step desk next ∧ next.store.replicaAddrs = desk.store.replicaAddrs

def opened (store : Store) : Desk := ⟨store, fun _ => .idle, 0, []⟩

end Desk

/-- The calls since the list was stored, against the counter's value then. -/
structure Tally (first : UInt64) (addrs : List String) (desk : Desk) : Prop where
  list : desk.store.replicaAddrs = addrs
  counter : desk.store.replicaIdx = first + UInt64.ofNat desk.draws
  held : ∀ id number next, desk.readers id = .drawn number next →
    number < desk.draws ∧ next = first + UInt64.ofNat number + 1 ∧
      number ∉ desk.handouts.map Handout.number
  distinct : ∀ id other number next last, desk.readers id = .drawn number next →
    desk.readers other = .drawn number last → id = other
  numbers : (desk.handouts.map Handout.number).Nodup
  taken : ∀ handout ∈ desk.handouts, handout.number < desk.draws ∧
    handout.position = (first + UInt64.ofNat handout.number).toNat % addrs.length ∧
    handout.picked = found addrs handout.position
  settled : ∀ number < desk.draws, number ∈ desk.handouts.map Handout.number ∨
    ∃ id next, desk.readers id = .drawn number next

section Calls

variable {first : UInt64} {addrs : List String} {desk next : Desk}

private theorem tally_opened (store : Store) :
    Tally store.replicaIdx store.replicaAddrs (.opened store) where
  list := rfl
  counter := by simp [Desk.opened]
  held := nofun
  distinct := nofun
  numbers := List.nodup_nil
  taken := nofun
  settled := nofun

theorem drawn_update {readers : Nat → Reader} {id other number : Nat} {next : UInt64}
    {reader : Reader} (undrawn : ∀ number next, reader ≠ .drawn number next)
    (drawn : Function.update readers id reader other = .drawn number next) :
    other ≠ id ∧ readers other = .drawn number next := by
  by_cases same : other = id
  · subst same
    rw [Function.update_self] at drawn
    exact absurd drawn (undrawn number next)
  · rw [Function.update_of_ne same] at drawn
    exact ⟨same, drawn⟩

theorem drawn_kept {readers : Nat → Reader} {id other number : Nat} {next : UInt64}
    (reader : Reader) (undrawn : ∀ number next, readers id ≠ .drawn number next)
    (drawn : readers other = .drawn number next) :
    Function.update readers id reader other = .drawn number next := by
  rw [Function.update_of_ne]
  · exact drawn
  · rintro rfl
    exact undrawn number next drawn

theorem Tally.passing {id : Nat} {reader : Reader} (tally : Tally first addrs desk)
    (before : ∀ number next, desk.readers id ≠ .drawn number next)
    (after : ∀ number next, reader ≠ .drawn number next) :
    Tally first addrs { desk with readers := Function.update desk.readers id reader } where
  list := tally.list
  counter := tally.counter
  held other number next drawn := tally.held other number next (drawn_update after drawn).2
  distinct one two number next last drawn again :=
    tally.distinct one two number next last (drawn_update after drawn).2
      (drawn_update after again).2
  numbers := tally.numbers
  taken := tally.taken
  settled number inside := by
    rcases tally.settled number inside with done | ⟨other, next, drawn⟩
    · exact .inl done
    · exact .inr ⟨other, next, drawn_kept reader before drawn⟩

theorem Tally.draw {id : Nat} (tally : Tally first addrs desk)
    (reading : desk.readers id = .reading) :
    Tally first addrs { desk with
      store := { desk.store with replicaIdx := desk.store.replicaIdx + 1 }
      readers := Function.update desk.readers id (.drawn desk.draws (desk.store.replicaIdx + 1))
      draws := desk.draws + 1 } := by
  have undrawn : ∀ number next, desk.readers id ≠ .drawn number next := by
    intro number next drawn
    rw [reading] at drawn
    cases drawn
  have fresh : ∀ other number next, Function.update desk.readers id
      (.drawn desk.draws (desk.store.replicaIdx + 1)) other = .drawn number next →
      (other = id ∧ number = desk.draws ∧ next = desk.store.replicaIdx + 1) ∨
        desk.readers other = .drawn number next := by
    intro other number next drawn
    by_cases same : other = id
    · subst same
      rw [Function.update_self] at drawn
      cases drawn
      exact .inl ⟨rfl, rfl, rfl⟩
    · rw [Function.update_of_ne same] at drawn
      exact .inr drawn
  refine ⟨tally.list, ?_, ?_, ?_, tally.numbers, ?_, ?_⟩
  · simp only [tally.counter, UInt64.ofNat_add, UInt64.add_assoc]
    rfl
  · intro other number next drawn
    rcases fresh other number next drawn with ⟨_, rfl, rfl⟩ | older
    · refine ⟨Nat.lt_succ_self _, by rw [tally.counter], ?_⟩
      intro member
      obtain ⟨handout, inside, same⟩ := List.mem_map.mp member
      have bound := (tally.taken handout inside).1
      omega
    · obtain ⟨bound, value, pending⟩ := tally.held other number next older
      exact ⟨Nat.lt_succ_of_lt bound, value, pending⟩
  · intro one two number next last drawn again
    rcases fresh one number next drawn with ⟨rfl, rfl, rfl⟩ | older
    · rcases fresh two _ last again with ⟨rfl, _⟩ | elder
      · rfl
      · have bound := (tally.held two _ last elder).1
        omega
    · rcases fresh two number last again with ⟨rfl, rfl, rfl⟩ | elder
      · have bound := (tally.held one _ next older).1
        omega
      · exact tally.distinct one two number next last older elder
  · intro handout member
    obtain ⟨bound, position⟩ := tally.taken handout member
    exact ⟨Nat.lt_succ_of_lt bound, position⟩
  · intro number inside
    by_cases last : number = desk.draws
    · subst last
      exact .inr ⟨id, _, Function.update_self ..⟩
    · rcases tally.settled number (by dsimp only at inside; omega) with done | ⟨other, next, drawn⟩
      · exact .inl done
      · exact .inr ⟨other, next, drawn_kept _ undrawn drawn⟩

theorem Tally.answer {id number : Nat} {drawnAt : UInt64} (tally : Tally first addrs desk)
    (drawn : desk.readers id = .drawn number drawnAt) :
    Tally first addrs { desk with
      readers := Function.update desk.readers id .idle
      handouts := desk.handout number drawnAt :: desk.handouts } := by
  obtain ⟨bound, value, pending⟩ := tally.held id number drawnAt drawn
  have others {other others : Nat} {next : UInt64}
      (still : Function.update desk.readers id .idle other = .drawn others next) :
      other ≠ id ∧ desk.readers other = .drawn others next :=
    drawn_update (fun _ _ => by simp) still
  refine ⟨tally.list, tally.counter, ?_, ?_, ?_, ?_, ?_⟩
  · intro other held next still
    obtain ⟨apart, older⟩ := others still
    obtain ⟨small, same, open?⟩ := tally.held other held next older
    refine ⟨small, same, ?_⟩
    rw [List.map_cons, List.mem_cons, not_or]
    refine ⟨?_, open?⟩
    rintro rfl
    exact apart (tally.distinct other id _ next drawnAt older drawn)
  · intro one two held next last still again
    exact tally.distinct one two held next last (others still).2 (others again).2
  · exact List.nodup_cons.mpr ⟨pending, tally.numbers⟩
  · intro handout member
    rcases List.mem_cons.mp member with rfl | older
    · refine ⟨bound, ?_⟩
      simp only [Desk.handout, value, tally.list, UInt64.add_sub_cancel, and_self]
    · exact tally.taken handout older
  · intro held inside
    by_cases same : held = number
    · subst same
      exact .inl List.mem_cons_self
    · rcases tally.settled held inside with done | ⟨other, next, still⟩
      · exact .inl (List.mem_cons_of_mem _ done)
      · refine .inr ⟨other, next, ?_⟩
        dsimp only
        rw [Function.update_of_ne]
        · exact still
        · rintro rfl
          cases drawn.symm.trans still
          exact same rfl

theorem Tally.step (tally : Tally first addrs desk) (stepped : desk.Step next)
    (same : next.store.replicaAddrs = desk.store.replicaAddrs) : Tally first addrs next := by
  cases stepped with
  | lock idle =>
    refine tally.passing ?_ (by simp)
    intro number ticket drawn
    rw [idle] at drawn
    cases drawn
  | miss reading =>
    refine tally.passing ?_ (by simp)
    intro number ticket drawn
    rw [reading] at drawn
    cases drawn
  | draw reading => exact tally.draw reading
  | answer drawn => exact tally.answer drawn
  | replace addrs names free =>
    refine ⟨same.trans tally.list, tally.counter, ?_, ?_, tally.numbers, tally.taken,
      tally.settled⟩
    · exact tally.held
    · exact tally.distinct

theorem Tally.run {store : Store} (run : (Desk.opened store).RunsUnchanged desk) :
    Tally store.replicaIdx store.replicaAddrs desk := by
  induction run with
  | refl => exact tally_opened store
  | tail _ stepped ih => exact ih.step stepped.1 stepped.2

theorem Tally.quiet (tally : Tally first addrs desk) (quiet : desk.Quiet) :
    (desk.handouts.map Handout.number).Perm (List.range desk.draws) := by
  refine (List.perm_ext_iff_of_nodup tally.numbers List.nodup_range).mpr fun number => ?_
  rw [List.mem_range]
  constructor
  · intro member
    obtain ⟨handout, inside, rfl⟩ := List.mem_map.mp member
    exact (tally.taken handout inside).1
  · intro inside
    rcases tally.settled number inside with done | ⟨id, next, drawn⟩
    · exact done
    · rw [quiet id] at drawn
      cases drawn

/-- As long as the counter does not wrap, positions are residues of consecutive numbers. -/
theorem Tally.positions (tally : Tally first addrs desk) (quiet : desk.Quiet)
    (fits : first.toNat + desk.handouts.length ≤ 2 ^ 64) (position : Nat) :
    desk.handouts.countP (fun handout => handout.position == position) =
      hits addrs.length first.toNat desk.handouts.length position := by
  have permuted := tally.quiet quiet
  have draws : desk.handouts.length = desk.draws := by
    simpa using permuted.length_eq
  have counted : desk.handouts.countP (fun handout => handout.position == position) =
      (desk.handouts.map Handout.number).countP
        fun number => (first.toNat + number) % addrs.length == position := by
    rw [List.countP_map]
    refine List.countP_congr fun handout member => ?_
    obtain ⟨bound, place, _⟩ := tally.taken handout member
    have whole : (first + UInt64.ofNat handout.number).toNat = first.toNat + handout.number := by
      rw [UInt64.toNat_add, UInt64.toNat_ofNat']
      omega
    rw [Function.comp_apply, place, whole]
  rw [counted, permuted.countP_eq, hits, draws]

private theorem found_inside {position : Nat} (inside : position < addrs.length) :
    ∃ addr, addrs[position]? = some addr ∧ found addrs position = .address addr := by
  refine ⟨addrs[position], List.getElem?_eq_getElem inside, ?_⟩
  rw [found, List.getElem?_eq_getElem inside]

/-- Whoever has drawn finds a list that is not empty: nobody replaces it meanwhile. -/
theorem drawn_known {store : Store} (run : (Desk.opened store).Runs desk) :
    ∀ id number next, desk.readers id = .drawn number next → desk.store.replicaAddrs ≠ [] := by
  induction run with
  | refl => exact nofun
  | tail _ stepped ih =>
    intro id number next drawn
    cases stepped with
    | lock => exact ih id number next (drawn_update (by simp) drawn).2
    | miss => exact ih id number next (drawn_update (by simp) drawn).2
    | draw reading known => exact known
    | answer => exact ih id number next (drawn_update (by simp) drawn).2
    | replace addrs names free =>
      rw [free id] at drawn
      cases drawn

/-- The call in steps answers what the call as a whole does at the moment of its draw. -/
theorem handout_replicaAddress (known : desk.store.replicaAddrs ≠ []) (number : Nat)
    (same : next.store.replicaAddrs = desk.store.replicaAddrs) :
    (next.handout number (desk.store.replicaIdx + 1)).picked = desk.store.replicaAddress.1 ∧
      { desk.store with replicaIdx := desk.store.replicaIdx + 1 } =
        desk.store.replicaAddress.2 := by
  refine ⟨?_, ?_⟩
  · rw [Desk.handout, same, Store.replicaAddress, if_neg known]
    rfl
  · simp only [Store.replicaAddress, known, if_false]

/-- A full turn of the counter passes every position once. -/
theorem handout_window {counter : UInt64} {position : Nat}
    (fits : counter.toNat + desk.store.replicaAddrs.length ≤ 2 ^ 64)
    (inside : position < desk.store.replicaAddrs.length) :
    (List.range desk.store.replicaAddrs.length).countP (fun offset =>
      (desk.handout offset (counter + UInt64.ofNat offset + 1)).position == position) = 1 := by
  rw [← hits_window _ counter.toNat position inside]
  refine List.countP_congr fun offset member => ?_
  have small := List.mem_range.mp member
  have whole : (counter + UInt64.ofNat offset).toNat = counter.toNat + offset := by
    rw [UInt64.toNat_add, UInt64.toNat_ofNat']
    omega
  simp only [Desk.handout, UInt64.add_sub_cancel, whole]

end Calls

/-- Replicas are handed out in turn, to any number of callers in any interleaving, and every
call is answered as a call by itself at the moment of its draw. -/
theorem round_robin :
    (∀ store : Store, store.replicaAddress.1 ≠ .outOfRange ∧
      (store.replicaAddress.1 = .unavailable ↔ store.replicaAddrs = []) ∧
      (store.replicaAddress.1 = .unavailable → store.replicaAddress.2 = store)) ∧
    (∀ (store : Store) (desk : Desk), store.replicaAddrs ≠ [] →
      (Desk.opened store).RunsUnchanged desk → desk.Quiet →
      store.replicaIdx.toNat + desk.handouts.length ≤ 2 ^ 64 →
      (∀ handout ∈ desk.handouts, ∃ addr, store.replicaAddrs[handout.position]? = some addr ∧
        handout.picked = .address addr) ∧
      ∀ position < store.replicaAddrs.length,
        let count := desk.handouts.countP fun handout => handout.position == position
        count = desk.handouts.length / store.replicaAddrs.length ∨
          count = (desk.handouts.length + store.replicaAddrs.length - 1) /
            store.replicaAddrs.length) ∧
    (∀ (desk : Desk) (counter : UInt64),
      counter.toNat + desk.store.replicaAddrs.length ≤ 2 ^ 64 →
      ∀ position < desk.store.replicaAddrs.length,
        (List.range desk.store.replicaAddrs.length).countP (fun offset =>
          (desk.handout offset (counter + UInt64.ofNat offset + 1)).position == position) = 1) ∧
    (∀ (store : Store) (desk next : Desk) (handout : Handout), (Desk.opened store).Runs desk →
      desk.Step next → next.handouts = handout :: desk.handouts →
      ∃ addr, handout.picked = .address addr ∧ addr ∈ next.store.replicaAddrs) ∧
    ∀ (desk next : Desk) (number : Nat), desk.store.replicaAddrs ≠ [] →
      next.store.replicaAddrs = desk.store.replicaAddrs →
      (next.handout number (desk.store.replicaIdx + 1)).picked = desk.store.replicaAddress.1 ∧
        { desk.store with replicaIdx := desk.store.replicaIdx + 1 } =
          desk.store.replicaAddress.2 := by
  refine ⟨?_, ?_, fun _ _ fits _ inside => handout_window fits inside, ?_,
    fun _ _ number known same => handout_replicaAddress known number same⟩
  · intro store
    by_cases empty : store.replicaAddrs = []
    · have missed : store.replicaAddress = (.unavailable, store) := if_pos empty
      simp [missed, empty]
    · obtain ⟨addr, picked⟩ := replicaAddress_known empty
      simp [picked, empty]
  · intro store desk known run quiet fits
    have tally := Tally.run run
    have positive : 0 < store.replicaAddrs.length := List.length_pos_iff.mpr known
    refine ⟨?_, ?_⟩
    · intro handout member
      obtain ⟨_, place, picked⟩ := tally.taken handout member
      rw [picked]
      exact found_inside (by rw [place]; exact Nat.mod_lt _ positive)
    · intro position inside
      dsimp only
      rw [tally.positions quiet fits]
      exact hits_even _ _ _ inside _
  · intro store desk next handout run stepped added
    cases stepped with
    | answer drawn =>
      have known := drawn_known run _ _ _ drawn
      obtain ⟨rfl, _⟩ := List.cons.inj added
      obtain ⟨addr, member, picked⟩ := found_inside
        (Nat.mod_lt _ (List.length_pos_iff.mpr known))
      exact ⟨addr, picked, List.mem_of_getElem? member⟩
    | _ => exact (List.ne_cons_self added).elim

def pairStore : Store :=
  { replicaAddrs := ["10.0.0.2:6379", "10.0.0.3:6379"], replicaIdx := 7 }

/-- Two calls that overlap. -/
theorem round_robin_pairStore :
    ∃ desk, (Desk.opened pairStore).RunsUnchanged desk ∧ desk.handouts.length = 2 ∧
      ∀ position < 2, desk.handouts.countP (fun handout => handout.position == position) = 1 := by
  have known : pairStore.replicaAddrs ≠ [] := by decide
  have run : (Desk.opened pairStore).RunsUnchanged _ :=
    .tail (.tail (.tail (.tail (.tail (.tail .refl ⟨@Desk.Step.lock _ 0 rfl, rfl⟩)
      ⟨@Desk.Step.lock _ 1 rfl, rfl⟩) ⟨@Desk.Step.draw _ 1 rfl known, rfl⟩)
      ⟨@Desk.Step.draw _ 0 rfl known, rfl⟩) ⟨@Desk.Step.answer _ 0 _ _ rfl, rfl⟩)
      ⟨@Desk.Step.answer _ 1 _ _ rfl, rfl⟩
  refine ⟨_, run, rfl, ?_⟩
  intro position inside
  have even := (round_robin.2.1 pairStore _ known run ?_ (by decide)).2 position inside
  · rcases even with floor | ceiling
    · exact floor
    · exact ceiling
  · intro id
    by_cases one : id = 1
    · simp [one]
    · by_cases zero : id = 0
      · simp [zero]
      · simp [one, zero, Desk.opened]

end SentinelProxy.Resolver
