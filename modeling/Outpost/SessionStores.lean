import Outpost.RedisIndex
import Outpost.Shared.Runs

/-!
# Both session stores against the map

The memory store is the map except at two places: it returns a session at the instant of
its expiry, and it touches sessions that have expired. The Redis store is the map as long
as no session outlives its user's index.
-/

namespace Outpost

open Runs Function

namespace MemoryStore

def call (ms : MemoryStore) (order : RangeOrder (String × Session)) (now : Int) :
    Call → MemoryStore × Answer
  | .create s => (ms.create s, .done)
  | .get id => ((ms.get now id).1, .got (ms.get now id).2.toOption)
  | .delete id => (ms.delete id, .done)
  | .deleteByUser userID => (ms.deleteByUser order userID, .done)
  | .list userID => (ms, .listed (ms.list order now userID))
  | .touch id ttl => ((ms.touch now id ttl).toOption.getD ms, .done)

def Exact (ms : MemoryStore) (now : Int) : Call → Prop
  | .get id => ∀ s, ms.lookup id = some s → s.expiresAt ≠ now
  | .touch id _ => ∀ s, ms.lookup id = some s → now < s.expiresAt
  | _ => True

def Keyed (ms : MemoryStore) : Prop := ∀ id s, ms.lookup id = some s → s.id = id

section Refinement

variable {ms : MemoryStore} {order : RangeOrder (String × Session)} {now : Int}

variable {id : String}

theorem live_eq_none (h : ms.live now id = none) :
    SessionMap.live ms.lookup now id = none := by
  rw [Option.eq_none_iff_forall_ne_some]
  intro s hs
  obtain ⟨hlookup, hlt⟩ := SessionMap.live_eq_some.mp hs
  cases h.symm.trans (live_of_le hlookup (Int.le_of_lt hlt))

theorem live_get (id : String) :
    SessionMap.live (ms.get now id).1.lookup now = SessionMap.live ms.lookup now := by
  rcases ms.get_spec now id with ⟨s, _, hget⟩ | ⟨hnone, _, _, hlookup⟩
  · rw [hget]
  · funext id'
    rw [SessionMap.live, hlookup]
    split
    · rename_i hid
      rw [hid, live_eq_none hnone]
      rfl
    · rfl

theorem touch_of_some {s : Session} (h : ms.lookup id = some s) (now ttl : Int) :
    ∃ ms', ms.touch now id ttl = .ok ms' ∧ ∀ id', ms'.lookup id' =
      if id' = id then some { s with expiresAt := now + ttl } else ms.lookup id' := by
  refine ⟨⟨ms.m.insert id { s with expiresAt := now + ttl }⟩, by simp [touch, h], ?_⟩
  intro id'
  unfold lookup
  split
  · rename_i hid
    rw [hid, AList.lookup_insert]
  · rename_i hid
    exact AList.lookup_insert_ne hid

theorem lookup_touch {ttl : Int} (h : ms.Exact now (.touch id ttl)) :
    ((ms.touch now id ttl).toOption.getD ms).lookup = SessionMap.touch ms.lookup now id ttl := by
  cases hlookup : ms.lookup id with
  | none =>
    have hlive : SessionMap.live ms.lookup now id = none := live_eq_none (live_of_none hlookup)
    simp [touch, SessionMap.touch, hlookup, hlive, Except.toOption]
  | some s =>
    have hlive : SessionMap.live ms.lookup now id = some s :=
      SessionMap.live_eq_some.mpr ⟨hlookup, h s hlookup⟩
    obtain ⟨ms', htouch, hlookup'⟩ := touch_of_some hlookup now ttl
    funext id'
    simp only [htouch, SessionMap.touch, hlive, update_apply]
    exact hlookup' id'

theorem live_call {c : Call} (h : ms.Exact now c) :
    SessionMap.live (ms.call order now c).1.lookup now =
      SessionMap.live (SessionMap.call ms.lookup now c) now := by
  cases c with
  | create s =>
    congr 1
    funext id
    rw [SessionMap.call, SessionMap.create, update_apply]
    exact ms.lookup_create s
  | get id => exact live_get id
  | delete id =>
    congr 1
    funext id'
    rw [SessionMap.call, SessionMap.delete, update_apply]
    exact ms.lookup_delete
  | deleteByUser userID =>
    congr 1
    funext id
    exact ms.lookup_deleteByUser order userID
  | list userID => rfl
  | touch id ttl => exact congrArg (SessionMap.live · now) (lookup_touch h)

theorem mem_list {userID : String} {s : Session} : s ∈ ms.list order now userID ↔
    ∃ id, SessionMap.live ms.lookup now id = some s ∧ s.userID = userID := by
  unfold list
  rw [List.mem_map]
  constructor
  · intro ⟨e, he, hs⟩
    obtain ⟨hin, huser, hlt⟩ : e ∈ order.visit ms.m.pairs ∧ _ := by
      simpa using he
    rw [RangeOrder.mem_visit] at hin
    subst hs
    exact ⟨e.1, SessionMap.live_eq_some.mpr ⟨GoMap.mem_pairs.mp hin, hlt⟩, huser⟩
  · intro ⟨id, hlive, huser⟩
    obtain ⟨hlookup, hlt⟩ := SessionMap.live_eq_some.mp hlive
    refine ⟨(id, s), List.mem_filter.mpr ⟨?_, decide_eq_true ⟨huser, hlt⟩⟩, rfl⟩
    exact (order.mem_visit _ _).mpr (GoMap.mem_pairs.mpr hlookup)

theorem nodup_list (hkeyed : ms.Keyed) (userID : String) : (ms.list order now userID).Nodup := by
  have hnodup : (order.visit ms.m.pairs).Nodup := (order.perm _).nodup_iff.mpr (GoMap.pairs_nodup _)
  refine List.Nodup.map_on ?_ (hnodup.filter _)
  have hid : ∀ e ∈ order.visit ms.m.pairs, e.2.id = e.1 := by
    intro e he
    exact hkeyed e.1 e.2 (GoMap.mem_pairs.mp ((order.mem_visit _ _).mp he))
  intro e he e' he' heq
  refine Prod.ext ?_ heq
  rw [← hid e (List.mem_of_mem_filter he), ← hid e' (List.mem_of_mem_filter he'), heq]

theorem answers_call (hkeyed : ms.Keyed) {c : Call} (h : ms.Exact now c) :
    SessionMap.Answers ms.lookup now c (ms.call order now c).2 := by
  cases c with
  | get id =>
    show (ms.get now id).2.toOption = SessionMap.live ms.lookup now id
    rcases ms.get_spec now id with ⟨s, hlive, hget⟩ | ⟨hnone, e, hget, _⟩
    · obtain ⟨hlookup, hle⟩ := Option.filter_eq_some_iff.mp hlive
      have hne := h s hlookup
      rw [hget]
      refine (SessionMap.live_eq_some.mpr ⟨hlookup, ?_⟩).symm
      have hle := of_decide_eq_true hle
      omega
    · rw [hget, live_eq_none hnone]
      rfl
  | list userID => exact ⟨nodup_list hkeyed userID, fun s => mem_list⟩
  | _ => exact trivial

theorem keyed_call (hkeyed : ms.Keyed) (c : Call) : (ms.call order now c).1.Keyed := by
  intro id s hs
  cases c with
  | create s' =>
    simp only [call, lookup_create] at hs
    split at hs
    · obtain rfl := Option.some.inj hs
      exact Eq.symm ‹_›
    · exact hkeyed id s hs
  | get id' =>
    simp only [call] at hs
    rcases ms.get_spec now id' with ⟨_, _, hget⟩ | ⟨_, _, _, hlookup⟩
    · rw [hget] at hs
      exact hkeyed id s hs
    · rw [hlookup] at hs
      split at hs
      · cases hs
      · exact hkeyed id s hs
  | delete id' =>
    simp only [call, lookup_delete] at hs
    split at hs
    · cases hs
    · exact hkeyed id s hs
  | deleteByUser userID =>
    simp only [call, lookup_deleteByUser] at hs
    exact hkeyed id s (Option.filter_eq_some_iff.mp hs).1
  | list userID => exact hkeyed id s hs
  | touch id' ttl =>
    cases hlookup : ms.lookup id' with
    | none =>
      simp only [call, touch, hlookup] at hs
      exact hkeyed id s hs
    | some old =>
      obtain ⟨ms', htouch, hlookup'⟩ := touch_of_some hlookup now ttl
      simp only [call, htouch] at hs
      change ms'.lookup id = some s at hs
      rw [hlookup'] at hs
      split at hs
      · rename_i hid
        obtain rfl := Option.some.inj hs
        rw [hid]
        exact hkeyed id' old hlookup
      · exact hkeyed id s hs

end Refinement

end MemoryStore

structure Stores where
  now : Int
  memory : MemoryStore
  redis : RedisStore
  map : SessionMap

structure Called where
  time : Int
  call : Call
  (memory redis : Answer)

namespace Stores

def empty (now : Int) : Stores := ⟨now, ⟨∅⟩, .empty, fun _ => none⟩

inductive Step : Stores → Called → Stores → Prop where
  | call (p : Stores) {now : Int} (c : Call) (order : RangeOrder (String × Session))
      (members : RangeOrder String) : p.now ≤ now →
      Step p ⟨now, c, (p.memory.call order now c).2, (p.redis.call members now c).2⟩
        ⟨now, (p.memory.call order now c).1, (p.redis.call members now c).1, p.map.call now c⟩

def Exact (owner : String → String) (p : Stores) (e : Called) : Prop :=
  p.memory.Exact e.time e.call ∧ p.redis.Exact owner e.time e.call

structure Inv (owner : String → String) (p : Stores) : Prop where
  keyed : p.memory.Keyed
  memory : SessionMap.live p.memory.lookup p.now = p.map.live p.now
  wellFormed : p.redis.WellFormed owner p.now
  redis : (p.redis.toMap p.now).live p.now = p.map.live p.now

section Runs

variable {owner : String → String} {p q : Stores} {e : Called}

theorem inv_empty (now : Int) : Inv owner (empty now) where
  keyed := fun _ _ h => by cases h
  memory := rfl
  wellFormed := RedisStore.wellFormed_empty now
  redis := rfl

theorem Inv.later (h : Inv owner p) {now : Int} (hle : p.now ≤ now) :
    Inv owner { p with now := now } where
  keyed := h.keyed
  memory := by
    rw [← SessionMap.live_live hle, h.memory, SessionMap.live_live hle]
  wellFormed := h.wellFormed.later hle
  redis := by
    rw [RedisStore.live_later h.wellFormed hle, ← SessionMap.live_live hle, h.redis,
      SessionMap.live_live hle]

theorem inv_step (hstep : Step p e q) (hexact : Exact owner p e) (h : Inv owner p) :
    Inv owner q := by
  cases hstep with
  | @call now c order members hle =>
    have hnow := h.later hle
    obtain ⟨hwf, hredis⟩ := RedisStore.call_spec hnow.wellFormed hexact.2
    refine ⟨MemoryStore.keyed_call h.keyed c, ?_, hwf, ?_⟩
    · exact (MemoryStore.live_call hexact.1).trans (SessionMap.live_call_congr hnow.memory c)
    · exact hredis.trans (SessionMap.live_call_congr hnow.redis c)

theorem answers_step (hstep : Step p e q) (hexact : Exact owner p e) (h : Inv owner p) :
    p.map.Answers e.time e.call e.memory ∧ p.map.Answers e.time e.call e.redis := by
  cases hstep with
  | @call now c order members hle =>
    have hnow := h.later hle
    exact ⟨SessionMap.answers_congr hnow.memory (MemoryStore.answers_call h.keyed hexact.1),
      SessionMap.answers_congr hnow.redis (RedisStore.answers_call hnow.wellFormed c)⟩

theorem map_of_step (hstep : Step p e q) : q.map = p.map.call e.time e.call := by
  cases hstep with
  | call => rfl

theorem map_none_of_deleted {u : String} {events : List Called} (hrun : Run Step p events q)
    (hcalls : ∀ e ∈ events, ∀ s, e.call = .create s → s.userID ≠ u)
    (h : ∀ id s, p.map id = some s → s.userID ≠ u) : ∀ id s, q.map id = some s → s.userID ≠ u := by
  refine hrun.invariant_of_labels (I := fun p => ∀ id s, p.map id = some s → s.userID ≠ u) ?_
    hcalls h
  intro p e q hstep hcreate hp
  rw [map_of_step hstep]
  exact SessionMap.call_none_of_user hp hcreate

end Runs

end Stores

/-- Both stores answer as the map does, and after `DeleteByUser` neither returns a session
of the user until one is created, as long as every call meets the condition. -/
theorem stores_are_the_map (owner : String → String) {start : Int} {p q : Stores}
    {events : List Called} {e : Called}
    (hrun : Run (Guarded Stores.Step (Stores.Exact owner)) (.empty start) events p)
    (hnext : Guarded Stores.Step (Stores.Exact owner) p e q) :
    (p.map.Answers e.time e.call e.memory ∧ p.map.Answers e.time e.call e.redis) ∧
      ∀ u before deleted later, events = before ++ deleted :: later →
        deleted.call = .deleteByUser u →
        (∀ e' ∈ later, ∀ s, e'.call = .create s → s.userID ≠ u) →
        ∀ s, e.memory.Returns s ∨ e.redis.Returns s → s.userID ≠ u := by
  have hinv : Stores.Inv owner p :=
    hrun.invariant (fun _ _ _ hstep => Stores.inv_step hstep.1 hstep.2) (Stores.inv_empty start)
  have hanswers := Stores.answers_step hnext.1 hnext.2 hinv
  refine ⟨hanswers, ?_⟩
  intro u before deleted later hevents hdeleted hcreate s hs
  subst hevents
  obtain ⟨t, _, hlater⟩ := hrun.of_append
  cases hlater with
  | cons hstep hlater =>
    have hnone : ∀ id s, p.map id = some s → s.userID ≠ u := by
      refine Stores.map_none_of_deleted hlater.of_guarded hcreate ?_
      intro id s hid
      rw [Stores.map_of_step hstep.1, hdeleted] at hid
      exact of_decide_eq_true (Option.filter_eq_some_iff.mp hid).2
    rcases hs with hs | hs
    · obtain ⟨id, hid⟩ := SessionMap.exists_of_returns hanswers.1 hs
      exact hnone id s hid
    · obtain ⟨id, hid⟩ := SessionMap.exists_of_returns hanswers.2 hs
      exact hnone id s hid

namespace Stores

def carolFor (lifetime : Int) : Session := ⟨"s", "carol", "", "", 0, lifetime⟩

def next (p : Stores) (now : Int) (c : Call) : Stores :=
  ⟨now, (p.memory.call .asListed now c).1, (p.redis.call .asListed now c).1, p.map.call now c⟩

def called (p : Stores) (now : Int) (c : Call) : Called :=
  ⟨now, c, (p.memory.call .asListed now c).2, (p.redis.call .asListed now c).2⟩

theorem step_next {p : Stores} {now : Int} (h : p.now ≤ now) (c : Call) :
    Step p (p.called now c) (p.next now c) :=
  .call p c .asListed .asListed h

def created (lifetime : Int) : Stores := (empty 0).next 0 (.create (carolFor lifetime))

theorem step_created (lifetime : Int) :
    Step (empty 0) ((empty 0).called 0 (.create (carolFor lifetime))) (created lifetime) :=
  step_next (Int.le_refl 0) _

/-- A session for two days: after one day without another `Create` the index is gone. -/
theorem deleted_session_returned : ∃ events p e q, Run Step (empty 0) events p ∧
    events.map Called.call = [.create (carolFor (48 * hour)), .deleteByUser "carol"] ∧
    Step p e q ∧ e.call = .get "s" ∧ e.memory = .got none ∧
    e.redis = .got (some (carolFor (48 * hour))) := by
  have hdelete : Step (created (48 * hour)) _ _ :=
    step_next (show (0 : Int) ≤ 25 * hour by decide) (.deleteByUser "carol")
  refine ⟨_, _, _, _, .cons (step_created _) (.single hdelete), rfl,
    step_next (Int.le_refl (25 * hour)) (.get "s"), rfl, ?_, ?_⟩
  · rfl
  · rfl

/-- The memory store brings an expired session back. -/
example : (((⟨∅⟩ : MemoryStore).create (carolFor hour)).touch (2 * hour) "s" hour).toOption.map
    (fun ms => (ms.get (2 * hour) "s").2.toOption) =
      some (some { carolFor hour with expiresAt := 3 * hour }) := by
  rfl

/-- A session for an hour: both stores return it within the hour, as the map does. -/
theorem carol_is_found : ∃ events p e q,
    Run (Guarded Step (Exact fun _ => "carol")) (empty 0) events p ∧
      events.map Called.call = [.create (carolFor hour)] ∧
      Guarded Step (Exact fun _ => "carol") p e q ∧ e.redis = .got (some (carolFor hour)) ∧
      p.map.Answers e.time e.call e.memory ∧ p.map.Answers e.time e.call e.redis := by
  have hcreate : Guarded Step (Exact fun _ => "carol") (empty 0) _ (created hour) :=
    ⟨step_created hour, trivial, rfl, by decide, by decide⟩
  have hexact : Exact (fun _ => "carol") (created hour) ((created hour).called 1 (.get "s")) := by
    refine ⟨?_, trivial⟩
    intro s hs
    cases hs
    decide
  have hget : Guarded Step (Exact fun _ => "carol") (created hour) _ _ :=
    ⟨step_next (show (0 : Int) ≤ 1 by decide) (.get "s"), hexact⟩
  exact ⟨_, _, _, _, .single hcreate, rfl, hget, rfl,
    (stores_are_the_map (fun _ => "carol") (.single hcreate) hget).1⟩

end Stores

end Outpost
