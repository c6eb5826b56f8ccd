import Outpost.Shared.GoMap

/-!
# Sessions in memory

`MemoryStore`, the session store of a single server: a `sync.Map` from the id to the
session. Every operation is one step here. Times are nanoseconds, before or after the
epoch.
-/

namespace Outpost

/-- The map `Data` is never read. -/
structure Session where
  (id userID ipAddress userAgent : String)
  (createdAt expiresAt : Int)
deriving DecidableEq

def Session.isExpired (s : Session) (now : Int) : Bool := s.expiresAt < now

structure MemoryStore where
  m : GoMap String Session

namespace MemoryStore

variable (ms : MemoryStore)

def lookup (id : String) : Option Session := ms.m.lookup id

def create (s : Session) : MemoryStore := ⟨ms.m.insert s.id s⟩

def notFound (id : String) : String := "session " ++ id ++ " not found"

def get (now : Int) (id : String) : MemoryStore × Except String Session :=
  match ms.lookup id with
  | none => (ms, .error (notFound id))
  | some s =>
    if s.isExpired now then (⟨ms.m.erase id⟩, .error ("session " ++ id ++ " expired")) else
      (ms, .ok s)

def delete (id : String) : MemoryStore := ⟨ms.m.erase id⟩

def deleteByUser (order : RangeOrder (String × Session)) (userID : String) : MemoryStore :=
  ⟨GoMap.deleteEach (fun _ s => s.userID = userID) (order.visit ms.m.pairs) ms.m⟩

/-- Unlike `get`, this also leaves out a session that expires right now. -/
def list (order : RangeOrder (String × Session)) (now : Int) (userID : String) : List Session :=
  ((order.visit ms.m.pairs).filter fun e => e.2.userID = userID ∧ now < e.2.expiresAt).map Prod.snd

def touch (now : Int) (id : String) (ttl : Int) : Except String MemoryStore :=
  match ms.lookup id with
  | none => .error (notFound id)
  | some old => .ok ⟨ms.m.insert id { old with expiresAt := now + ttl }⟩

variable {id id' : String}

theorem lookup_create (s : Session) :
    (ms.create s).lookup id = if id = s.id then some s else ms.lookup id := by
  unfold create lookup
  split
  · rename_i h
    rw [h, AList.lookup_insert]
  · rename_i h
    exact AList.lookup_insert_ne h

theorem lookup_delete : (ms.delete id').lookup id = if id = id' then none else ms.lookup id := by
  unfold delete lookup
  split
  · rename_i h
    rw [h, AList.lookup_erase]
  · rename_i h
    exact AList.lookup_erase_ne h

theorem lookup_deleteByUser (order : RangeOrder (String × Session)) (userID : String) :
    (ms.deleteByUser order userID).lookup id =
      (ms.lookup id).filter fun s => s.userID ≠ userID := by
  unfold deleteByUser lookup
  rw [GoMap.lookup_deleteEach_visit]
  simp

def live (now : Int) (id : String) : Option Session :=
  (ms.lookup id).filter fun s => now ≤ s.expiresAt

variable {ms} {now : Int} {s : Session}

theorem live_of_none (h : ms.lookup id = none) : ms.live now id = none := by
  rw [live, h]
  rfl

theorem live_of_le (h : ms.lookup id = some s) (hle : now ≤ s.expiresAt) :
    ms.live now id = some s := by
  rw [live, h, Option.filter_some, if_pos (decide_eq_true hle)]

theorem live_of_lt (h : ms.lookup id = some s) (hlt : s.expiresAt < now) :
    ms.live now id = none := by
  rw [live, h, Option.filter_some]
  simpa using hlt

theorem get_spec (ms : MemoryStore) (now : Int) (id : String) :
    (∃ s, ms.live now id = some s ∧ ms.get now id = (ms, .ok s)) ∨
      ms.live now id = none ∧ ∃ e, (ms.get now id).2 = .error e ∧
        ∀ id', (ms.get now id).1.lookup id' = if id' = id then none else ms.lookup id' := by
  cases h : ms.lookup id with
  | none =>
    refine .inr ⟨live_of_none h, notFound id, ?_, ?_⟩
    · simp [get, h]
    · intro id'
      by_cases hid : id' = id
      · simp [get, hid, h]
      · simp [get, hid, h]
  | some s =>
    by_cases hexpired : s.expiresAt < now
    · have hget : ms.get now id = (ms.delete id, .error ("session " ++ id ++ " expired")) := by
        simp [get, h, Session.isExpired, hexpired, delete]
      rw [hget]
      exact .inr ⟨live_of_lt h hexpired, _, rfl, fun id' => ms.lookup_delete⟩
    · refine .inl ⟨s, live_of_le h (Int.not_lt.mp hexpired), ?_⟩
      simp [get, h, Session.isExpired, hexpired]

theorem lookup_of_get (h : (ms.get now id).2 = .ok s) : ms.lookup id = some s := by
  rcases ms.get_spec now id with ⟨s', hlive, hget⟩ | ⟨_, e, he, _⟩
  · rw [hget] at h
    obtain rfl := Except.ok.inj h
    exact (Option.filter_eq_some_iff.mp hlive).1
  · cases he.symm.trans h

end MemoryStore

end Outpost
