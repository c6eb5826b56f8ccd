import Outpost.SessionStore
import Outpost.Shared.Interleaving
import Outpost.Shared.KeyedRows

/-!
# The session manager

Sessions live in the memory store and in the table `sessions`. Each operation on the
store, each SQL statement and each reading of the clock is one action. Operations on the
store succeed; a statement may fail, and each call has only one.
-/

namespace Outpost.SessionManager

open Interleaving

structure State where
  store : MemoryStore
  rows : List Session
  now : Int
  id_unique : (rows.map Session.id).Nodup

structure Env where
  ttl : Int
  rangeOrder : RangeOrder (String × Session)

def timeNow : Prog State Int := .read State.now

def storeCreate (s : Session) : Prog State Unit :=
  .modify fun w => ({ w with store := w.store.create s }, ())

def storeGet (id : String) : Prog State (Except String Session) :=
  .modify fun w => ({ w with store := (w.store.get w.now id).1 }, (w.store.get w.now id).2)

def storeDelete (id : String) : Prog State Unit :=
  .modify fun w => ({ w with store := w.store.delete id }, ())

def storeDeleteByUser (env : Env) (userID : String) : Prog State Unit :=
  .modify fun w => ({ w with store := w.store.deleteByUser env.rangeOrder userID }, ())

/-- `INSERT INTO sessions`, which fails on a taken id. Nobody looks at the error. -/
def insertRow (failure : Option String) (s : Session) : Prog State Unit :=
  .modify fun w =>
    if h : failure = none ∧ ∀ row ∈ w.rows, row.id ≠ s.id then
      ({ w with rows := w.rows ++ [s], id_unique := KeyedRows.nodup_append w.id_unique h.2 }, ())
    else (w, ())

def selectRow (failure : Option String) (id : String) : Prog State (Option Session) :=
  .read fun w =>
    match failure with
    | some _ => none
    | none => w.rows.find? fun row => row.id = id ∧ w.now < row.expiresAt

/-- `DELETE FROM sessions`, with the error if there is one. -/
def deleteRows (failure : Option String) (P : Session → Bool) : Prog State (Option String) :=
  .modify fun w =>
    match failure with
    | some e => (w, some e)
    | none =>
      ({ w with
          rows := w.rows.filter fun row => !P row
          id_unique := w.id_unique.sublist (List.filter_sublist.map _) }, none)

inductive Reply where
  | session (s : Session)
  | revoked
deriving DecidableEq

/-- Each with the error of its statement, if that fails, and `create` with the random id. -/
inductive Request where
  | create (failure : Option String) (id userID ipAddress userAgent : String)
  | validate (failure : Option String) (sessionID : String)
  | revoke (failure : Option String) (sessionID : String)
  | revokeAll (failure : Option String) (userID : String)

def createSession (env : Env) (failure : Option String) (id userID ipAddress userAgent : String) :
    Prog State (Except String Reply) := do
  let now ← timeNow
  let s : Session := ⟨id, userID, ipAddress, userAgent, now, now + env.ttl⟩
  storeCreate s
  insertRow failure s
  return .ok (.session s)

def validateSession (failure : Option String) (sessionID : String) :
    Prog State (Except String Reply) := do
  match ← storeGet sessionID with
  | .ok s => return .ok (.session s)
  | .error _ =>
    match ← selectRow failure sessionID with
    | none => return .error "session not found or expired"
    | some s =>
      storeCreate s
      return .ok (.session s)

def revokeSession (failure : Option String) (sessionID : String) :
    Prog State (Except String Reply) := do
  storeDelete sessionID
  match ← deleteRows failure fun row => row.id = sessionID with
  | some e => return .error ("deleting session from DB: " ++ e)
  | none => return .ok .revoked

def revokeAllSessions (env : Env) (failure : Option String) (userID : String) :
    Prog State (Except String Reply) := do
  storeDeleteByUser env userID
  match ← deleteRows failure fun row => row.userID = userID with
  | some e => return .error ("deleting user sessions from DB: " ++ e)
  | none => return .ok .revoked

def handle (env : Env) : Request → Prog State (Except String Reply)
  | .create failure id userID ipAddress userAgent =>
    createSession env failure id userID ipAddress userAgent
  | .validate failure sessionID => validateSession failure sessionID
  | .revoke failure sessionID => revokeSession failure sessionID
  | .revokeAll failure userID => revokeAllSessions env failure userID

def State.InStore (w : State) (id userID : String) : Prop :=
  ∃ s, w.store.lookup id = some s ∧ s.userID = userID

def State.InRows (w : State) (id userID : String) : Prop :=
  ∃ s ∈ w.rows, s.id = id ∧ s.userID = userID

structure State.Gone (w : State) (id : String) : Prop where
  store : ∀ userID, ¬ w.InStore id userID
  rows : ∀ userID, ¬ w.InRows id userID

structure State.Owned (w : State) (id userID : String) : Prop where
  store : ∀ v, w.InStore id v → v = userID
  rows : ∀ v, w.InRows id v → v = userID

def Request.Source (id : String) (seen : List State) (userID : String) : Request → Prop
  | .create _ id' userID' _ _ => id' = id ∧ userID = userID'
  | .validate _ id' => id' = id ∧ ∃ w ∈ seen, w.InRows id userID
  | _ => False

def Request.Covers (id userID : String) : Request → Prop
  | .revoke _ id' => id' = id
  | .revokeAll _ userID' => userID' = userID
  | _ => False

def Request.failure : Request → Option String
  | .create failure _ _ _ _ => failure
  | .validate failure _ => failure
  | .revoke failure _ => failure
  | .revokeAll failure _ => failure

/-- An action adds the session only from a source, and the two actions of a revocation remove it
from store and table. -/
structure Does (id userID : String) (r : Request) (seen : List State) (w w' : State) : Prop where
  store : ∀ v, w'.InStore id v → w.InStore id v ∨ r.Source id seen v
  rows : ∀ v, w'.InRows id v → w.InRows id v ∨ r.Source id seen v
  clears : r.Covers id userID → w.Owned id userID → seen = [] → ∀ v, ¬ w'.InStore id v
  deletes : r.Covers id userID → w.Owned id userID → seen.length = 1 → r.failure = none →
    ∀ v, ¬ w'.InRows id v

def Answers (id : String) (r : Request) (seen : List State) (res : Except String Reply) : Prop :=
  match r with
  | .validate _ id' => ∀ s, res = .ok (.session s) → id' = id → ∃ w ∈ seen, ¬ w.Gone id
  | .revoke failure _ => res = .ok .revoked → failure = none ∧ seen.length = 2
  | .revokeAll failure _ => res = .ok .revoked → failure = none ∧ seen.length = 2
  | .create _ _ _ _ _ => True

open Prog

variable {id userID : String}

theorem does_of_not_covers {r : Request} {seen : List State} {w w' : State}
    (hcovers : ¬ r.Covers id userID)
    (hstore : ∀ v, w'.InStore id v → w.InStore id v ∨ r.Source id seen v)
    (hrows : ∀ v, w'.InRows id v → w.InRows id v ∨ r.Source id seen v) :
    Does id userID r seen w w' :=
  ⟨hstore, hrows, fun h => absurd h hcovers, fun h => absurd h hcovers⟩

section States

variable {w : State} {s : Session} {v : String}

theorem inStore_create (h : State.InStore { w with store := w.store.create s } id v) :
    w.InStore id v ∨ id = s.id ∧ s.userID = v := by
  obtain ⟨s', hs', rfl⟩ := h
  rw [MemoryStore.lookup_create] at hs'
  split at hs'
  · obtain rfl := Option.some.inj hs'
    exact .inr ⟨‹_›, rfl⟩
  · exact .inl ⟨s', hs', rfl⟩

theorem inStore_get {now : Int} {id' : String}
    (h : State.InStore { w with store := (w.store.get now id').1 } id v) : w.InStore id v := by
  obtain ⟨s', hs', rfl⟩ := h
  rcases w.store.get_spec now id' with ⟨s, _, hget⟩ | ⟨_, e, _, hlookup⟩
  · simp only [hget] at hs'
    exact ⟨s', hs', rfl⟩
  · simp only [hlookup] at hs'
    split at hs'
    · cases hs'
    · exact ⟨s', hs', rfl⟩

theorem inStore_delete {id' : String}
    (h : State.InStore { w with store := w.store.delete id' } id v) :
    w.InStore id v ∧ id ≠ id' := by
  obtain ⟨s', hs', rfl⟩ := h
  rw [MemoryStore.lookup_delete] at hs'
  split at hs'
  · cases hs'
  · exact ⟨⟨s', hs', rfl⟩, ‹_›⟩

theorem inStore_deleteByUser {order : RangeOrder (String × Session)} {u : String}
    (h : State.InStore { w with store := w.store.deleteByUser order u } id v) :
    w.InStore id v ∧ v ≠ u := by
  obtain ⟨s', hs', rfl⟩ := h
  rw [MemoryStore.lookup_deleteByUser] at hs'
  obtain ⟨hs', hu⟩ := Option.filter_eq_some_iff.mp hs'
  exact ⟨⟨s', hs', rfl⟩, of_decide_eq_true hu⟩

end States

theorem keeps_createSession (env : Env) (failure : Option String)
    (id' userID' ipAddress userAgent : String) :
    Keeps (Does id userID (.create failure id' userID' ipAddress userAgent)) (fun _ _ => True) []
      (createSession env failure id' userID' ipAddress userAgent) := by
  refine keeps_seq (keeps_read (fun w => ?_) fun _ => trivial) ?_
  · exact does_of_not_covers (fun h => h) (fun _ => .inl) fun _ => .inl
  · intro later now _
    refine keeps_seq (keeps_modify (fun w => ?_) fun _ => trivial) ?_
    · refine does_of_not_covers (fun h => h) (fun v hv => ?_) fun _ => .inl
      exact (inStore_create hv).imp_right fun h => ⟨h.1.symm, h.2.symm⟩
    · intro later _ _
      refine keeps_seq (keeps_modify (fun w => ?_) fun _ => trivial) ?_
      · refine does_of_not_covers (fun h => h) (fun v hv => ?_) (fun v hv => ?_)
        · split at hv <;> exact .inl hv
        · split at hv
          · obtain ⟨row, hrow, hid, rfl⟩ := hv
            rcases List.mem_append.mp hrow with hrow | hrow
            · exact .inl ⟨row, hrow, hid, rfl⟩
            · obtain rfl := List.mem_singleton.mp hrow
              exact .inr ⟨hid, rfl⟩
          · exact .inl hv
      · intro later _ _
        exact keeps_pure trivial

theorem keeps_validateSession (failure : Option String) (id' : String) :
    Keeps (Does id userID (.validate failure id')) (Answers id (.validate failure id')) []
      (validateSession failure id') := by
  have hget : Keeps (Does id userID (.validate failure id'))
      (fun later res => ∃ w, later = [w] ∧ res = (w.store.get w.now id').2) [] (storeGet id') := by
    refine keeps_modify (fun w => ?_) fun w => ⟨w, rfl, rfl⟩
    exact does_of_not_covers (fun h => h) (fun v hv => .inl (inStore_get hv)) fun _ => .inl
  refine keeps_bind hget ?_
  intro later res _ hres
  obtain ⟨w₀, rfl, rfl⟩ := hres
  split
  · rename_i s hs
    intro s' _ hid
    refine ⟨w₀, .head _, fun hgone => hgone.store s.userID ⟨s, ?_, rfl⟩⟩
    rw [← hid]
    exact MemoryStore.lookup_of_get hs
  · have hselect : Keeps (Does id userID (.validate failure id'))
        (fun later res => ∃ w, later = [w₀, w] ∧ ∀ s, res = some s → s ∈ w.rows ∧ s.id = id') [w₀]
        (selectRow failure id') := by
      refine keeps_read (fun w => ?_) fun w => ⟨w, rfl, ?_⟩
      · exact does_of_not_covers (fun h => h) (fun _ => .inl) fun _ => .inl
      · intro s hs
        cases failure with
        | some e => cases hs
        | none =>
          have hid := List.find?_some hs
          exact ⟨List.mem_of_find?_eq_some hs, (of_decide_eq_true hid).1⟩
    refine keeps_bind hselect ?_
    intro later res _ hres
    obtain ⟨w₁, rfl, hrow⟩ := hres
    cases res with
    | none => exact keeps_pure nofun
    | some s =>
      obtain ⟨hin, hsid⟩ := hrow s rfl
      have hw₁ : w₁ ∈ [w₀, w₁] := List.mem_cons_of_mem _ (.head _)
      refine keeps_seq (keeps_modify (fun w => ?_) fun _ => trivial) ?_
      · refine does_of_not_covers (fun h => h) (fun v hv => ?_) fun _ => .inl
        refine (inStore_create hv).imp_right fun h => ?_
        exact ⟨hsid ▸ h.1.symm, w₁, hw₁, s, hin, h.1.symm, h.2⟩
      · intro later _ hlater s' _ hid
        refine ⟨w₁, hlater.subset hw₁, fun hgone => ?_⟩
        exact hgone.rows s.userID ⟨s, hin, hsid.trans hid, rfl⟩

theorem keeps_deleteRows {r : Request} {P : Session → Bool} {w₀ : State}
    (hP : ∀ s : Session, r.Covers id userID → s.id = id → s.userID = userID → P s = true) :
    Keeps (Does id userID r)
      (fun later res => later.length = 2 ∧ (res = none → r.failure = none)) [w₀]
      (deleteRows r.failure P) := by
  cases hf : r.failure with
  | some e =>
    refine keeps_modify (fun w => ?_) fun w => ⟨rfl, nofun⟩
    refine ⟨fun _ => .inl, fun _ => .inl, nofun, ?_⟩
    intro _ _ _ hnone
    cases hf.symm.trans hnone
  | none =>
    refine keeps_modify (fun w => ?_) fun w => ⟨rfl, fun _ => rfl⟩
    refine ⟨fun _ => .inl, ?_, nofun, ?_⟩
    · intro v hv
      obtain ⟨s, hs, hid, rfl⟩ := hv
      exact .inl ⟨s, (List.mem_filter.mp hs).1, hid, rfl⟩
    · intro hcovers howned _ _ v hv
      obtain ⟨s, hs, hid, rfl⟩ := hv
      obtain ⟨hs, hnot⟩ := List.mem_filter.mp hs
      have huser := howned.rows s.userID ⟨s, hs, hid, rfl⟩
      rw [hP s hcovers hid huser] at hnot
      cases hnot

theorem keeps_revokeSession (failure : Option String) (id' : String) :
    Keeps (Does id userID (.revoke failure id')) (Answers id (.revoke failure id')) []
      (revokeSession failure id') := by
  have hstore : Keeps (Does id userID (.revoke failure id')) (fun later _ => ∃ w, later = [w]) []
      (storeDelete id') := by
    refine keeps_modify (fun w => ?_) fun w => ⟨w, rfl⟩
    refine ⟨fun v hv => .inl (inStore_delete hv).1, fun _ => .inl, ?_, nofun⟩
    intro hcovers _ _ v hv
    exact (inStore_delete hv).2 hcovers.symm
  refine keeps_bind hstore ?_
  intro later _ _ hlater
  obtain ⟨w₀, rfl⟩ := hlater
  refine keeps_bind (keeps_deleteRows ?_) ?_
  · intro s hcovers hid _
    exact decide_eq_true (hid.trans hcovers.symm)
  · intro later res _ hres
    cases res with
    | some e => exact keeps_pure nofun
    | none => exact keeps_pure fun _ => ⟨hres.2 rfl, hres.1⟩

theorem keeps_revokeAllSessions (env : Env) (failure : Option String) (userID' : String) :
    Keeps (Does id userID (.revokeAll failure userID')) (Answers id (.revokeAll failure userID')) []
      (revokeAllSessions env failure userID') := by
  have hstore : Keeps (Does id userID (.revokeAll failure userID'))
      (fun later _ => ∃ w, later = [w])
      [] (storeDeleteByUser env userID') := by
    refine keeps_modify (fun w => ?_) fun w => ⟨w, rfl⟩
    refine ⟨fun v hv => .inl (inStore_deleteByUser hv).1, fun _ => .inl, ?_, nofun⟩
    intro hcovers howned _ v hv
    obtain ⟨hin, hne⟩ := inStore_deleteByUser hv
    exact hne ((howned.store v hin).trans hcovers.symm)
  refine keeps_bind hstore ?_
  intro later _ _ hlater
  obtain ⟨w₀, rfl⟩ := hlater
  refine keeps_bind (keeps_deleteRows ?_) ?_
  · intro s hcovers _ huser
    exact decide_eq_true (huser.trans hcovers.symm)
  · intro later res _ hres
    cases res with
    | some e => exact keeps_pure nofun
    | none => exact keeps_pure fun _ => ⟨hres.2 rfl, hres.1⟩

theorem keeps_handle (env : Env) (r : Request) :
    Keeps (Does id userID r) (Answers id r) [] (handle env r) := by
  cases r with
  | create failure id' userID' ipAddress userAgent =>
    exact keeps_createSession env failure id' userID' ipAddress userAgent
  | validate failure id' => exact keeps_validateSession failure id'
  | revoke failure id' => exact keeps_revokeSession failure id'
  | revokeAll failure userID' => exact keeps_revokeAllSessions env failure userID'

end Outpost.SessionManager
