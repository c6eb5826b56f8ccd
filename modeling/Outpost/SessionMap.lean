import Outpost.SessionStore

/-!
# What a session store is for

A map from ids to sessions with an expiry. A session is there until it is deleted or
expires, and `Touch` moves the expiry of a session that is there.
-/

namespace Outpost

open Function

inductive Call where
  | create (s : Session)
  | get (id : String)
  | delete (id : String)
  | deleteByUser (userID : String)
  | list (userID : String)
  | touch (id : String) (ttl : Int)

inductive Answer where
  | got (result : Option Session)
  | listed (sessions : List Session)
  | done

def Answer.Returns (s : Session) : Answer → Prop
  | .got result => result = some s
  | .listed sessions => s ∈ sessions
  | .done => False

abbrev SessionMap := String → Option Session

namespace SessionMap

def live (m : SessionMap) (now : Int) : SessionMap :=
  fun id => (m id).filter fun s => now < s.expiresAt

def create (m : SessionMap) (s : Session) : SessionMap := update m s.id (some s)

def delete (m : SessionMap) (id : String) : SessionMap := update m id none

def deleteByUser (m : SessionMap) (userID : String) : SessionMap :=
  fun id => (m id).filter fun s => s.userID ≠ userID

def touch (m : SessionMap) (now : Int) (id : String) (ttl : Int) : SessionMap :=
  match m.live now id with
  | none => m
  | some s => update m id (some { s with expiresAt := now + ttl })

def call (m : SessionMap) (now : Int) : Call → SessionMap
  | .create s => m.create s
  | .get _ => m
  | .delete id => m.delete id
  | .deleteByUser userID => m.deleteByUser userID
  | .list _ => m
  | .touch id ttl => m.touch now id ttl

/-- What the map lets a call answer; a list may be in any order. -/
def Answers (m : SessionMap) (now : Int) : Call → Answer → Prop
  | .get id, .got result => result = m.live now id
  | .list userID, .listed sessions => sessions.Nodup ∧
      ∀ s, s ∈ sessions ↔ ∃ id, m.live now id = some s ∧ s.userID = userID
  | .create _, .done => True
  | .delete _, .done => True
  | .deleteByUser _, .done => True
  | .touch _ _, .done => True
  | _, _ => False

variable {m m' : SessionMap} {now now' : Int} {id : String} {s : Session}

theorem live_eq_some : m.live now id = some s ↔ m id = some s ∧ now < s.expiresAt := by
  unfold live
  rw [Option.filter_eq_some_iff, decide_eq_true_eq]

theorem live_live (h : now ≤ now') : (m.live now).live now' = m.live now' := by
  ext s
  rw [live_eq_some, live_eq_some, live_eq_some]
  constructor
  · intro hs
    exact ⟨hs.1.1, hs.2⟩
  · intro hs
    exact ⟨⟨hs.1, Int.lt_of_le_of_lt h hs.2⟩, hs.2⟩

theorem live_update {value : Option Session} :
    live (update m id value) now =
      live (update (m.live now) id value) now := by
  funext id'
  by_cases h : id' = id
  · simp [live, h]
  · rw [live, live, update_of_ne h, update_of_ne h]
    exact (congrFun (live_live (m := m) (Int.le_refl now)) id').symm

theorem live_delete_of_none (h : m.live now id = none) : (m.delete id).live now = m.live now := by
  funext id'
  by_cases hid : id' = id
  · rw [hid, h]
    simp [live, delete]
  · simp [live, delete, hid]

theorem live_deleteByUser {userID : String} :
    (m.deleteByUser userID).live now = ((m.live now).deleteByUser userID).live now := by
  ext s
  simp only [live, deleteByUser, Option.filter_eq_some_iff]
  constructor
  · intro hs
    exact ⟨⟨⟨hs.1.1, hs.2⟩, hs.1.2⟩, hs.2⟩
  · intro hs
    exact ⟨⟨hs.1.1.1, hs.1.2⟩, hs.2⟩

theorem live_call (c : Call) : (m.call now c).live now = ((m.live now).call now c).live now := by
  have hlive : (m.live now).live now = m.live now := live_live (Int.le_refl now)
  cases c with
  | get id => exact hlive.symm
  | deleteByUser userID => exact live_deleteByUser
  | list userID => exact hlive.symm
  | touch id ttl =>
    simp only [call, touch, hlive]
    cases m.live now id with
    | none => exact hlive.symm
    | some s => exact live_update
  | _ => exact live_update

theorem live_call_congr (h : m.live now = m'.live now) (c : Call) :
    (m.call now c).live now = (m'.call now c).live now := by
  rw [live_call, h, ← live_call]

variable {c : Call} {a : Answer}

theorem answers_congr (h : m.live now = m'.live now) (ha : m.Answers now c a) :
    m'.Answers now c a := by
  unfold Answers at ha ⊢
  rw [← h]
  exact ha

theorem exists_of_returns (ha : m.Answers now c a) (hs : a.Returns s) :
    ∃ id, m id = some s := by
  cases c with
  | get id =>
    cases a with
    | got result =>
      have hlive : m.live now id = some s := ha.symm.trans hs
      exact ⟨id, (live_eq_some.mp hlive).1⟩
    | listed _ => exact ha.elim
    | done => exact hs.elim
  | list userID =>
    cases a with
    | listed sessions =>
      obtain ⟨id, hlive, _⟩ := (ha.2 s).mp hs
      exact ⟨id, (live_eq_some.mp hlive).1⟩
    | got _ => exact ha.elim
    | done => exact hs.elim
  | _ =>
    cases a with
    | done => exact hs.elim
    | _ => exact ha.elim

theorem call_none_of_user {userID : String} (h : ∀ id s, m id = some s → s.userID ≠ userID)
    (hc : ∀ s, c = .create s → s.userID ≠ userID) :
    ∀ id s, m.call now c id = some s → s.userID ≠ userID := by
  intro id s hs
  cases c with
  | create s' =>
    simp only [call, create, update_apply] at hs
    split at hs
    · obtain rfl := Option.some.inj hs
      exact hc s' rfl
    · exact h id s hs
  | get id' => exact h id s hs
  | delete id' =>
    simp only [call, delete, update_apply] at hs
    split at hs
    · cases hs
    · exact h id s hs
  | deleteByUser userID' => exact h id s (Option.filter_eq_some_iff.mp hs).1
  | list userID' => exact h id s hs
  | touch id' ttl =>
    cases hlive : m.live now id' with
    | none =>
      simp only [call, touch, hlive] at hs
      exact h id s hs
    | some s' =>
      simp only [call, touch, hlive, update_apply] at hs
      split at hs
      · obtain rfl := Option.some.inj hs
        exact h id' s' (live_eq_some.mp hlive).1
      · exact h id s hs

end SessionMap

end Outpost
