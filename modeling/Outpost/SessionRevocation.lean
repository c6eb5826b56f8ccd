import Outpost.SessionManager
import Outpost.Shared.Schedules

/-!
# Revoked sessions

A revocation clears the store first and the table after it. A call that has read the session
before, or is about to write it, puts it back into the store.
-/

namespace Outpost.SessionManager

open Interleaving Runs

abbrev Server := Pool State Request (Except String Reply)

abbrev Happening := Event State Request (Except String Reply)

def Other (w w' : State) : Prop :=
  ∀ id userID, (w'.InStore id userID → w.InStore id userID) ∧
    (w'.InRows id userID → w.InRows id userID)

def Request.Touches (id : String) : Request → Prop
  | .create _ id' _ _ _ => id' = id
  | .validate _ id' => id' = id
  | _ => False

def Quiet (id : String) (p : Server) : Prop :=
  ∀ n request rest, p.threads n = .running request rest → ¬ request.Touches id

/-- The calls of the session keep apart from the revocation `r`, and it is created, for its user,
before. -/
def Apart (id userID : String) (r : Nat) (p : Server) : Happening → Prop
  | .start _ (.create _ id' userID' _ _) => id' = id → userID' = userID ∧ p.threads r = .unused
  | .start _ (.validate _ id') => id' = id → ∀ request rest, p.threads r ≠ .running request rest
  | .start n _ => n = r → Quiet id p
  | _ => True

def Blind (id : String) (past : List Happening) (p : Server) : Prop :=
  ∀ n request rest, p.threads n = .running request rest → request.Touches id →
    (∃ failure, request = .validate failure id) ∧ ∀ w ∈ seen n past, w.Gone id

structure Inv (id userID : String) (r : Nat) (past : List Happening) (p : Server) : Prop where
  threads : ∀ n, Accounted (Does id userID) (Answers id) past n (p.threads n)
  owned : p.shared.Owned id userID
  found : ∀ n w, .act n w ∈ past → w.Owned id userID
  creator : ∀ n failure userID' ipAddress userAgent,
    (p.threads n).request = some (.create failure id userID' ipAddress userAgent) →
    userID' = userID
  revoking : ∀ request rest, p.threads r = .running request rest → request.Covers id userID →
    Quiet id p ∧ (1 ≤ (seen r past).length → ∀ v, ¬ p.shared.InStore id v) ∧
      (2 ≤ (seen r past).length → request.failure = none → ∀ v, ¬ p.shared.InRows id v)
  revoked : ∀ request, p.threads r = .answered request (.ok .revoked) →
    request.Covers id userID → p.shared.Gone id ∧ Blind id past p

section Steps

variable {env : Env} {id userID : String} {r : Nat} {past : List Happening} {p q : Server}
variable {e : Happening}

def Sourced (id : String) (past : List Happening) (p : Server) (v : String) : Prop :=
  ∃ n request rest, p.threads n = .running request rest ∧ request.Source id (seen n past) v

variable {request : Request}

theorem touches_of_source {seen : List State} {v : String}
    (h : request.Source id seen v) : request.Touches id := by
  cases request with
  | revoke _ _ => exact h
  | revokeAll _ _ => exact h
  | _ => exact h.1

theorem not_sourced_of_quiet (h : Quiet id p) (v : String) : ¬ Sourced id past p v := by
  intro ⟨n, request, rest, hrunning, hsource⟩
  exact h n request rest hrunning (touches_of_source hsource)

theorem not_sourced_of_blind (h : Blind id past p) (v : String) : ¬ Sourced id past p v := by
  intro ⟨n, request, rest, hrunning, hsource⟩
  obtain ⟨⟨failure, rfl⟩, hgone⟩ := h n request rest hrunning (touches_of_source hsource)
  obtain ⟨_, w, hw, hrows⟩ := hsource
  exact (hgone w hw).rows v hrows

theorem sourced_of_step (hstep : Step (handle env) Other p e q)
    (h : ∀ n, Accounted (Does id userID) (Answers id) past n (p.threads n)) (v : String) :
    (q.shared.InStore id v → p.shared.InStore id v ∨ Sourced id past p v) ∧
      (q.shared.InRows id v → p.shared.InRows id v ∨ Sourced id past p v) := by
  cases hstep with
  | @act n request update next hrunning =>
    have hn := h n
    rw [hrunning] at hn
    have hdoes := (hn.2 p.shared).1
    constructor
    · intro hin
      exact (hdoes.store v hin).imp_right fun hsource => ⟨n, request, _, hrunning, hsource⟩
    · intro hin
      exact (hdoes.rows v hin).imp_right fun hsource => ⟨n, request, _, hrunning, hsource⟩
  | other hother => exact ⟨fun h => .inl ((hother id v).1 h), fun h => .inl ((hother id v).2 h)⟩
  | _ => exact ⟨.inl, .inl⟩

variable {rest : Prog State (Except String Reply)}

theorem quiet_step (hstep : Step (handle env) Other p e q) (hapart : Apart id userID r p e)
    (hquiet : Quiet id p) (hr : p.threads r = .running request rest) : Quiet id q := by
  intro n request' rest' hn
  rcases running_of_step hstep hn with ⟨rest₀, hp⟩ | he
  · exact hquiet n request' rest₀ hp
  · rw [he] at hapart
    cases request' with
    | create _ id' _ _ _ =>
      intro hid
      cases hr.symm.trans (hapart hid).2
    | validate _ id' =>
      intro hid
      exact hapart hid request rest hr
    | revoke _ _ => exact fun h => h
    | revokeAll _ _ => exact fun h => h

theorem not_touches_of_covers (h : request.Covers id userID) : ¬ request.Touches id := by
  cases request with
  | create _ _ _ _ _ => exact h.elim
  | validate _ _ => exact h.elim
  | _ => exact fun h => h

theorem quiet_start (hstep : Step (handle env) Other p (.start r request) q)
    (hapart : Apart id userID r p (.start r request)) (hcovers : request.Covers id userID) :
    Quiet id q := by
  have hquiet : Quiet id p := by
    cases request with
    | revoke _ _ => exact hapart rfl
    | revokeAll _ _ => exact hapart rfl
    | _ => exact hcovers.elim
  intro n request' rest' hn
  rcases running_of_step hstep hn with ⟨rest₀, hp⟩ | he
  · exact hquiet n request' rest₀ hp
  · cases he
    exact not_touches_of_covers hcovers

theorem answers_of_covers {seen : List State}
    (h : Answers id request seen (.ok .revoked)) (hcovers : request.Covers id userID) :
    request.failure = none ∧ seen.length = 2 := by
  cases request with
  | revoke _ _ => exact h rfl
  | revokeAll _ _ => exact h rfl
  | _ => exact hcovers.elim

section Kept

variable (hstep : Step (handle env) Other p e q) (hapart : Apart id userID r p e)
  (h : Inv id userID r past p)
include hstep h

theorem owned_step : q.shared.Owned id userID := by
  have hsourced : ∀ v, Sourced id past p v → v = userID := by
    intro v ⟨n, request, rest, hrunning, hsource⟩
    cases request with
    | create failure id' userID' ipAddress userAgent =>
      obtain ⟨rfl, rfl⟩ := hsource
      exact h.creator n failure _ ipAddress userAgent (by rw [hrunning]; rfl)
    | validate failure id' =>
      obtain ⟨_, w, hw, hrows⟩ := hsource
      exact (h.found n w (mem_seen.mp hw)).rows v hrows
    | revoke _ _ => exact hsource.elim
    | revokeAll _ _ => exact hsource.elim
  constructor
  · intro v hin
    exact ((sourced_of_step hstep h.threads v).1 hin).elim (h.owned.store v) (hsourced v)
  · intro v hin
    exact ((sourced_of_step hstep h.threads v).2 hin).elim (h.owned.rows v) (hsourced v)

include hapart in
theorem creator_step (n : Nat) (failure : Option String) (userID' ipAddress userAgent : String)
    (hn : (q.threads n).request = some (.create failure id userID' ipAddress userAgent)) :
    userID' = userID := by
  cases moves_of_step past hstep n with
  | stays hthread _ =>
    rw [hthread] at hn
    exact h.creator n _ _ _ _ hn
  | starts he _ hthread _ _ =>
    rw [hthread] at hn
    obtain rfl := Option.some.inj hn
    rw [he] at hapart
    exact (hapart rfl).1
  | acts _ hrunning hthread _ _ =>
    refine h.creator n failure userID' ipAddress userAgent ?_
    rw [hthread] at hn
    rw [hrunning]
    exact hn
  | answers _ hrunning hthread _ _ =>
    refine h.creator n failure userID' ipAddress userAgent ?_
    rw [hthread] at hn
    rw [hrunning]
    exact hn

include hapart in
theorem revoking_step (hr : q.threads r = .running request rest)
    (hcovers : request.Covers id userID) :
    Quiet id q ∧ (1 ≤ (seen r (past ++ [e])).length → ∀ v, ¬ q.shared.InStore id v) ∧
      (2 ≤ (seen r (past ++ [e])).length → request.failure = none →
        ∀ v, ¬ q.shared.InRows id v) := by
  have hstays : Quiet id p → (∀ v, ¬ p.shared.InStore id v) → ∀ v, ¬ q.shared.InStore id v := by
    intro hquiet hnot v hin
    exact ((sourced_of_step hstep h.threads v).1 hin).elim (hnot v) (not_sourced_of_quiet hquiet v)
  have hstays' : Quiet id p → (∀ v, ¬ p.shared.InRows id v) → ∀ v, ¬ q.shared.InRows id v := by
    intro hquiet hnot v hin
    exact ((sourced_of_step hstep h.threads v).2 hin).elim (hnot v) (not_sourced_of_quiet hquiet v)
  have hn := h.threads r
  cases moves_of_step past hstep r with
  | stays hthread hseen =>
    rw [hthread] at hr
    obtain ⟨hquiet, hstore, hrows⟩ := h.revoking request rest hr hcovers
    rw [hseen]
    refine ⟨quiet_step hstep hapart hquiet hr, ?_, ?_⟩
    · exact fun hlength => hstays hquiet (hstore hlength)
    · exact fun hlength hfailure => hstays' hquiet (hrows hlength hfailure)
  | starts he hunused hthread _ hseen =>
    cases hthread.symm.trans hr
    rw [hunused] at hn
    rw [hseen, show seen r past = [] from hn]
    rw [he] at hstep hapart
    exact ⟨quiet_start hstep hapart hcovers, nofun, nofun⟩
  | acts he hrunning hthread hshared hseen =>
    cases hthread.symm.trans hr
    obtain ⟨hquiet, hstore, hrows⟩ := h.revoking request _ hrunning hcovers
    rw [hrunning] at hn
    have hdoes := (hn.2 p.shared).1
    rw [hseen, List.length_append, List.length_singleton]
    refine ⟨quiet_step hstep hapart hquiet hrunning, ?_, ?_⟩
    · intro _
      by_cases hnil : seen r past = []
      · rw [hshared]
        exact hdoes.clears hcovers h.owned hnil
      · exact hstays hquiet (hstore (List.length_pos_iff.mpr hnil))
    · intro hlength hfailure
      by_cases hone : (seen r past).length = 1
      · rw [hshared]
        exact hdoes.deletes hcovers h.owned hone hfailure
      · exact hstays' hquiet (hrows (by omega) hfailure)
  | answers _ _ hthread _ _ => cases hthread.symm.trans hr

theorem gone_step (hgone : p.shared.Gone id) (hblind : Blind id past p) : q.shared.Gone id := by
  constructor
  · intro v hin
    exact ((sourced_of_step hstep h.threads v).1 hin).elim (hgone.store v)
      (not_sourced_of_blind hblind v)
  · intro v hin
    exact ((sourced_of_step hstep h.threads v).2 hin).elim (hgone.rows v)
      (not_sourced_of_blind hblind v)

include hapart in
theorem blind_step (hgone : p.shared.Gone id) (hblind : Blind id past p)
    {answer : Except String Reply} (hr : p.threads r = .answered request answer) :
    Blind id (past ++ [e]) q := by
  intro n request' rest' hn htouches
  cases moves_of_step past hstep n with
  | stays hthread hseen =>
    rw [hthread] at hn
    rw [hseen]
    exact hblind n request' rest' hn htouches
  | starts he hunused hthread _ hseen =>
    cases hthread.symm.trans hn
    have hthread := h.threads n
    rw [hunused] at hthread
    rw [hseen, show seen n past = [] from hthread]
    rw [he] at hapart
    cases request' with
    | create _ _ _ _ _ => cases hr.symm.trans (hapart htouches).2
    | validate failure _ => exact ⟨⟨failure, by rw [htouches]⟩, nofun⟩
    | revoke _ _ => exact htouches.elim
    | revokeAll _ _ => exact htouches.elim
  | acts _ hrunning hthread _ hseen =>
    cases hthread.symm.trans hn
    obtain ⟨hvalidate, hfound⟩ := hblind n request' _ hrunning htouches
    refine ⟨hvalidate, ?_⟩
    rw [hseen]
    intro w hw
    rcases List.mem_append.mp hw with hw | hw
    · exact hfound w hw
    · rw [List.mem_singleton.mp hw]
      exact hgone
  | answers _ _ hthread _ _ => cases hthread.symm.trans hn

include hapart in
theorem revoked_step (hr : q.threads r = .answered request (.ok .revoked))
    (hcovers : request.Covers id userID) :
    q.shared.Gone id ∧ Blind id (past ++ [e]) q := by
  cases moves_of_step past hstep r with
  | stays hthread hseen =>
    rw [hthread] at hr
    obtain ⟨hgone, hblind⟩ := h.revoked request hr hcovers
    exact ⟨gone_step hstep h hgone hblind, blind_step hstep hapart h hgone hblind hr⟩
  | starts _ _ hthread _ _ => cases hthread.symm.trans hr
  | acts _ _ hthread _ _ => cases hthread.symm.trans hr
  | answers he hrunning hthread hshared hseen =>
    cases hthread.symm.trans hr
    obtain ⟨hquiet, hstore, hrows⟩ := h.revoking request _ hrunning hcovers
    have hn := h.threads r
    rw [hrunning] at hn
    obtain ⟨hfailure, hlength⟩ := answers_of_covers hn.2 hcovers
    constructor
    · rw [hshared]
      exact ⟨hstore (by omega), hrows (by omega) hfailure⟩
    · intro n request' rest' hn htouches
      exact absurd htouches (quiet_step hstep hapart hquiet hrunning n request' rest' hn)

include hapart in
theorem inv_step : Inv id userID r (past ++ [e]) q where
  threads := accounted_step (keeps_handle env) hstep h.threads
  owned := owned_step hstep h
  found := by
    intro n w hact
    rcases List.mem_append.mp hact with hact | hact
    · exact h.found n w hact
    · obtain rfl := List.mem_singleton.mp hact
      cases hstep with
      | act _ => exact h.owned
  creator := creator_step hstep hapart h
  revoking := fun _ _ => revoking_step hstep hapart h
  revoked := fun _ => revoked_step hstep hapart h

end Kept

theorem inv_run {events : List Happening} (hunused : ∀ n, p.threads n = .unused)
    (howned : p.shared.Owned id userID)
    (hrun : Run (Guarded (Step (handle env) Other) (Apart id userID r)) p events q) :
    Inv id userID r events q := by
  refine hrun.history (I := Inv id userID r) (fun past s e t hstep => inv_step hstep.1 hstep.2) ?_
  constructor
  · intro n
    rw [hunused n]
    rfl
  · exact howned
  · exact fun n w hact => absurd hact List.not_mem_nil
  · intro n failure userID' ipAddress userAgent hn
    rw [hunused n] at hn
    cases hn
  · intro request rest hr
    cases (hunused r).symm.trans hr
  · intro request hr
    cases (hunused r).symm.trans hr

end Steps

def sampleEnv : Env := ⟨3600, .asListed⟩

def overlapping : List (Move State Request) :=
  [.start 0 (.validate none "s"), .act 0 2, .start 1 (.revoke none "s"), .finish 1]

def fresh : Server where
  shared := ⟨⟨∅⟩, [], 0, by decide⟩
  threads := fun _ => .unused

def inTurn : List (Move State Request) :=
  [.start 0 (.create none "s" "carol" "" ""), .finish 0, .start 1 (.revokeAll none "carol"),
    .finish 1]

end Outpost.SessionManager
