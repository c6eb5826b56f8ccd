import Mathlib.Data.List.Induction
import Outpost.Shared.GoMap

/-!
# The health of site-to-site peers

`HealthTracker` updates the entry of a peer with each report. The entry is a function of
the reports about the peer alone: the keys are joined texts, which do not collide as long
as the ids have no separator in them.
-/

namespace Outpost.S2SHealth

structure PeerID where
  (tunnelID gatewayID remoteGatewayID : String)
deriving DecidableEq

def PeerID.key (peer : PeerID) : String :=
  peer.tunnelID ++ ":" ++ peer.gatewayID ++ ":" ++ peer.remoteGatewayID

/-- Times are instants of the host clock; the zero time is `0`. -/
structure PeerHealth where
  (gatewayID remoteGateway tunnelID : String)
  isHealthy : Bool
  latencyMs : Int64
  (lastCheck lastHealthy : Int)
  failCount : Int64
deriving DecidableEq

structure HealthTracker where
  peers : GoMap String PeerHealth
  unhealthyThreshold : Int64

def newHealthTracker (unhealthyThreshold : Int64) : HealthTracker :=
  ⟨∅, if unhealthyThreshold ≤ 0 then 3 else unhealthyThreshold⟩

structure Report where
  peer : PeerID
  isReachable : Bool
  latencyMs : Int64
  (checkedAt healthyAt : Int)

def newPeerHealth (peer : PeerID) : PeerHealth :=
  ⟨peer.gatewayID, peer.remoteGatewayID, peer.tunnelID, false, 0, 0, 0, 0⟩

def PeerHealth.record (ph : PeerHealth) (unhealthyThreshold : Int64) (r : Report) : PeerHealth :=
  let ph := { ph with lastCheck := r.checkedAt, latencyMs := r.latencyMs }
  if r.isReachable then
    { ph with isHealthy := true, lastHealthy := r.healthyAt, failCount := 0 }
  else
    -- the count wraps around; the flag is off long before
    let ph := { ph with failCount := ph.failCount + 1 }
    if unhealthyThreshold ≤ ph.failCount then { ph with isHealthy := false } else ph

def report (ht : HealthTracker) (r : Report) : HealthTracker :=
  let ph := (ht.peers.lookup r.peer.key).getD (newPeerHealth r.peer)
  { ht with peers := ht.peers.insert r.peer.key (ph.record ht.unhealthyThreshold r) }

def getHealth (order : RangeOrder (String × PeerHealth)) (ht : HealthTracker) (tunnelID : String) :
    List PeerHealth :=
  ((order.visit (GoMap.pairs ht.peers)).map Prod.snd).filter fun ph => ph.tunnelID = tunnelID

def isHealthy (ht : HealthTracker) (peer : PeerID) : Bool :=
  match ht.peers.lookup peer.key with
  | none => false
  | some ph => ph.isHealthy

def failures (own : List Report) : Nat :=
  (own.reverse.takeWhile fun r => !r.isReachable).length

def HealthyAfter (unhealthyThreshold : Int64) (own : List Report) : Prop :=
  (∃ r ∈ own, r.isReachable = true) ∧ (failures own : Int) < unhealthyThreshold.toInt

instance (unhealthyThreshold : Int64) (own : List Report) :
    Decidable (HealthyAfter unhealthyThreshold own) := by
  unfold HealthyAfter
  infer_instance

def lastSuccess (own : List Report) : Option Report :=
  (own.filter fun r => r.isReachable).getLast?

def healthOf (unhealthyThreshold : Int64) (peer : PeerID) (own : List Report) : PeerHealth where
  gatewayID := peer.gatewayID
  remoteGateway := peer.remoteGatewayID
  tunnelID := peer.tunnelID
  isHealthy := HealthyAfter unhealthyThreshold own
  latencyMs := (own.getLast?.map Report.latencyMs).getD 0
  lastCheck := (own.getLast?.map Report.checkedAt).getD 0
  lastHealthy := ((lastSuccess own).map Report.healthyAt).getD 0
  failCount := Int64.ofNat (failures own)

section Record

variable {unhealthyThreshold : Int64} {own : List Report} {r : Report}

theorem failures_success (h : r.isReachable = true) : failures (own ++ [r]) = 0 := by
  simp [failures, h]

theorem failures_failure (h : r.isReachable = false) :
    failures (own ++ [r]) = failures own + 1 := by
  simp [failures, h]

theorem healthyAfter_success (hpos : 0 < unhealthyThreshold.toInt) (h : r.isReachable = true) :
    HealthyAfter unhealthyThreshold (own ++ [r]) := by
  refine ⟨⟨r, by simp, h⟩, ?_⟩
  rw [failures_success h]
  exact hpos

theorem healthyAfter_failure (h : r.isReachable = false) :
    HealthyAfter unhealthyThreshold (own ++ [r]) ↔ HealthyAfter unhealthyThreshold own ∧
      ¬ unhealthyThreshold ≤ Int64.ofNat (failures own) + 1 := by
  have hsuccess : (∃ s ∈ own ++ [r], s.isReachable = true) ↔ ∃ s ∈ own, s.isReachable = true := by
    simp [h]
  have hlt := unhealthyThreshold.toInt_lt
  have hcount : Int64.ofNat (failures own) + 1 = Int64.ofNat (failures own + 1) :=
    (Int64.ofNat_add _ 1).symm
  unfold HealthyAfter
  rw [hsuccess, failures_failure h, hcount, Int64.le_iff_toInt_le, and_assoc]
  apply and_congr_right
  -- a count that does not fit has passed every threshold before
  by_cases hfits : failures own + 1 < 2 ^ 63
  · rw [Int64.toInt_ofNat_of_lt hfits]
    omega
  · omega

theorem record_healthOf (hpos : 0 < unhealthyThreshold.toInt) (peer : PeerID) :
    (healthOf unhealthyThreshold peer own).record unhealthyThreshold r =
      healthOf unhealthyThreshold peer (own ++ [r]) := by
  unfold PeerHealth.record
  by_cases h : r.isReachable = true
  · have hlast : lastSuccess (own ++ [r]) = some r := by simp [lastSuccess, h]
    have hhealthy : HealthyAfter unhealthyThreshold (own ++ [r]) := healthyAfter_success hpos h
    simp [healthOf, h, hlast, failures_success h, hhealthy]
  · rw [Bool.not_eq_true] at h
    have hlast : lastSuccess (own ++ [r]) = lastSuccess own := by simp [lastSuccess, h]
    have hhealthy : HealthyAfter unhealthyThreshold (own ++ [r]) ↔ _ := healthyAfter_failure h
    by_cases hle : unhealthyThreshold ≤ Int64.ofNat (failures own) + 1
    · simp [healthOf, h, hlast, failures_failure h, hhealthy, hle]
    · simp [healthOf, h, hlast, failures_failure h, hhealthy, hle]

end Record

def PeerID.Plain (peer : PeerID) : Prop :=
  ':' ∉ peer.tunnelID.toList ∧ ':' ∉ peer.gatewayID.toList ∧ ':' ∉ peer.remoteGatewayID.toList

instance (peer : PeerID) : Decidable peer.Plain := by
  unfold PeerID.Plain
  infer_instance

theorem toList_key (peer : PeerID) : peer.key.toList = [':'].intercalate
    [peer.tunnelID.toList, peer.gatewayID.toList, peer.remoteGatewayID.toList] := by
  simp [PeerID.key]

theorem PeerID.Plain.splitOn_key {peer : PeerID} (h : peer.Plain) : peer.key.toList.splitOn ':' =
    [peer.tunnelID.toList, peer.gatewayID.toList, peer.remoteGatewayID.toList] := by
  rw [toList_key]
  apply List.splitOn_intercalate
  · simp only [List.mem_cons, List.not_mem_nil, or_false, forall_eq_or_imp, forall_eq]
    exact h
  · simp

theorem plain_iff_count (peer : PeerID) : peer.Plain ↔ peer.key.toList.count ':' = 2 := by
  have hcount : peer.key.toList.count ':' = peer.tunnelID.toList.count ':' +
      peer.gatewayID.toList.count ':' + peer.remoteGatewayID.toList.count ':' + 2 := by
    simp only [PeerID.key, String.toList_append, List.count_append]
    have hsep : (":" : String).toList.count ':' = 1 := rfl
    omega
  rw [PeerID.Plain, ← List.count_eq_zero, ← List.count_eq_zero, ← List.count_eq_zero]
  omega

theorem PeerID.Plain.key_inj {peer other : PeerID} (h : peer.Plain) (heq : peer.key = other.key) :
    peer = other := by
  have hother : other.Plain := by
    rw [plain_iff_count] at h ⊢
    rw [← heq]
    exact h
  have hsplit := h.splitOn_key
  rw [heq, hother.splitOn_key] at hsplit
  injection hsplit with ht hrest
  injection hrest with hg hrest
  injection hrest with hr _
  rw [PeerID.mk.injEq]
  exact ⟨(String.toList_inj.mp ht).symm, (String.toList_inj.mp hg).symm,
    (String.toList_inj.mp hr).symm⟩

def reported (unhealthyThreshold : Int64) (reports : List Report) : HealthTracker :=
  reports.foldl report (newHealthTracker unhealthyThreshold)

def about (peer : PeerID) (reports : List Report) : List Report :=
  reports.filter fun r => r.peer = peer

section Reported

variable {threshold : Int64} {reports : List Report} {r : Report} {peer : PeerID}

theorem newHealthTracker_threshold (threshold : Int64) :
    (newHealthTracker threshold).unhealthyThreshold.toInt =
      if threshold.toInt ≤ 0 then 3 else threshold.toInt := by
  have hle : threshold ≤ 0 ↔ threshold.toInt ≤ 0 := Int64.le_iff_toInt_le
  unfold newHealthTracker
  by_cases h : threshold ≤ 0
  · rw [if_pos h, if_pos (hle.mp h)]
    rfl
  · rw [if_neg h, if_neg (hle.not.mp h)]

theorem newHealthTracker_threshold_pos (threshold : Int64) :
    0 < (newHealthTracker threshold).unhealthyThreshold.toInt := by
  rw [newHealthTracker_threshold]
  split
  · decide
  · omega

theorem reported_append (threshold : Int64) (reports : List Report) (r : Report) :
    reported threshold (reports ++ [r]) = report (reported threshold reports) r :=
  List.foldl_concat _ _ _ _

theorem reported_threshold (threshold : Int64) (reports : List Report) :
    (reported threshold reports).unhealthyThreshold =
      (newHealthTracker threshold).unhealthyThreshold := by
  induction reports using List.reverseRecOn with
  | nil => rfl
  | append_singleton reports r ih =>
    rw [reported_append]
    exact ih

theorem about_append_self (h : r.peer = peer) :
    about peer (reports ++ [r]) = about peer reports ++ [r] := by
  simp [about, h]

theorem about_append_ne (h : r.peer ≠ peer) : about peer (reports ++ [r]) = about peer reports := by
  simp [about, h]

theorem lookup_reported (plain : ∀ r ∈ reports, r.peer.Plain) (peer : PeerID) :
    (reported threshold reports).peers.lookup peer.key =
      if about peer reports = [] then none
      else some (healthOf (newHealthTracker threshold).unhealthyThreshold peer
        (about peer reports)) := by
  induction reports using List.reverseRecOn with
  | nil => rfl
  | append_singleton reports r ih =>
    have hreports := ih fun s hs => plain s (List.mem_append_left _ hs)
    have hr : r.peer.Plain := plain r (by simp)
    rw [reported_append]
    by_cases h : r.peer = peer
    · subst h
      have hentry : ((reported threshold reports).peers.lookup r.peer.key).getD
          (newPeerHealth r.peer) = healthOf (newHealthTracker threshold).unhealthyThreshold r.peer
            (about r.peer reports) := by
        rw [hreports]
        by_cases hnil : about r.peer reports = []
        · rw [hnil]
          rfl
        · rw [if_neg hnil]
          rfl
      unfold report
      rw [AList.lookup_insert, hentry, reported_threshold,
        record_healthOf (newHealthTracker_threshold_pos threshold), about_append_self rfl,
        if_neg (by simp)]
    · have hkey : peer.key ≠ r.peer.key := by
        intro heq
        exact h (hr.key_inj heq.symm)
      rw [about_append_ne h, ← hreports]
      exact AList.lookup_insert_ne hkey

theorem isHealthy_reported (plain : ∀ r ∈ reports, r.peer.Plain) (peer : PeerID) :
    isHealthy (reported threshold reports) peer = true ↔
      HealthyAfter (newHealthTracker threshold).unhealthyThreshold (about peer reports) := by
  unfold isHealthy
  rw [lookup_reported plain]
  by_cases h : about peer reports = []
  · simp [h, HealthyAfter]
  · simp [h, healthOf]

end Reported

/-- A peer is healthy after a success, until the threshold of failures is reached, whatever is
reported about others. -/
theorem isHealthy_reported_iff (threshold : Int64) {reports : List Report}
    (plain : ∀ r ∈ reports, r.peer.Plain) (peer : PeerID) :
    (isHealthy (reported threshold reports) peer = true ↔
      (∃ r ∈ reports, r.peer = peer ∧ r.isReachable = true) ∧
        (failures (about peer reports) : Int) <
          if threshold.toInt ≤ 0 then 3 else threshold.toInt) ∧
    isHealthy (reported threshold reports) peer =
      isHealthy (reported threshold (about peer reports)) peer := by
  constructor
  · rw [isHealthy_reported plain, HealthyAfter, newHealthTracker_threshold]
    simp [about, and_assoc]
  · have hplain : ∀ r ∈ about peer reports, r.peer.Plain :=
      fun r hr => plain r (List.mem_of_mem_filter hr)
    have hsame : about peer (about peer reports) = about peer reports := by
      simp [about]
    rw [Bool.eq_iff_iff, isHealthy_reported plain, isHealthy_reported hplain, hsame]

def flapping : List Report :=
  [⟨⟨"t1", "a", "b"⟩, true, 5, 10, 10⟩, ⟨⟨"t1", "a", "b"⟩, false, 0, 20, 20⟩,
    ⟨⟨"t1", "b", "a"⟩, false, 0, 25, 25⟩, ⟨⟨"t1", "a", "b"⟩, false, 0, 30, 30⟩]

theorem flapping_peer_is_healthy : failures (about ⟨"t1", "a", "b"⟩ flapping) = 2 ∧
    isHealthy (reported 0 flapping) ⟨"t1", "a", "b"⟩ = true :=
  ⟨by decide, (isHealthy_reported_iff 0 (by decide) ⟨"t1", "a", "b"⟩).1.mpr (by decide)⟩

end Outpost.S2SHealth
