import Outpost.NetworkHandler
import Outpost.TrustScore

/-!
# Trust config, policies and posture reports

The handlers that change what ZTNA blocks, each followed by a refresh of the firewalls. Queries
succeed, and `RequireAdmin` stands before all of them but the report.
-/

namespace Outpost

inductive Refresh where
  | all
  | user (userID : Uuid)
deriving DecidableEq

namespace Refresh

open PeerNotifier

def calls (env : NotifyEnv) (db : Database) : Refresh → List HubCall
  | .all => refreshAllFirewalls env db
  | .user userID => refreshFirewallForUser env db userID

def Finds (db : Database) (gatewayID : Uuid) : Refresh → Prop
  | .all => some gatewayID ∈ db.activeGateways
  | .user userID => some gatewayID ∈ db.userGateways userID

theorem calls_eq {env : NotifyEnv} (reliable : env.Reliable) (db : Database) (refresh : Refresh) :
    ∃ gatewayIDs, refresh.calls env db = refreshFirewallForGateways env db gatewayIDs ∧
      ∀ gatewayID, gatewayID ∈ gatewayIDs ↔ refresh.Finds db gatewayID := by
  cases refresh with
  | _ => exact ⟨_, rfl, mem_scanGateways reliable _⟩

end Refresh

namespace Database

variable (db : Database)

def setTrustConfig (scale : TrustScoreScale) (config : TrustScoreConfig) : Database :=
  { db with trustScoreConfig := some config, trustScoreScale := scale }

def addPolicy (p : ZtnaPolicy) : Database :=
  { db with ztnaPolicies := db.ztnaPolicies ++ [p] }

def updatePolicy (id : Uuid) (f : ZtnaPolicy → ZtnaPolicy) : Database :=
  { db with ztnaPolicies := db.ztnaPolicies.map fun p => if p.id = id then f p else p }

def deletePolicy (id : Uuid) : Database :=
  { db with ztnaPolicies := db.ztnaPolicies.filter fun p => p.id ≠ id }

end Database

namespace ZtnaHandler

open TrustScore NetworkHandler

/-- The `conditions` of a request: left out (or null), no JSON, or a value, of which the evaluation
sees only what it unmarshals to. -/
inductive ConditionsField where
  | absent
  | invalid
  | value (conditions : Option PolicyConditions)
deriving DecidableEq

structure CreatePolicyRequest where
  name : String
  conditions : ConditionsField
  action : String
  networkIDs : Option (List Uuid)
  priority : Int
deriving DecidableEq

structure UpdatePolicyRequest where
  name : Option String
  isActive : Option Bool
  conditions : ConditionsField
  action : Option String
  networkIDs : Option (List Uuid)
  priority : Option Int
deriving DecidableEq

structure PostureReport where
  (deviceID osType osVersion : String)
  (diskEncrypted screenLockEnabled antivirusActive firewallEnabled : Bool)
deriving DecidableEq

variable (env : HandlerEnv) (db : Database)

def weights (scale : TrustScoreScale) : List Int :=
  [scale.weightDiskEncryption, scale.weightScreenLock, scale.weightAntivirus, scale.weightFirewall,
    scale.weightOSVersion, scale.weightMFA]

def thresholds (scale : TrustScoreScale) : List Int :=
  [scale.thresholdHigh, scale.thresholdMedium, scale.thresholdLow]

structure Balanced (scale : TrustScoreScale) : Prop where
  nonneg : ∀ w ∈ weights scale, 0 ≤ w
  sum_eq : (weights scale).sum = 100

/-- The sum is a Go `int`. -/
def checkScale (scale : TrustScoreScale) : Except HandlerError Unit :=
  if ∃ w ∈ weights scale, w < 0 then .error (badRequest "weights must not be negative")
  else if (weights scale).sum.bmod (2 ^ 64) ≠ 100 then
    .error (badRequest "component weights must sum to 100")
  else if scale.thresholdHigh ≤ scale.thresholdMedium ∨
      scale.thresholdMedium ≤ scale.thresholdLow then
    .error (badRequest "thresholds must be high > medium > low")
  else .ok ()

def updateTrustConfig (scale : TrustScoreScale) (config : TrustScoreConfig) :
    Except HandlerError (Database × Refresh) := do
  checkScale scale
  if (weights scale ++ thresholds scale).all fitsInt4 then
    .ok (db.setTrustConfig scale config, .all)
  else .error ⟨500, "failed to update trust config"⟩

def checkAction (action : String) : Except HandlerError Unit :=
  if action ≠ "allow" ∧ action ≠ "restrict" ∧ action ≠ "deny" then
    .error (badRequest "action must be allow, restrict, or deny")
  else .ok ()

def newPolicy (id : Uuid) (req : CreatePolicyRequest) : Option ZtnaPolicy :=
  match req.conditions with
  | .value conditions =>
    if fitsInt4 req.priority then
      some ⟨id, true, conditions, if req.action = "" then "allow" else req.action,
        req.networkIDs.getD [], req.priority, req.name⟩
    else none
  | _ => none

def createPolicy (id : Uuid) (req : CreatePolicyRequest) :
    Except HandlerError (Database × Refresh) := do
  checkRequired "name is required" req.name
  checkAction (if req.action = "" then "allow" else req.action)
  match newPolicy id req with
  | none => .error ⟨500, "failed to create policy"⟩
  | some p =>
    if ∃ q ∈ db.ztnaPolicies, q.id = id ∨ q.name = req.name then
      .error ⟨500, "failed to create policy"⟩
    else .ok (db.addPolicy p, .all)

/-- The `SET` list of the update: absent fields keep their value. -/
def UpdatePolicyRequest.set (req : UpdatePolicyRequest) (p : ZtnaPolicy) : ZtnaPolicy :=
  { p with
    isActive := req.isActive.getD p.isActive
    conditions := match req.conditions with
      | .value conditions => conditions
      | _ => p.conditions
    action := req.action.getD p.action
    networkIds := req.networkIDs.getD p.networkIds
    priority := req.priority.getD p.priority
    name := req.name.getD p.name }

def updatePolicy (id : Uuid) (req : UpdatePolicyRequest) :
    Except HandlerError (Database × Refresh) := do
  checkPresent checkAction req.action
  if req.conditions = .invalid ∨ ¬ req.priority.all fitsInt4 then
    .error ⟨500, "failed to update policy"⟩
  else match db.ztnaPolicies.find? fun p => p.id = id with
    | none => .error ⟨404, "policy not found"⟩
    | some p =>
      if ∃ q ∈ db.ztnaPolicies, q.id ≠ id ∧ q.name = (req.set p).name then
        .error ⟨500, "failed to update policy"⟩
      else .ok (db.updatePolicy id req.set, .all)

def deletePolicy (id : Uuid) : Except HandlerError (Database × Refresh) :=
  if ∃ p ∈ db.ztnaPolicies, p.id = id then .ok (db.deletePolicy id, .all)
  else .error ⟨404, "policy not found"⟩

def postureScore (scale : TrustScoreScale) (req : PostureReport) : Int :=
  (if req.diskEncrypted then scale.weightDiskEncryption else 0) +
  (if req.screenLockEnabled then scale.weightScreenLock else 0) +
  (if req.antivirusActive then scale.weightAntivirus else 0) +
  (if req.firewallEnabled then scale.weightFirewall else 0)

def postureRow (scale : TrustScoreScale) (deviceID : Uuid) (req : PostureReport) (checkedAt : Nat) :
    DevicePostureRow :=
  ⟨deviceID, req.diskEncrypted, req.screenLockEnabled, req.antivirusActive, req.firewallEnabled,
    checkedAt, postureScore scale req⟩

def recordPosture (deviceID : Uuid) (req : PostureReport) (checkedAt evaluatedAt : Nat) : Database :=
  let scale := loadTrustConfig db
  (calculate scale (db.addPosture (postureRow scale deviceID req checkedAt)) evaluatedAt deviceID).2

def reportPosture (claims : Claims) (req : PostureReport) (checkedAt evaluatedAt : Nat) :
    Except HandlerError (Database × Refresh) :=
  if req.deviceID = "" then .error (badRequest "device_id is required")
  else match env.parseUuid req.deviceID with
    | none => .error (badRequest "invalid device_id")
    | some deviceID =>
      if req.osType = "" then .error (badRequest "os_type is required")
      else match db.deviceByID deviceID with
        | none => .error ⟨404, "device not found"⟩
        | some d =>
          if d.userId ≠ claims.userID ∧ ¬ claims.isAdmin then
            .error ⟨403, "you can only report posture for your own devices"⟩
          else if ¬ fitsInt4 (postureScore (loadTrustConfig db) req) then
            .error ⟨500, "failed to save posture report"⟩
          else .ok (recordPosture db deviceID req checkedAt evaluatedAt, .user d.userId)

inductive Request where
  | updateTrustConfig (scale : TrustScoreScale) (config : TrustScoreConfig)
  | createPolicy (id : Uuid) (req : CreatePolicyRequest)
  | updatePolicy (id : Uuid) (req : UpdatePolicyRequest)
  | deletePolicy (id : Uuid)
  | reportPosture (claims : Claims) (req : PostureReport) (checkedAt evaluatedAt : Nat)
deriving DecidableEq

def handle : Request → Except HandlerError (Database × Refresh)
  | .updateTrustConfig scale config => updateTrustConfig db scale config
  | .createPolicy id req => createPolicy db id req
  | .updatePolicy id req => updatePolicy db id req
  | .deletePolicy id => deletePolicy db id
  | .reportPosture claims req checkedAt evaluatedAt =>
    reportPosture env db claims req checkedAt evaluatedAt

def Request.statement : Request → Database
  | .updateTrustConfig scale config => db.setTrustConfig scale config
  | .createPolicy id req => (newPolicy id req).elim db db.addPolicy
  | .updatePolicy id req => db.updatePolicy id req.set
  | .deletePolicy id => db.deletePolicy id
  | .reportPosture _ req checkedAt evaluatedAt =>
    (env.parseUuid req.deviceID).elim db fun id => recordPosture db id req checkedAt evaluatedAt

def Request.Refreshes (gatewayID : Uuid) : Request → Prop
  | .reportPosture _ req _ _ => ∃ d ∈ db.devices, env.parseUuid req.deviceID = some d.id ∧
      some gatewayID ∈ db.userGateways d.userId
  | _ => some gatewayID ∈ db.activeGateways

structure SameServing (db db' : Database) : Prop where
  users : db'.users = db.users
  devices : db'.devices = db.devices
  gateways : db'.gateways = db.gateways
  gatewayNetworks : db'.gatewayNetworks = db.gatewayNetworks

variable {env} {db}

variable {res : Database × Refresh}
variable {scale : TrustScoreScale} {config : TrustScoreConfig} {id : Uuid}

theorem updateTrustConfig_spec (h : updateTrustConfig db scale config = .ok res) :
    res = (db.setTrustConfig scale config, .all) := by
  obtain ⟨_, h⟩ := bind_ok h
  split at h
  · exact (Except.ok.inj h).symm
  · cases h

theorem balanced_of_accepted (h : updateTrustConfig db scale config = .ok res) :
    Balanced scale := by
  obtain ⟨_, hcheck, h⟩ := bind_eq_ok h
  unfold checkScale at hcheck
  split at hcheck
  · cases hcheck
  rename_i hnonneg
  split at hcheck
  · cases hcheck
  rename_i hsum
  have hweights : ∀ w ∈ weights scale, 0 ≤ w := by
    intro w hw
    by_contra hneg
    exact hnonneg ⟨w, hw, by omega⟩
  split at h
  · rename_i hfits
    refine ⟨hweights, ?_⟩
    simp only [List.all_append, Bool.and_eq_true, weights, List.all_cons, fitsInt4,
      decide_eq_true_eq] at hfits
    simp only [weights, List.sum_cons, List.sum_nil, not_not] at hsum ⊢
    rw [Int.bmod_eq_of_le (by omega) (by omega)] at hsum
    exact hsum
  · cases h

theorem score_bounds (h : Balanced scale) (p : DevicePostureRow) (mfaEnabled : Bool) (now : Nat)
    (deviceID : Uuid) :
    0 ≤ (evaluate scale p mfaEnabled now deviceID).score ∧
      (evaluate scale p mfaEnabled now deviceID).score ≤ 100 := by
  have hcomponent : ∀ name weight passed, 0 ≤ weight →
      0 ≤ (component name weight passed).score ∧ (component name weight passed).score ≤ weight := by
    intro name weight passed hweight
    cases passed
    · exact ⟨Int.le_refl 0, hweight⟩
    · exact ⟨hweight, Int.le_refl weight⟩
  have hnonneg := h.nonneg
  have hsum := h.sum_eq
  simp only [weights, List.forall_mem_cons] at hnonneg
  simp only [weights, List.sum_cons, List.sum_nil] at hsum
  have htotal : 0 ≤ totalScore ((checks scale p mfaEnabled).map Prod.fst) ∧
      totalScore ((checks scale p mfaEnabled).map Prod.fst) ≤ 100 := by
    simp only [totalScore, checks, List.map_cons, List.map_nil, List.sum_cons, List.sum_nil]
    have hdisk := hcomponent "disk_encryption" _ p.diskEncrypted hnonneg.1
    have hlock := hcomponent "screen_lock" _ p.screenLock hnonneg.2.1
    have hantivirus := hcomponent "antivirus" _ p.antivirus hnonneg.2.2.1
    have hfirewall := hcomponent "firewall" _ p.firewall hnonneg.2.2.2.1
    have hos := hcomponent "os_version" _ (75 ≤ p.score) hnonneg.2.2.2.2.1
    have hmfa := hcomponent "mfa" _ mfaEnabled hnonneg.2.2.2.2.2.1
    omega
  by_cases hstale : p.checkedAt + day < now
  · rw [evaluate, if_pos hstale, penalized, Int.tdiv_eq_ediv_of_nonneg (by omega)]
    dsimp only
    omega
  · rw [evaluate, if_neg hstale]
    exact htotal

theorem createPolicy_spec {req : CreatePolicyRequest} (h : createPolicy db id req = .ok res) :
    ∃ p, newPolicy id req = some p ∧ res = (db.addPolicy p, .all) := by
  obtain ⟨_, h⟩ := bind_ok h
  obtain ⟨_, h⟩ := bind_ok h
  split at h
  · cases h
  · rename_i p hp
    split at h
    · cases h
    · exact ⟨p, hp, (Except.ok.inj h).symm⟩

theorem updatePolicy_spec {req : UpdatePolicyRequest} (h : updatePolicy db id req = .ok res) :
    res = (db.updatePolicy id req.set, .all) := by
  obtain ⟨_, h⟩ := bind_ok h
  split at h
  · cases h
  · split at h
    · cases h
    · split at h
      · cases h
      · exact (Except.ok.inj h).symm

theorem deletePolicy_spec (h : deletePolicy db id = .ok res) :
    res = (db.deletePolicy id, .all) := by
  unfold deletePolicy at h
  split at h
  · exact (Except.ok.inj h).symm
  · cases h

theorem reportPosture_spec {claims : Claims} {req : PostureReport} {checkedAt evaluatedAt : Nat}
    (h : reportPosture env db claims req checkedAt evaluatedAt = .ok res) :
    ∃ d ∈ db.devices, env.parseUuid req.deviceID = some d.id ∧
      res = (recordPosture db d.id req checkedAt evaluatedAt, .user d.userId) := by
  unfold reportPosture at h
  split at h
  · cases h
  · split at h
    · cases h
    · rename_i deviceID hparse
      split at h
      · cases h
      · split at h
        · cases h
        · rename_i d hd
          split at h
          · cases h
          · split at h
            · cases h
            · obtain rfl : d.id = deviceID := by simpa using List.find?_some hd
              exact ⟨d, List.mem_of_find?_eq_some hd, hparse, (Except.ok.inj h).symm⟩

theorem handle_spec {r : Request} (h : handle env db r = .ok res) :
    res.1 = r.statement env db ∧ ∀ gatewayID, res.2.Finds db gatewayID ↔ r.Refreshes env db gatewayID := by
  cases r with
  | updateTrustConfig scale config =>
    obtain rfl := updateTrustConfig_spec h
    exact ⟨rfl, fun _ => Iff.rfl⟩
  | createPolicy id req =>
    obtain ⟨p, hp, rfl⟩ := createPolicy_spec h
    refine ⟨?_, fun _ => Iff.rfl⟩
    rw [Request.statement, hp]
    rfl
  | updatePolicy id req =>
    obtain rfl := updatePolicy_spec h
    exact ⟨rfl, fun _ => Iff.rfl⟩
  | deletePolicy id =>
    obtain rfl := deletePolicy_spec h
    exact ⟨rfl, fun _ => Iff.rfl⟩
  | reportPosture claims req checkedAt evaluatedAt =>
    obtain ⟨d, hd, hparse, rfl⟩ := reportPosture_spec h
    constructor
    · rw [Request.statement, hparse]
      rfl
    · intro gatewayID
      constructor
      · intro hfound
        exact ⟨d, hd, hparse, hfound⟩
      · rintro ⟨e, he, hid, hfound⟩
        obtain rfl := db.device_eq_of_id hd he (Option.some.inj (hparse.symm.trans hid))
        exact hfound

end ZtnaHandler

end Outpost
