import Mathlib.Data.List.Dedup
import Mathlib.Order.MinMax
import Mathlib.Data.List.MinMax
import Outpost.Messages
import Outpost.Shared.GoMap

/-!
# The firewall config that core computes for a gateway

`buildFirewallConfigFromPool`. Which queries and row scans fail is in `QueryFaults`; in which order
rows come and Go ranges over maps, in `Orders`.
-/

namespace Outpost

/-- Which queries return an error, and for which row numbers `Scan` fails. -/
structure QueryFaults where
  aclQuery : Bool := false
  aclScan : Nat → Bool := fun _ => false
  deviceQuery : Bool := false
  deviceScan : Nat → Bool := fun _ => false
  trustQuery : Bool := false
  postureQuery : Bool := false
  postureScan : Nat → Bool := fun _ => false
  policyQuery : Bool := false
  policyScan : Nat → Bool := fun _ => false

def noFaults : QueryFaults := {}

/-- The rows that `for rows.Next() { if Scan fails { continue } ... }` processes. -/
def scanRows {α : Type} (query : Bool) (scan : Nat → Bool) (rows : List α) : List α :=
  if query then [] else (rows.zipIdx.filter fun r => !scan r.2).map Prod.fst

theorem scanRows_sublist {α : Type} (query : Bool) (scan : Nat → Bool) (rows : List α) :
    (scanRows query scan rows).Sublist rows := by
  unfold scanRows
  split
  · exact List.nil_sublist _
  · have hfiltered := (List.filter_sublist (p := fun r => !scan r.2) (l := rows.zipIdx)).map
      (Prod.fst : α × Nat → α)
    rw [List.zipIdx_map_fst] at hfiltered
    exact hfiltered

structure DevicePosture where
  ip : String
  networkID : Uuid
  trustScore : Int
  trustLevel : String
  (diskEncrypted screenLock antivirus firewall mfaEnabled : Bool)
deriving DecidableEq

/-- The orders of one call. `ORDER BY` on texts depends on the collation, so row orders are left
open too. -/
structure Orders where
  (aclRows deviceRows : RangeOrder (String × String))
  postureRows : RangeOrder DevicePosture
  policyRows : RangeOrder ZtnaPolicy
  autoLoop : RangeOrder (String × DevicePosture)
  policyLoop : ZtnaPolicy → RangeOrder (String × DevicePosture)
  aclLoop : RangeOrder (String × List String)
  blockedLoop : RangeOrder (String × Bool)

def Orders.asListed : Orders :=
  ⟨.asListed, .asListed, .asListed, .asListed, .asListed, fun _ => .asListed, .asListed, .asListed⟩

structure FirewallResult where
  config : FirewallConfig
  blockedPubkeys : List String
deriving DecidableEq

namespace Database

variable (db : Database) (gatewayID : Uuid)

def aclQuery : List (String × String) :=
  ((db.devices.flatMap fun d => db.gatewayNetworks.flatMap fun gn =>
    db.userGroups.flatMap fun ug => db.networkAcls.flatMap fun a =>
    db.networks.filterMap fun n =>
      if some gn.networkId = d.networkId ∧ ug.userId = d.userId ∧ a.groupId = ug.groupId ∧
          n.id = a.networkId ∧ n.isActive ∧ gn.gatewayId = gatewayID ∧ d.isApproved ∧
          d.wireguardPubkey ≠ "" then
        some (host d.assignedIp, n.address.text)
      else none) ++
   (db.devices.flatMap fun d => db.gatewayNetworks.flatMap fun gn =>
    db.users.flatMap fun u => db.networks.filterMap fun n =>
      if some gn.networkId = d.networkId ∧ u.id = d.userId ∧ u.isAdmin ∧
          gn.gatewayId = gatewayID ∧ n.isActive ∧ d.isApproved ∧ d.wireguardPubkey ≠ "" then
        some (host d.assignedIp, n.address.text)
      else none)).dedup

def deviceQuery : List (String × String) :=
  ((db.devices.flatMap fun d => db.gatewayNetworks.filterMap fun gn =>
      if some gn.networkId = d.networkId ∧ gn.gatewayId = gatewayID ∧ d.isApproved ∧
          d.wireguardPubkey ≠ "" then
        some (host d.assignedIp, d.wireguardPubkey)
      else none) ++
   (db.devices.flatMap fun d => db.gateways.filterMap fun g =>
      if g.networkId.isSome ∧ g.networkId = d.networkId ∧ g.id = gatewayID ∧ d.isApproved ∧
          d.wireguardPubkey ≠ "" then
        some (host d.assignedIp, d.wireguardPubkey)
      else none)).dedup

def latestTrustScore (deviceID : Uuid) : Option DeviceTrustScore :=
  (db.deviceTrustScores.filter fun t => t.deviceId = deviceID).argmax DeviceTrustScore.evaluatedAt

def latestPosture (deviceID : Uuid) : Option DevicePostureRow :=
  (db.devicePosture.filter fun p => p.deviceId = deviceID).argmax DevicePostureRow.checkedAt

/-- One row of the posture query, with its `COALESCE` defaults. -/
def postureOf (d : Device) (u : User) (networkID : Uuid) : DevicePosture where
  ip := host d.assignedIp
  networkID := networkID
  trustScore := ((db.latestTrustScore d.id).map DeviceTrustScore.score).getD 0
  trustLevel := ((db.latestTrustScore d.id).map DeviceTrustScore.level).getD "critical"
  diskEncrypted := ((db.latestPosture d.id).map DevicePostureRow.diskEncrypted).getD false
  screenLock := ((db.latestPosture d.id).map DevicePostureRow.screenLock).getD false
  antivirus := ((db.latestPosture d.id).map DevicePostureRow.antivirus).getD false
  firewall := ((db.latestPosture d.id).map DevicePostureRow.firewall).getD false
  mfaEnabled := u.mfaEnabled

/-- `SELECT DISTINCT ON (d.id)`: the first joined row of each device. -/
def postureQuery : List DevicePosture :=
  db.devices.filterMap fun d =>
    ((db.gatewayNetworks.flatMap fun gn => db.users.filterMap fun u =>
      if some gn.networkId = d.networkId ∧ u.id = d.userId ∧ gn.gatewayId = gatewayID ∧
          d.isApproved ∧ d.wireguardPubkey ≠ "" then
        some (db.postureOf d u gn.networkId)
      else none)).head?

def policyQuery : List ZtnaPolicy :=
  db.ztnaPolicies.filter fun p => p.isActive ∧ (p.action = "deny" ∨ p.action = "restrict")

end Database

def autoBlockStep (autoRestrict autoBlock : Bool) (blocked : GoMap String Bool)
    (e : String × DevicePosture) : GoMap String Bool :=
  if autoBlock ∧ (e.2.trustLevel = "critical" ∨ e.2.trustLevel = "low") then
    blocked.insert e.1 true
  else if autoRestrict ∧ e.2.trustLevel = "critical" then blocked.insert e.1 true
  else blocked

def failsConditions (cond : PolicyConditions) (p : DevicePosture) : Bool :=
  (cond.minTrustScore.any fun m => p.trustScore < m) ||
  (cond.requireDiskEncryption.any fun r => r && !p.diskEncrypted) ||
  (cond.requireScreenLock.any fun r => r && !p.screenLock) ||
  (cond.requireAntivirus.any fun r => r && !p.antivirus) ||
  (cond.requireFirewall.any fun r => r && !p.firewall) ||
  (cond.requireMFA.any fun r => r && !p.mfaEnabled)

def appliesTo (networkIDs : List Uuid) (p : DevicePosture) : Bool :=
  networkIDs.isEmpty || networkIDs.contains p.networkID

def policyStep (networkIDs : List Uuid) (cond : PolicyConditions) (blocked : GoMap String Bool)
    (e : String × DevicePosture) : GoMap String Bool :=
  if GoMap.flag blocked e.1 then blocked
  else if !appliesTo networkIDs e.2 then blocked
  else if failsConditions cond e.2 then blocked.insert e.1 true
  else blocked

def evaluatePolicy (order : RangeOrder (String × DevicePosture)) (postures : GoMap String DevicePosture)
    (blocked : GoMap String Bool) (policy : ZtnaPolicy) : GoMap String Bool :=
  match policy.conditions with
  | none => blocked
  | some cond => (order.visit postures.pairs).foldl (policyStep policy.networkIds cond) blocked

def devicePostures (faults : QueryFaults) (orders : Orders) (db : Database) (gatewayID : Uuid) :
    GoMap String DevicePosture :=
  GoMap.setEach ((scanRows faults.postureQuery faults.postureScan
    (orders.postureRows.visit (db.postureQuery gatewayID))).map fun p => (p.ip, p)) ∅

def autoFlags (faults : QueryFaults) (db : Database) : Bool × Bool :=
  match faults.trustQuery, db.trustScoreConfig with
  | false, some c => (c.autoRestrictBelowMedium, c.autoBlockBelowLow)
  | _, _ => (false, false)

def blockedByZTNA (faults : QueryFaults) (orders : Orders) (db : Database) (gatewayID : Uuid) :
    GoMap String Bool :=
  let postures := devicePostures faults orders db gatewayID
  let auto := autoFlags faults db
  let blocked : GoMap String Bool :=
    if auto.1 || auto.2 then
      (orders.autoLoop.visit postures.pairs).foldl (autoBlockStep auto.1 auto.2) ∅
    else ∅
  (scanRows faults.policyQuery faults.policyScan (orders.policyRows.visit db.policyQuery)).foldl
    (fun blocked policy => evaluatePolicy (orders.policyLoop policy) postures blocked policy) blocked

def dropFrom (ip : String) : FirewallRule := ⟨ip ++ "/32", "", "", "", .drop⟩

def acceptFrom (ip cidr : String) : FirewallRule := ⟨ip ++ "/32", cidr, "", "", .accept⟩

def deviceRules (blocked : GoMap String Bool) (entry : String × List String) : List FirewallRule :=
  if GoMap.flag blocked entry.1 then [dropFrom entry.1]
  else entry.2.map (acceptFrom entry.1) ++ [dropFrom entry.1]

def deviceACLs (faults : QueryFaults) (orders : Orders) (db : Database) (gatewayID : Uuid) :
    GoMap String (List String) :=
  GoMap.appendEach (scanRows false faults.aclScan (orders.aclRows.visit (db.aclQuery gatewayID))) ∅

def allDevices (faults : QueryFaults) (orders : Orders) (db : Database) (gatewayID : Uuid) :
    List (String × String) :=
  scanRows faults.deviceQuery faults.deviceScan (orders.deviceRows.visit (db.deviceQuery gatewayID))

def firewallRules (faults : QueryFaults) (orders : Orders) (db : Database) (gatewayID : Uuid) :
    List FirewallRule :=
  let acls := deviceACLs faults orders db gatewayID
  let blocked := blockedByZTNA faults orders db gatewayID
  (orders.aclLoop.visit acls.pairs).flatMap (deviceRules blocked) ++
    ((allDevices faults orders db gatewayID).map Prod.fst).filterMap fun ip =>
      if acls.lookup ip = none then some (dropFrom ip) else none

def collectBlockedPubkeys (faults : QueryFaults) (orders : Orders) (db : Database)
    (gatewayID : Uuid) : List String :=
  let pubkeys : GoMap String String := GoMap.setEach (allDevices faults orders db gatewayID) ∅
  (orders.blockedLoop.visit (blockedByZTNA faults orders db gatewayID).pairs).filterMap fun e =>
    (pubkeys.lookup e.1).filter (· ≠ "")

def buildFirewallConfigFromPool (faults : QueryFaults) (orders : Orders) (db : Database)
    (gatewayID : Uuid) : Option FirewallResult :=
  if faults.aclQuery then none
  else some
    { config := ⟨firewallRules faults orders db gatewayID, true, ""⟩
      blockedPubkeys := collectBlockedPubkeys faults orders db gatewayID }

end Outpost
