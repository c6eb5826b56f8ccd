import Outpost.Address

/-!
# The database tables

The columns that the modelled queries read or write, after all migrations. A `Database` carries the
constraints that the queries rely on.
-/

namespace Outpost

abbrev Uuid := String

structure User where
  id : Uuid
  (isActive isAdmin mfaEnabled : Bool)
  (username email : String)
deriving DecidableEq

structure Group where
  id : Uuid
  (name description : String)
  isSystem : Bool
deriving DecidableEq

structure UserGroup where
  (userId groupId : Uuid)
deriving DecidableEq

structure Device where
  (id userId : Uuid)
  wireguardPubkey : String
  assignedIp : Addr
  isApproved : Bool
  networkId : Option Uuid
deriving DecidableEq

structure Network where
  id : Uuid
  name : String
  address : Cidr
  tunnelCidr : Option Cidr
  isActive : Bool
deriving DecidableEq

structure Gateway where
  id : Uuid
  /-- The legacy column; `gateway_networks` is authoritative. -/
  networkId : Option Uuid
  (wireguardPubkey endpoint : String)
  isActive : Bool
  priority : Int
  createdAt : Nat
  name : String
deriving DecidableEq

structure GatewayNetwork where
  (gatewayId networkId : Uuid)
deriving DecidableEq

structure NetworkAcl where
  (id networkId groupId : Uuid)
  allowedIps : List Cidr
deriving DecidableEq

structure TrustScoreConfig where
  (autoRestrictBelowMedium autoBlockBelowLow : Bool)
deriving DecidableEq

/-- The other columns of `trust_score_config`: what a score is computed from. -/
structure TrustScoreScale where
  (weightDiskEncryption weightScreenLock weightAntivirus weightFirewall weightOSVersion : Int)
  (weightMFA thresholdHigh thresholdMedium thresholdLow : Int)
deriving DecidableEq

structure DeviceTrustScore where
  deviceId : Uuid
  score : Int
  level : String
  evaluatedAt : Nat
deriving DecidableEq

structure DevicePostureRow where
  deviceId : Uuid
  (diskEncrypted screenLock antivirus firewall : Bool)
  checkedAt : Nat
  score : Int
deriving DecidableEq

/-- The struct that `json.Unmarshal` fills from a policy's `conditions`. -/
structure PolicyConditions where
  minTrustScore : Option Int
  (requireDiskEncryption requireScreenLock requireAntivirus requireFirewall requireMFA : Option Bool)
deriving DecidableEq

structure ZtnaPolicy where
  id : Uuid
  isActive : Bool
  /-- `none` when the stored JSON does not unmarshal into the struct. -/
  conditions : Option PolicyConditions
  action : String
  networkIds : List Uuid
  priority : Int
  name : String
deriving DecidableEq

structure SmartRoute where
  id : Uuid
  isActive : Bool
  name : String
deriving DecidableEq

structure SmartRouteEntry where
  (id smartRouteId : Uuid)
  (entryType value action : String)
  priority : Int
deriving DecidableEq

structure NetworkSmartRoute where
  (networkId smartRouteId : Uuid)
deriving DecidableEq

structure S2STunnel where
  id : Uuid
  (name topology : String)
  isActive : Bool
  hubGatewayId : Option Uuid
deriving DecidableEq

structure S2STunnelMember where
  (tunnelId gatewayId : Uuid)
  localSubnets : List Cidr
  (privateKey publicKey : Option String)
  listenPort : Int
deriving DecidableEq

structure S2SRoute where
  (id tunnelId : Uuid)
  destination : Cidr
  viaGateway : Uuid
  metric : Int
  isActive : Bool
deriving DecidableEq

structure Database where
  users : List User
  groups : List Group
  userGroups : List UserGroup
  devices : List Device
  networks : List Network
  gateways : List Gateway
  gatewayNetworks : List GatewayNetwork
  networkAcls : List NetworkAcl
  trustScoreConfig : Option TrustScoreConfig
  /-- Of the row in `trustScoreConfig`, and without meaning when there is none. -/
  trustScoreScale : TrustScoreScale
  deviceTrustScores : List DeviceTrustScore
  devicePosture : List DevicePostureRow
  ztnaPolicies : List ZtnaPolicy
  /-- The ids of `proxy_servers`. -/
  proxyServers : List Uuid
  smartRoutes : List SmartRoute
  smartRouteEntries : List SmartRouteEntry
  networkSmartRoutes : List NetworkSmartRoute
  s2sTunnels : List S2STunnel
  s2sTunnelMembers : List S2STunnelMember
  s2sRoutes : List S2SRoute
  user_id_unique : (users.map User.id).Nodup
  device_id_unique : (devices.map Device.id).Nodup
  wireguard_pubkey_unique : (devices.map Device.wireguardPubkey).Nodup
  assigned_ip_unique : (devices.map Device.assignedIp).Nodup
  device_owner : ∀ d ∈ devices, ∃ u ∈ users, u.id = d.userId

namespace Database

theorem eq_of_mem_of_map_nodup {α β : Type} {f : α → β} {l : List α} (h : (l.map f).Nodup)
    {a b : α} (ha : a ∈ l) (hb : b ∈ l) (hf : f a = f b) : a = b :=
  List.inj_on_of_nodup_map h ha hb hf

variable (db : Database)

variable {d e : Device}

theorem device_eq_of_assignedIp (hd : d ∈ db.devices) (he : e ∈ db.devices)
    (h : d.assignedIp = e.assignedIp) : d = e :=
  eq_of_mem_of_map_nodup db.assigned_ip_unique hd he h

theorem device_eq_of_id (hd : d ∈ db.devices) (he : e ∈ db.devices) (h : d.id = e.id) : d = e :=
  eq_of_mem_of_map_nodup db.device_id_unique hd he h

theorem device_eq_of_pubkey (hd : d ∈ db.devices) (he : e ∈ db.devices)
    (h : d.wireguardPubkey = e.wireguardPubkey) : d = e :=
  eq_of_mem_of_map_nodup db.wireguard_pubkey_unique hd he h

theorem user_eq_of_id {u w : User} (hu : u ∈ db.users) (hw : w ∈ db.users) (h : u.id = w.id) :
    u = w :=
  eq_of_mem_of_map_nodup db.user_id_unique hu hw h

def empty : Database where
  users := []
  groups := []
  userGroups := []
  devices := []
  networks := []
  gateways := []
  gatewayNetworks := []
  networkAcls := []
  trustScoreConfig := none
  trustScoreScale := ⟨25, 10, 20, 15, 15, 15, 80, 50, 20⟩
  deviceTrustScores := []
  devicePosture := []
  ztnaPolicies := []
  proxyServers := []
  smartRoutes := []
  smartRouteEntries := []
  networkSmartRoutes := []
  s2sTunnels := []
  s2sTunnelMembers := []
  s2sRoutes := []
  user_id_unique := List.nodup_nil
  device_id_unique := List.nodup_nil
  wireguard_pubkey_unique := List.nodup_nil
  assigned_ip_unique := List.nodup_nil
  device_owner := by simp

def ofDevice (u : User) (d : Device) (owner : u.id = d.userId) : Database :=
  { empty with
    users := [u]
    devices := [d]
    user_id_unique := List.nodup_singleton _
    device_id_unique := List.nodup_singleton _
    wireguard_pubkey_unique := List.nodup_singleton _
    assigned_ip_unique := List.nodup_singleton _
    device_owner := by simp [owner] }

end Database

end Outpost
