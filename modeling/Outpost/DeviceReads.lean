import Outpost.EnrollResponse
import Outpost.TrustScore

/-!
# Requests that name a device

The requests of the device, ZTNA and NAT handlers that read what is stored about one
device, and the enrollment of a key. Paths are parsed and queries succeed. Of the trust
score that `getDeviceTrustScore` stores, only the answer is here.
-/

namespace Outpost

inductive NatType where
  | fullCone
  | restrictedCone
  | portRestricted
  | symmetric
  | «open»
  | unknown
deriving DecidableEq

structure NatStatus where
  deviceId : Uuid
  natType : NatType
  externalIp : String
  externalPort : Int
  relayServerId : Option Uuid
  (lastChecked createdAt : Nat)
deriving DecidableEq

structure PostureColumns where
  (osType osVersion : String)
deriving DecidableEq

structure DeviceStore extends DeviceRecords where
  postureColumns : DevicePostureRow → PostureColumns
  natStatus : List NatStatus
  nat_status_unique : (natStatus.map NatStatus.deviceId).Nodup
  posture_device : ∀ p ∈ db.devicePosture, ∃ d ∈ db.devices, d.id = p.deviceId
  trust_score_device : ∀ r ∈ db.deviceTrustScores, ∃ d ∈ db.devices, d.id = r.deviceId
  nat_status_device : ∀ r ∈ natStatus, ∃ d ∈ db.devices, d.id = r.deviceId

namespace DeviceReads

open DeviceConfig DeviceHandler Enrollment TrustScore

structure ReadEnv where
  now : Nat
  parseUuid : String → Option Uuid
  /-- `ORDER BY evaluated_at DESC` leaves rows of one time open. -/
  historyRows : RangeOrder DeviceTrustScore := .asListed
  config : ConfigEnv
  enroll : EnrollEnv

def details (columns : PostureColumns) (p : DevicePostureRow) (mfaEnabled : Bool) : List String :=
  [if p.diskEncrypted then "Full disk encryption enabled" else "Disk encryption not detected",
   if p.screenLock then "Screen lock enabled" else "Screen lock not enabled",
   if p.antivirus then "Antivirus active" else "Antivirus not detected",
   if p.firewall then "Firewall enabled" else "Firewall not enabled",
   if 75 ≤ p.score then columns.osType ++ " " ++ columns.osVersion
   else columns.osType ++ " " ++ columns.osVersion ++ " — may need update",
   if mfaEnabled then "MFA enabled for user" else "MFA not enabled"]

structure TrustScoreResponse where
  result : TrustScoreResult
  userID : Uuid
  details : List String
deriving DecidableEq

def getDeviceTrustScore (s : DeviceStore) (now : Nat) (deviceID : Uuid) : TrustScoreResponse :=
  let result := (calculate (loadTrustConfig s.db) s.db now deviceID).1
  match latestReport s.db deviceID with
  | none => ⟨result, "00000000-0000-0000-0000-000000000000", []⟩
  | some (p, userID) => ⟨result, userID, details (s.postureColumns p) p (ownerMFA s.db userID)⟩

structure TrustHistoryEntry where
  score : Int
  level : String
  evaluatedAt : Nat
deriving DecidableEq

def getTrustHistory (order : RangeOrder DeviceTrustScore) (s : DeviceStore) (deviceID : Uuid) :
    List TrustHistoryEntry :=
  let rows := order.visit (s.db.deviceTrustScores.filter fun r => r.deviceId = deviceID)
  ((rows.mergeSort fun r r' => r'.evaluatedAt ≤ r.evaluatedAt).take 100).map fun r =>
    ⟨r.score, r.level, r.evaluatedAt⟩

def getStatus (parseUuid : String → Option Uuid) (s : DeviceStore) (deviceIDStr : String) :
    Except HandlerError NatStatus :=
  if deviceIDStr = "" then .error ⟨400, "device_id query parameter is required"⟩
  else match parseUuid deviceIDStr with
    | none => .error ⟨400, "invalid device_id UUID"⟩
    | some deviceID =>
      match s.natStatus.find? fun r => r.deviceId = deviceID with
      | none => .error ⟨404, "no NAT status found for this device"⟩
      | some ns => .ok ns

inductive Request where
  | get (id : Uuid)
  | config (id : Uuid)
  | trustScore (deviceID : Uuid)
  | trustHistory (deviceID : Uuid)
  | natStatus (deviceIDStr : String)
  | enroll (req : EnrollRequest)

inductive Response where
  | device (response : DeviceResponse)
  | config (response : ConfigResponse)
  | trustScore (response : TrustScoreResponse)
  | trustHistory (history : List TrustHistoryEntry)
  | natStatus (ns : NatStatus)
  | enrolled (status : Nat) (response : EnrollResponse)
deriving DecidableEq

def serve (env : ReadEnv) (s : DeviceStore) (claims : Claims) :
    Request → Except HandlerError Response
  | .get id => (DeviceHandler.get s.toDeviceRecords id claims).map .device
  | .config id => (downloadConfig env.config s.toDeviceRecords id (some claims)).map .config
  | .trustScore deviceID => .ok (.trustScore (getDeviceTrustScore s env.now deviceID))
  | .trustHistory deviceID => .ok (.trustHistory (getTrustHistory env.historyRows s deviceID))
  | .natStatus deviceIDStr => (getStatus env.parseUuid s deviceIDStr).map .natStatus
  | .enroll req =>
    (enrollDevice env.enroll s.toDeviceRecords env.now req (some claims)).map fun res =>
      .enrolled res.2.2.1 res.2.2.2

end DeviceReads

end Outpost
