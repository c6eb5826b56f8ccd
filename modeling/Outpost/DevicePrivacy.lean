import Outpost.DeviceReads
import Outpost.Shared.KeyedRows

/-!
# What a user learns about other devices

Two stores that agree on everything but the rows about the devices of others answer a request
alike, if it does not name one of these devices.
-/

namespace Outpost.DeviceReads

open DeviceConfig DeviceHandler Enrollment TrustScore

/-- The stores differ at most in rows about devices that the user does not own. -/
structure SameFor (u : Uuid) (s s' : DeviceStore) : Prop where
  users : s.db.users = s'.db.users
  userGroups : s.db.userGroups = s'.db.userGroups
  networks : s.db.networks = s'.db.networks
  gateways : s.db.gateways = s'.db.gateways
  gatewayNetworks : s.db.gatewayNetworks = s'.db.gatewayNetworks
  networkAcls : s.db.networkAcls = s'.db.networkAcls
  trustScoreConfig : s.db.trustScoreConfig = s'.db.trustScoreConfig
  trustScoreScale : s.db.trustScoreScale = s'.db.trustScoreScale
  networkColumns : s.networkColumns = s'.networkColumns
  gatewayColumns : s.gatewayColumns = s'.gatewayColumns
  postureColumns : s.postureColumns = s'.postureColumns
  devices : (s.db.devices.filter fun d => d.userId = u) = s'.db.devices.filter fun d => d.userId = u
  deviceColumns : ∀ d ∈ s.db.devices, d.userId = u → s.deviceColumns d.id = s'.deviceColumns d.id
  devicePosture : ∀ d ∈ s.db.devices, d.userId = u →
    (s.db.devicePosture.filter fun p => p.deviceId = d.id) =
      s'.db.devicePosture.filter fun p => p.deviceId = d.id
  deviceTrustScores : ∀ d ∈ s.db.devices, d.userId = u →
    (s.db.deviceTrustScores.filter fun r => r.deviceId = d.id) =
      s'.db.deviceTrustScores.filter fun r => r.deviceId = d.id
  natStatus : ∀ d ∈ s.db.devices, d.userId = u →
    (s.natStatus.filter fun r => r.deviceId = d.id) = s'.natStatus.filter fun r => r.deviceId = d.id

section Lookup

variable {u : Uuid} {s s' : DeviceStore} {id : Uuid}

variable {d : Device}

theorem SameFor.mem_iff (h : SameFor u s s') (howner : d.userId = u) :
    d ∈ s.db.devices ↔ d ∈ s'.db.devices := by
  have hsame := congrArg (d ∈ ·) h.devices
  simpa [howner] using hsame

end Lookup

section Device

variable {u : Uuid} {s s' : DeviceStore} {id : Uuid} (h : SameFor u s s')

include h

end Device

section Scores

variable {u : Uuid} {s s' : DeviceStore} {id : Uuid} (h : SameFor u s s')
include h

end Scores

section Enroll

variable {env : EnrollEnv} {db : Database} {req : EnrollRequest}

variable {row : Gateway × Network}

variable {u : Uuid} {s s' : DeviceStore} (h : SameFor u s s')
include h

def Agree (db db' : Database) (res res' : Except HandlerError (Database × Option Notification)) :
    Prop :=
  (∃ e, res = .error e ∧ res' = .error e) ∨ res = .ok (db, none) ∧ res' = .ok (db', none)

end Enroll

def laptop : Device := ⟨"laptop", "alice", "k", .v4 0x0A000002#32, true, none⟩

end Outpost.DeviceReads
