import Outpost.FirewallConfig

/-!
# Trust scores

`TrustScoreCalculator.Calculate`: six weighted checks on the latest posture report
and the owner's MFA flag, a penalty for stale data, and the level that the
thresholds give to the sum. Times are in microseconds, as the database keeps them.
-/

namespace Outpost

inductive TrustLevel where
  | high
  | medium
  | low
  | critical
deriving DecidableEq

def TrustLevel.text : TrustLevel → String
  | .high => "high"
  | .medium => "medium"
  | .low => "low"
  | .critical => "critical"

structure TrustComponent where
  name : String
  weight : Int
  passed : Bool
  score : Int
deriving DecidableEq

structure TrustScoreResult where
  deviceID : Uuid
  score : Int
  level : TrustLevel
  components : List TrustComponent
  violations : List String
  evaluatedAt : Nat
deriving DecidableEq

namespace TrustScore

def defaultScale : TrustScoreScale := ⟨25, 10, 20, 15, 15, 15, 80, 50, 20⟩

def loadTrustConfig (db : Database) : TrustScoreScale :=
  match db.trustScoreConfig with
  | none => defaultScale
  | some _ => db.trustScoreScale

def fitsInt4 (n : Int) : Bool := -2 ^ 31 ≤ n && n < 2 ^ 31

def classifyTrustLevel (score : Int) (scale : TrustScoreScale) : TrustLevel :=
  if scale.thresholdHigh ≤ score then .high
  else if scale.thresholdMedium ≤ score then .medium
  else if scale.thresholdLow ≤ score then .low
  else .critical

def component (name : String) (weight : Int) (passed : Bool) : TrustComponent :=
  ⟨name, weight, passed, if passed then weight else 0⟩

def checks (scale : TrustScoreScale) (p : DevicePostureRow) (mfaEnabled : Bool) :
    List (TrustComponent × String) :=
  [(component "disk_encryption" scale.weightDiskEncryption p.diskEncrypted,
      "disk encryption not enabled"),
   (component "screen_lock" scale.weightScreenLock p.screenLock, "screen lock not enabled"),
   (component "antivirus" scale.weightAntivirus p.antivirus, "antivirus not active"),
   (component "firewall" scale.weightFirewall p.firewall, "firewall not enabled"),
   (component "os_version" scale.weightOSVersion (75 ≤ p.score), "OS version may be outdated"),
   (component "mfa" scale.weightMFA mfaEnabled, "MFA not enabled for device owner")]

def totalScore (components : List TrustComponent) : Int := (components.map TrustComponent.score).sum

def violationsOf (checks : List (TrustComponent × String)) : List String :=
  checks.filterMap fun c => if c.1.passed then none else some c.2

def day : Nat := 24 * 60 * 60 * 1000000

def penalized (score : Int) : Int := (score * 80).tdiv 100

def latestReport (db : Database) (deviceID : Uuid) : Option (DevicePostureRow × Uuid) :=
  (db.latestPosture deviceID).bind fun p =>
    (db.devices.find? fun d => d.id = p.deviceId).map fun d => (p, d.userId)

def ownerMFA (db : Database) (userID : Uuid) : Bool :=
  ((db.users.find? fun u => u.id = userID).map User.mfaEnabled).getD false

def evaluate (scale : TrustScoreScale) (p : DevicePostureRow) (mfaEnabled : Bool) (now : Nat)
    (deviceID : Uuid) : TrustScoreResult :=
  let checks := checks scale p mfaEnabled
  let total := totalScore (checks.map Prod.fst)
  if p.checkedAt + day < now then
    ⟨deviceID, penalized total, classifyTrustLevel (penalized total) scale, checks.map Prod.fst,
      violationsOf checks ++ ["posture data is stale (>24h)"], now⟩
  else
    ⟨deviceID, total, classifyTrustLevel total scale, checks.map Prod.fst, violationsOf checks, now⟩

end TrustScore

namespace Database

variable (db : Database)

def addTrustScore (t : DeviceTrustScore) : Database :=
  { db with deviceTrustScores := db.deviceTrustScores ++ [t] }

def addPosture (p : DevicePostureRow) : Database :=
  { db with devicePosture := db.devicePosture ++ [p] }

end Database

namespace TrustScore

/-- A result that comes from a report is stored; a row that the table refuses is only logged. -/
def calculate (scale : TrustScoreScale) (db : Database) (now : Nat) (deviceID : Uuid) :
    TrustScoreResult × Database :=
  match latestReport db deviceID with
  | none => (⟨deviceID, 0, .critical, [], ["no posture data available"], now⟩, db)
  | some (p, userID) =>
    let result := evaluate scale p (ownerMFA db userID) now deviceID
    (result, if fitsInt4 result.score then
      db.addTrustScore ⟨deviceID, result.score, result.level.text, now⟩ else db)

end TrustScore

end Outpost
