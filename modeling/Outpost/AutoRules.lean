import Outpost.BlockedSet
import Outpost.Shared.Runs

/-!
# The auto rules and the thresholds

The rules read the level that was stored with a device's latest score: `auto_block_below_low`
blocks the levels critical and low, `auto_restrict_below_medium` the level critical, with the
thresholds as they were when the score was computed.
-/

namespace Outpost.AutoRules

open Runs GoMap TrustScore ZtnaHandler NetworkHandler

def Step (env : HandlerEnv) (db : Database) (r : Request) (db' : Database) : Prop :=
  ∃ refresh, handle env db r = .ok (db', refresh)

/-- What `updateTrustConfig` asks of the thresholds. -/
structure Ordered (scale : TrustScoreScale) : Prop where
  medium_lt_high : scale.thresholdMedium < scale.thresholdHigh
  low_lt_medium : scale.thresholdLow < scale.thresholdMedium

section Levels

variable {scale : TrustScoreScale} {score : Int}

end Levels

section Runs

variable {env : HandlerEnv} {db db' : Database} {r : Request}

theorem level_evaluate (scale : TrustScoreScale) (p : DevicePostureRow) (mfaEnabled : Bool)
    (now : Nat) (deviceID : Uuid) : (evaluate scale p mfaEnabled now deviceID).level =
      classifyTrustLevel (evaluate scale p mfaEnabled now deviceID).score scale := by
  by_cases hstale : p.checkedAt + day < now
  · rw [evaluate, if_pos hstale]
  · rw [evaluate, if_neg hstale]

variable {t : DeviceTrustScore} {scale : TrustScoreScale}

end Runs

open ZtnaBlock

def reported : PostureReport := ⟨"d", "linux", "6", false, true, true, false⟩

theorem laptop_owner : carol.id = ZtnaBlock.laptop.userId := rfl

def start : Database := Database.ofDevice carol ZtnaBlock.laptop laptop_owner

def requests (restrict block : Bool) : List Request :=
  [.updateTrustConfig defaultScale ⟨restrict, block⟩, .reportPosture ⟨"c", false⟩ reported 1 2]

end Outpost.AutoRules
