import Mathlib.Algebra.Order.Field.Rat
import Outpost.Shared.KeyedRows
import Outpost.ZtnaHandler

/-!
# Full compliance

A report is scored with four of the six weights; the calculator takes a score of 75 for an
up-to-date system, and the checker one of 80 for a compliant device, whatever the weights are.
-/

namespace Outpost.Compliance

open TrustScore ZtnaHandler

/-- Of no devices, all are compliant. The `float64` is 100 for a whole share only, as the quotient
here is. -/
def percentage (part total : Nat) : ℚ := if total = 0 then 100 else part / total * 100

section Rates

variable (db : Database)

def latestReports : List DevicePostureRow :=
  db.devicePosture.filter fun p =>
    ∀ q ∈ db.devicePosture, q.deviceId = p.deviceId → q.checkedAt ≤ p.checkedAt

/-- `COUNT(DISTINCT device_id)`. -/
def countDevices (reports : List DevicePostureRow) : Nat :=
  (reports.map DevicePostureRow.deviceId).dedup.length

def deviceRate (passes : DevicePostureRow → Bool) : ℚ :=
  percentage (countDevices ((latestReports db).filter passes)) (countDevices (latestReports db))

def encryptionRate : ℚ := deviceRate db DevicePostureRow.diskEncrypted

def postureRate : ℚ := deviceRate db fun p => 80 ≤ p.score

end Rates

theorem percentage_eq_iff {part total : Nat} :
    percentage part total = 100 ↔ total = 0 ∨ part = total := by
  unfold percentage
  split
  · rename_i hzero
    simp [hzero]
  · rename_i htotal
    have hne : (total : ℚ) ≠ 0 := Nat.cast_ne_zero.mpr htotal
    have hhundred : (100 : ℚ) ≠ 0 := by decide
    rw [mul_eq_right₀ hhundred, div_eq_one_iff_eq hne]
    simp [htotal]

theorem countDevices_eq_iff {reports : List DevicePostureRow} {passes : DevicePostureRow → Bool} :
    countDevices (reports.filter passes) = countDevices reports ↔
      ∀ p ∈ reports, ∃ q ∈ reports, q.deviceId = p.deviceId ∧ passes q = true := by
  have hsub : ((reports.filter passes).map DevicePostureRow.deviceId).dedup ⊆
      (reports.map DevicePostureRow.deviceId).dedup := by
    intro id hid
    rw [List.mem_dedup] at hid ⊢
    exact List.map_subset _ (List.filter_subset_self _) hid
  have hsubperm := (List.nodup_dedup _).subperm hsub
  constructor
  · intro hcount p hp
    have hperm := hsubperm.perm_of_length_le (Nat.le_of_eq hcount.symm)
    have hin : p.deviceId ∈ ((reports.filter passes).map DevicePostureRow.deviceId).dedup :=
      hperm.mem_iff.mpr (List.mem_dedup.mpr (List.mem_map_of_mem hp))
    obtain ⟨q, hq, hid⟩ := List.mem_map.mp (List.mem_dedup.mp hin)
    exact ⟨q, (List.mem_filter.mp hq).1, hid, (List.mem_filter.mp hq).2⟩
  · intro hall
    have hback : (reports.map DevicePostureRow.deviceId).dedup ⊆
        ((reports.filter passes).map DevicePostureRow.deviceId).dedup := by
      intro id hid
      obtain ⟨p, hp, rfl⟩ := List.mem_map.mp (List.mem_dedup.mp hid)
      obtain ⟨q, hq, hid, hpass⟩ := hall p hp
      rw [List.mem_dedup, ← hid]
      exact List.mem_map_of_mem (List.mem_filter.mpr ⟨hq, hpass⟩)
    exact Nat.le_antisymm hsubperm.length_le ((List.nodup_dedup _).subperm hback).length_le

theorem deviceRate_eq_iff {db : Database} {passes : DevicePostureRow → Bool} :
    deviceRate db passes = 100 ↔ ∀ p ∈ latestReports db, ∃ q ∈ latestReports db,
      q.deviceId = p.deviceId ∧ passes q = true := by
  unfold deviceRate
  rw [percentage_eq_iff, countDevices_eq_iff]
  constructor
  · intro h p hp
    rcases h with hnone | hall
    · have hin : p.deviceId ∈ ((latestReports db).map DevicePostureRow.deviceId).dedup :=
        List.mem_dedup.mpr (List.mem_map_of_mem hp)
      rw [List.length_eq_zero_iff.mp hnone] at hin
      cases hin
    · exact hall p hp
  · exact .inr

theorem latestReports_eq_nil_iff {db : Database} :
    latestReports db = [] ↔ db.devicePosture = [] := by
  constructor
  · intro hnone
    by_contra hne
    obtain ⟨p, hp⟩ := Option.ne_none_iff_exists'.mp
      (mt (List.argmax_eq_none (f := DevicePostureRow.checkedAt)).mp hne)
    have hlatest : p ∈ latestReports db := by
      refine List.mem_filter.mpr ⟨List.argmax_mem hp, decide_eq_true ?_⟩
      intro q hq _
      exact List.le_of_mem_argmax hq hp
    rw [hnone] at hlatest
    cases hlatest
  · intro hnone
    simp [latestReports, hnone]

def fullScore (scale : TrustScoreScale) : Int :=
  scale.weightDiskEncryption + scale.weightScreenLock + scale.weightAntivirus + scale.weightFirewall

def FullReport (scale : TrustScoreScale) (p : DevicePostureRow) : Prop :=
  ∃ osType osVersion deviceID, p =
    postureRow scale p.deviceId ⟨deviceID, osType, osVersion, true, true, true, true⟩ p.checkedAt

variable {scale : TrustScoreScale}

theorem FullReport.score {p : DevicePostureRow} (h : FullReport scale p) :
    p.score = fullScore scale := by
  obtain ⟨_, _, _, hp⟩ := h
  rw [hp]
  rfl

theorem FullReport.passes {p : DevicePostureRow}
    (h : FullReport scale p) :
    p.diskEncrypted = true ∧ p.screenLock = true ∧ p.antivirus = true ∧ p.firewall = true := by
  obtain ⟨_, _, _, hp⟩ := h
  rw [hp]
  exact ⟨rfl, rfl, rfl, rfl⟩

theorem encryptionRate_of_full {db : Database}
    (h : ∀ p ∈ latestReports db, FullReport scale p) : encryptionRate db = 100 := by
  unfold encryptionRate
  rw [deviceRate_eq_iff]
  intro p hp
  exact ⟨p, hp, rfl, (h p hp).passes.1⟩

theorem sum_eq_fullScore (h : Balanced scale) :
    fullScore scale + scale.weightOSVersion + scale.weightMFA = 100 := by
  have hsum := h.sum_eq
  simp only [weights, List.sum_cons, List.sum_nil] at hsum
  unfold fullScore
  omega

theorem score_of_full {db : Database} {d : Device} {u : User}
    {p : DevicePostureRow} {now : Nat} (hd : d ∈ db.devices) (hu : u ∈ db.users)
    (howner : u.id = d.userId) (hmfa : u.mfaEnabled = true)
    (hlatest : db.latestPosture d.id = some p)
    (hfull : FullReport scale p) (hfresh : now < p.checkedAt + day) :
    (calculate scale db now d.id).1.score =
      fullScore scale + (if 75 ≤ fullScore scale then scale.weightOSVersion else 0) +
        scale.weightMFA := by
  have hdevice : p.deviceId = d.id := by
    have hp := List.argmax_mem (Option.mem_def.mpr hlatest)
    simpa using (List.mem_filter.mp hp).2
  have hreport : latestReport db d.id = some (p, d.userId) := by
    rw [latestReport, hlatest, Option.bind_some, hdevice,
      (KeyedRows.find?_eq_some db.device_id_unique).mpr ⟨hd, rfl⟩]
    rfl
  have howned : ownerMFA db d.userId = true := by
    rw [ownerMFA, (KeyedRows.find?_eq_some db.user_id_unique).mpr ⟨hu, howner⟩]
    exact hmfa
  have hscore := hfull.score
  obtain ⟨hdisk, hlock, hantivirus, hfirewall⟩ := hfull.passes
  have hnotStale : ¬ p.checkedAt + day < now := by omega
  unfold calculate
  rw [hreport]
  dsimp only
  rw [howned, evaluate, if_neg hnotStale]
  simp only [checks, component, totalScore, List.map_cons, List.map_nil, List.sum_cons,
    List.sum_nil,
    hscore, hdisk, hlock, hantivirus, hfirewall, if_true, decide_eq_true_eq]
  unfold fullScore
  omega

/-- A device that passes every check scores 100 exactly when its report alone scores 75 or the
version has no weight; and such reports make the rate 100 exactly when they score 80. -/
theorem full_compliance_iff {db₀ db : Database} {scale : TrustScoreScale}
    {config : TrustScoreConfig}
    {res : Database × Refresh} (haccepted : updateTrustConfig db₀ scale config = .ok res)
    (hloaded : loadTrustConfig db = scale) :
    (∀ d ∈ db.devices, ∀ u ∈ db.users, u.id = d.userId → u.mfaEnabled = true → ∀ p now,
      db.latestPosture d.id = some p → FullReport scale p → now < p.checkedAt + day →
      ((calculate (loadTrustConfig db) db now d.id).1.score = 100 ↔
        75 ≤ fullScore scale ∨ scale.weightOSVersion = 0)) ∧
    ((∀ p ∈ latestReports db, FullReport scale p) →
      (postureRate db = 100 ↔ db.devicePosture = [] ∨ 80 ≤ fullScore scale)) := by
  have hsum := sum_eq_fullScore (balanced_of_accepted haccepted)
  constructor
  · intro d hd u hu howner hmfa p now hlatest hfull hfresh
    rw [hloaded, score_of_full hd hu howner hmfa hlatest hfull hfresh]
    split
    · rename_i hok
      simp only [hok, true_or, iff_true]
      exact hsum
    · omega
  · intro hfull
    unfold postureRate
    rw [deviceRate_eq_iff, ← latestReports_eq_nil_iff]
    constructor
    · intro hall
      rcases List.eq_nil_or_concat (latestReports db) with hnil | ⟨init, p, hp⟩
      · exact .inl hnil
      · obtain ⟨q, hq, _, hpass⟩ := hall p (by simp [hp])
        rw [(hfull q hq).score] at hpass
        exact .inr (of_decide_eq_true hpass)
    · intro h p hp
      rcases h with hnil | hpass
      · rw [hnil] at hp
        cases hp
      · refine ⟨p, hp, rfl, ?_⟩
        rw [(hfull p hp).score]
        exact decide_eq_true hpass

def carol : User := ⟨"c", true, false, true, "carol", ""⟩

def laptop : Device := ⟨"d", "c", "key", .v4 7, true, none⟩

def reportedDb (scale : TrustScoreScale) : Database :=
  { (Database.ofDevice carol laptop rfl).setTrustConfig scale ⟨false, false⟩ with
    devicePosture := [postureRow scale "d" ⟨"d", "linux", "6", true, true, true, true⟩ 0] }

def heavyChecks : TrustScoreScale := ⟨25, 20, 20, 15, 10, 10, 80, 50, 20⟩

theorem heavy_checks_full : updateTrustConfig Database.empty heavyChecks ⟨false, false⟩ =
      .ok (Database.empty.setTrustConfig heavyChecks ⟨false, false⟩, .all) ∧
    (calculate heavyChecks (reportedDb heavyChecks) 1 "d").1.score = 100 ∧
    postureRate (reportedDb heavyChecks) = 100 := by
  have haccepted : updateTrustConfig Database.empty heavyChecks ⟨false, false⟩ =
      .ok (Database.empty.setTrustConfig heavyChecks ⟨false, false⟩, .all) := rfl
  have hreport : FullReport heavyChecks
      (postureRow heavyChecks "d" ⟨"d", "linux", "6", true, true, true, true⟩ 0) := ⟨_, _, _, rfl⟩
  have hloaded : loadTrustConfig (reportedDb heavyChecks) = heavyChecks := rfl
  obtain ⟨hscore, hrate⟩ := full_compliance_iff haccepted hloaded
  refine ⟨haccepted, ?_, ?_⟩
  · exact (hscore laptop (by decide) carol (by decide) rfl rfl _ 1 rfl hreport (by decide)).mpr
      (.inl (by decide))
  · refine (hrate ?_).mpr (.inr (by decide))
    intro p hp
    obtain rfl := List.mem_singleton.mp hp
    exact hreport

/-- With the default weights a report that passes every check scores 70. -/
theorem default_weights_fall_short : updateTrustConfig Database.empty defaultScale ⟨false, false⟩ =
      .ok (Database.empty.setTrustConfig defaultScale ⟨false, false⟩, .all) ∧
    FullReport defaultScale
      (postureRow defaultScale "d" ⟨"d", "linux", "6", true, true, true, true⟩ 0) ∧
    (reportedDb defaultScale).devicePosture =
      [postureRow defaultScale "d" ⟨"d", "linux", "6", true, true, true, true⟩ 0] ∧
    (calculate defaultScale (reportedDb defaultScale) 1 "d").1.score = 85 ∧
    postureRate (reportedDb defaultScale) = 0 := by
  refine ⟨rfl, ⟨_, _, _, rfl⟩, rfl, by decide, by decide +kernel⟩

end Outpost.Compliance
