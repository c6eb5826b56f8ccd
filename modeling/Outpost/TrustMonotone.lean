import Outpost.AutoRules

/-!
# Trust scores are percentages, and better postures score no worse

The weights of a stored configuration are not negative and add up to 100; a flag counts with its
own weight and, through the posture score, towards the OS check.
-/

namespace Outpost.TrustMonotone

open TrustScore ZtnaHandler AutoRules

def ComputedUnder (scale : TrustScoreScale) (p : DevicePostureRow) : Prop :=
  ∃ deviceID req checkedAt, p = postureRow scale deviceID req checkedAt

def Stale (p : DevicePostureRow) (now : Nat) : Prop := p.checkedAt + day < now

/-- A report with the owner's flag, at some time, and one at least as good. -/
structure Improved (p p' : DevicePostureRow) (mfa mfa' : Bool) (now now' : Nat) : Prop where
  diskEncrypted : p.diskEncrypted = true → p'.diskEncrypted = true
  screenLock : p.screenLock = true → p'.screenLock = true
  antivirus : p.antivirus = true → p'.antivirus = true
  firewall : p.firewall = true → p'.firewall = true
  mfaEnabled : mfa = true → mfa' = true
  fresh : Stale p' now' → Stale p now

section Levels

variable {scale : TrustScoreScale} {score score' : Int}

theorem rank_classify_mono (h : score ≤ score') :
    (classifyTrustLevel score scale).rank ≤ (classifyTrustLevel score' scale).rank := by
  unfold classifyTrustLevel
  split
  · rw [if_pos (by omega)]
  · split
    · split
      · decide
      · rw [if_pos (by omega)]
    · split
      · split
        · decide
        · split
          · decide
          · rw [if_pos (by omega)]
      · exact Nat.zero_le _

theorem penalized_mono (h : score ≤ score') (hnonneg : 0 ≤ score) :
    penalized score ≤ penalized score' := by
  unfold penalized
  rw [Int.tdiv_eq_ediv_of_nonneg (by omega), Int.tdiv_eq_ediv_of_nonneg (by omega)]
  omega

theorem penalized_le (hnonneg : 0 ≤ score) : penalized score ≤ score := by
  unfold penalized
  rw [Int.tdiv_eq_ediv_of_nonneg (by omega)]
  omega

end Levels

section Scores

variable {scale : TrustScoreScale} {p p' : DevicePostureRow} {mfa mfa' : Bool} {now now' : Nat}

theorem points_mono {weight : Int} (hweight : 0 ≤ weight) {passed passed' : Bool}
    (h : passed = true → passed' = true) :
    (if passed then weight else 0) ≤ if passed' then weight else 0 := by
  cases passed with
  | false =>
    rw [if_neg Bool.false_ne_true]
    split
    · exact hweight
    · exact Int.le_refl 0
  | true =>
    rw [h rfl]

theorem postureScore_mono (hbalanced : Balanced scale) (hp : ComputedUnder scale p)
    (hp' : ComputedUnder scale p') (h : Improved p p' mfa mfa' now now') : p.score ≤ p'.score := by
  obtain ⟨_, req, _, rfl⟩ := hp
  obtain ⟨_, req', _, rfl⟩ := hp'
  have hnonneg := hbalanced.nonneg
  simp only [weights, List.forall_mem_cons] at hnonneg
  have hdisk := points_mono hnonneg.1 h.diskEncrypted
  have hlock := points_mono hnonneg.2.1 h.screenLock
  have hantivirus := points_mono hnonneg.2.2.1 h.antivirus
  have hfirewall := points_mono hnonneg.2.2.2.1 h.firewall
  exact Int.add_le_add (Int.add_le_add (Int.add_le_add hdisk hlock) hantivirus) hfirewall

theorem totalScore_mono (hbalanced : Balanced scale) (hp : ComputedUnder scale p)
    (hp' : ComputedUnder scale p') (h : Improved p p' mfa mfa' now now') :
    totalScore ((checks scale p mfa).map Prod.fst) ≤
      totalScore ((checks scale p' mfa').map Prod.fst) := by
  have hscore := postureScore_mono hbalanced hp hp' h
  have hnonneg := hbalanced.nonneg
  simp only [weights, List.forall_mem_cons] at hnonneg
  have hdisk := points_mono hnonneg.1 h.diskEncrypted
  have hlock := points_mono hnonneg.2.1 h.screenLock
  have hantivirus := points_mono hnonneg.2.2.1 h.antivirus
  have hfirewall := points_mono hnonneg.2.2.2.1 h.firewall
  have hos : (if decide (75 ≤ p.score) = true then scale.weightOSVersion else 0) ≤
      if decide (75 ≤ p'.score) = true then scale.weightOSVersion else 0 := by
    apply points_mono hnonneg.2.2.2.2.1
    intro hok
    exact decide_eq_true ((of_decide_eq_true hok).trans hscore)
  have hmfa := points_mono hnonneg.2.2.2.2.2.1 h.mfaEnabled
  simp only [totalScore, checks, component, List.map_cons, List.sum_cons]
  omega

theorem score_evaluate (deviceID : Uuid) : (evaluate scale p mfa now deviceID).score =
    if p.checkedAt + day < now then penalized (totalScore ((checks scale p mfa).map Prod.fst))
    else totalScore ((checks scale p mfa).map Prod.fst) := by
  by_cases hstale : p.checkedAt + day < now
  · rw [evaluate, if_pos hstale, if_pos hstale]
  · rw [evaluate, if_neg hstale, if_neg hstale]

theorem total_nonneg (hbalanced : Balanced scale) :
    0 ≤ totalScore ((checks scale p mfa).map Prod.fst) := by
  have hfresh := (score_bounds hbalanced p mfa 0 "").1
  rw [score_evaluate, if_neg (Nat.not_lt_zero _)] at hfresh
  exact hfresh

theorem score_mono (hbalanced : Balanced scale) (hp : ComputedUnder scale p)
    (hp' : ComputedUnder scale p') (h : Improved p p' mfa mfa' now now')
    (deviceID deviceID' : Uuid) :
    (evaluate scale p mfa now deviceID).score ≤ (evaluate scale p' mfa' now' deviceID').score := by
  have htotal := totalScore_mono hbalanced hp hp' h
  have hnonneg : 0 ≤ totalScore ((checks scale p mfa).map Prod.fst) := total_nonneg hbalanced
  rw [score_evaluate, score_evaluate]
  split
  · split
    · exact penalized_mono htotal hnonneg
    · exact (penalized_le hnonneg).trans htotal
  · rename_i hfresh
    have hfresh' : ¬ p'.checkedAt + day < now' := fun hstale => hfresh (h.fresh hstale)
    rw [if_neg hfresh']
    exact htotal

end Scores

theorem calculate_report_eq {scale : TrustScoreScale} {db : Database} {deviceID userID : Uuid}
    {p : DevicePostureRow} (hreport : latestReport db deviceID = some (p, userID)) (now : Nat) :
    (calculate scale db now deviceID).1 = evaluate scale p (ownerMFA db userID) now deviceID := by
  unfold calculate
  rw [hreport]

/-- The scores of a stored configuration: between 0 and 100; no lower for a report that is at least
as good; and the level goes with the score. -/
theorem trust_scores_monotone {db stored : Database} {scale : TrustScoreScale}
    {config : TrustScoreConfig} {refresh : Refresh}
    (haccepted : updateTrustConfig db scale config = .ok (stored, refresh)) :
    loadTrustConfig stored = scale ∧
      (∀ db now deviceID, 0 ≤ (calculate scale db now deviceID).1.score ∧
        (calculate scale db now deviceID).1.score ≤ 100) ∧
      (∀ db db' now now' deviceID deviceID' p p' userID userID',
        latestReport db deviceID = some (p, userID) →
        latestReport db' deviceID' = some (p', userID') →
        ComputedUnder scale p → ComputedUnder scale p' →
        Improved p p' (ownerMFA db userID) (ownerMFA db' userID') now now' →
          (calculate scale db now deviceID).1.score ≤ (calculate scale db' now' deviceID').1.score ∧
            (calculate scale db now deviceID).1.level.rank ≤
              (calculate scale db' now' deviceID').1.level.rank) ∧
      ∀ score score', score ≤ score' →
        (classifyTrustLevel score scale).rank ≤ (classifyTrustLevel score' scale).rank := by
  have hbalanced := balanced_of_accepted haccepted
  refine ⟨?_, ?_, ?_, fun _ _ => rank_classify_mono⟩
  · cases updateTrustConfig_spec haccepted
    rfl
  · intro db now deviceID
    cases hreport : latestReport db deviceID with
    | none =>
      unfold calculate
      rw [hreport]
      exact ⟨Int.le_refl 0, Int.zero_le_ofNat 100⟩
    | some report =>
      rw [calculate_report_eq hreport]
      exact score_bounds hbalanced _ _ _ _
  · intro db db' now now' deviceID deviceID' p p' userID userID' hreport hreport' hp hp' himproved
    have hscore := score_mono hbalanced hp hp' himproved deviceID deviceID'
    rw [calculate_report_eq hreport, calculate_report_eq hreport', level_evaluate, level_evaluate]
    exact ⟨hscore, rank_classify_mono hscore⟩

def encrypted : PostureReport := { reported with diskEncrypted := true }

def after (req : PostureReport) : Database :=
  start.addPosture (postureRow defaultScale "d" req 1)

theorem default_accepted : updateTrustConfig start defaultScale ⟨false, false⟩ =
    .ok (start.setTrustConfig defaultScale ⟨false, false⟩, .all) := rfl

theorem encryption_scores_no_worse :
    (calculate defaultScale (after reported) 2 "d").1.score ≤
        (calculate defaultScale (after encrypted) 2 "d").1.score ∧
      (calculate defaultScale (after reported) 2 "d").1.level.rank ≤
        (calculate defaultScale (after encrypted) 2 "d").1.level.rank :=
  (trust_scores_monotone default_accepted).2.2.1 _ _ _ _ _ _ _ _ "c" "c" rfl rfl
    ⟨"d", reported, 1, rfl⟩ ⟨"d", encrypted, 1, rfl⟩
    ⟨fun _ => rfl, id, id, id, id, id⟩

end Outpost.TrustMonotone
