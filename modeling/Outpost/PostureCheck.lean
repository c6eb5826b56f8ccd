import Mathlib
import Outpost.Shared.GoMap

/-!
# Checking the posture of a device

`Evaluate` of `PostureChecker`. The components of a version are read with `strconv.Atoi`, whose
error is dropped: what is not a number counts as 0, what does not fit an `int` as the nearest.
-/

namespace Outpost.PostureCheck

inductive NumError where
  | badSyntax
  | outOfRange
deriving DecidableEq

def maxUint64 : Nat := 2 ^ 64 - 1

/-- The loop of `strconv.ParseUint`. It stops at the first digit that is too much. -/
def readDigits : List Char → Nat → Nat × Option NumError
  | [], n => (n, none)
  | c :: cs, n =>
    if ¬ c.isDigit then (0, some .badSyntax)
    else if maxUint64 < 10 * n + (c.toNat - '0'.toNat) then (maxUint64, some .outOfRange)
    else readDigits cs (10 * n + (c.toNat - '0'.toNat))

def parseUint (cs : List Char) : Nat × Option NumError :=
  if cs = [] then (0, some .badSyntax) else readDigits cs 0

def parseSigned (neg : Bool) (cs : List Char) : Int × Option NumError :=
  match parseUint cs with
  | (_, some .badSyntax) => (0, some .badSyntax)
  | (un, _) =>
    if ¬ neg ∧ 2 ^ 63 ≤ un then (2 ^ 63 - 1, some .outOfRange)
    else if neg ∧ 2 ^ 63 < un then (-2 ^ 63, some .outOfRange)
    else (if neg then -un else un, none)

def atoi : List Char → Int × Option NumError
  | '+' :: cs => parseSigned false cs
  | '-' :: cs => parseSigned true cs
  | cs => parseSigned false cs

inductive Decimal : List Char → Int → Prop where
  | plain {cs : List Char} : cs ≠ [] → cs.all Char.isDigit →
      Nat.ofDigitChars 10 cs 0 < 2 ^ 63 → Decimal cs (Nat.ofDigitChars 10 cs 0)
  | plus {cs : List Char} : cs ≠ [] → cs.all Char.isDigit →
      Nat.ofDigitChars 10 cs 0 < 2 ^ 63 → Decimal ('+' :: cs) (Nat.ofDigitChars 10 cs 0)
  | minus {cs : List Char} : cs ≠ [] → cs.all Char.isDigit →
      Nat.ofDigitChars 10 cs 0 ≤ 2 ^ 63 → Decimal ('-' :: cs) (-Nat.ofDigitChars 10 cs 0)

theorem le_ofDigitChars (cs : List Char) (n : Nat) : n ≤ Nat.ofDigitChars 10 cs n := by
  induction cs generalizing n with
  | nil => exact Nat.le_refl n
  | cons c cs ih =>
    rw [Nat.ofDigitChars_cons]
    refine Nat.le_trans ?_ (ih _)
    omega

variable {cs : List Char}

theorem readDigits_eq {n : Nat} (hdigits : cs.all Char.isDigit = true)
    (hfits : Nat.ofDigitChars 10 cs n ≤ maxUint64) :
    readDigits cs n = (Nat.ofDigitChars 10 cs n, none) := by
  induction cs generalizing n with
  | nil => rfl
  | cons c cs ih =>
    obtain ⟨hc, hcs⟩ := Bool.and_eq_true_iff.mp hdigits
    have hle := (le_ofDigitChars cs _).trans hfits
    rw [readDigits, if_neg (not_not.mpr hc), if_neg (Nat.not_lt.mpr hle)]
    exact ih hcs hfits

theorem parseUint_eq (hne : cs ≠ []) (hdigits : cs.all Char.isDigit = true)
    (hfits : Nat.ofDigitChars 10 cs 0 ≤ 2 ^ 63) :
    parseUint cs = (Nat.ofDigitChars 10 cs 0, none) := by
  rw [parseUint, if_neg hne]
  exact readDigits_eq hdigits (hfits.trans (by decide))

theorem atoi_digits (hne : cs ≠ []) (hdigits : cs.all Char.isDigit = true) :
    atoi cs = parseSigned false cs := by
  cases cs with
  | nil => exact absurd rfl hne
  | cons c cs =>
    unfold atoi
    split
    · rename_i heq
      obtain ⟨rfl, _⟩ := List.cons.inj heq
      cases hdigits
    · rename_i heq
      obtain ⟨rfl, _⟩ := List.cons.inj heq
      cases hdigits
    · rfl

theorem atoi_eq_of_decimal {v : Int} (h : Decimal cs v) : atoi cs = (v, none) := by
  have hplain : ∀ {cs : List Char}, cs ≠ [] → cs.all Char.isDigit = true →
      Nat.ofDigitChars 10 cs 0 < 2 ^ 63 →
      parseSigned false cs = ((Nat.ofDigitChars 10 cs 0 : Int), none) := by
    intro cs hne hdigits hfits
    rw [parseSigned, parseUint_eq hne hdigits hfits.le]
    dsimp only
    rw [if_neg (not_and_of_not_right _ (Nat.not_le.mpr hfits)), if_neg (by simp)]
    rfl
  cases h with
  | plain hne hdigits hfits =>
    rw [atoi_digits hne hdigits]
    exact hplain hne hdigits hfits
  | plus hne hdigits hfits => exact hplain hne hdigits hfits
  | minus hne hdigits hfits =>
    rw [atoi, parseSigned, parseUint_eq hne hdigits hfits]
    dsimp only
    rw [if_neg (by simp), if_neg (not_and_of_not_right _ (Nat.not_lt.mpr hfits))]
    rfl

theorem Decimal.no_dot {v : Int} (h : Decimal cs v) : '.' ∉ cs := by
  have hdigits : ∀ {cs : List Char}, cs.all Char.isDigit = true → '.' ∉ cs := by
    intro cs hdigits hdot
    exact absurd (List.all_eq_true.mp hdigits '.' hdot) (by decide)
  cases h with
  | plain _ h _ => exact hdigits h
  | plus _ h _ => simp [hdigits h]
  | minus _ h _ => simp [hdigits h]

section Scan

variable {α : Type} [LinearOrder α]

def scanFrom (a r : Nat → α) : Nat → Nat → Bool
  | 0, _ => true
  | n + 1, i =>
    if r i < a i then true
    else if a i < r i then false
    else scanFrom a r n (i + 1)

theorem scanFrom_eq_false {a r : Nat → α} {n i : Nat} :
    scanFrom a r n i = false ↔
      ∃ j, i ≤ j ∧ j < i + n ∧ (∀ k, i ≤ k → k < j → a k = r k) ∧ a j < r j := by
  induction n generalizing i with
  | zero =>
    refine iff_of_false (by simp [scanFrom]) ?_
    intro h
    omega
  | succ n ih =>
    rw [scanFrom]
    rcases lt_trichotomy (a i) (r i) with hlt | heq | hgt
    · rw [if_neg hlt.not_gt, if_pos hlt]
      refine iff_of_true rfl ⟨i, Nat.le_refl i, by omega, ?_, hlt⟩
      omega
    · rw [if_neg heq.le.not_gt, if_neg heq.ge.not_gt, ih]
      constructor
      · intro h
        obtain ⟨j, hij, hjn, hbefore, hj⟩ := h
        refine ⟨j, by omega, by omega, ?_, hj⟩
        intro k hik hkj
        rcases Nat.eq_or_lt_of_le hik with rfl | hlt
        · exact heq
        · exact hbefore k hlt hkj
      · intro h
        obtain ⟨j, hij, hjn, hbefore, hj⟩ := h
        have hne : i ≠ j := by
          intro hsame
          rw [← hsame, heq] at hj
          exact lt_irrefl _ hj
        exact ⟨j, by omega, by omega, fun k hik hkj => hbefore k (by omega) hkj, hj⟩
    · rw [if_pos hgt]
      refine iff_of_false (by simp) ?_
      intro h
      obtain ⟨j, hij, _, hbefore, hj⟩ := h
      rcases Nat.eq_or_lt_of_le hij with rfl | hlt
      · exact lt_asymm hgt hj
      · exact absurd (hbefore i (Nat.le_refl i) hlt) hgt.ne'

theorem scanFrom_iff_le {a r : Nat → α} {n : Nat} (hrest : ∀ k, n ≤ k → a k = r k) :
    scanFrom a r n 0 = true ↔ toLex r ≤ toLex a := by
  rw [← not_lt, ← Bool.not_eq_false, not_iff_not, scanFrom_eq_false]
  constructor
  · intro h
    obtain ⟨j, _, _, hbefore, hj⟩ := h
    exact ⟨j, fun k hk => hbefore k (Nat.zero_le k) hk, hj⟩
  · intro h
    obtain ⟨j, hbefore, hj⟩ := h
    have hjn : j < n := by
      by_contra hle
      have heq : a j = r j := hrest j (Nat.not_lt.mp hle)
      exact absurd hj (heq.ge.not_gt)
    exact ⟨j, Nat.zero_le j, by omega, fun k _ hk => hbefore k hk, hj⟩

end Scan

def padded (components : List Int) : Nat → Int := fun i => components.getD i 0

def parts (version : String) : List (List Char) := version.toList.splitOn '.'

def components (version : String) : List Int := (parts version).map fun part => (atoi part).1

def isVersionAtLeast (actual required : String) : Bool :=
  let actualParts := parts actual
  let requiredParts := parts required
  let maxLen := max actualParts.length requiredParts.length
  scanFrom
    (fun i => ((actualParts[i]?).map fun part => (atoi part).1).getD 0)
    (fun i => ((requiredParts[i]?).map fun part => (atoi part).1).getD 0) maxLen 0

theorem isVersionAtLeast_iff {actual required : String} :
    isVersionAtLeast actual required = true ↔
      toLex (padded (components required)) ≤ toLex (padded (components actual)) := by
  have hpadded : ∀ version, (fun i => (((parts version)[i]?).map fun part => (atoi part).1).getD 0) =
      padded (components version) := by
    intro version
    funext i
    rw [padded, List.getD_eq_getElem?_getD, components, List.getElem?_map]
  unfold isVersionAtLeast
  dsimp only
  rw [hpadded, hpadded]
  apply scanFrom_iff_le
  intro k hk
  have hnone : ∀ version, (parts version).length ≤ k → padded (components version) k = 0 := by
    intro version hlength
    apply List.getD_eq_default
    rw [components, List.length_map]
    exact hlength
  rw [hnone actual (by omega), hnone required (by omega)]

theorem isVersionAtLeast_refl (s : String) : isVersionAtLeast s s = true :=
  isVersionAtLeast_iff.mpr (le_refl _)

theorem isVersionAtLeast_trans {s t u : String} (hst : isVersionAtLeast s t = true)
    (htu : isVersionAtLeast t u = true) : isVersionAtLeast s u = true :=
  isVersionAtLeast_iff.mpr
    ((isVersionAtLeast_iff.mp htu).trans (isVersionAtLeast_iff.mp hst))

theorem isVersionAtLeast_total (s t : String) :
    isVersionAtLeast s t = true ∨ isVersionAtLeast t s = true := by
  rw [isVersionAtLeast_iff, isVersionAtLeast_iff]
  exact le_total _ _

def written (numbers : List (String × Int)) : String := ".".intercalate (numbers.map Prod.fst)

theorem padded_written {numbers : List (String × Int)}
    (h : ∀ number ∈ numbers, Decimal number.1.toList number.2) :
    padded (components (written numbers)) = padded (numbers.map Prod.snd) := by
  by_cases hnil : numbers = []
  · -- the text is empty, and the one part of it is no number
    subst hnil
    funext i
    cases i with
    | _ => rfl
  · have hparts : parts (written numbers) = numbers.map fun number => number.1.toList := by
      unfold parts written
      rw [String.toList_intercalate, List.map_map]
      apply List.splitOn_intercalate
      · intro part hpart
        obtain ⟨number, hnumber, rfl⟩ := List.mem_map.mp hpart
        exact (h number hnumber).no_dot
      · simpa using hnil
    have hvalues : components (written numbers) = numbers.map Prod.snd := by
      unfold components
      rw [hparts, List.map_map]
      apply List.map_congr_left
      intro number hnumber
      exact congrArg Prod.fst (atoi_eq_of_decimal (h number hnumber))
    rw [hvalues]

structure DevicePosture where
  (osType osVersion : String)
  (diskEncrypted screenLockEnabled antivirusActive firewallEnabled : Bool)

structure PosturePolicy where
  (requireDiskEncryption requireScreenLock requireAntivirus requireFirewall : Bool)
  minOSVersion : GoMap String String
  minPostureScore : Int

structure Findings where
  violations : List String
  score : Int

def Findings.check (failed : Bool) (violation : String) (penalty : Int) (f : Findings) : Findings :=
  if failed then ⟨f.violations ++ [violation], f.score - penalty⟩ else f

def checkVersion (posture : DevicePosture) (policy : PosturePolicy) (f : Findings) : Findings :=
  match policy.minOSVersion.lookup posture.osType with
  | none => f
  | some minVer =>
    f.check (!isVersionAtLeast posture.osVersion minVer)
      (posture.osType ++ " version " ++ posture.osVersion ++ " is below minimum required " ++ minVer)
      25

def findings (posture : DevicePosture) (policy : PosturePolicy) : Findings :=
  let f : Findings := ⟨[], 100⟩
  let f := f.check (policy.requireDiskEncryption && !posture.diskEncrypted)
    "disk encryption is not enabled" 25
  let f := f.check (policy.requireScreenLock && !posture.screenLockEnabled)
    "screen lock is not enabled" 15
  let f := f.check (policy.requireAntivirus && !posture.antivirusActive)
    "antivirus is not active" 20
  let f := f.check (policy.requireFirewall && !posture.firewallEnabled)
    "firewall is not enabled" 15
  checkVersion posture policy f

def clamp (score : Int) : Int := if score < 0 then 0 else score

theorem clamp_mono {score score' : Int} (h : score ≤ score') : clamp score ≤ clamp score' := by
  unfold clamp
  split
  · split <;> omega
  · split <;> omega

def evaluate (posture : DevicePosture) (policy : PosturePolicy) : Bool × Int × List String :=
  let f := findings posture policy
  let score := clamp f.score
  let violations :=
    if 0 < policy.minPostureScore ∧ score < policy.minPostureScore then
      f.violations ++ ["posture score " ++ toString score ++ " is below minimum required " ++
        toString policy.minPostureScore]
    else f.violations
  (violations.isEmpty, score, violations)

structure AtLeast (p p' : DevicePosture) : Prop where
  osType : p'.osType = p.osType
  osVersion : isVersionAtLeast p'.osVersion p.osVersion = true
  diskEncrypted : p.diskEncrypted = true → p'.diskEncrypted = true
  screenLockEnabled : p.screenLockEnabled = true → p'.screenLockEnabled = true
  antivirusActive : p.antivirusActive = true → p'.antivirusActive = true
  firewallEnabled : p.firewallEnabled = true → p'.firewallEnabled = true

structure Findings.Better (f f' : Findings) : Prop where
  score : f.score ≤ f'.score
  violations : f.violations = [] → f'.violations = []

theorem Findings.Better.check {f f' : Findings} (h : f.Better f') {failed failed' : Bool}
    (hfailed : failed' = true → failed = true) (violation violation' : String) {penalty : Int}
    (hpenalty : 0 ≤ penalty) :
    (f.check failed violation penalty).Better (f'.check failed' violation' penalty) := by
  have hscore := h.score
  unfold Findings.check
  cases failed with
  | true =>
    rw [if_pos rfl]
    split
    · exact ⟨Int.sub_le_sub_right hscore penalty, by simp⟩
    · exact ⟨by dsimp only; omega, by simp⟩
  | false =>
    rw [if_neg (by simp), if_neg (fun hf => by cases hfailed hf)]
    exact h

variable {p p' : DevicePosture}

theorem checkVersion_better (h : AtLeast p p') {policy : PosturePolicy}
    {f f' : Findings} (hf : f.Better f') :
    (checkVersion p policy f).Better (checkVersion p' policy f') := by
  unfold checkVersion
  rw [h.osType]
  cases policy.minOSVersion.lookup p.osType with
  | none => exact hf
  | some minVer =>
    refine hf.check ?_ _ _ (by decide)
    intro hbelow
    cases hp : isVersionAtLeast p.osVersion minVer with
    | false => rfl
    | true =>
      rw [isVersionAtLeast_trans h.osVersion hp] at hbelow
      cases hbelow

theorem findings_better (h : AtLeast p p') (policy : PosturePolicy) :
    (findings p policy).Better (findings p' policy) := by
  have hflag : ∀ {required flag flag' : Bool}, (flag = true → flag' = true) →
      (required && !flag') = true → (required && !flag) = true := by
    intro required flag flag' himp
    cases required <;> cases flag <;> cases flag' <;> simp_all
  have hstart : Findings.Better ⟨[], 100⟩ ⟨[], 100⟩ := ⟨Int.le_refl _, id⟩
  apply checkVersion_better h
  refine Findings.Better.check ?_ (hflag h.firewallEnabled) _ _ (by decide)
  refine Findings.Better.check ?_ (hflag h.antivirusActive) _ _ (by decide)
  refine Findings.Better.check ?_ (hflag h.screenLockEnabled) _ _ (by decide)
  exact hstart.check (hflag h.diskEncrypted) _ _ (by decide)

theorem evaluate_score_le (h : AtLeast p p') (policy : PosturePolicy) :
    (evaluate p policy).2.1 ≤ (evaluate p' policy).2.1 :=
  clamp_mono (findings_better h policy).score

theorem evaluate_complies (h : AtLeast p p') (policy : PosturePolicy)
    (hcomplies : (evaluate p policy).1 = true) : (evaluate p' policy).1 = true := by
  have hbetter := findings_better h policy
  unfold evaluate at hcomplies ⊢
  rw [List.isEmpty_iff] at hcomplies ⊢
  split at hcomplies
  · exact absurd hcomplies (by simp)
  · rename_i hlow
    rw [if_neg, hbetter.violations hcomplies]
    intro hlow'
    exact hlow ⟨hlow'.1, lt_of_le_of_lt (clamp_mono hbetter.score) hlow'.2⟩

/-- The order of versions, and what it means for postures. -/
theorem posture_monotone :
    (∀ s, isVersionAtLeast s s = true) ∧
    (∀ s t u, isVersionAtLeast s t = true → isVersionAtLeast t u = true →
      isVersionAtLeast s u = true) ∧
    (∀ s t, isVersionAtLeast s t = true ∨ isVersionAtLeast t s = true) ∧
    (∀ actual required : List (String × Int),
      (∀ number ∈ actual ++ required, Decimal number.1.toList number.2) →
      (isVersionAtLeast (written actual) (written required) = true ↔
        toLex (padded (required.map Prod.snd)) ≤ toLex (padded (actual.map Prod.snd)))) ∧
    ∀ (policy : PosturePolicy) (p p' : DevicePosture), AtLeast p p' →
      ((evaluate p policy).1 = true → (evaluate p' policy).1 = true) ∧
      (evaluate p policy).2.1 ≤ (evaluate p' policy).2.1 := by
  refine ⟨isVersionAtLeast_refl, fun s t u => isVersionAtLeast_trans, isVersionAtLeast_total,
    ?_, ?_⟩
  · intro actual required h
    rw [isVersionAtLeast_iff,
      padded_written fun number hnumber => h number (List.mem_append_left _ hnumber),
      padded_written fun number hnumber => h number (List.mem_append_right _ hnumber)]
  · intro policy p p' h
    exact ⟨evaluate_complies h policy, evaluate_score_le h policy⟩

/-- A number that is too large is the largest, also when it is no number in the end. -/
example : isVersionAtLeast "99999999999999999999x" "9223372036854775806" = true := by
  decide +kernel

example : isVersionAtLeast "9.99x" "9.1" = false := by decide +kernel

end Outpost.PostureCheck
