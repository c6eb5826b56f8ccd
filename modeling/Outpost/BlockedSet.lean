import Outpost.ZtnaBlock

/-!
# The ZTNA-blocked set

What `buildFirewallConfigFromPool` collects in `blockedByZTNA`, said without its loops.
-/

namespace Outpost

open GoMap

def Database.AutoBlocks (db : Database) (level : String) : Prop :=
  ∃ c, db.trustScoreConfig = some c ∧
    (c.autoBlockBelowLow = true ∧ (level = "critical" ∨ level = "low") ∨
      c.autoRestrictBelowMedium = true ∧ level = "critical")

def PolicyConditions.Fails (cond : PolicyConditions) (p : DevicePosture) : Prop :=
  (∃ m, cond.minTrustScore = some m ∧ p.trustScore < m) ∨
    cond.requireDiskEncryption = some true ∧ p.diskEncrypted = false ∨
    cond.requireScreenLock = some true ∧ p.screenLock = false ∨
    cond.requireAntivirus = some true ∧ p.antivirus = false ∨
    cond.requireFirewall = some true ∧ p.firewall = false ∨
    cond.requireMFA = some true ∧ p.mfaEnabled = false

def ZtnaPolicy.Blocks (policy : ZtnaPolicy) (p : DevicePosture) : Prop :=
  policy.isActive = true ∧ (policy.action = "deny" ∨ policy.action = "restrict") ∧
    (policy.networkIds = [] ∨ p.networkID ∈ policy.networkIds) ∧
    ∃ cond, policy.conditions = some cond ∧ cond.Fails p

def Database.Blocks (db : Database) (p : DevicePosture) : Prop :=
  db.AutoBlocks p.trustLevel ∨ ∃ policy ∈ db.ztnaPolicies, policy.Blocks p

section Blocks

variable {db : Database} {p : DevicePosture}

theorem autoFails_iff : autoFails (autoFlags noFaults db).1 (autoFlags noFaults db).2 p = true ↔
    db.AutoBlocks p.trustLevel := by
  unfold autoFlags autoFails Database.AutoBlocks
  cases db.trustScoreConfig with
  | _ => simp [noFaults]

theorem required_iff (required : Option Bool) (flag : Bool) :
    (required.any fun r => r && !flag) = true ↔ required = some true ∧ flag = false := by
  cases required with
  | _ => simp

theorem failsConditions_iff (cond : PolicyConditions) :
    failsConditions cond p = true ↔ cond.Fails p := by
  unfold failsConditions PolicyConditions.Fails
  simp only [Bool.or_eq_true, required_iff, or_assoc]
  simp [Option.any_eq_true]

theorem mem_policyQuery {policy : ZtnaPolicy} :
    policy ∈ db.policyQuery ∧ policyFails policy p = true ↔
    policy ∈ db.ztnaPolicies ∧ policy.Blocks p := by
  unfold Database.policyQuery policyFails appliesTo ZtnaPolicy.Blocks
  simp only [List.mem_filter, decide_eq_true_eq, Option.any_eq_true, Bool.and_eq_true,
    Bool.or_eq_true, List.isEmpty_iff, List.contains_iff_mem, failsConditions_iff]
  constructor
  · rintro ⟨⟨hpolicy, hactive, haction⟩, cond, hcond, hnetwork, hfails⟩
    exact ⟨hpolicy, hactive, haction, hnetwork, cond, hcond, hfails⟩
  · rintro ⟨hpolicy, hactive, haction, hnetwork, cond, hcond, hfails⟩
    exact ⟨⟨hpolicy, hactive, haction⟩, cond, hcond, hnetwork, hfails⟩

theorem blocksPosture_iff : db.blocksPosture p = true ↔ db.Blocks p := by
  unfold Database.blocksPosture Database.Blocks
  rw [Bool.or_eq_true, autoFails_iff, List.any_eq_true]
  simp only [mem_policyQuery]

end Blocks

theorem mem_blockedByZTNA (orders : Orders) (db : Database) (gatewayID : Uuid) (ip : String) :
    flag (blockedByZTNA noFaults orders db gatewayID) ip = true ↔
      ∃ d ∈ db.devices, host d.assignedIp = ip ∧ Database.Keyed d ∧ db.Attached gatewayID d ∧
        ∃ p, db.IsPosture d p ∧ db.Blocks p := by
  simp only [← blocksPosture_iff]
  constructor
  · intro h
    obtain ⟨d, hd, hip, hblocked⟩ := blocked_address h
    exact ⟨d, hd, hip, hblocked⟩
  · intro h
    obtain ⟨d, hd, rfl, hblocked⟩ := h
    exact (blocked_iff orders db gatewayID hd).mpr hblocked

def TrustLevel.rank : TrustLevel → Nat
  | .critical => 0
  | .low => 1
  | .medium => 2
  | .high => 3

def LevelRaised (level level' : String) : Prop :=
  level' = level ∨ ∃ l l' : TrustLevel, level = l.text ∧ level' = l'.text ∧ l.rank ≤ l'.rank

structure DevicePosture.Improves (p p' : DevicePosture) : Prop where
  networkID : p'.networkID = p.networkID
  trustScore : p.trustScore ≤ p'.trustScore
  trustLevel : LevelRaised p.trustLevel p'.trustLevel
  diskEncrypted : p.diskEncrypted = true → p'.diskEncrypted = true
  screenLock : p.screenLock = true → p'.screenLock = true
  antivirus : p.antivirus = true → p'.antivirus = true
  firewall : p.firewall = true → p'.firewall = true
  mfaEnabled : p.mfaEnabled = true → p'.mfaEnabled = true

section Improves

variable {p p' : DevicePosture}

variable {level level' : String}

theorem LevelRaised.low_or_critical (h : LevelRaised level level') :
    (level' = "critical" → level = "critical") ∧
      (level' = "critical" ∨ level' = "low" → level = "critical" ∨ level = "low") := by
  rcases h with rfl | ⟨l, l', rfl, rfl, hrank⟩
  · exact ⟨id, id⟩
  · cases l <;> cases l' <;> first | (exact absurd hrank (by decide)) | decide

theorem Database.AutoBlocks.mono {db : Database} (h : LevelRaised level level')
    (hblocks : db.AutoBlocks level') : db.AutoBlocks level := by
  obtain ⟨hcritical, hlow⟩ := h.low_or_critical
  obtain ⟨c, hc, hrule⟩ := hblocks
  exact ⟨c, hc, hrule.imp (And.imp_right hlow) (And.imp_right hcritical)⟩

theorem off_of_off {flag flag' : Bool} (h : flag = true → flag' = true) (hoff : flag' = false) :
    flag = false := by
  cases flag with
  | false => rfl
  | true => exact absurd (h rfl) (by simp [hoff])

theorem PolicyConditions.Fails.mono {cond : PolicyConditions} (h : p.Improves p')
    (hfails : cond.Fails p') : cond.Fails p := by
  rcases hfails with ⟨m, hm, hlt⟩ | ⟨hreq, hoff⟩ | ⟨hreq, hoff⟩ | ⟨hreq, hoff⟩ | ⟨hreq, hoff⟩ |
    ⟨hreq, hoff⟩
  · exact .inl ⟨m, hm, Int.lt_of_le_of_lt h.trustScore hlt⟩
  · exact .inr (.inl ⟨hreq, off_of_off h.diskEncrypted hoff⟩)
  · exact .inr (.inr (.inl ⟨hreq, off_of_off h.screenLock hoff⟩))
  · exact .inr (.inr (.inr (.inl ⟨hreq, off_of_off h.antivirus hoff⟩)))
  · exact .inr (.inr (.inr (.inr (.inl ⟨hreq, off_of_off h.firewall hoff⟩))))
  · exact .inr (.inr (.inr (.inr (.inr ⟨hreq, off_of_off h.mfaEnabled hoff⟩))))

theorem ZtnaPolicy.Blocks.mono {policy : ZtnaPolicy} (h : p.Improves p')
    (hblocks : policy.Blocks p') : policy.Blocks p := by
  obtain ⟨hactive, haction, hnetwork, cond, hcond, hfails⟩ := hblocks
  exact ⟨hactive, haction, h.networkID ▸ hnetwork, cond, hcond, hfails.mono h⟩

end Improves

/-- The second tables are at least as good: flags that are on stay on, the latest score and level do
not fall, and some policies are no longer active. -/
structure Database.Improves (db db' : Database) : Prop where
  devices : db'.devices = db.devices
  gatewayNetworks : db'.gatewayNetworks = db.gatewayNetworks
  trustScoreConfig : db'.trustScoreConfig = db.trustScoreConfig
  policies : ∀ policy ∈ db'.ztnaPolicies, policy.isActive = true → policy ∈ db.ztnaPolicies
  mfa : ∀ u ∈ db.users, ∀ u' ∈ db'.users, u'.id = u.id → u.mfaEnabled = true → u'.mfaEnabled = true
  flags : ∀ flag ∈ [DevicePostureRow.diskEncrypted, DevicePostureRow.screenLock,
      DevicePostureRow.antivirus, DevicePostureRow.firewall], ∀ deviceID,
    ((db.latestPosture deviceID).map flag).getD false = true →
      ((db'.latestPosture deviceID).map flag).getD false = true
  score : ∀ deviceID, ((db.latestTrustScore deviceID).map DeviceTrustScore.score).getD 0 ≤
    ((db'.latestTrustScore deviceID).map DeviceTrustScore.score).getD 0
  level : ∀ deviceID,
    LevelRaised (((db.latestTrustScore deviceID).map DeviceTrustScore.level).getD "critical")
      (((db'.latestTrustScore deviceID).map DeviceTrustScore.level).getD "critical")

section Tables

variable {db db' : Database}

variable {p p' : DevicePosture}

theorem Database.Improves.posture {d : Device} (h : db.Improves db') (hp : db.IsPosture d p)
    (hp' : db'.IsPosture d p') : p.Improves p' := by
  obtain ⟨u, hu, huser, networkID, hnetwork, rfl⟩ := hp
  obtain ⟨u', hu', huser', networkID', hnetwork', rfl⟩ := hp'
  obtain rfl := Option.some.inj (hnetwork.symm.trans hnetwork')
  exact ⟨rfl, h.score d.id, h.level d.id, h.flags _ (by simp) d.id, h.flags _ (by simp) d.id,
    h.flags _ (by simp) d.id, h.flags _ (by simp) d.id, h.mfa u hu u' hu' (huser'.trans huser.symm)⟩

theorem Database.Improves.blocks (h : db.Improves db') (hposture : p.Improves p')
    (hblocks : db'.Blocks p') : db.Blocks p := by
  rcases hblocks with hauto | ⟨policy, hpolicy, hblocks⟩
  · refine .inl (Database.AutoBlocks.mono hposture.trustLevel ?_)
    unfold Database.AutoBlocks at hauto ⊢
    rwa [h.trustScoreConfig] at hauto
  · exact .inr ⟨policy, h.policies policy hpolicy hblocks.1, hblocks.mono hposture⟩

end Tables

/-- The blocked set holds the devices that the auto rule or a policy blocks, and more trust moves no
device into it. -/
theorem blocked_set_semantics (db : Database) (gatewayID : Uuid) :
    (∀ orders ip, flag (blockedByZTNA noFaults orders db gatewayID) ip = true ↔
      ∃ d ∈ db.devices, host d.assignedIp = ip ∧ d.isApproved = true ∧ d.wireguardPubkey ≠ "" ∧
        db.Attached gatewayID d ∧ ∃ p, db.IsPosture d p ∧
          (db.AutoBlocks p.trustLevel ∨ ∃ policy ∈ db.ztnaPolicies, policy.Blocks p)) ∧
    (∀ orders orders' ip, flag (blockedByZTNA noFaults orders db gatewayID) ip =
      flag (blockedByZTNA noFaults orders' db gatewayID) ip) ∧
    ∀ db', db.Improves db' → ∀ orders orders' ip,
      flag (blockedByZTNA noFaults orders' db' gatewayID) ip = true →
        flag (blockedByZTNA noFaults orders db gatewayID) ip = true := by
  refine ⟨?_, ?_, ?_⟩
  · intro orders ip
    rw [mem_blockedByZTNA]
    simp only [Database.Keyed, Database.Blocks, and_assoc]
  · intro orders orders' ip
    rw [Bool.eq_iff_iff, mem_blockedByZTNA, mem_blockedByZTNA]
  · intro db' h orders orders' ip hblocked
    rw [mem_blockedByZTNA] at hblocked ⊢
    obtain ⟨d, hd, hip, hkeyed, hattached, p', hp', hblocks⟩ := hblocked
    have hdevice : d ∈ db.devices := h.devices ▸ hd
    have hserved : db.Attached gatewayID d := by
      unfold Database.Attached at hattached ⊢
      rwa [h.gatewayNetworks] at hattached
    obtain ⟨u, hu, howner⟩ := db.device_owner d hdevice
    obtain ⟨networkID, hnetwork⟩ : ∃ networkID, d.networkId = some networkID := by
      obtain ⟨_, _, _, networkID, hnetwork, _⟩ := hp'
      exact ⟨networkID, hnetwork⟩
    have hp : db.IsPosture d (db.postureOf d u networkID) :=
      ⟨u, hu, howner, networkID, hnetwork, rfl⟩
    exact ⟨d, hdevice, hip, hkeyed, hserved, _, hp, h.blocks (h.posture hp hp') hblocks⟩

namespace BlockedSet

open ZtnaBlock

def keyless : Device := ⟨"d", "c", "", .v4 7, true, some "n"⟩

theorem keyless_owner : carol.id = keyless.userId := rfl

def keylessDb : Database :=
  { Database.ofDevice carol keyless keyless_owner with
    gatewayNetworks := [⟨"g", "n"⟩]
    trustScoreConfig := some ⟨false, true⟩ }

/-- The posture query leaves out devices without a key. -/
theorem keyless_device_not_collected :
    keyless ∈ keylessDb.devices ∧ keyless.isApproved = true ∧ keylessDb.Attached "g" keyless ∧
      (∃ p, keylessDb.IsPosture keyless p ∧ keylessDb.AutoBlocks p.trustLevel) ∧
      flag (blockedByZTNA noFaults .asListed keylessDb "g") (host keyless.assignedIp) = false := by
  refine ⟨by decide, rfl, by decide, ?_, by decide⟩
  exact ⟨_, ⟨carol, by decide, rfl, "n", rfl, rfl⟩, _, rfl, .inl ⟨rfl, .inl rfl⟩⟩

def mfaDb : Database :=
  { policyDb [] with
    users := [{ carol with mfaEnabled := true }]
    user_id_unique := by decide
    device_owner := by decide }

theorem mfa_does_not_block :
    flag (blockedByZTNA noFaults .asListed mfaDb "g") (host ZtnaBlock.laptop.assignedIp) = true ∧
      flag (blockedByZTNA noFaults .asListed (policyDb []) "g") (host ZtnaBlock.laptop.assignedIp) =
        true := by
  have hblocked :
      flag (blockedByZTNA noFaults .asListed mfaDb "g") (host ZtnaBlock.laptop.assignedIp) =
        true := by
    decide
  have himproves : (policyDb []).Improves mfaDb := by
    refine ⟨rfl, rfl, rfl, fun _ hpolicy _ => hpolicy, ?_, fun _ _ _ h => h, fun _ => Int.le_refl _,
      fun _ => .inl rfl⟩
    intro u _ u' hu' _ _
    obtain rfl := List.mem_singleton.mp hu'
    rfl
  exact ⟨hblocked, (blocked_set_semantics (policyDb []) "g").2.2 mfaDb himproves _ _ _ hblocked⟩

end BlockedSet

end Outpost
