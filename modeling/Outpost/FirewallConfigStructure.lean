import Outpost.AddressText
import Outpost.FirewallConfig

/-!
# What the firewall config depends on

The joins of `buildFirewallConfigFromPool` as predicates on the rows of the database, and the
meaning of the ZTNA evaluation, whatever the orders of rows and maps.
-/

namespace Outpost

namespace Database

variable (db : Database) (gatewayID : Uuid) (d : Device)

def Attached : Prop :=
  ∃ gn ∈ db.gatewayNetworks, gn.gatewayId = gatewayID ∧ some gn.networkId = d.networkId

def LegacyAttached : Prop :=
  ∃ g ∈ db.gateways, g.id = gatewayID ∧ g.networkId.isSome ∧ g.networkId = d.networkId

def OwnerAcl (n : Network) (a : NetworkAcl) : Prop :=
  a ∈ db.networkAcls ∧ a.networkId = n.id ∧
    ∃ ug ∈ db.userGroups, ug.userId = d.userId ∧ ug.groupId = a.groupId

def OwnerIsAdmin : Prop := ∃ u ∈ db.users, u.id = d.userId ∧ u.isAdmin

def Grants (n : Network) : Prop :=
  n ∈ db.networks ∧ n.isActive ∧ ((∃ a, db.OwnerAcl d n a) ∨ db.OwnerIsAdmin d)

def Keyed : Prop := d.isApproved ∧ d.wireguardPubkey ≠ ""

def Listed : Prop :=
  d ∈ db.devices ∧ Keyed d ∧ (db.Attached gatewayID d ∨ db.LegacyAttached gatewayID d)

instance : Decidable (db.Attached gatewayID d) := by
  unfold Attached
  infer_instance

def IsPosture (p : DevicePosture) : Prop :=
  ∃ u ∈ db.users, u.id = d.userId ∧ ∃ networkID, d.networkId = some networkID ∧
    p = db.postureOf d u networkID

end Database

def autoFails (autoRestrict autoBlock : Bool) (p : DevicePosture) : Bool :=
  (autoBlock && (p.trustLevel = "critical" || p.trustLevel = "low")) ||
    (autoRestrict && p.trustLevel = "critical")

def policyFails (policy : ZtnaPolicy) (p : DevicePosture) : Bool :=
  policy.conditions.any fun cond => appliesTo policy.networkIds p && failsConditions cond p

def Database.blocksPosture (db : Database) (p : DevicePosture) : Bool :=
  autoFails (autoFlags noFaults db).1 (autoFlags noFaults db).2 p ||
    db.policyQuery.any fun policy => policyFails policy p

def Database.ZtnaBlocked (db : Database) (gatewayID : Uuid) (d : Device) : Prop :=
  Database.Keyed d ∧ db.Attached gatewayID d ∧ ∃ p, db.IsPosture d p ∧ db.blocksPosture p = true

def Database.Permits (db : Database) (gatewayID : Uuid) (d : Device) (x : BitVec 32) : Prop :=
  db.Attached gatewayID d ∧ ¬ db.ZtnaBlocked gatewayID d ∧
    ∃ n, db.Grants d n ∧ n.address.contains4 x = true

theorem scanRows_noFaults {α : Type} (rows : List α) :
    scanRows false (fun _ => false) rows = rows := by
  simp [scanRows]

theorem mem_scannedDevices (orders : Orders) (db : Database) (gatewayID : Uuid)
    (row : String × String) :
    row ∈ allDevices noFaults orders db gatewayID ↔ row ∈ db.deviceQuery gatewayID := by
  change row ∈ scanRows false (fun _ => false) _ ↔ _
  rw [scanRows_noFaults, RangeOrder.mem_visit]

namespace Database

variable (db : Database) (gatewayID : Uuid)

theorem mem_aclQuery (ip cidr : String) :
    (ip, cidr) ∈ db.aclQuery gatewayID ↔
      ∃ d ∈ db.devices, Keyed d ∧ db.Attached gatewayID d ∧ host d.assignedIp = ip ∧
        ∃ n, db.Grants d n ∧ n.address.text = cidr := by
  simp only [aclQuery, List.mem_dedup, List.mem_append, List.mem_flatMap, List.mem_filterMap,
    Option.ite_none_right_eq_some, Option.some.injEq, Prod.mk.injEq]
  constructor
  · rintro (⟨d, hd, gn, hgn, ug, hug, a, ha, n, hn,
      ⟨hnet, huser, hgroup, hna, hact, hgw, happ, hkey⟩,
      hip, hcidr⟩ | ⟨d, hd, gn, hgn, u, hu, n, hn, ⟨hnet, huser, hadmin, hgw, hact, happ, hkey⟩,
      hip, hcidr⟩)
    · exact ⟨d, hd, ⟨happ, hkey⟩, ⟨gn, hgn, hgw, hnet⟩, hip, n,
        ⟨hn, hact, .inl ⟨a, ha, hna.symm, ug, hug, huser, hgroup.symm⟩⟩, hcidr⟩
    · exact ⟨d, hd, ⟨happ, hkey⟩, ⟨gn, hgn, hgw, hnet⟩, hip, n,
        ⟨hn, hact, .inr ⟨u, hu, huser, hadmin⟩⟩, hcidr⟩
  · rintro ⟨d, hd, ⟨happ, hkey⟩, ⟨gn, hgn, hgw, hnet⟩, hip, n, ⟨hn, hact, hgrant⟩, hcidr⟩
    rcases hgrant with ⟨a, ha, hna, ug, hug, huser, hgroup⟩ | ⟨u, hu, huser, hadmin⟩
    · exact .inl ⟨d, hd, gn, hgn, ug, hug, a, ha, n, hn,
        ⟨hnet, huser, hgroup.symm, hna.symm, hact, hgw, happ, hkey⟩, hip, hcidr⟩
    · exact .inr ⟨d, hd, gn, hgn, u, hu, n, hn,
        ⟨hnet, huser, hadmin, hgw, hact, happ, hkey⟩, hip, hcidr⟩

theorem mem_deviceQuery (ip pubkey : String) :
    (ip, pubkey) ∈ db.deviceQuery gatewayID ↔
      ∃ d, db.Listed gatewayID d ∧ host d.assignedIp = ip ∧ d.wireguardPubkey = pubkey := by
  simp only [deviceQuery, List.mem_dedup, List.mem_append, List.mem_flatMap, List.mem_filterMap,
    Option.ite_none_right_eq_some, Option.some.injEq, Prod.mk.injEq]
  constructor
  · rintro (⟨d, hd, gn, hgn, ⟨hnet, hgw, happ, hkey⟩, hip, hpk⟩ |
      ⟨d, hd, g, hg, ⟨hsome, hnet, hgw, happ, hkey⟩, hip, hpk⟩)
    · exact ⟨d, ⟨hd, ⟨happ, hkey⟩, .inl ⟨gn, hgn, hgw, hnet⟩⟩, hip, hpk⟩
    · exact ⟨d, ⟨hd, ⟨happ, hkey⟩, .inr ⟨g, hg, hgw, hsome, hnet⟩⟩, hip, hpk⟩
  · rintro ⟨d, ⟨hd, ⟨happ, hkey⟩, hatt⟩, hip, hpk⟩
    rcases hatt with ⟨gn, hgn, hgw, hnet⟩ | ⟨g, hg, hgw, hsome, hnet⟩
    · exact .inl ⟨d, hd, gn, hgn, ⟨hnet, hgw, happ, hkey⟩, hip, hpk⟩
    · exact .inr ⟨d, hd, g, hg, ⟨hsome, hnet, hgw, happ, hkey⟩, hip, hpk⟩

theorem device_eq_of_host {d e : Device} (hd : d ∈ db.devices) (he : e ∈ db.devices)
    (h : host d.assignedIp = host e.assignedIp) : d = e :=
  db.device_eq_of_assignedIp hd he (host_injective h)

theorem IsPosture.unique {d : Device} {p q : DevicePosture} (hp : db.IsPosture d p)
    (hq : db.IsPosture d q) : p = q := by
  obtain ⟨u, hu, huser, networkID, hnet, rfl⟩ := hp
  obtain ⟨w, hw, hwuser, networkID', hnet', rfl⟩ := hq
  obtain rfl := db.user_eq_of_id hu hw (huser.trans hwuser.symm)
  obtain rfl : networkID = networkID' := Option.some.inj (hnet.symm.trans hnet')
  rfl

theorem mem_postureQuery (p : DevicePosture) :
    p ∈ db.postureQuery gatewayID ↔
      ∃ d ∈ db.devices, Keyed d ∧ db.Attached gatewayID d ∧ db.IsPosture d p := by
  have hjoin : ∀ (d : Device) (q : DevicePosture),
      q ∈ (db.gatewayNetworks.flatMap fun gn => db.users.filterMap fun u =>
        if some gn.networkId = d.networkId ∧ u.id = d.userId ∧ gn.gatewayId = gatewayID ∧
            d.isApproved ∧ d.wireguardPubkey ≠ "" then
          some (db.postureOf d u gn.networkId)
        else none) ↔ Keyed d ∧ db.Attached gatewayID d ∧ db.IsPosture d q := by
    intro d q
    simp only [List.mem_flatMap, List.mem_filterMap, Option.ite_none_right_eq_some,
      Option.some.injEq]
    constructor
    · rintro ⟨gn, hgn, u, hu, ⟨hnet, huser, hgw, happ, hkey⟩, rfl⟩
      exact ⟨⟨happ, hkey⟩, ⟨gn, hgn, hgw, hnet⟩, u, hu, huser, gn.networkId, hnet.symm, rfl⟩
    · rintro ⟨⟨happ, hkey⟩, ⟨gn, hgn, hgw, hnet⟩, u, hu, huser, networkID, hnet', rfl⟩
      obtain rfl : gn.networkId = networkID := Option.some.inj (hnet.trans hnet')
      exact ⟨gn, hgn, u, hu, ⟨hnet, huser, hgw, happ, hkey⟩, rfl⟩
  rw [postureQuery, List.mem_filterMap]
  constructor
  · rintro ⟨d, hd, hhead⟩
    exact ⟨d, hd, (hjoin d p).mp (List.mem_of_mem_head? hhead)⟩
  · rintro ⟨d, hd, hkey, hatt, hp⟩
    refine ⟨d, hd, ?_⟩
    have hmem := (hjoin d p).mpr ⟨hkey, hatt, hp⟩
    -- every joined row of the device is the same one
    obtain ⟨q, rows, heq⟩ := List.exists_cons_of_ne_nil (List.ne_nil_of_mem hmem)
    have hq : db.IsPosture d q := by
      have hin := (hjoin d q).mp
      rw [heq] at hin
      exact (hin List.mem_cons_self).2.2
    rw [heq, List.head?_cons, IsPosture.unique db hq hp]

end Database

open GoMap

section Read

variable (faults : QueryFaults) (orders : Orders) (db : Database) (gatewayID : Uuid)

def posturesRead : List DevicePosture :=
  scanRows faults.postureQuery faults.postureScan
    (orders.postureRows.visit (db.postureQuery gatewayID))

def policiesRead : List ZtnaPolicy :=
  scanRows faults.policyQuery faults.policyScan (orders.policyRows.visit db.policyQuery)

theorem posturesRead_subset {p : DevicePosture} (h : p ∈ posturesRead faults orders db gatewayID) :
    p ∈ db.postureQuery gatewayID := by
  have hvisited := (scanRows_sublist _ _ _).subset h
  rwa [RangeOrder.mem_visit] at hvisited

theorem mem_posturesRead (p : DevicePosture) :
    p ∈ posturesRead noFaults orders db gatewayID ↔ p ∈ db.postureQuery gatewayID := by
  change p ∈ scanRows false (fun _ => false) _ ↔ _
  rw [scanRows_noFaults, RangeOrder.mem_visit]

theorem mem_policiesRead (policy : ZtnaPolicy) :
    policy ∈ policiesRead noFaults orders db ↔ policy ∈ db.policyQuery := by
  change policy ∈ scanRows false (fun _ => false) _ ↔ _
  rw [scanRows_noFaults, RangeOrder.mem_visit]

theorem postureRow_iff {d : Device} (hd : d ∈ db.devices) (p : DevicePosture) :
    p ∈ db.postureQuery gatewayID ∧ p.ip = host d.assignedIp ↔
      Database.Keyed d ∧ db.Attached gatewayID d ∧ db.IsPosture d p := by
  rw [db.mem_postureQuery gatewayID]
  constructor
  · rintro ⟨⟨e, he, hkey, hatt, hpost⟩, hip⟩
    have hhost : host d.assignedIp = host e.assignedIp := by
      obtain ⟨u, _, _, networkID, _, rfl⟩ := hpost
      exact hip.symm
    obtain rfl := db.device_eq_of_host hd he hhost
    exact ⟨hkey, hatt, hpost⟩
  · rintro ⟨hkey, hatt, hpost⟩
    refine ⟨⟨d, hd, hkey, hatt, hpost⟩, ?_⟩
    obtain ⟨u, _, _, networkID, _, rfl⟩ := hpost
    rfl

theorem device_of_posture {p : DevicePosture} (h : p ∈ db.postureQuery gatewayID) :
    ∃ d ∈ db.devices, host d.assignedIp = p.ip ∧ db.IsPosture d p := by
  obtain ⟨d, hd, _, _, hpost⟩ := (db.mem_postureQuery gatewayID p).mp h
  refine ⟨d, hd, ?_, hpost⟩
  obtain ⟨u, _, _, networkID, _, rfl⟩ := hpost
  rfl

theorem lookup_devicePostures (ip : String) (p : DevicePosture) :
    (devicePostures faults orders db gatewayID).lookup ip = some p ↔
      p ∈ posturesRead faults orders db gatewayID ∧ p.ip = ip := by
  have hrow : ∀ q, (ip, q) ∈ (posturesRead faults orders db gatewayID).map (fun p => (p.ip, p)) ↔
      q ∈ posturesRead faults orders db gatewayID ∧ q.ip = ip := by
    intro q
    simp
  change (GoMap.setEach ((posturesRead faults orders db gatewayID).map fun p => (p.ip, p)) ∅).lookup
    ip = some p ↔ _
  rw [lookup_setEach_iff, hrow]
  intro v w hv hw
  obtain ⟨hv, hvip⟩ := (hrow v).mp hv
  obtain ⟨hw, hwip⟩ := (hrow w).mp hw
  have hvrow := posturesRead_subset faults orders db gatewayID hv
  have hwrow := posturesRead_subset faults orders db gatewayID hw
  obtain ⟨d, hd, hip, hpost⟩ := device_of_posture db gatewayID hvrow
  have hwpost := ((postureRow_iff db gatewayID hd w).mp ⟨hwrow, by rw [hip, hvip, hwip]⟩).2.2
  exact Database.IsPosture.unique db hpost hwpost

end Read

theorem flag_autoBlockStep (autoRestrict autoBlock : Bool) (blocked : GoMap String Bool)
    (e : String × DevicePosture) (ip : String) :
    flag (autoBlockStep autoRestrict autoBlock blocked e) ip =
      (flag blocked ip || (decide (ip = e.1) && autoFails autoRestrict autoBlock e.2)) := by
  have hfails : autoFails autoRestrict autoBlock e.2 = true ↔
      (autoBlock ∧ (e.2.trustLevel = "critical" ∨ e.2.trustLevel = "low")) ∨
        (autoRestrict ∧ e.2.trustLevel = "critical") := by
    simp [autoFails]
  unfold autoBlockStep
  split
  · rename_i hblock
    rw [flag_insert_true, hfails.mpr (.inl hblock), Bool.and_true, Bool.or_comm]
  · rename_i hblock
    split
    · rename_i hrestrict
      rw [flag_insert_true, hfails.mpr (.inr hrestrict), Bool.and_true, Bool.or_comm]
    · rename_i hrestrict
      have hpass : autoFails autoRestrict autoBlock e.2 = false := by
        rw [← Bool.not_eq_true, hfails]
        exact not_or.mpr ⟨hblock, hrestrict⟩
      rw [hpass, Bool.and_false, Bool.or_false]

theorem flag_policyStep (networkIDs : List Uuid) (cond : PolicyConditions)
    (blocked : GoMap String Bool) (e : String × DevicePosture) (ip : String) :
    flag (policyStep networkIDs cond blocked e) ip =
      (flag blocked ip ||
        (decide (ip = e.1) && (appliesTo networkIDs e.2 && failsConditions cond e.2))) := by
  unfold policyStep
  by_cases hip : ip = e.1
  · split_ifs <;> simp_all [flag_insert_true]
  · split_ifs <;> simp [flag_insert_true, hip]

theorem flag_evaluatePolicy (order : RangeOrder (String × DevicePosture))
    (postures : GoMap String DevicePosture) (blocked : GoMap String Bool) (policy : ZtnaPolicy)
    (ip : String) :
    flag (evaluatePolicy order postures blocked policy) ip = true ↔
      flag blocked ip = true ∨
        ∃ p, postures.lookup ip = some p ∧ policyFails policy p = true := by
  unfold evaluatePolicy policyFails
  cases policy.conditions with
  | none => simp
  | some cond =>
    rw [flag_foldl (flag_policyStep policy.networkIds cond)]
    simp only [RangeOrder.mem_visit, Prod.exists, mem_pairs]
    constructor
    · rintro (h | ⟨_, p, hp, rfl, hfail⟩)
      · exact .inl h
      · exact .inr ⟨p, hp, hfail⟩
    · rintro (h | ⟨p, hp, hfail⟩)
      · exact .inl h
      · exact .inr ⟨ip, p, hp, rfl, hfail⟩

theorem flag_evaluatePolicies (order : ZtnaPolicy → RangeOrder (String × DevicePosture))
    (postures : GoMap String DevicePosture) (policies : List ZtnaPolicy)
    (blocked : GoMap String Bool) (ip : String) :
    flag (policies.foldl (fun b policy => evaluatePolicy (order policy) postures b policy)
        blocked) ip = true ↔
      flag blocked ip = true ∨ ∃ p, postures.lookup ip = some p ∧
        policies.any (fun policy => policyFails policy p) = true := by
  induction policies generalizing blocked with
  | nil => simp
  | cons policy policies ih =>
    rw [List.foldl_cons, ih, flag_evaluatePolicy, or_assoc, ← exists_or]
    simp [and_or_left]

def blocksRead (faults : QueryFaults) (orders : Orders) (db : Database) (p : DevicePosture) :
    Bool :=
  autoFails (autoFlags faults db).1 (autoFlags faults db).2 p ||
    (policiesRead faults orders db).any fun policy => policyFails policy p

theorem flag_blockedByZTNA (faults : QueryFaults) (orders : Orders) (db : Database)
    (gatewayID : Uuid) (ip : String) :
    flag (blockedByZTNA faults orders db gatewayID) ip = true ↔
      ∃ p ∈ posturesRead faults orders db gatewayID, p.ip = ip ∧
        blocksRead faults orders db p = true := by
  have hauto : flag (if (autoFlags faults db).1 || (autoFlags faults db).2 then
        (orders.autoLoop.visit (devicePostures faults orders db gatewayID).pairs).foldl
          (autoBlockStep (autoFlags faults db).1 (autoFlags faults db).2) ∅
      else (∅ : GoMap String Bool)) ip = true ↔
      ∃ p, (devicePostures faults orders db gatewayID).lookup ip = some p ∧
        autoFails (autoFlags faults db).1 (autoFlags faults db).2 p = true := by
    split
    · rw [flag_foldl (flag_autoBlockStep _ _)]
      simp only [flag_empty, Bool.false_eq_true, false_or, RangeOrder.mem_visit, Prod.exists,
        mem_pairs]
      constructor
      · rintro ⟨_, p, hp, rfl, hfail⟩
        exact ⟨p, hp, hfail⟩
      · rintro ⟨p, hp, hfail⟩
        exact ⟨ip, p, hp, rfl, hfail⟩
    · rename_i hoff
      simp only [Bool.or_eq_true, not_or] at hoff
      simp [autoFails, hoff]
  unfold blockedByZTNA
  rw [flag_evaluatePolicies, hauto, ← exists_or]
  simp [blocksRead, policiesRead, ← and_or_left, lookup_devicePostures, and_assoc]

theorem blocked_iff (orders : Orders) (db : Database) (gatewayID : Uuid) {d : Device}
    (hd : d ∈ db.devices) :
    flag (blockedByZTNA noFaults orders db gatewayID) (host d.assignedIp) = true ↔
      db.ZtnaBlocked gatewayID d := by
  have hblocks : ∀ p, blocksRead noFaults orders db p = db.blocksPosture p := by
    intro p
    unfold blocksRead Database.blocksPosture
    congr 1
    rw [Bool.eq_iff_iff, List.any_eq_true, List.any_eq_true]
    simp only [mem_policiesRead]
  rw [flag_blockedByZTNA]
  constructor
  · rintro ⟨p, hp, hip, hblock⟩
    rw [mem_posturesRead] at hp
    obtain ⟨hkey, hatt, hpost⟩ := (postureRow_iff db gatewayID hd p).mp ⟨hp, hip⟩
    exact ⟨hkey, hatt, p, hpost, by rw [← hblocks p, hblock]⟩
  · rintro ⟨hkey, hatt, p, hpost, hblock⟩
    obtain ⟨hp, hip⟩ := (postureRow_iff db gatewayID hd p).mpr ⟨hkey, hatt, hpost⟩
    exact ⟨p, (mem_posturesRead orders db gatewayID p).mpr hp, hip, by rw [hblocks p, hblock]⟩

theorem onlyTrue_blockedByZTNA (orders : Orders) (db : Database) (gatewayID : Uuid) :
    OnlyTrue (blockedByZTNA noFaults orders db gatewayID) := by
  refine List.foldlRecOn _ _ ?_ ?_
  · split
    · refine List.foldlRecOn _ _ onlyTrue_empty ?_
      intro blocked hb e _
      unfold autoBlockStep
      split_ifs
      · exact hb.insert_true e.1
      · exact hb.insert_true e.1
      · exact hb
    · exact onlyTrue_empty
  · intro blocked hb policy _
    unfold evaluatePolicy
    cases policy.conditions with
    | none => exact hb
    | some cond =>
      refine List.foldlRecOn _ _ hb ?_
      intro blocked hb e _
      unfold policyStep
      split_ifs
      · exact hb
      · exact hb
      · exact hb.insert_true e.1
      · exact hb

theorem blocked_address {orders : Orders} {db : Database} {gatewayID : Uuid} {ip : String}
    (h : flag (blockedByZTNA noFaults orders db gatewayID) ip = true) :
    ∃ d ∈ db.devices, host d.assignedIp = ip ∧ db.ZtnaBlocked gatewayID d := by
  obtain ⟨p, hp, rfl, _⟩ := (flag_blockedByZTNA noFaults orders db gatewayID ip).mp h
  rw [mem_posturesRead] at hp
  obtain ⟨d, hd, hip, _⟩ := device_of_posture db gatewayID hp
  rw [← hip, blocked_iff orders db gatewayID hd] at h
  exact ⟨d, hd, hip, h⟩

theorem lookup_pubkeys (orders : Orders) {db : Database} (gatewayID : Uuid) {d : Device}
    (hd : d ∈ db.devices) (pubkey : String) :
    (GoMap.setEach (allDevices noFaults orders db gatewayID) ∅).lookup (host d.assignedIp) =
        some pubkey ↔
      db.Listed gatewayID d ∧ d.wireguardPubkey = pubkey := by
  have hrow : ∀ key, (host d.assignedIp, key) ∈ allDevices noFaults orders db gatewayID ↔
      db.Listed gatewayID d ∧ d.wireguardPubkey = key := by
    intro key
    rw [mem_scannedDevices, db.mem_deviceQuery]
    constructor
    · rintro ⟨e, hl, hip, hkey⟩
      obtain rfl := db.device_eq_of_host hl.1 hd hip
      exact ⟨hl, hkey⟩
    · rintro ⟨hl, hkey⟩
      exact ⟨d, hl, rfl, hkey⟩
  rw [lookup_setEach_iff, hrow]
  intro v w hv hw
  exact ((hrow v).mp hv).2.symm.trans ((hrow w).mp hw).2

theorem mem_collectBlockedPubkeys (orders : Orders) (db : Database) (gatewayID : Uuid)
    (pubkey : String) :
    pubkey ∈ collectBlockedPubkeys noFaults orders db gatewayID ↔
      ∃ d ∈ db.devices, db.ZtnaBlocked gatewayID d ∧ d.wireguardPubkey = pubkey := by
  have hset := onlyTrue_blockedByZTNA orders db gatewayID
  simp only [collectBlockedPubkeys, List.mem_filterMap, RangeOrder.mem_visit,
    Option.filter_eq_some_iff, decide_eq_true_eq, Prod.exists]
  constructor
  · rintro ⟨ip, v, hin, hkey, _⟩
    obtain ⟨d, hd, rfl, hblocked⟩ := blocked_address ((hset.mem_iff ip).mp ⟨v, hin⟩)
    exact ⟨d, hd, hblocked, ((lookup_pubkeys orders gatewayID hd pubkey).mp hkey).2⟩
  · rintro ⟨d, hd, hblocked, rfl⟩
    obtain ⟨v, hin⟩ := (hset.mem_iff _).mpr ((blocked_iff orders db gatewayID hd).mpr hblocked)
    obtain ⟨hkeyed, hatt, _⟩ := hblocked
    exact ⟨_, v, hin, (lookup_pubkeys orders gatewayID hd _).mpr
      ⟨⟨hd, hkeyed, .inl hatt⟩, rfl⟩, hkeyed.2⟩

end Outpost
