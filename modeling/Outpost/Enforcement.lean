import Outpost.FirewallConfigStructure
import Outpost.FirewallManagerStructure

/-!
# Enforcement, from the database to the packet

The rules that core computes, translated by the firewall manager and read by `iptables`, decide
each packet by `Listed` and `Permits` alone.
-/

namespace Outpost

open Iptables FirewallManager FirstMatch

variable {xs rules : List Rule} {p : Packet} {v : Verdict} {addr : Addr} {db : Database}

theorem decides_append_of_decided (h : decides xs p = some v) (ys : List Rule) :
    decides (xs ++ ys) p = some v := by
  unfold decides at h ⊢
  rw [List.find?_append]
  cases hf : xs.find? (Rule.hits p) with
  | none =>
    rw [hf] at h
    cases h
  | some r =>
    rw [hf] at h
    exact h

theorem decides_append_of_silent (h : Silent (Rule.hits p) xs) (ys : List Rule) :
    decides (xs ++ ys) p = decides ys p := by
  unfold decides
  rw [find_append_of_silent_left h]

theorem silent_of_not_any (h : ¬ xs.any (Rule.hits p) = true) : Silent (Rule.hits p) xs := by
  intro r hr
  by_contra hhit
  exact h (List.any_eq_true.mpr ⟨r, hr, by simpa using hhit⟩)

theorem decides_uniform (hv : ∀ r ∈ rules, r.target = some (.verdict v)) (p : Packet) :
    decides rules p = if rules.any (Rule.hits p) then some v else none := by
  unfold decides
  split_ifs with hany
  · obtain ⟨r, hr, hhit⟩ := List.any_eq_true.mp hany
    obtain ⟨r', hr'⟩ := Option.isSome_iff_exists.mp (List.find?_isSome.mpr ⟨r, hr, hhit⟩)
    rw [hr', Option.bind_some, hv r' (List.mem_of_find?_eq_some hr')]
  · rw [find_eq_none_of_silent (silent_of_not_any hany)]
    rfl

theorem decides_silent (h : Silent (Rule.hits p) rules) : decides rules p = none := by
  unfold decides
  rw [find_eq_none_of_silent h]
  rfl

theorem decides_conntrack (rules : List Rule) (hnew : p.state = .new) :
    decides (conntrackRule :: rules) p = decides rules p := by
  have hmiss : conntrackRule.hits p = false := by simp [Rule.hits, conntrackRule, hnew]
  rw [decides, List.find?_cons_of_neg (by simp [hmiss])]
  rfl

theorem text_ne_empty (c : Cidr) : c.text ≠ "" := by
  intro h
  have hl := congrArg String.toList h
  cases c <;> simp [Cidr.text] at hl

theorem installed_dropFrom (ip : String) :
    installed (dropFrom ip) = (parseAddress (ip ++ "/32")).map fun s =>
      { src := some s, target := some (.verdict .drop) } := by
  unfold installed
  rw [buildRuleArgs_eq]
  simp only [dropFrom, ruleOptions, actionTarget, parseRule]
  cases h : parseAddress (ip ++ "/32") <;>
    simp [parseOptions, applyOption, parseTarget, h]

theorem installed_acceptFrom (ip : String) (c : Cidr) :
    installed (acceptFrom ip c.text) = (parseAddress (ip ++ "/32")).bind fun s =>
      (parseAddress c.text).map fun t =>
        { src := some s, dst := some t, target := some (.verdict .accept) } := by
  unfold installed
  rw [buildRuleArgs_eq]
  simp only [acceptFrom, ruleOptions, actionTarget, parseRule]
  cases h : parseAddress (ip ++ "/32") <;> cases h' : parseAddress c.text <;>
    simp [parseOptions, applyOption, parseTarget, text_ne_empty c, h, h']

theorem hits_source {s : Prefix 32} {r : Rule} (hs : parseAddress (host addr ++ "/32") = some s)
    (hr : r.src = some s) (hhit : r.hits p = true) : addr = .v4 p.src := by
  cases addr with
  | v6 a =>
    rw [parseAddress_host_v6] at hs
    cases hs
  | v4 a =>
    rw [parseAddress_host] at hs
    obtain rfl := Option.some.inj hs
    simp only [Rule.hits, hr, Option.all_some, Bool.and_eq_true, Prefix.contains_full,
      decide_eq_true_eq] at hhit
    rw [hhit.1.1.1.1]

theorem installed_hits {rule : FirewallRule} {r : Rule}
    (hrule : rule = dropFrom (host addr) ∨ ∃ c : Cidr, rule = acceptFrom (host addr) c.text)
    (hi : installed rule = some r) (hhit : r.hits p = true) : addr = .v4 p.src := by
  rcases hrule with rfl | ⟨c, rfl⟩
  · rw [installed_dropFrom] at hi
    obtain ⟨s, hs, rfl⟩ := Option.map_eq_some_iff.mp hi
    exact hits_source hs rfl hhit
  · rw [installed_acceptFrom] at hi
    obtain ⟨s, hs, hi⟩ := Option.bind_eq_some_iff.mp hi
    obtain ⟨t, _, rfl⟩ := Option.map_eq_some_iff.mp hi
    exact hits_source hs rfl hhit

section Decision

variable (faults : QueryFaults) (orders : Orders) (db : Database) (gatewayID : Uuid)

def aclsRead : List (String × String) :=
  scanRows false faults.aclScan (orders.aclRows.visit (db.aclQuery gatewayID))

def Covered (ip : String) (x : BitVec 32) : Prop :=
  ∃ c : Cidr, (ip, c.text) ∈ aclsRead faults orders db gatewayID ∧ c.contains4 x = true

inductive Decision (ip : String) (x : BitVec 32) : Option Verdict → Prop where
  | blocked {cidr : String} : (ip, cidr) ∈ aclsRead faults orders db gatewayID →
      GoMap.flag (blockedByZTNA faults orders db gatewayID) ip = true →
      Decision ip x (some .drop)
  | accepted : GoMap.flag (blockedByZTNA faults orders db gatewayID) ip = false →
      Covered faults orders db gatewayID ip x → Decision ip x (some .accept)
  | uncovered {cidr : String} : (ip, cidr) ∈ aclsRead faults orders db gatewayID →
      ¬ Covered faults orders db gatewayID ip x → Decision ip x (some .drop)
  | denied : (∀ cidr, (ip, cidr) ∉ aclsRead faults orders db gatewayID) →
      ip ∈ (allDevices faults orders db gatewayID).map Prod.fst → Decision ip x (some .drop)
  | undecided : (∀ cidr, (ip, cidr) ∉ aclsRead faults orders db gatewayID) →
      ip ∉ (allDevices faults orders db gatewayID).map Prod.fst → Decision ip x none

def aclBlocks : List Rule :=
  (orders.aclLoop.visit (deviceACLs faults orders db gatewayID).pairs).flatMap fun entry =>
    (deviceRules (blockedByZTNA faults orders db gatewayID) entry).filterMap installed

def denyBlock : List Rule :=
  (((allDevices faults orders db gatewayID).map Prod.fst).filterMap fun ip =>
    if (deviceACLs faults orders db gatewayID).lookup ip = none then some (dropFrom ip)
    else none).filterMap installed

variable {faults orders db gatewayID}

theorem aclsRead_subset {row : String × String} (h : row ∈ aclsRead faults orders db gatewayID) :
    row ∈ db.aclQuery gatewayID := by
  have hvisited := (scanRows_sublist _ _ _).subset h
  rwa [RangeOrder.mem_visit] at hvisited

theorem mem_aclsRead (row : String × String) :
    row ∈ aclsRead noFaults orders db gatewayID ↔ row ∈ db.aclQuery gatewayID := by
  have hrows : aclsRead noFaults orders db gatewayID =
      orders.aclRows.visit (db.aclQuery gatewayID) := scanRows_noFaults _
  rw [hrows, RangeOrder.mem_visit]

theorem lookup_deviceACLs (ip : String) :
    (deviceACLs faults orders db gatewayID).lookup ip =
      if GoMap.valuesOf (aclsRead faults orders db gatewayID) ip = [] then none
      else some (GoMap.valuesOf (aclsRead faults orders db gatewayID) ip) := by
  change (GoMap.appendEach (aclsRead faults orders db gatewayID) ∅).lookup ip = _
  rw [GoMap.lookup_appendEach]
  simp

variable {ip : String} {cidrs : List String} {d : Device} {entry : String × List String}
  {p : Packet}

theorem mem_acls (h : (deviceACLs faults orders db gatewayID).lookup ip = some cidrs)
    (cidr : String) : cidr ∈ cidrs ↔ (ip, cidr) ∈ aclsRead faults orders db gatewayID := by
  rw [lookup_deviceACLs] at h
  split at h
  · cases h
  · obtain rfl := Option.some.inj h
    rw [GoMap.mem_valuesOf]

theorem acls_ne_nil (h : (deviceACLs faults orders db gatewayID).lookup ip = some cidrs) :
    cidrs ≠ [] := by
  rw [lookup_deviceACLs] at h
  split at h
  · cases h
  · obtain rfl := Option.some.inj h
    assumption

theorem acls_none (h : (deviceACLs faults orders db gatewayID).lookup ip = none) (cidr : String) :
    (ip, cidr) ∉ aclsRead faults orders db gatewayID := by
  rw [lookup_deviceACLs] at h
  split at h
  · rename_i hnil
    intro hin
    have hmem : cidr ∈ GoMap.valuesOf (aclsRead faults orders db gatewayID) ip :=
      GoMap.mem_valuesOf.mpr hin
    rw [hnil] at hmem
    cases hmem
  · cases h

theorem aclRow_iff (gatewayID : Uuid) (hd : d ∈ db.devices) (cidr : String) :
    (host d.assignedIp, cidr) ∈ db.aclQuery gatewayID ↔
      Database.Keyed d ∧ db.Attached gatewayID d ∧ ∃ n, db.Grants d n ∧ n.address.text = cidr := by
  rw [db.mem_aclQuery]
  constructor
  · rintro ⟨e, he, hkey, hatt, hip, hn⟩
    obtain rfl := db.device_eq_of_host hd he hip.symm
    exact ⟨hkey, hatt, hn⟩
  · rintro ⟨hkey, hatt, hn⟩
    exact ⟨d, hd, hkey, hatt, rfl, hn⟩

theorem listed_of_read (h : ip ∈ (allDevices faults orders db gatewayID).map Prod.fst) :
    ∃ d, db.Listed gatewayID d ∧ host d.assignedIp = ip := by
  obtain ⟨⟨ip', key⟩, hin, rfl⟩ := List.mem_map.mp h
  have hrow := (scanRows_sublist _ _ _).subset hin
  rw [RangeOrder.mem_visit] at hrow
  obtain ⟨d, hl, hip, _⟩ := (db.mem_deviceQuery gatewayID ip' key).mp hrow
  exact ⟨d, hl, hip⟩

theorem mem_allDevices (ip : String) :
    ip ∈ (allDevices noFaults orders db gatewayID).map Prod.fst ↔
      ∃ d, db.Listed gatewayID d ∧ host d.assignedIp = ip := by
  constructor
  · exact listed_of_read
  · rintro ⟨d, hl, rfl⟩
    apply List.mem_map.mpr
    refine ⟨(host d.assignedIp, d.wireguardPubkey), ?_, rfl⟩
    rw [mem_scannedDevices]
    exact (db.mem_deviceQuery gatewayID _ _).mpr ⟨d, hl, rfl, rfl⟩

theorem deviceRules_shape (hentry : entry ∈ (deviceACLs faults orders db gatewayID).pairs)
    (blocked : GoMap String Bool) :
    ∃ d ∈ db.devices, Database.Keyed d ∧ db.Attached gatewayID d ∧ host d.assignedIp = entry.1 ∧
      ∀ rule ∈ deviceRules blocked entry, rule = dropFrom (host d.assignedIp) ∨
        ∃ c : Cidr, rule = acceptFrom (host d.assignedIp) c.text := by
  obtain ⟨ip, cidrs⟩ := entry
  have hlookup := GoMap.mem_pairs.mp hentry
  have hrow : ∀ cidr ∈ cidrs, (ip, cidr) ∈ db.aclQuery gatewayID := fun cidr hcidr =>
    aclsRead_subset
      ((mem_acls hlookup cidr).mp hcidr)
  obtain ⟨cidr, _, rfl⟩ :=
    List.exists_cons_of_ne_nil (acls_ne_nil hlookup)
  obtain ⟨d, hd, hkey, hatt, hip, _⟩ :=
    (db.mem_aclQuery gatewayID ip cidr).mp (hrow cidr List.mem_cons_self)
  refine ⟨d, hd, hkey, hatt, hip, ?_⟩
  intro rule hrule
  rw [hip]
  unfold deviceRules at hrule
  split at hrule
  · exact .inl (List.mem_singleton.mp hrule)
  · rcases List.mem_append.mp hrule with hacc | hdrop
    · obtain ⟨cidr', hc, rfl⟩ := List.mem_map.mp hacc
      obtain ⟨_, _, _, _, _, n, _, rfl⟩ := (db.mem_aclQuery gatewayID ip cidr').mp (hrow cidr' hc)
      exact .inr ⟨n.address, rfl⟩
    · exact .inl (List.mem_singleton.mp hdrop)

theorem deviceRules_silent (hentry : entry ∈ (deviceACLs faults orders db gatewayID).pairs)
    (blocked : GoMap String Bool) (hne : entry.1 ≠ host (.v4 p.src)) :
    Silent (Rule.hits p) ((deviceRules blocked entry).filterMap installed) := by
  obtain ⟨d, _, _, _, hip, hshape⟩ := deviceRules_shape hentry blocked
  intro r hr
  obtain ⟨rule, hrule, hi⟩ := List.mem_filterMap.mp hr
  by_contra hhit
  have haddr := installed_hits (hshape rule hrule) hi (by simpa using hhit)
  apply hne
  rw [← hip, haddr]

theorem defaultDeny_drops (ips : List String) (f : String → Prop) [DecidablePred f] :
    ∀ r ∈ (ips.filterMap fun ip => if f ip then some (dropFrom ip) else none).filterMap installed,
      r.target = some (.verdict .drop) := by
  intro r hr
  obtain ⟨rule, hrule, hi⟩ := List.mem_filterMap.mp hr
  obtain ⟨ip, _, hip⟩ := List.mem_filterMap.mp hrule
  obtain ⟨_, hip⟩ := Option.ite_none_right_eq_some.mp hip
  obtain rfl := Option.some.inj hip
  rw [installed_dropFrom] at hi
  obtain ⟨s, _, rfl⟩ := Option.map_eq_some_iff.mp hi
  rfl

theorem decides_deviceBlock (networks : List Cidr) (p : Packet) :
    decides ((networks.map (fun c => acceptFrom (host (.v4 p.src)) c.text) ++
        [dropFrom (host (.v4 p.src))]).filterMap installed) p =
      if networks.any (fun c => c.contains4 p.dst) then some .accept else some .drop := by
  have hself : (Prefix.ofAddr p.src 32 (Nat.le_refl 32)).contains p.src = true := by
    simp [Prefix.contains_full]
  have haccept : ∀ r ∈ (networks.map (fun c => acceptFrom (host (.v4 p.src)) c.text)).filterMap
      installed, r.target = some (.verdict .accept) := by
    intro r hr
    obtain ⟨rule, hrule, hi⟩ := List.mem_filterMap.mp hr
    obtain ⟨c, _, rfl⟩ := List.mem_map.mp hrule
    rw [installed_acceptFrom, parseAddress_host] at hi
    obtain ⟨t, _, rfl⟩ := Option.map_eq_some_iff.mp hi
    rfl
  have hany : ((networks.map (fun c => acceptFrom (host (.v4 p.src)) c.text)).filterMap
      installed).any (Rule.hits p) = networks.any fun c => c.contains4 p.dst := by
    rw [List.filterMap_map, List.any_filterMap]
    congr 1
    funext c
    simp only [Function.comp_apply, installed_acceptFrom, parseAddress_host]
    cases c with
    | v4 t => simp [parseAddress_text, Rule.hits, hself, Cidr.contains4]
    | v6 t => simp [parseAddress_text_v6, Cidr.contains4]
  have huniform := decides_uniform haccept p
  rw [hany] at huniform
  rw [List.filterMap_append]
  split_ifs at huniform ⊢ with h
  · exact decides_append_of_decided huniform _
  · rw [← hany] at h
    rw [decides_append_of_silent (silent_of_not_any h)]
    simp [installed_dropFrom, parseAddress_host, decides, Rule.hits, hself]

theorem rules_split :
    (firewallRules faults orders db gatewayID).filterMap installed =
      aclBlocks faults orders db gatewayID ++ denyBlock faults orders db gatewayID := by
  unfold firewallRules
  rw [List.filterMap_append, List.filterMap_flatMap]
  rfl

theorem contains4_of_text {c c' : Cidr} (h : c.text = c'.text) (x : BitVec 32) :
    c.contains4 x = c'.contains4 x := by
  have hp := congrArg parseAddress h
  cases c with
  | v4 t =>
    cases c' with
    | v4 t' =>
      rw [parseAddress_text, parseAddress_text] at hp
      rw [Option.some.inj hp]
    | v6 t' =>
      rw [parseAddress_text, parseAddress_text_v6] at hp
      cases hp
  | v6 t =>
    cases c' with
    | v4 t' =>
      rw [parseAddress_text, parseAddress_text_v6] at hp
      cases hp
    | v6 t' => rfl

theorem decides_withAcls
    (hlookup : (deviceACLs faults orders db gatewayID).lookup (host (.v4 p.src)) = some cidrs) :
    Decision faults orders db gatewayID (host (.v4 p.src)) p.dst
      (decides ((deviceRules (blockedByZTNA faults orders db gatewayID)
        (host (.v4 p.src), cidrs)).filterMap installed) p) := by
  have hread := mem_acls hlookup
  obtain ⟨cidr, hcidr⟩ :=
    List.exists_mem_of_ne_nil _ (acls_ne_nil hlookup)
  unfold deviceRules
  split
  · rename_i hblocked
    have hdrop := decides_deviceBlock [] p
    simp only [List.map_nil, List.nil_append] at hdrop
    rw [hdrop]
    exact .blocked ((hread cidr).mp hcidr) hblocked
  · rename_i hblocked
    obtain ⟨cs, rfl⟩ : ∃ cs : List Cidr, cs.map Cidr.text = cidrs := by
      have hrange : cidrs ∈ Set.range (List.map Cidr.text) := by
        rw [Set.range_list_map]
        intro cidr hc
        obtain ⟨_, _, _, _, _, n, _, hn⟩ := (db.mem_aclQuery gatewayID _ cidr).mp
          (aclsRead_subset ((hread cidr).mp hc))
        exact ⟨n.address, hn⟩
      exact hrange
    have hcovered : Covered faults orders db gatewayID (host (.v4 p.src)) p.dst ↔
        cs.any (fun c => c.contains4 p.dst) = true := by
      rw [List.any_eq_true]
      constructor
      · rintro ⟨c, hc, hx⟩
        obtain ⟨c', hc', htext⟩ := List.mem_map.mp ((hread c.text).mpr hc)
        exact ⟨c', hc', by rw [contains4_of_text htext, hx]⟩
      · rintro ⟨c, hc, hx⟩
        exact ⟨c, (hread c.text).mp (List.mem_map_of_mem hc), hx⟩
    rw [List.map_map]
    change Decision _ _ _ _ _ _ (decides ((cs.map (fun c => acceptFrom (host (.v4 p.src)) c.text) ++
      [dropFrom (host (.v4 p.src))]).filterMap installed) p)
    rw [decides_deviceBlock cs p]
    split
    · rename_i hx
      exact .accepted (Bool.not_eq_true _ ▸ hblocked) (hcovered.mpr hx)
    · rename_i hx
      exact .uncovered ((hread cidr).mp hcidr) (mt hcovered.mp hx)

theorem aclBlocks_silent
    (hnone : (deviceACLs faults orders db gatewayID).lookup (host (.v4 p.src)) = none) :
    Silent (Rule.hits p) (aclBlocks faults orders db gatewayID) := by
  apply silent_flatMap
  intro entry hentry
  rw [RangeOrder.mem_visit] at hentry
  apply deviceRules_silent hentry
  intro heq
  have hlookup := GoMap.mem_pairs.mp hentry
  rw [heq, hnone] at hlookup
  cases hlookup

theorem decides_aclBlocks
    (hlookup : (deviceACLs faults orders db gatewayID).lookup (host (.v4 p.src)) = some cidrs) :
    decides (aclBlocks faults orders db gatewayID) p =
      decides ((deviceRules (blockedByZTNA faults orders db gatewayID)
        (host (.v4 p.src), cidrs)).filterMap installed) p := by
  unfold decides aclBlocks
  rw [find_flatMap_of_unique (b := (host (.v4 p.src), cidrs))]
  · rw [RangeOrder.mem_visit]
    exact GoMap.mem_pairs.mpr hlookup
  · rintro ⟨ip, cidrs'⟩ hentry hne
    rw [RangeOrder.mem_visit] at hentry
    apply deviceRules_silent hentry
    intro heq
    apply hne
    dsimp only at heq
    rw [heq] at hentry ⊢
    rw [GoMap.pairs_functional hentry (GoMap.mem_pairs.mpr hlookup)]

theorem defaultDeny_decides
    (hnone : (deviceACLs faults orders db gatewayID).lookup (host (.v4 p.src)) = none) :
    decides (denyBlock faults orders db gatewayID) p =
      if host (.v4 p.src) ∈ (allDevices faults orders db gatewayID).map Prod.fst then some .drop
      else none := by
  rw [denyBlock, decides_uniform (defaultDeny_drops _ _)]
  congr 1
  rw [List.any_eq_true, eq_iff_iff]
  constructor
  · rintro ⟨r, hr, hhit⟩
    obtain ⟨rule, hrule, hi⟩ := List.mem_filterMap.mp hr
    obtain ⟨ip, hin, hip⟩ := List.mem_filterMap.mp hrule
    obtain ⟨_, hip⟩ := Option.ite_none_right_eq_some.mp hip
    obtain rfl := Option.some.inj hip
    obtain ⟨d, _, rfl⟩ := listed_of_read hin
    rwa [installed_hits (.inl rfl) hi hhit] at hin
  · intro hread
    refine ⟨{ src := some (Prefix.ofAddr p.src 32 (Nat.le_refl 32)),
              target := some (.verdict .drop) }, ?_, by simp [Rule.hits, Prefix.contains_full]⟩
    apply List.mem_filterMap.mpr
    refine ⟨dropFrom (host (.v4 p.src)), ?_, by rw [installed_dropFrom, parseAddress_host]; rfl⟩
    apply List.mem_filterMap.mpr
    exact ⟨host (.v4 p.src), hread, by rw [if_pos hnone]⟩

variable (faults orders db gatewayID) in
theorem decision_of_rules (p : Packet) :
    Decision faults orders db gatewayID (host (.v4 p.src)) p.dst
      (decides ((firewallRules faults orders db gatewayID).filterMap installed) p) := by
  rw [rules_split]
  cases hlookup : (deviceACLs faults orders db gatewayID).lookup (host (.v4 p.src)) with
  | some cidrs =>
    have hblock := decides_withAcls hlookup
    rw [← decides_aclBlocks hlookup] at hblock
    obtain ⟨v, hv⟩ : ∃ v, decides (aclBlocks faults orders db gatewayID) p = some v := by
      generalize decides _ p = decided at hblock
      cases hblock with
      | undecided hnone _ =>
        obtain ⟨cidr, hcidr⟩ :=
          List.exists_mem_of_ne_nil _ (acls_ne_nil hlookup)
        exact absurd ((mem_acls hlookup cidr).mp hcidr) (hnone cidr)
      | _ => exact ⟨_, rfl⟩
    rw [decides_append_of_decided hv, ← hv]
    exact hblock
  | none =>
    rw [decides_append_of_silent (aclBlocks_silent hlookup),
      defaultDeny_decides hlookup]
    have hnone := acls_none hlookup
    split
    · rename_i hread
      exact .denied hnone hread
    · rename_i hread
      exact .undecided hnone hread

theorem decides_listed (orders : Orders) (hl : db.Listed gatewayID d)
    (ha : d.assignedIp = .v4 p.src) :
    (db.Permits gatewayID d p.dst ∧
      decides ((firewallRules noFaults orders db gatewayID).filterMap installed) p = some .accept) ∨
    (¬ db.Permits gatewayID d p.dst ∧
      decides ((firewallRules noFaults orders db gatewayID).filterMap installed) p =
        some .drop) := by
  have hblocked := blocked_iff orders db gatewayID hl.1
  have hrow := aclRow_iff gatewayID hl.1
  rw [ha] at hblocked hrow
  have hcovered : Covered noFaults orders db gatewayID (host (.v4 p.src)) p.dst ↔
      db.Attached gatewayID d ∧ ∃ n, db.Grants d n ∧ n.address.contains4 p.dst = true := by
    constructor
    · rintro ⟨c, hc, hx⟩
      obtain ⟨_, hatt, n, hn, htext⟩ :=
        (hrow c.text).mp ((mem_aclsRead _).mp hc)
      exact ⟨hatt, n, hn, by rw [contains4_of_text htext, hx]⟩
    · rintro ⟨hatt, n, hn, hx⟩
      exact ⟨n.address, (mem_aclsRead _).mpr
        ((hrow n.address.text).mpr ⟨hl.2.1, hatt, n, hn, rfl⟩), hx⟩
  have hdecision := decision_of_rules noFaults orders db gatewayID p
  generalize decides ((firewallRules noFaults orders db gatewayID).filterMap installed) p = decided
    at hdecision ⊢
  cases hdecision with
  | blocked _ hflag => exact .inr ⟨fun h => h.2.1 (hblocked.mp hflag), rfl⟩
  | accepted hflag hc =>
    obtain ⟨hatt, hn⟩ := hcovered.mp hc
    exact .inl ⟨⟨hatt, fun hz => by simp [hblocked.mpr hz] at hflag, hn⟩, rfl⟩
  | uncovered _ hc => exact .inr ⟨fun h => hc (hcovered.mpr ⟨h.1, h.2.2⟩), rfl⟩
  | denied hnone _ =>
    refine .inr ⟨?_, rfl⟩
    rintro ⟨hatt, _, n, hn, _⟩
    exact hnone n.address.text ((mem_aclsRead _).mpr
      ((hrow n.address.text).mpr ⟨hl.2.1, hatt, n, hn, rfl⟩))
  | undecided _ hread =>
    exact absurd ((mem_allDevices _).mpr ⟨d, hl, by rw [ha]⟩) hread

theorem rules_silent (hunlisted : ∀ d, db.Listed gatewayID d → d.assignedIp ≠ .v4 p.src) :
    Silent (Rule.hits p) ((firewallRules noFaults orders db gatewayID).filterMap installed) := by
  rw [rules_split]
  apply silent_append
  · apply silent_flatMap
    intro entry hentry
    rw [RangeOrder.mem_visit] at hentry
    apply deviceRules_silent hentry
    obtain ⟨d, hd, hkey, hatt, hip, _⟩ := deviceRules_shape hentry ∅
    intro heq
    exact hunlisted d ⟨hd, hkey, .inl hatt⟩ (host_injective (hip.trans heq))
  · intro r hr
    obtain ⟨rule, hrule, hi⟩ := List.mem_filterMap.mp hr
    obtain ⟨ip, hin, hip⟩ := List.mem_filterMap.mp hrule
    obtain ⟨_, hip⟩ := Option.ite_none_right_eq_some.mp hip
    obtain rfl := Option.some.inj hip
    obtain ⟨d, hl, rfl⟩ := listed_of_read hin
    by_contra hhit
    exact hunlisted d hl (installed_hits (.inl rfl) hi (by simpa using hhit))

theorem decides_unlisted (hd : d ∈ db.devices) (ha : d.assignedIp = .v4 p.src)
    (hl : ¬ db.Listed gatewayID d) :
    decides ((firewallRules noFaults orders db gatewayID).filterMap installed) p = none := by
  apply decides_silent
  apply rules_silent
  intro e he heq
  obtain rfl := db.device_eq_of_assignedIp hd he.1 (ha.trans heq.symm)
  exact hl he

end Decision

theorem build_noFaults (orders : Orders) (db : Database) (gatewayID : Uuid) :
    ∃ result, buildFirewallConfigFromPool noFaults orders db gatewayID = some result ∧
      result.config.rules = firewallRules noFaults orders db gatewayID :=
  ⟨_, rfl, rfl⟩

theorem apply_built {orders : Orders} {gatewayID : Uuid} {env : Env} (reliable : env.Reliable)
    {h : Host} {old : List Rule} (hchain : chain h outpostChain = some old)
    {result : FirewallResult}
    (hres : buildFirewallConfigFromPool noFaults orders db gatewayID = some result) :
    chain (apply env (some result.config) h).2 outpostChain =
      some (conntrackRule ::
        (firewallRules noFaults orders db gatewayID).filterMap installed) := by
  obtain ⟨result', hres', hrules⟩ := build_noFaults orders db gatewayID
  obtain rfl : result' = result := Option.some.inj (hres'.symm.trans hres)
  rw [← hrules]
  exact (apply_spec reliable result'.config hchain).2.1

/-- After `Apply` a new connection of an approved device with a key, on an attached network, is
accepted exactly when the device is not ZTNA-blocked and a granted active network contains the
destination, and dropped otherwise; other sources stay undecided. -/
theorem apply_enforces_acls (orders : Orders) (db : Database) (gatewayID : Uuid) {env : Env}
    (reliable : env.Reliable) {h : Host} {old : List Rule}
    (hchain : chain h outpostChain = some old) :
    ∃ result rest, buildFirewallConfigFromPool noFaults orders db gatewayID = some result ∧
      chain (apply env (some result.config) h).2 outpostChain = some (conntrackRule :: rest) ∧
      (∀ p : Packet, p.state = .new → ∀ d ∈ db.devices, d.assignedIp = .v4 p.src →
        d.isApproved = true → d.wireguardPubkey ≠ "" → db.Attached gatewayID d →
        (decides (conntrackRule :: rest) p = some .accept ↔
          GoMap.flag (blockedByZTNA noFaults orders db gatewayID) (host d.assignedIp) = false ∧
            ∃ n, db.Grants d n ∧ n.address.contains4 p.dst = true) ∧
        (decides (conntrackRule :: rest) p ≠ some .accept →
          decides (conntrackRule :: rest) p = some .drop)) ∧
      ∀ p : Packet, (∀ d, db.Listed gatewayID d → d.assignedIp ≠ .v4 p.src) →
        decides rest p = none := by
  obtain ⟨result, hres, _⟩ := build_noFaults orders db gatewayID
  refine ⟨result, _, hres, apply_built reliable hchain hres, ?_, ?_⟩
  · intro p hnew d hd ha happ hkey hatt
    rw [decides_conntrack _ hnew]
    have hblocked := blocked_iff orders db gatewayID hd
    have hpermits : db.Permits gatewayID d p.dst ↔
        GoMap.flag (blockedByZTNA noFaults orders db gatewayID) (host d.assignedIp) = false ∧
          ∃ n, db.Grants d n ∧ n.address.contains4 p.dst = true := by
      rw [← Bool.not_eq_true, hblocked]
      exact ⟨fun hp => hp.2, fun hp => ⟨hatt, hp⟩⟩
    rcases decides_listed orders ⟨hd, ⟨happ, hkey⟩, .inl hatt⟩ ha with
      ⟨hp, hv⟩ | ⟨hp, hv⟩
    · rw [hv]
      exact ⟨⟨fun _ => hpermits.mp hp, fun _ => rfl⟩, fun hne => absurd rfl hne⟩
    · rw [hv]
      refine ⟨⟨?_, ?_⟩, fun _ => rfl⟩
      · intro hcontra
        cases hcontra
      · intro hcond
        exact absurd (hpermits.mpr hcond) hp
  · intro p hunlisted
    exact decides_silent (rules_silent hunlisted)

def readyHost : Host where
  nf := { filter := ((∅ : Table).insert "FORWARD" []).insert outpostChain [], nat := ∅ }
  conntrack := []
  issued := 0

def quietEnv : Env := ⟨fun _ => false, none⟩

theorem quietEnv_reliable : quietEnv.Reliable := fun _ => rfl

theorem readyHost_chain : chain readyHost outpostChain = some [] := by decide

def alice : User :=
  { id := "alice", isActive := true, isAdmin := false, mfaEnabled := false, username := "alice",
    email := "alice@office.example" }

def laptop (key : String) : Device :=
  { id := "laptop", userId := "alice", wireguardPubkey := key, assignedIp := .v4 0x0A000002#32,
    isApproved := true, networkId := some "office" }

def officeBlock : Prefix 32 := Prefix.ofAddr 0x0A000000#32 8 (by decide)

def officeDb (key : String) (allowedIps : List Cidr) : Database :=
  { Database.ofDevice alice (laptop key) rfl with
    userGroups := [⟨"alice", "staff"⟩]
    networks := [⟨"office", "office", .v4 officeBlock, none, true⟩]
    gatewayNetworks := [⟨"gw", "office"⟩]
    networkAcls := [⟨"acl", "office", "staff", allowedIps⟩] }

theorem officeDb_attached (key : String) (allowedIps : List Cidr) :
    (officeDb key allowedIps).Attached "gw" (laptop key) :=
  ⟨⟨"gw", "office"⟩, .head _, rfl, rfl⟩

theorem officeDb_grants (key : String) (allowedIps : List Cidr) :
    (officeDb key allowedIps).Grants (laptop key)
      ⟨"office", "office", .v4 officeBlock, none, true⟩ :=
  ⟨.head _, rfl, .inl ⟨⟨"acl", "office", "staff", allowedIps⟩,
    .head _, rfl, ⟨"alice", "staff"⟩, .head _, rfl, rfl⟩⟩

theorem apply_enforces_office :
    quietEnv.Reliable ∧ chain readyHost outpostChain = some [] ∧
    ∃ result rest, buildFirewallConfigFromPool noFaults .asListed (officeDb "k" []) "gw" =
      some result ∧
      chain (apply quietEnv (some result.config) readyHost).2 outpostChain =
        some (conntrackRule :: rest) ∧
      decides (conntrackRule :: rest) ⟨0x0A000002#32, 0x0A000003#32, "tcp", 22, .new⟩ =
        some .accept := by
  obtain ⟨result, rest, hres, hchain, hdecides, _⟩ :=
    apply_enforces_acls .asListed (officeDb "k" []) "gw" quietEnv_reliable readyHost_chain
  refine ⟨quietEnv_reliable, readyHost_chain, result, rest, hres, hchain, ?_⟩
  apply (hdecides ⟨0x0A000002#32, 0x0A000003#32, "tcp", 22, .new⟩ rfl (laptop "k")
    (.head _) rfl rfl (by decide) (officeDb_attached "k" [])).1.mpr
  exact ⟨by decide, _, officeDb_grants "k" [], by decide⟩

/-- An approved device without a key is listed nowhere: its packets stay undecided. -/
theorem keyless_device_undecided :
    ∃ (db : Database) (gatewayID : Uuid) (orders : Orders) (env : Env) (h : Host)
      (result : FirewallResult) (rules : List Rule) (p : Packet) (d : Device),
      env.Reliable ∧ chain h outpostChain = some [] ∧
      buildFirewallConfigFromPool noFaults orders db gatewayID = some result ∧
      chain (apply env (some result.config) h).2 outpostChain = some rules ∧
      p.state = .new ∧ d ∈ db.devices ∧ d.assignedIp = .v4 p.src ∧ d.isApproved = true ∧
      db.Attached gatewayID d ∧ decides rules p = none := by
  obtain ⟨result, hres, _⟩ := build_noFaults .asListed (officeDb "" []) "gw"
  refine ⟨officeDb "" [], "gw", .asListed, quietEnv, readyHost, result, _,
    ⟨0x0A000002#32, 0x0A000003#32, "tcp", 22, .new⟩, laptop "", quietEnv_reliable, readyHost_chain,
    hres,
    apply_built quietEnv_reliable readyHost_chain hres, rfl, .head _, rfl, rfl,
    officeDb_attached "" [], ?_⟩
  rw [decides_conntrack _ rfl]
  apply decides_unlisted (List.mem_singleton_self (laptop "")) rfl
  intro hlisted
  exact absurd rfl hlisted.2.1.2

def wildcard : List Cidr := [.v4 (Prefix.ofAddr 0#32 0 (Nat.zero_le 32))]

def Database.AclLists (db : Database) (d : Device) (x : BitVec 32) : Prop :=
  ∃ n ∈ db.networks, n.isActive = true ∧ n.address.contains4 x = true ∧
    ∃ a, db.OwnerAcl d n a ∧
      (a.allowedIps = wildcard ∨ ∃ c ∈ a.allowedIps, c.contains4 x = true)

def Database.AclCovers (db : Database) (d : Device) (x : BitVec 32) : Prop :=
  ∃ n ∈ db.networks, n.isActive = true ∧ n.address.contains4 x = true ∧ ∃ a, db.OwnerAcl d n a

/-- The rules ignore `allowed_ips`: an accepted destination is listed by an ACL row exactly when the
device is not served, is blocked, or the rows that cover the destination also list it. -/
theorem accepted_listed_iff {orders : Orders} {db : Database} {gatewayID : Uuid} {env : Env}
    (reliable : env.Reliable) {h : Host} {old rules : List Rule} {result : FirewallResult}
    (hchain : chain h outpostChain = some old)
    (hres : buildFirewallConfigFromPool noFaults orders db gatewayID = some result)
    (hrules : chain (apply env (some result.config) h).2 outpostChain = some rules)
    {d : Device} (hd : d ∈ db.devices) (happ : d.isApproved = true) (huser : ¬ db.OwnerIsAdmin d)
    {p : Packet} (hnew : p.state = .new) (hsrc : d.assignedIp = .v4 p.src) :
    (decides rules p = some .accept → db.AclLists d p.dst) ↔
      (d.wireguardPubkey ≠ "" → db.Attached gatewayID d → ¬ db.ZtnaBlocked gatewayID d →
        db.AclCovers d p.dst → db.AclLists d p.dst) := by
  obtain rfl := Option.some.inj ((apply_built reliable hchain hres).symm.trans hrules)
  rw [decides_conntrack _ hnew]
  have hcovers : (∃ n, db.Grants d n ∧ n.address.contains4 p.dst = true) ↔
      db.AclCovers d p.dst := by
    constructor
    · rintro ⟨n, ⟨hn, hact, hacl | hadmin⟩, hx⟩
      · exact ⟨n, hn, hact, hx, hacl⟩
      · exact absurd hadmin huser
    · rintro ⟨n, hn, hact, hx, hacl⟩
      exact ⟨n, ⟨hn, hact, .inl hacl⟩, hx⟩
  constructor
  · intro hsafe hkey hatt hz hcov
    apply hsafe
    rcases decides_listed orders ⟨hd, ⟨happ, hkey⟩, .inl hatt⟩ hsrc with
      ⟨_, hv⟩ | ⟨hp, _⟩
    · exact hv
    · exact absurd ⟨hatt, hz, hcovers.mpr hcov⟩ hp
  · intro hcond haccept
    by_cases hl : db.Listed gatewayID d
    · rcases decides_listed orders hl hsrc with ⟨⟨hatt, hz, hn⟩, _⟩ | ⟨_, hv⟩
      · exact hcond hl.2.1.2 hatt hz (hcovers.mp hn)
      · rw [hv] at haccept
        cases haccept
    · rw [decides_unlisted hd hsrc hl] at haccept
      cases haccept

theorem officeDb_owner_not_admin (key : String) (allowedIps : List Cidr) :
    ¬ (officeDb key allowedIps).OwnerIsAdmin (laptop key) := by
  rintro ⟨u, hu, _, hadmin⟩
  obtain rfl : u = alice := List.mem_singleton.mp hu
  exact absurd hadmin (by decide)

theorem Database.not_ztnaBlocked (hconfig : db.trustScoreConfig = none)
    (hpolicies : db.ztnaPolicies = []) (gatewayID : Uuid) (d : Device) :
    ¬ db.ZtnaBlocked gatewayID d := by
  rintro ⟨_, _, p, _, hblocks⟩
  exact absurd hblocks (by simp [Database.blocksPosture, autoFails, autoFlags, Database.policyQuery,
    hconfig, hpolicies])

theorem officeDb_not_blocked (key : String) (allowedIps : List Cidr) :
    ¬ (officeDb key allowedIps).ZtnaBlocked "gw" (laptop key) :=
  Database.not_ztnaBlocked rfl rfl "gw" (laptop key)

theorem accepted_listed_office :
    ∃ result rules, buildFirewallConfigFromPool noFaults .asListed (officeDb "k" wildcard) "gw" =
        some result ∧
      chain (apply quietEnv (some result.config) readyHost).2 outpostChain = some rules ∧
      (decides rules ⟨0x0A000002#32, 0x0A000003#32, "tcp", 22, .new⟩ = some .accept →
        (officeDb "k" wildcard).AclLists (laptop "k") 0x0A000003#32) := by
  obtain ⟨result, hres, _⟩ := build_noFaults .asListed (officeDb "k" wildcard) "gw"
  have hrules := apply_built quietEnv_reliable readyHost_chain hres
  refine ⟨result, _, hres, hrules, ?_⟩
  apply (accepted_listed_iff quietEnv_reliable readyHost_chain hres hrules
    (List.mem_singleton_self (laptop "k")) rfl (officeDb_owner_not_admin "k" wildcard) rfl rfl).mpr
  intro _ _ _ _
  refine ⟨_, .head _, rfl, by decide, ⟨"acl", "office", "staff", wildcard⟩, ?_,
    .inl rfl⟩
  exact ⟨.head _, rfl, ⟨"alice", "staff"⟩, .head _, rfl, rfl⟩

/-- An ACL row for one host opens the whole network. -/
theorem unlisted_destination_accepted :
    ∃ (db : Database) (gatewayID : Uuid) (orders : Orders) (env : Env) (h : Host)
      (result : FirewallResult) (rules : List Rule) (p : Packet) (d : Device),
      env.Reliable ∧ chain h outpostChain = some [] ∧
      buildFirewallConfigFromPool noFaults orders db gatewayID = some result ∧
      chain (apply env (some result.config) h).2 outpostChain = some rules ∧
      d ∈ db.devices ∧ d.isApproved = true ∧ ¬ db.OwnerIsAdmin d ∧
      p.state = .new ∧ d.assignedIp = .v4 p.src ∧
      decides rules p = some .accept ∧ ¬ db.AclLists d p.dst := by
  let only : List Cidr := [.v4 (Prefix.ofAddr 0x0A000505#32 32 (Nat.le_refl 32))]
  obtain ⟨result, hres, _⟩ := build_noFaults .asListed (officeDb "k" only) "gw"
  refine ⟨officeDb "k" only, "gw", .asListed, quietEnv, readyHost, result, _,
    ⟨0x0A000002#32, 0x0A000003#32, "tcp", 22, .new⟩, laptop "k", quietEnv_reliable, readyHost_chain,
    hres,
    apply_built quietEnv_reliable readyHost_chain hres, .head _, rfl,
    officeDb_owner_not_admin "k" only, rfl, rfl, ?_, ?_⟩
  · rw [decides_conntrack _ rfl]
    have hlisted : (officeDb "k" only).Listed "gw" (laptop "k") :=
      ⟨.head _, ⟨rfl, by decide⟩, .inl (officeDb_attached "k" only)⟩
    rcases decides_listed .asListed
      (p := ⟨0x0A000002#32, 0x0A000003#32, "tcp", 22, .new⟩) hlisted rfl with ⟨_, hv⟩ | ⟨hp, _⟩
    · exact hv
    · exact absurd ⟨officeDb_attached "k" only, officeDb_not_blocked "k" only, _,
        officeDb_grants "k" only, by decide⟩ hp
  · rintro ⟨n, _, _, _, a, ⟨ha, _⟩, hlists⟩
    obtain rfl : a = ⟨"acl", "office", "staff", only⟩ := List.mem_singleton.mp ha
    rcases hlists with hw | ⟨c, hc, hx⟩
    · exact absurd hw (by decide)
    · obtain rfl := List.mem_singleton.mp hc
      exact absurd hx (by decide)

end Outpost
