import Outpost.S2STopology

/-!
# What a calculated topology connects

Each gateway has its config, peers are mutual, and a subnet is reached by following the peers that
list it: at once in a mesh, over the hub otherwise.
-/

namespace Outpost.S2STopology

def HasPeer (configs : List TunnelConfig) (a b : String) (allowedIPs : List String) : Prop :=
  ∃ c ∈ configs, c.gatewayID = a ∧ ∃ p ∈ c.peers, p.gatewayID = b ∧ p.allowedIPs = allowedIPs

def Peering (configs : List TunnelConfig) (a b : String) : Prop :=
  ∃ allowedIPs, HasPeer configs a b allowedIPs

def Hop (configs : List TunnelConfig) (subnet a b : String) : Prop :=
  ∃ allowedIPs, HasPeer configs a b allowedIPs ∧ subnet ∈ allowedIPs

def TunnelConfig.site (c : TunnelConfig) : String × List String × Int :=
  (c.gatewayID, c.localSubnets, c.listenPort)

def Gateway.site (gw : Gateway) : String × List String × Int :=
  (gw.id, gw.localSubnets, gw.listenPort)

theorem zipIdx_map_site (gateways : List Gateway) :
    (gateways.zipIdx.map fun gw => gw.1.site) = gateways.map Gateway.site := by
  calc
    _ = (gateways.zipIdx.map Prod.fst).map Gateway.site := by
      rw [List.map_map]
      rfl
    _ = gateways.map Gateway.site := by rw [List.zipIdx_map_fst]

theorem sites_calculateMesh (gateways : List Gateway) :
    (calculateMesh gateways).map TunnelConfig.site = gateways.map Gateway.site := by
  rw [← zipIdx_map_site, calculateMesh, List.map_map]
  rfl

variable {gateways : List Gateway} {a b : String} {allowedIPs : List String}

theorem hasPeer_mesh (nodup : (gateways.map Gateway.id).Nodup) :
    HasPeer (calculateMesh gateways) a b allowedIPs ↔
      a ≠ b ∧ (∃ gw ∈ gateways, gw.id = a) ∧
        ∃ remote ∈ gateways, remote.id = b ∧ remote.localSubnets = allowedIPs := by
  constructor
  · intro ⟨c, hc, ha, p, hp, hb, hips⟩
    obtain ⟨⟨gw, i⟩, hgw, rfl⟩ := List.mem_map.mp hc
    obtain ⟨⟨remote, j⟩, hremote, hpeer⟩ := List.mem_filterMap.mp hp
    obtain ⟨hij, hpeer⟩ := Option.ite_none_left_eq_some.mp hpeer
    obtain rfl := Option.some.inj hpeer
    rw [List.mem_zipIdx_iff_getElem?] at hgw hremote
    subst ha hb
    exact ⟨((index_ne_iff nodup hgw hremote).mp hij).symm, ⟨gw, List.mem_of_getElem? hgw, rfl⟩,
      remote, List.mem_of_getElem? hremote, rfl, hips⟩
  · intro ⟨hne, ⟨gw, hgw, ha⟩, remote, hremote, hb, hips⟩
    subst ha hb
    obtain ⟨i, hi⟩ := List.mem_iff_getElem?.mp hgw
    obtain ⟨j, hj⟩ := List.mem_iff_getElem?.mp hremote
    have hij := (index_ne_iff nodup hi hj).mpr hne.symm
    exact ⟨_, List.mem_map.mpr ⟨(gw, i), List.mem_zipIdx_iff_getElem?.mpr hi, rfl⟩, rfl, _,
      List.mem_filterMap.mpr ⟨(remote, j), List.mem_zipIdx_iff_getElem?.mpr hj, if_neg hij⟩, rfl,
      hips⟩

theorem sites_hubSpokeConfigs (hub : Gateway) (spokes : List Gateway) :
    (hubSpokeConfigs hub spokes).map TunnelConfig.site = (hub :: spokes).map Gateway.site := by
  rw [hubSpokeConfigs, List.map_cons, List.map_cons, ← zipIdx_map_site, List.map_map]
  rfl

theorem hasPeer_hubSpoke {hub : Gateway} {spokes : List Gateway} :
    HasPeer (hubSpokeConfigs hub spokes) a b allowedIPs ↔
      (hub.id = a ∧ ∃ spoke ∈ spokes, spoke.id = b ∧ spoke.localSubnets = allowedIPs) ∨
      (hub.id = b ∧ (∃ spoke ∈ spokes, spoke.id = a) ∧
        hub.localSubnets ++ spokes.flatMap Gateway.localSubnets = allowedIPs) := by
  constructor
  · intro ⟨c, hc, ha, p, hp, hb, hips⟩
    rcases List.mem_cons.mp hc with rfl | hc
    · obtain ⟨spoke, hspoke, rfl⟩ := List.mem_map.mp hp
      exact .inl ⟨ha, spoke, hspoke, hb, hips⟩
    · obtain ⟨⟨spoke, i⟩, hspoke, rfl⟩ := List.mem_map.mp hc
      obtain rfl := List.mem_singleton.mp hp
      have hmem := List.mem_of_getElem? (List.mem_zipIdx_iff_getElem?.mp hspoke)
      exact .inr ⟨hb, ⟨spoke, hmem, ha⟩, hips⟩
  · intro h
    rcases h with ⟨ha, spoke, hspoke, hb, hips⟩ | ⟨hb, ⟨spoke, hspoke, ha⟩, hips⟩
    · exact ⟨_, .head _, ha, _, List.mem_map.mpr ⟨spoke, hspoke, rfl⟩, hb, hips⟩
    · obtain ⟨i, hi⟩ := List.mem_iff_getElem?.mp hspoke
      exact ⟨_, List.mem_cons_of_mem _ (List.mem_map.mpr
        ⟨(spoke, i), List.mem_zipIdx_iff_getElem?.mpr hi, rfl⟩), ha, _,
        .head _, hb, hips⟩

def ChosenHub (gateways : List Gateway) (hub : Gateway) : Prop :=
  (hub ∈ gateways ∧ hub.isHub = true) ∨
    (∀ gw ∈ gateways, gw.isHub = false) ∧ gateways.head? = some hub

theorem calculateHubSpoke_eq (hne : gateways ≠ [])
    (hone : (gateways.filter Gateway.isHub).length ≤ 1) :
    ∃ hub spokes, ChosenHub gateways hub ∧ (hub :: spokes).Perm gateways ∧
      calculateHubSpoke gateways = hubSpokeConfigs hub spokes := by
  unfold calculateHubSpoke
  rw [splitHub_eq]
  match hmarked : gateways.filter Gateway.isHub with
  | [] =>
    have hnone : ∀ gw ∈ gateways, gw.isHub = false := by
      intro gw hgw
      rw [← Bool.not_eq_true]
      exact List.filter_eq_nil_iff.mp hmarked gw hgw
    cases gateways with
    | nil => exact absurd rfl hne
    | cons hub spokes => exact ⟨hub, spokes, .inr ⟨hnone, rfl⟩, List.Perm.refl _, rfl⟩
  | [hub] =>
    have hhub : hub ∈ gateways.filter Gateway.isHub := hmarked ▸ List.mem_singleton_self hub
    have hperm := List.filter_append_perm Gateway.isHub gateways
    rw [hmarked] at hperm
    exact ⟨hub, gateways.filter fun gw => !gw.isHub, .inl (List.mem_filter.mp hhub), hperm, rfl⟩
  | hub :: other :: rest =>
    rw [hmarked] at hone
    simp at hone

section Connectivity

variable {configs : List TunnelConfig} {gateways : List Gateway}

structure Connects (gateways : List Gateway) (configs : List TunnelConfig) : Prop where
  sites : (configs.map TunnelConfig.site).Perm (gateways.map Gateway.site)
  symm : ∀ a b, Peering configs a b → Peering configs b a
  irrefl : ∀ a, ¬ Peering configs a a

theorem connects_mesh (nodup : (gateways.map Gateway.id).Nodup) :
    Connects gateways (calculateMesh gateways) where
  sites := by rw [sites_calculateMesh]
  symm := by
    intro a b h
    obtain ⟨ips, h⟩ := h
    obtain ⟨hne, ⟨gw, hgw, ha⟩, remote, hremote, hb, _⟩ := (hasPeer_mesh nodup).mp h
    exact ⟨_, (hasPeer_mesh nodup).mpr ⟨hne.symm, ⟨remote, hremote, hb⟩, gw, hgw, ha, rfl⟩⟩
  irrefl := by
    intro a h
    obtain ⟨ips, h⟩ := h
    exact ((hasPeer_mesh nodup).mp h).1 rfl

variable {hub a b : Gateway} {spokes : List Gateway} {subnet : String}

theorem connects_hubSpoke (nodup : ((hub :: spokes).map Gateway.id).Nodup)
    (hperm : (hub :: spokes).Perm gateways) :
    Connects gateways (hubSpokeConfigs hub spokes) where
  sites := by
    rw [sites_hubSpokeConfigs]
    exact hperm.map _
  symm := by
    intro a b h
    obtain ⟨ips, h⟩ := h
    rcases hasPeer_hubSpoke.mp h with ⟨ha, spoke, hspoke, hb, _⟩ | ⟨hb, ⟨spoke, hspoke, ha⟩, _⟩
    · exact ⟨_, hasPeer_hubSpoke.mpr (.inr ⟨ha, ⟨spoke, hspoke, hb⟩, rfl⟩)⟩
    · exact ⟨_, hasPeer_hubSpoke.mpr (.inl ⟨hb, spoke, hspoke, ha, rfl⟩)⟩
  irrefl := by
    intro a h
    obtain ⟨ips, h⟩ := h
    have hnew : ∀ spoke ∈ spokes, spoke.id ≠ hub.id := by
      intro spoke hspoke heq
      exact (List.nodup_cons.mp nodup).1 (heq ▸ List.mem_map_of_mem hspoke)
    rcases hasPeer_hubSpoke.mp h with ⟨ha, spoke, hspoke, hb, _⟩ | ⟨hb, ⟨spoke, hspoke, ha⟩, _⟩
    · exact hnew spoke hspoke (hb.trans ha.symm)
    · exact hnew spoke hspoke (ha.trans hb.symm)

theorem hop_mesh (nodup : (gateways.map Gateway.id).Nodup) (ha : a ∈ gateways) (hb : b ∈ gateways)
    (hne : a.id ≠ b.id) (hs : subnet ∈ b.localSubnets) :
    Hop (calculateMesh gateways) subnet a.id b.id :=
  ⟨b.localSubnets, (hasPeer_mesh nodup).mpr ⟨hne, ⟨a, ha, rfl⟩, b, hb, rfl, rfl⟩, hs⟩

theorem hop_from_hub (hb : b ∈ spokes) (hs : subnet ∈ b.localSubnets) :
    Hop (hubSpokeConfigs hub spokes) subnet hub.id b.id :=
  ⟨b.localSubnets, hasPeer_hubSpoke.mpr (.inl ⟨rfl, b, hb, rfl, rfl⟩), hs⟩

theorem hop_to_hub (ha : a ∈ spokes) (hb : b ∈ hub :: spokes) (hs : subnet ∈ b.localSubnets) :
    Hop (hubSpokeConfigs hub spokes) subnet a.id hub.id := by
  refine ⟨_, hasPeer_hubSpoke.mpr (.inr ⟨rfl, ⟨a, ha, rfl⟩, rfl⟩), List.mem_append.mpr ?_⟩
  rcases List.mem_cons.mp hb with rfl | hb
  · exact .inl hs
  · exact .inr (List.mem_flatMap.mpr ⟨b, hb, hs⟩)

theorem hops_hubSpoke (ha : a ∈ hub :: spokes) (hb : b ∈ hub :: spokes) (hne : a.id ≠ b.id)
    (hs : subnet ∈ b.localSubnets) :
    Hop (hubSpokeConfigs hub spokes) subnet a.id b.id ∨
      Hop (hubSpokeConfigs hub spokes) subnet a.id hub.id ∧
        Hop (hubSpokeConfigs hub spokes) subnet hub.id b.id := by
  rcases List.mem_cons.mp ha with rfl | ha
  · rcases List.mem_cons.mp hb with rfl | hb
    · exact absurd rfl hne
    · exact .inl (hop_from_hub hb hs)
  · have hto := hop_to_hub ha hb hs
    rcases List.mem_cons.mp hb with rfl | hb
    · exact .inl hto
    · exact .inr ⟨hto, hop_from_hub hb hs⟩

end Connectivity

/-- Both topologies connect all sites. -/
theorem topologies_connect {gateways : List Gateway} (nodup : (gateways.map Gateway.id).Nodup)
    (hone : (gateways.filter Gateway.isHub).length ≤ 1) :
    Connects gateways (calculateTopology "mesh" gateways) ∧
    Connects gateways (calculateTopology "hub_spoke" gateways) ∧
    ∀ a ∈ gateways, ∀ b ∈ gateways, a.id ≠ b.id → ∀ subnet ∈ b.localSubnets,
      Hop (calculateTopology "mesh" gateways) subnet a.id b.id ∧
      ∃ hub, ChosenHub gateways hub ∧
        (Hop (calculateTopology "hub_spoke" gateways) subnet a.id b.id ∨
          Hop (calculateTopology "hub_spoke" gateways) subnet a.id hub.id ∧
            Hop (calculateTopology "hub_spoke" gateways) subnet hub.id b.id) := by
  have hspoke : calculateTopology "hub_spoke" gateways = calculateHubSpoke gateways := rfl
  rw [hspoke]
  refine ⟨connects_mesh nodup, ?_, ?_⟩
  · by_cases hne : gateways = []
    · subst hne
      exact connects_mesh nodup
    · obtain ⟨hub, spokes, _, hperm, heq⟩ := calculateHubSpoke_eq hne hone
      rw [heq]
      exact connects_hubSpoke ((hperm.map _).nodup_iff.mpr nodup) hperm
  · intro a ha b hb hab subnet hs
    obtain ⟨hub, spokes, hhub, hperm, heq⟩ := calculateHubSpoke_eq (List.ne_nil_of_mem ha) hone
    rw [heq]
    exact ⟨hop_mesh nodup ha hb hab hs, hub, hhub,
      hops_hubSpoke (hperm.mem_iff.mpr ha) (hperm.mem_iff.mpr hb) hab hs⟩

def branches : List Gateway :=
  [⟨"a", "keyA", "1.1.1.1:51821", ["10.1.0.0/16"], false, 51821⟩,
    ⟨"b", "keyB", "2.2.2.2:51821", ["10.2.0.0/16"], false, 51821⟩,
    ⟨"c", "keyC", "3.3.3.3:51821", ["10.3.0.0/16"], false, 51821⟩]

theorem branches_connect : (branches.map Gateway.id).Nodup ∧
    (branches.filter Gateway.isHub).length ≤ 1 ∧
    Connects branches (calculateTopology "hub_spoke" branches) :=
  ⟨by decide, by decide, (topologies_connect (by decide) (by decide)).2.1⟩

theorem length_calculateHubSpoke (hmarked : gateways.filter Gateway.isHub ≠ []) :
    (calculateHubSpoke gateways).length = (gateways.filter fun gw => !gw.isHub).length + 1 := by
  unfold calculateHubSpoke
  rw [splitHub_eq, List.getLast?_eq_some_getLast hmarked]
  simp [hubSpokeConfigs]

/-- Every gateway has its one config exactly when at most one of them is marked as the hub. -/
theorem one_config_each_iff {gateways : List Gateway} (nodup : (gateways.map Gateway.id).Nodup) :
    (∀ gw ∈ gateways, ((calculateHubSpoke gateways).map TunnelConfig.gatewayID).count gw.id = 1) ↔
      (gateways.filter Gateway.isHub).length ≤ 1 := by
  constructor
  · intro hcount
    by_cases hmarked : gateways.filter Gateway.isHub = []
    · simp [hmarked]
    · have hsub : gateways.map Gateway.id ⊆
          (calculateHubSpoke gateways).map TunnelConfig.gatewayID := by
        intro id hid
        obtain ⟨gw, hgw, rfl⟩ := List.mem_map.mp hid
        apply List.count_pos_iff.mp
        rw [hcount gw hgw]
        exact Nat.one_pos
      have hlen := (List.subperm_of_subset nodup hsub).length_le
      have hall := (List.filter_append_perm Gateway.isHub gateways).length_eq
      rw [List.length_append] at hall
      rw [List.length_map, List.length_map, length_calculateHubSpoke hmarked] at hlen
      omega
  · intro hone gw hgw
    obtain ⟨hub, spokes, _, hperm, heq⟩ := calculateHubSpoke_eq (List.ne_nil_of_mem hgw) hone
    have hids : ((calculateHubSpoke gateways).map TunnelConfig.gatewayID).Perm
        (gateways.map Gateway.id) := by
      have hsites := (connects_hubSpoke ((hperm.map _).nodup_iff.mpr nodup) hperm).sites.map Prod.fst
      rw [← heq, List.map_map, List.map_map] at hsites
      exact hsites
    rw [hids.count_eq]
    exact List.count_eq_one_of_mem nodup (List.mem_map_of_mem hgw)

def markedGateway (id : String) (isHub : Bool) : Gateway := ⟨id, id, "", [], isHub, 51821⟩

theorem first_of_two_hubs_is_dropped :
    ([markedGateway "a" true, markedGateway "b" true].map Gateway.id).Nodup ∧
    ((calculateHubSpoke [markedGateway "a" true, markedGateway "b" true]).map
      TunnelConfig.gatewayID).count "a" = 0 := by
  decide

theorem only_hub_has_its_config :
    ((calculateHubSpoke [markedGateway "a" false, markedGateway "b" true]).map
      TunnelConfig.gatewayID).count (markedGateway "b" true).id = 1 :=
  (one_config_each_iff (by decide)).mpr (by decide) _ (by simp)

end Outpost.S2STopology
