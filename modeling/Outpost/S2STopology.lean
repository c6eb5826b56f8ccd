import Outpost.S2SPeers

/-!
# Topologies of site-to-site tunnels

`CalculateTopology` computes the peers of every member of a tunnel from its topology.
`buildS2SConfigs`, which is what the gateways are sent, selects the topology and does
not look at it: each member gets every other member as a peer.
-/

namespace Outpost.S2STopology

structure Gateway where
  (id publicKey endpoint : String)
  localSubnets : List String
  isHub : Bool
  listenPort : Int
deriving DecidableEq

structure TunnelPeer where
  (gatewayID publicKey endpoint : String)
  allowedIPs : List String
  keepalive : Nat
deriving DecidableEq

structure TunnelConfig where
  (gatewayID interfaceName : String)
  listenPort : Int
  localSubnets : List String
  peers : List TunnelPeer
deriving DecidableEq

def Gateway.toPeer (remote : Gateway) (allowedIPs : List String) : TunnelPeer :=
  ⟨remote.id, remote.publicKey, remote.endpoint, allowedIPs, 25⟩

def calculateMesh (gateways : List Gateway) : List TunnelConfig :=
  gateways.zipIdx.map fun gw =>
    ⟨gw.1.id, "wg-s2s-" ++ toString gw.2, gw.1.listenPort, gw.1.localSubnets,
      gateways.zipIdx.filterMap fun remote =>
        if gw.2 = remote.2 then none else some (remote.1.toPeer remote.1.localSubnets)⟩

def splitHub (gateways : List Gateway) : Option Gateway × List Gateway :=
  gateways.foldl (fun acc gw => if gw.isHub then (some gw, acc.2) else (acc.1, acc.2 ++ [gw]))
    (none, [])

def hubSpokeConfigs (hub : Gateway) (spokes : List Gateway) : List TunnelConfig :=
  let allSubnets := hub.localSubnets ++ spokes.flatMap Gateway.localSubnets
  ⟨hub.id, "wg-s2s-hub", hub.listenPort, hub.localSubnets,
    spokes.map fun spoke => spoke.toPeer spoke.localSubnets⟩ ::
  spokes.zipIdx.map fun spoke =>
    ⟨spoke.1.id, "wg-s2s-" ++ toString spoke.2, spoke.1.listenPort, spoke.1.localSubnets,
      [hub.toPeer allSubnets]⟩

def calculateHubSpoke (gateways : List Gateway) : List TunnelConfig :=
  match splitHub gateways, gateways with
  | (some hub, spokes), _ => hubSpokeConfigs hub spokes
  | (none, _), [] => []
  | (none, _), hub :: spokes => hubSpokeConfigs hub spokes

def calculateTopology (topology : String) (gateways : List Gateway) : List TunnelConfig :=
  if topology = "mesh" then calculateMesh gateways
  else if topology = "hub_spoke" then calculateHubSpoke gateways
  else []

abbrev View := String × String × Finset String

def Gateway.view (gw : Gateway) (allowedIPs : List String) : View :=
  (gw.id, gw.publicKey, allowedIPs.toFinset)

def TunnelPeer.view (p : TunnelPeer) : View := (p.gatewayID, p.publicKey, p.allowedIPs.toFinset)

def Computed (topology : String) (gateways : List Gateway) (gatewayID : String) (v : View) : Prop :=
  ∃ c ∈ calculateTopology topology gateways, c.gatewayID = gatewayID ∧ ∃ p ∈ c.peers, p.view = v

def Others (gateways : List Gateway) (gatewayID : String) (v : View) : Prop :=
  ∃ gw ∈ gateways, gw.id ≠ gatewayID ∧ gw.view gw.localSubnets = v

variable {gateways : List Gateway} {gatewayID : String} {db : Database} {t : S2STunnel}
  {gw : Gateway}

theorem computed_mesh_iff {v : View} :
    Computed "mesh" gateways gatewayID v ↔ ∃ (gw : Gateway) (i : Nat), gateways[i]? = some gw ∧
      gw.id = gatewayID ∧ ∃ (remote : Gateway) (j : Nat), gateways[j]? = some remote ∧ i ≠ j ∧
        remote.view remote.localSubnets = v := by
  simp only [Computed, calculateTopology, if_true, calculateMesh, List.mem_map,
    List.mem_zipIdx_iff_getElem?, Prod.exists]
  constructor
  · intro ⟨_, ⟨gw, i, hi, rfl⟩, hid, p, hp, hv⟩
    obtain ⟨⟨remote, j⟩, hj, hp⟩ := List.mem_filterMap.mp hp
    obtain ⟨hne, hp⟩ := Option.ite_none_left_eq_some.mp hp
    obtain rfl := Option.some.inj hp
    exact ⟨gw, i, hi, hid, remote, j, List.mem_zipIdx_iff_getElem?.mp hj, hne, hv⟩
  · intro ⟨gw, i, hi, hid, remote, j, hj, hne, hv⟩
    exact ⟨_, ⟨gw, i, hi, rfl⟩, hid, _, List.mem_filterMap.mpr
      ⟨(remote, j), List.mem_zipIdx_iff_getElem?.mpr hj, if_neg hne⟩, hv⟩

section Calculator

variable {gateways : List Gateway} (nodup : (gateways.map Gateway.id).Nodup)
include nodup

theorem index_ne_iff {gw remote : Gateway} {i j : Nat} (hi : gateways[i]? = some gw)
    (hj : gateways[j]? = some remote) : i ≠ j ↔ remote.id ≠ gw.id := by
  apply not_congr
  have hlt : i < (gateways.map Gateway.id).length := by
    rw [List.length_map]
    exact (List.getElem?_eq_some_iff.mp hi).1
  constructor
  · intro heq
    subst heq
    rw [Option.some.inj (hi.symm.trans hj)]
  · intro heq
    apply (List.getElem?_inj hlt nodup).mp
    rw [List.getElem?_map, List.getElem?_map, hi, hj, Option.map_some, Option.map_some, heq]

theorem computed_mesh {gatewayID : String} (hin : ∃ gw ∈ gateways, gw.id = gatewayID) (v : View) :
    Computed "mesh" gateways gatewayID v ↔ Others gateways gatewayID v := by
  rw [computed_mesh_iff]
  constructor
  · intro ⟨gw, i, hi, hid, remote, j, hj, hne, hv⟩
    exact ⟨remote, List.mem_of_getElem? hj, hid ▸ (index_ne_iff nodup hi hj).mp hne, hv⟩
  · intro ⟨remote, hremote, hne, hv⟩
    obtain ⟨gw, hgw, hid⟩ := hin
    obtain ⟨i, hi⟩ := List.mem_iff_getElem?.mp hgw
    obtain ⟨j, hj⟩ := List.mem_iff_getElem?.mp hremote
    exact ⟨gw, i, hi, hid, remote, j, hj, (index_ne_iff nodup hi hj).mpr (hid ▸ hne), hv⟩

end Calculator

theorem splitHub_eq (gateways : List Gateway) :
    splitHub gateways = ((gateways.filter Gateway.isHub).getLast?,
      gateways.filter fun gw => !gw.isHub) := by
  have hfold : ∀ (gws : List Gateway) (hub : Option Gateway) (spokes : List Gateway),
      gws.foldl (fun acc gw => if gw.isHub then (some gw, acc.2) else (acc.1, acc.2 ++ [gw]))
        (hub, spokes) =
      ((gws.filter Gateway.isHub).getLast?.or hub, spokes ++ gws.filter fun gw => !gw.isHub) := by
    intro gws
    induction gws with
    | nil =>
      simp
    | cons gw gws ih =>
      intro hub spokes
      rw [List.foldl_cons]
      cases hhub : gw.isHub with
      | true =>
        rw [ih, List.filter_cons_of_pos hhub, List.filter_cons_of_neg (by simp [hhub])]
        cases hl : (gws.filter Gateway.isHub).getLast? with
        | none => simp [List.getLast?_eq_none_iff.mp hl]
        | some last => simp [List.getLast?_cons, hl]
      | false =>
        rw [ih, List.filter_cons_of_neg (by simp [hhub]),
          List.filter_cons_of_pos (by simp [hhub])]
        simp
  have h := hfold gateways none []
  simpa [splitHub] using h

section HubSpoke

variable {gateways : List Gateway} (nodup : (gateways.map Gateway.id).Nodup) {hub : Gateway}
  (hin : hub ∈ gateways) (hhub : ∀ gw ∈ gateways, gw.isHub = true ↔ gw.id = hub.id)
include nodup hin hhub

theorem calculateTopology_hubSpoke :
    calculateTopology "hub_spoke" gateways =
      hubSpokeConfigs hub (gateways.filter fun gw => !gw.isHub) := by
  have hlast : (gateways.filter Gateway.isHub).getLast? = some hub := by
    have hmem : hub ∈ gateways.filter Gateway.isHub :=
      List.mem_filter.mpr ⟨hin, (hhub hub hin).mpr rfl⟩
    cases hl : (gateways.filter Gateway.isHub).getLast? with
    | none =>
      rw [List.getLast?_eq_none_iff.mp hl] at hmem
      cases hmem
    | some last =>
      obtain ⟨hgw, hmarked⟩ := List.mem_filter.mp (List.mem_of_getLast? hl)
      rw [List.inj_on_of_nodup_map nodup hgw hin ((hhub last hgw).mp hmarked)]
  simp [calculateTopology, calculateHubSpoke, splitHub_eq, hlast]

omit nodup hin in
theorem mem_spokes (gw : Gateway) :
    gw ∈ gateways.filter (fun gw => !gw.isHub) ↔ gw ∈ gateways ∧ gw.id ≠ hub.id := by
  rw [List.mem_filter]
  apply and_congr_right
  intro hgw
  rw [ne_eq, ← hhub gw hgw]
  simp

theorem computed_hub (v : View) :
    Computed "hub_spoke" gateways hub.id v ↔ Others gateways hub.id v := by
  have hspokes := mem_spokes hhub
  unfold Computed Others
  rw [calculateTopology_hubSpoke nodup hin hhub]
  constructor
  · intro ⟨c, hc, hid, p, hp, hv⟩
    rcases List.mem_cons.mp hc with rfl | hc
    · obtain ⟨spoke, hspoke, rfl⟩ := List.mem_map.mp hp
      obtain ⟨hgw, hne⟩ := (hspokes spoke).mp hspoke
      exact ⟨spoke, hgw, hne, hv⟩
    · obtain ⟨⟨spoke, i⟩, hspoke, rfl⟩ := List.mem_map.mp hc
      have hgw := List.mem_of_getElem? (List.mem_zipIdx_iff_getElem?.mp hspoke)
      exact absurd hid ((hspokes spoke).mp hgw).2
  · intro ⟨gw, hgw, hne, hv⟩
    exact ⟨_, .head _, rfl, _,
      List.mem_map.mpr ⟨gw, (hspokes gw).mpr ⟨hgw, hne⟩, rfl⟩, hv⟩

theorem computed_spoke {gatewayID : String} (hspoke : ∃ gw ∈ gateways, gw.id = gatewayID)
    (hne : gatewayID ≠ hub.id) (v : View) :
    Computed "hub_spoke" gateways gatewayID v ↔
      hub.view (hub.localSubnets ++
        (gateways.filter fun gw => !gw.isHub).flatMap Gateway.localSubnets) = v := by
  have hspokes := mem_spokes hhub
  unfold Computed
  rw [calculateTopology_hubSpoke nodup hin hhub]
  constructor
  · intro ⟨c, hc, hid, p, hp, hv⟩
    rcases List.mem_cons.mp hc with rfl | hc
    · exact absurd hid.symm hne
    · obtain ⟨⟨spoke, i⟩, _, rfl⟩ := List.mem_map.mp hc
      obtain rfl := List.mem_singleton.mp hp
      exact hv
  · intro hv
    obtain ⟨gw, hgw, rfl⟩ := hspoke
    obtain ⟨i, hi⟩ := List.mem_iff_getElem?.mp ((hspokes gw).mpr ⟨hgw, hne⟩)
    exact ⟨_, List.mem_cons_of_mem _ (List.mem_map.mpr
      ⟨(gw, i), List.mem_zipIdx_iff_getElem?.mpr hi, rfl⟩), rfl, _, .head _, hv⟩

end HubSpoke

def tunnelGateways (db : Database) (t : S2STunnel) : List Gateway :=
  db.s2sTunnelMembers.flatMap fun m => db.gateways.filterMap fun g =>
    if g.id = m.gatewayId ∧ m.tunnelId = t.id then
      some ⟨m.gatewayId, m.publicKey.getD g.wireguardPubkey, g.endpoint,
        m.localSubnets.map Cidr.text, decide (t.hubGatewayId = some m.gatewayId), m.listenPort⟩
    else none

theorem mem_tunnelGateways :
    gw ∈ tunnelGateways db t ↔ ∃ m ∈ db.s2sTunnelMembers, ∃ g ∈ db.gateways, g.id = m.gatewayId ∧
      m.tunnelId = t.id ∧ ⟨m.gatewayId, m.publicKey.getD g.wireguardPubkey, g.endpoint,
        m.localSubnets.map Cidr.text, decide (t.hubGatewayId = some m.gatewayId), m.listenPort⟩ = gw := by
  simp [tunnelGateways, and_assoc]

theorem isHub_tunnelGateways (h : gw ∈ tunnelGateways db t) :
    gw.isHub = true ↔ t.hubGatewayId = some gw.id := by
  obtain ⟨m, _, g, _, _, _, rfl⟩ := mem_tunnelGateways.mp h
  exact decide_eq_true_iff

theorem tunnelGateways_nodup (keyed : db.S2SKeyed) (t : S2STunnel) :
    ((tunnelGateways db t).map Gateway.id).Nodup := by
  apply keyed.join_nodup
  intro m g gw hgw
  obtain ⟨⟨hid, htunnel⟩, hgw⟩ := Option.ite_none_right_eq_some.mp hgw
  obtain rfl := Option.some.inj hgw
  exact ⟨hid, htunnel, rfl⟩

def Pushed (env : S2SNotifier.Env) (db : Database) (t : S2STunnel) (gatewayID : Uuid) (v : View) :
    Prop :=
  ∃ cfg ∈ S2SNotifier.buildS2SConfigs env db gatewayID, cfg.tunnelId = t.id ∧
    ∃ p ∈ cfg.peers, (p.gatewayId, p.publicKey, p.allowedIps.toFinset) = v

theorem pushed_iff {env : S2SNotifier.Env} (reliable : env.Reliable) (ht : t ∈ db.s2sTunnels)
    (hactive : t.isActive = true) (hroutes : ∀ r ∈ db.s2sRoutes, r.tunnelId ≠ t.id)
    {gatewayID : Uuid} (hin : ∃ gw ∈ tunnelGateways db t, gw.id = gatewayID) (v : View) :
    Pushed env db t gatewayID v ↔ Others (tunnelGateways db t) gatewayID v := by
  have hnone : db.routeQuery t.id = [] := by
    apply List.filter_eq_nil_iff.mpr
    intro r hr
    simp [hroutes r hr]
  have hpeers : ∀ p, p ∈ tunnelPeers {} (env.orders gatewayID) db gatewayID t.id ↔
      p ∈ db.memberQuery gatewayID t.id := by
    have hempty : ((env.orders gatewayID).routeRows t.id).visit (db.routeQuery t.id) = [] := by
      rw [hnone]
      exact (((env.orders gatewayID).routeRows t.id).perm []).eq_nil
    unfold tunnelPeers
    simp only [scanRows_noFaults, hempty]
    simp
  unfold Pushed S2SNotifier.buildS2SConfigs fetchS2STunnels Others
  simp only [reliable.faults, scanRows_noFaults]
  constructor
  · intro ⟨cfg, hcfg, hid, p, hp, hv⟩
    obtain ⟨row, _, hcfg⟩ := List.mem_filterMap.mp hcfg
    obtain rfl : _ = cfg := Option.some.inj hcfg
    have htunnel : row.1.id = t.id := hid
    rw [htunnel, hpeers, Database.mem_memberQuery] at hp
    obtain ⟨m, hm, g, hg, hid, htunnel, hne, rfl⟩ := hp
    exact ⟨_, mem_tunnelGateways.mpr ⟨m, hm, g, hg, hid, htunnel, rfl⟩, hne, hv⟩
  · intro ⟨gw, hgw, hne, hv⟩
    obtain ⟨self, hself, rfl⟩ := hin
    obtain ⟨m₀, hm₀, g₀, _, _, htunnel₀, rfl⟩ := mem_tunnelGateways.mp hself
    obtain ⟨m, hm, g, hg, hid, htunnel, rfl⟩ := mem_tunnelGateways.mp hgw
    have hrow : (t, m₀) ∈ db.tunnelQuery m₀.gatewayId :=
      List.mem_flatMap.mpr ⟨t, ht, List.mem_filterMap.mpr
        ⟨m₀, hm₀, if_pos ⟨htunnel₀, rfl, hactive⟩⟩⟩
    let p : S2SPeer := ⟨m.gatewayId, m.publicKey.getD g.wireguardPubkey, g.endpoint,
      m.localSubnets.map Cidr.text, 25⟩
    have hp : p ∈ db.memberQuery m₀.gatewayId t.id :=
      Database.mem_memberQuery.mpr ⟨m, hm, g, hg, hid, htunnel, hne, rfl⟩
    exact ⟨_, List.mem_filterMap.mpr ⟨(t, m₀), (RangeOrder.mem_visit _ _ _).mpr hrow, rfl⟩, rfl,
      p, (hpeers p).mpr hp, hv⟩

def LoneSpoke (gateways : List Gateway) (hub : Gateway) (gatewayID : String) : Prop :=
  ∀ gw ∈ gateways, (gw.id = gatewayID ∨ gw.id = hub.id) ∧ gw.localSubnets ⊆ hub.localSubnets

theorem view_append_eq_iff (gw : Gateway) (subnets : List String) :
    gw.view (gw.localSubnets ++ subnets) = gw.view gw.localSubnets ↔
      subnets ⊆ gw.localSubnets := by
  unfold Gateway.view
  rw [Prod.mk.injEq, Prod.mk.injEq, List.toFinset_append, Finset.union_eq_left]
  simp only [true_and]
  constructor
  · intro h s hs
    exact List.mem_toFinset.mp (h (List.mem_toFinset.mpr hs))
  · intro h s hs
    exact List.mem_toFinset.mpr (h (List.mem_toFinset.mp hs))

theorem others_eq_hub_iff (nodup : (gateways.map Gateway.id).Nodup) {hub : Gateway}
    (hin : hub ∈ gateways) (hhub : ∀ gw ∈ gateways, gw.isHub = true ↔ gw.id = hub.id)
    (hne : gatewayID ≠ hub.id) :
    (∀ v, Others gateways gatewayID v ↔ hub.view (hub.localSubnets ++
        (gateways.filter fun gw => !gw.isHub).flatMap Gateway.localSubnets) = v) ↔
      LoneSpoke gateways hub gatewayID := by
  have hspokes := mem_spokes hhub
  constructor
  · intro h gw hgw
    have hsubnets := (view_append_eq_iff hub _).mp ((h _).mp ⟨hub, hin, hne.symm, rfl⟩)
    refine ⟨?_, ?_⟩
    · by_cases hself : gw.id = gatewayID
      · exact .inl hself
      · have hview := (h _).mp ⟨gw, hgw, hself, rfl⟩
        exact .inr (Prod.mk.inj hview).1.symm
    · intro s hs
      by_cases hid : gw.id = hub.id
      · rwa [List.inj_on_of_nodup_map nodup hgw hin hid] at hs
      · exact hsubnets (List.mem_flatMap.mpr ⟨gw, (hspokes gw).mpr ⟨hgw, hid⟩, hs⟩)
  · intro lone v
    have hsubnets : (gateways.filter fun gw => !gw.isHub).flatMap Gateway.localSubnets ⊆
        hub.localSubnets := by
      intro s hs
      obtain ⟨gw, hgw, hs⟩ := List.mem_flatMap.mp hs
      exact (lone gw ((hspokes gw).mp hgw).1).2 hs
    rw [(view_append_eq_iff hub _).mpr hsubnets]
    constructor
    · intro ⟨gw, hgw, hother, hv⟩
      have hid : gw.id = hub.id := (lone gw hgw).1.resolve_left hother
      rw [← List.inj_on_of_nodup_map nodup hgw hin hid]
      exact hv
    · intro hv
      exact ⟨hub, hin, hne.symm, hv⟩

/-- The peers that a member is sent are those of the topology exactly for the members of a mesh, the
hub, and a spoke that is alone and whose subnets the hub has too. -/
theorem pushed_implements_topology_iff {env : S2SNotifier.Env} (reliable : env.Reliable)
    {db : Database} (keyed : db.S2SKeyed) {t : S2STunnel} (ht : t ∈ db.s2sTunnels)
    (hactive : t.isActive = true) (hroutes : ∀ r ∈ db.s2sRoutes, r.tunnelId ≠ t.id)
    {gateways : List Gateway} (hperm : gateways.Perm (tunnelGateways db t))
    (htopology : t.topology = "mesh" ∨
      t.topology = "hub_spoke" ∧ ∃ hub ∈ gateways, t.hubGatewayId = some hub.id)
    {gatewayID : Uuid} (hin : ∃ gw ∈ gateways, gw.id = gatewayID) :
    (∀ v, Pushed env db t gatewayID v ↔ Computed t.topology gateways gatewayID v) ↔
      t.topology = "mesh" ∨ t.hubGatewayId = some gatewayID ∨
        ∃ hub ∈ gateways, t.hubGatewayId = some hub.id ∧ LoneSpoke gateways hub gatewayID := by
  have nodup : (gateways.map Gateway.id).Nodup :=
    (hperm.map _).nodup_iff.mpr (tunnelGateways_nodup keyed t)
  have hpushed : ∀ v, Pushed env db t gatewayID v ↔ Others gateways gatewayID v := by
    intro v
    obtain ⟨self, hself, hid⟩ := hin
    rw [pushed_iff reliable ht hactive hroutes ⟨self, hperm.mem_iff.mp hself, hid⟩]
    simp only [Others, hperm.mem_iff]
  simp only [hpushed]
  rcases htopology with hmesh | ⟨hspoke, hub, hhub, hstored⟩
  · rw [hmesh]
    exact iff_of_true (fun v => (computed_mesh nodup hin v).symm) (.inl rfl)
  · have hmarked : ∀ gw ∈ gateways, gw.isHub = true ↔ gw.id = hub.id := by
      intro gw hgw
      rw [isHub_tunnelGateways (hperm.mem_iff.mp hgw), hstored, Option.some.injEq, eq_comm]
    have hneither : t.topology ≠ "mesh" := by
      rw [hspoke]
      decide
    rw [or_iff_right hneither, hspoke, hstored]
    by_cases hself : gatewayID = hub.id
    · subst hself
      exact iff_of_true (fun v => (computed_hub nodup hhub hmarked v).symm) (.inl rfl)
    · rw [or_iff_right fun h => hself (Option.some.inj h).symm]
      simp only [computed_spoke nodup hhub hmarked hin hself]
      rw [others_eq_hub_iff nodup hhub hmarked hself]
      constructor
      · intro lone
        exact ⟨hub, hhub, rfl, lone⟩
      · intro ⟨hub', hhub', hid, lone⟩
        rwa [List.inj_on_of_nodup_map nodup hhub hhub' (Option.some.inj hid)]

def star : S2STunnel := ⟨"star", "star", "hub_spoke", true, some "hub"⟩

def starDb : Database :=
  { Database.empty with
    gateways := ["hub", "a", "b"].map fun id => ⟨id, none, id, "", true, 0, 0, id⟩
    s2sTunnels := [star]
    s2sTunnelMembers := ["hub", "a", "b"].map fun id => ⟨"star", id, [], none, none, 0⟩ }

def starGateway (id : String) : Gateway := ⟨id, id, "", [], decide (id = "hub"), 0⟩

theorem starDb_keyed : starDb.S2SKeyed := ⟨by decide, by decide⟩

/-- One spoke is sent the other as a peer; the topology gives it the hub only. -/
theorem spoke_is_sent_spoke :
    starDb.S2SKeyed ∧ star ∈ starDb.s2sTunnels ∧ star.isActive = true ∧ starDb.s2sRoutes = [] ∧
    Pushed S2SNotifier.quietEnv starDb star "a" ("b", "b", ∅) ∧
    ¬ Computed star.topology (tunnelGateways starDb star) "a" ("b", "b", ∅) := by
  refine ⟨starDb_keyed, .head _, rfl, rfl, ?_, ?_⟩
  · apply (pushed_iff S2SNotifier.quietEnv_reliable (.head _) rfl
      (by intro r hr; cases hr) ?_ _).mpr
    · exact ⟨starGateway "b", by decide, by decide, rfl⟩
    · exact ⟨starGateway "a", by decide, rfl⟩
  · intro hcomputed
    have hnodup := tunnelGateways_nodup starDb_keyed star
    have hhub : starGateway "hub" ∈ ["hub", "a", "b"].map starGateway := .head _
    have hview := (computed_spoke hnodup hhub (by decide) ⟨starGateway "a", by decide, rfl⟩
      (by decide) _).mp hcomputed
    exact absurd (Prod.mk.inj hview).1 (by decide)

theorem hub_is_sent_topology :
    star.hubGatewayId = some "hub" ∧
    ∀ v, Pushed S2SNotifier.quietEnv starDb star "hub" v ↔
      Computed star.topology (tunnelGateways starDb star) "hub" v := by
  have hmember : starGateway "hub" ∈ tunnelGateways starDb star := by
    exact .head _
  refine ⟨rfl, ?_⟩
  exact (pushed_implements_topology_iff S2SNotifier.quietEnv_reliable starDb_keyed
    (.head _) rfl (by intro r hr; cases hr) (List.Perm.refl _)
    (.inr ⟨rfl, starGateway "hub", hmember, rfl⟩) ⟨_, hmember, rfl⟩).mpr (.inr (.inl rfl))

end Outpost.S2STopology
