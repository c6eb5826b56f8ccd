import Outpost.S2SNotifier

/-!
# The peers of a site-to-site config

What `buildS2SConfigs` sends a gateway: one peer for every other member of each of its active
tunnels, with the member's subnets and the destinations of the routes via that member.
-/

namespace Outpost

open GatewayAgent WireGuard

namespace Database

variable (db : Database)

structure S2SKeyed : Prop where
  members : (db.s2sTunnelMembers.map fun m => (m.tunnelId, m.gatewayId)).Nodup
  gateways : (db.gateways.map Gateway.id).Nodup

variable {db}

theorem mem_memberQuery {gatewayID tunnelID : Uuid} {p : S2SPeer} :
    p ∈ db.memberQuery gatewayID tunnelID ↔
      ∃ m ∈ db.s2sTunnelMembers, ∃ g ∈ db.gateways, g.id = m.gatewayId ∧ m.tunnelId = tunnelID ∧
        m.gatewayId ≠ gatewayID ∧ ⟨m.gatewayId, m.publicKey.getD g.wireguardPubkey, g.endpoint,
          m.localSubnets.map Cidr.text, 25⟩ = p := by
  simp [memberQuery, and_assoc]

theorem S2SKeyed.join_nodup {β : Type} (keyed : db.S2SKeyed) {tunnelID : Uuid}
    {row : S2STunnelMember → Gateway → Option β} {gatewayID : β → Uuid}
    (hrow : ∀ m g b, row m g = some b →
      g.id = m.gatewayId ∧ m.tunnelId = tunnelID ∧ gatewayID b = m.gatewayId) :
    ((db.s2sTunnelMembers.flatMap fun m => db.gateways.filterMap (row m)).map gatewayID).Nodup := by
  apply List.pairwise_map.mpr
  rw [List.pairwise_flatMap]
  refine ⟨?_, ?_⟩
  · intro m _
    apply List.pairwise_filterMap.mpr
    apply (List.pairwise_map.mp keyed.gateways).imp
    intro g g' hne b hb b' hb'
    exact absurd ((hrow m g b hb).1.trans (hrow m g' b' hb').1.symm) hne
  · apply (List.pairwise_map.mp keyed.members).imp
    intro m m' hne b hb b' hb' heq
    obtain ⟨g, _, hb⟩ := List.mem_filterMap.mp hb
    obtain ⟨g', _, hb'⟩ := List.mem_filterMap.mp hb'
    obtain ⟨_, htunnel, hid⟩ := hrow m g b hb
    obtain ⟨_, htunnel', hid'⟩ := hrow m' g' b' hb'
    exact hne (Prod.ext (htunnel.trans htunnel'.symm) (hid.symm.trans (heq.trans hid')))

theorem S2SKeyed.memberQuery_nodup (keyed : db.S2SKeyed) (gatewayID tunnelID : Uuid) :
    ((db.memberQuery gatewayID tunnelID).map S2SPeer.gatewayId).Nodup := by
  apply keyed.join_nodup
  intro m g p hp
  obtain ⟨⟨hid, htunnel, _⟩, hp⟩ := Option.ite_none_right_eq_some.mp hp
  obtain rfl := Option.some.inj hp
  exact ⟨hid, htunnel, rfl⟩

end Database

namespace S2SPeers

def withRoutes (routes : List S2SRoute) (p : S2SPeer) : S2SPeer :=
  { p with allowedIps := p.allowedIps ++
      (routes.filter fun r => r.viaGateway = p.gatewayId).map fun r => r.destination.text }

variable {peers : List S2SPeer}

theorem addRoute_eq_map (nodup : (peers.map S2SPeer.gatewayId).Nodup) (r : S2SRoute) :
    addRoute peers r = peers.map (withRoutes [r]) := by
  induction peers with
  | nil => rfl
  | cons p peers ih =>
    obtain ⟨hnew, hrest⟩ := List.nodup_cons.mp nodup
    unfold addRoute
    by_cases hp : p.gatewayId = r.viaGateway
    · have hothers : peers.map (withRoutes [r]) = peers := by
        refine (List.map_congr_left ?_).trans (List.map_id _)
        intro q hq
        have hne : r.viaGateway ≠ q.gatewayId :=
          fun heq => hnew (List.mem_map.mpr ⟨q, hq, (hp.trans heq).symm⟩)
        simp [withRoutes, hne]
      rw [List.map_cons, hothers]
      simp [withRoutes, hp]
    · rw [if_neg hp, ih hrest]
      simp [withRoutes, Ne.symm hp]

theorem foldl_addRoute (nodup : (peers.map S2SPeer.gatewayId).Nodup) (routes : List S2SRoute) :
    routes.foldl addRoute peers = peers.map (withRoutes routes) := by
  induction routes generalizing peers with
  | nil =>
    refine ((List.map_congr_left ?_).trans (List.map_id _)).symm
    simp [withRoutes]
  | cons r routes ih =>
    have hids : ((peers.map (withRoutes [r])).map S2SPeer.gatewayId) = peers.map S2SPeer.gatewayId := by
      rw [List.map_map]
      rfl
    rw [List.foldl_cons, addRoute_eq_map nodup, ih (by rw [hids]; exact nodup), List.map_map]
    apply List.map_congr_left
    intro p _
    by_cases hp : r.viaGateway = p.gatewayId
    · simp [withRoutes, hp]
    · simp [withRoutes, hp]

theorem allowedNets_perm {xs ys : List String} (h : xs.Perm ys) : allowedNets xs = allowedNets ys :=
  List.toFinset_eq_of_perm _ _ (h.filterMap _)

end S2SPeers

namespace Database

variable (db : Database)

def memberNets (tunnelID : Uuid) (m : S2STunnelMember) : Finset Cidr :=
  allowedNets (m.localSubnets.map Cidr.text ++
    ((db.routeQuery tunnelID).filter fun r => r.viaGateway = m.gatewayId).map
      fun r => r.destination.text)

def MemberOf (tunnelID gatewayID : Uuid) : Prop :=
  ∃ m ∈ db.s2sTunnelMembers, m.tunnelId = tunnelID ∧ m.gatewayId = gatewayID

def TunnelPeer {Key : Type} (env : WireGuard.Env Key) (gatewayID : Uuid) (k : Key)
    (nets : Finset Cidr) : Prop :=
  ∃ t ∈ db.s2sTunnels, t.isActive = true ∧ db.MemberOf t.id gatewayID ∧
    ∃ m ∈ db.s2sTunnelMembers, ∃ g ∈ db.gateways, m.tunnelId = t.id ∧ m.gatewayId ≠ gatewayID ∧
      g.id = m.gatewayId ∧ m.publicKey.getD g.wireguardPubkey ≠ "" ∧
      env.parseKey (m.publicKey.getD g.wireguardPubkey) = some k ∧ db.memberNets t.id m = nets

end Database

namespace S2SPeers

variable {Key : Type} {env : WireGuard.Env Key} {db : Database}

def sortedRoutes (orders : SyncOrders) (db : Database) (tunnelID : Uuid) : List S2SRoute :=
  ((orders.routeRows tunnelID).visit (db.routeQuery tunnelID)).mergeSort fun r s => r.metric ≤ s.metric

theorem tunnelPeers_eq (keyed : db.S2SKeyed) (orders : SyncOrders) (gatewayID tunnelID : Uuid) :
    tunnelPeers {} orders db gatewayID tunnelID =
      ((orders.memberRows tunnelID).visit (db.memberQuery gatewayID tunnelID)).map
        (withRoutes (sortedRoutes orders db tunnelID)) := by
  unfold tunnelPeers
  simp only [scanRows_noFaults]
  apply foldl_addRoute
  exact (((orders.memberRows tunnelID).perm _).map _).nodup_iff.mpr
    (keyed.memberQuery_nodup gatewayID tunnelID)

theorem allowedNets_sortedRoutes (orders : SyncOrders) (db : Database) (tunnelID : Uuid)
    (m : S2STunnelMember) :
    allowedNets (m.localSubnets.map Cidr.text ++
      ((sortedRoutes orders db tunnelID).filter fun r => r.viaGateway = m.gatewayId).map
        fun r => r.destination.text) = db.memberNets tunnelID m := by
  have hperm : (sortedRoutes orders db tunnelID).Perm (db.routeQuery tunnelID) :=
    (List.mergeSort_perm _ _).trans ((orders.routeRows tunnelID).perm _)
  exact allowedNets_perm (((hperm.filter _).map _).append_left _)

theorem asked_iff (keyed : db.S2SKeyed) (orders : SyncOrders) (gatewayID : Uuid) (k : Key)
    (nets : Finset Cidr) :
    Asked env (S2SNotifier.keyedPeers (fetchS2STunnels {} orders db gatewayID)) k nets ↔
      db.TunnelPeer env gatewayID k nets := by
  have hconfigs : ∀ cfg, cfg ∈ fetchS2STunnels {} orders db gatewayID ↔
      ∃ row ∈ db.tunnelQuery gatewayID, ⟨row.1.id, "wg-s2s-" ++ row.1.name, row.2.privateKey.getD "",
        row.2.listenPort, tunnelPeers {} orders db gatewayID row.1.id⟩ = cfg := by
    unfold fetchS2STunnels
    rw [scanRows_noFaults]
    simp
  simp only [Asked, S2SNotifier.keyedPeers, List.mem_flatMap, List.mem_map, List.mem_filter,
    decide_eq_true_eq, hconfigs]
  constructor
  · rintro ⟨_, ⟨cfg, ⟨row, hrow, rfl⟩, p, ⟨hp, hne⟩, rfl⟩, hkey, hasked⟩
    obtain ⟨t, ht, hrow⟩ := List.mem_flatMap.mp hrow
    obtain ⟨m₀, hm₀, hrow⟩ := List.mem_filterMap.mp hrow
    obtain ⟨⟨htunnel, hself, hactive⟩, hrow⟩ := Option.ite_none_right_eq_some.mp hrow
    obtain rfl := Option.some.inj hrow
    rw [tunnelPeers_eq keyed] at hp
    obtain ⟨q, hq, rfl⟩ := List.mem_map.mp hp
    rw [RangeOrder.mem_visit, Database.mem_memberQuery] at hq
    obtain ⟨m, hm, g, hg, hid, htunnel', hother, rfl⟩ := hq
    exact ⟨t, ht, hactive, ⟨m₀, hm₀, htunnel, hself⟩, m, hm, g, hg, htunnel', hother, hid, hne, hkey,
      (allowedNets_sortedRoutes orders db t.id m).symm.trans hasked⟩
  · rintro ⟨t, ht, hactive, ⟨m₀, hm₀, htunnel, hself⟩, m, hm, g, hg, htunnel', hother, hid, hne, hkey,
      hasked⟩
    have hrow : (t, m₀) ∈ db.tunnelQuery gatewayID :=
      List.mem_flatMap.mpr ⟨t, ht, List.mem_filterMap.mpr
        ⟨m₀, hm₀, if_pos ⟨htunnel, hself, hactive⟩⟩⟩
    let p : S2SPeer := ⟨m.gatewayId, m.publicKey.getD g.wireguardPubkey, g.endpoint,
      m.localSubnets.map Cidr.text, 25⟩
    have hp : p ∈ db.memberQuery gatewayID t.id :=
      Database.mem_memberQuery.mpr ⟨m, hm, g, hg, hid, htunnel', hother, rfl⟩
    have hsent : withRoutes (sortedRoutes orders db t.id) p ∈
        tunnelPeers {} orders db gatewayID t.id := by
      rw [tunnelPeers_eq keyed]
      exact List.mem_map.mpr ⟨p, (RangeOrder.mem_visit _ _ _).mpr hp, rfl⟩
    exact ⟨S2SPeer.toPeer (withRoutes (sortedRoutes orders db t.id) p),
      ⟨_, ⟨_, hrow, rfl⟩, _, ⟨hsent, hne⟩, rfl⟩, hkey,
      (allowedNets_sortedRoutes orders db t.id m).trans hasked⟩

end S2SPeers

end Outpost
