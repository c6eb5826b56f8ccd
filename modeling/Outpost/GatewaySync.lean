import Outpost.Enforcement
import Outpost.GatewayAgent

/-!
# The opening of a sync stream

What core reads and sends when a gateway opens its stream: the device peers, the
S2S tunnels, the firewall config and the smart routes. `SyncFaults` says which
queries fail; rows without a total `ORDER BY` come in any order.
-/

namespace Outpost

structure SyncFaults where
  peerQuery : Bool := false
  peerScan : Bool := false
  tunnelQuery : Bool := false
  tunnelScan : Nat → Bool := fun _ => false
  memberQuery : Uuid → Bool := fun _ => false
  memberScan : Uuid → Nat → Bool := fun _ _ => false
  routeQuery : Uuid → Bool := fun _ => false
  routeScan : Uuid → Nat → Bool := fun _ _ => false
  firewall : QueryFaults := noFaults
  smartQuery : Bool := false
  smartScan : Nat → Bool := fun _ => false

structure SyncOrders where
  peerRows : RangeOrder (String × String)
  tunnelRows : RangeOrder (S2STunnel × S2STunnelMember)
  memberRows : Uuid → RangeOrder S2SPeer
  routeRows : Uuid → RangeOrder S2SRoute
  firewall : Orders
  smartRows : RangeOrder SmartRouteRule

def SyncOrders.asListed : SyncOrders :=
  ⟨.asListed, .asListed, fun _ => .asListed, fun _ => .asListed, .asListed, .asListed⟩

def SmartRouteEntry.toRule (e : SmartRouteEntry) : SmartRouteRule :=
  ⟨e.entryType, e.value, e.action, e.priority⟩

namespace Database

variable (db : Database) (gatewayID : Uuid)

/-- The join of `deviceQuery` with the columns that `fetchPeers` selects. -/
def peerQuery : List (String × String) :=
  (db.deviceQuery gatewayID).map fun row => (row.2, row.1 ++ "/32")

def tunnelQuery : List (S2STunnel × S2STunnelMember) :=
  db.s2sTunnels.flatMap fun t => db.s2sTunnelMembers.filterMap fun m =>
    if m.tunnelId = t.id ∧ m.gatewayId = gatewayID ∧ t.isActive then some (t, m) else none

def memberQuery (tunnelID : Uuid) : List S2SPeer :=
  db.s2sTunnelMembers.flatMap fun m => db.gateways.filterMap fun g =>
    if g.id = m.gatewayId ∧ m.tunnelId = tunnelID ∧ m.gatewayId ≠ gatewayID then
      some ⟨m.gatewayId, m.publicKey.getD g.wireguardPubkey, g.endpoint,
        m.localSubnets.map Cidr.text, 25⟩
    else none

def routeQuery (tunnelID : Uuid) : List S2SRoute :=
  db.s2sRoutes.filter fun r => r.tunnelId = tunnelID ∧ r.isActive

def smartQuery : List SmartRouteRule :=
  ((db.smartRouteEntries.flatMap fun e => db.smartRoutes.flatMap fun sr =>
    db.networkSmartRoutes.flatMap fun nsr => db.gatewayNetworks.filterMap fun gn =>
      if sr.id = e.smartRouteId ∧ sr.isActive ∧ nsr.smartRouteId = sr.id ∧
          gn.networkId = nsr.networkId ∧ gn.gatewayId = gatewayID then
        some (SmartRouteEntry.toRule e)
      else none) ++
   (db.smartRouteEntries.flatMap fun e => db.smartRoutes.flatMap fun sr =>
    db.networkSmartRoutes.flatMap fun nsr => db.gateways.filterMap fun g =>
      if sr.id = e.smartRouteId ∧ sr.isActive ∧ nsr.smartRouteId = sr.id ∧
          g.networkId = some nsr.networkId ∧ g.id = gatewayID then
        some (SmartRouteEntry.toRule e)
      else none)).dedup

end Database

section Fetch

variable (faults : SyncFaults) (orders : SyncOrders) (db : Database) (gatewayID : Uuid)

def fetchPeers : Option (List Peer) :=
  if faults.peerQuery ∨ faults.peerScan then none
  else some ((orders.peerRows.visit (db.peerQuery gatewayID)).map fun row =>
    ⟨row.1, [row.2], "", 25⟩)

def addRoute : List S2SPeer → S2SRoute → List S2SPeer
  | [], _ => []
  | p :: peers, r =>
    if p.gatewayId = r.viaGateway then
      { p with allowedIps := p.allowedIps ++ [r.destination.text] } :: peers
    else p :: addRoute peers r

def tunnelPeers (tunnelID : Uuid) : List S2SPeer :=
  let peers := scanRows false (faults.memberScan tunnelID)
    ((orders.memberRows tunnelID).visit (db.memberQuery gatewayID tunnelID))
  let routes := scanRows (faults.routeQuery tunnelID) (faults.routeScan tunnelID)
    (((orders.routeRows tunnelID).visit (db.routeQuery tunnelID)).mergeSort
      fun r s => r.metric ≤ s.metric)
  routes.foldl addRoute peers

def fetchS2STunnels : List S2STunnelConfig :=
  (scanRows faults.tunnelQuery faults.tunnelScan
    (orders.tunnelRows.visit (db.tunnelQuery gatewayID))).filterMap fun row =>
      -- a tunnel whose member query fails is skipped
      if faults.memberQuery row.1.id then none
      else some ⟨row.1.id, "wg-s2s-" ++ row.1.name, row.2.privateKey.getD "", row.2.listenPort,
        tunnelPeers faults orders db gatewayID row.1.id⟩

def buildFirewallConfig : Option FirewallConfig :=
  (buildFirewallConfigFromPool faults.firewall orders.firewall db gatewayID).map
    FirewallResult.config

def fetchSmartRoutesForGateway : Option SmartRouteConfig :=
  let rules := scanRows faults.smartQuery faults.smartScan
    ((orders.smartRows.visit (db.smartQuery gatewayID)).mergeSort fun r s => r.priority ≤ s.priority)
  if rules = [] then none else some ⟨rules⟩

def syncOpening : Option GatewayConfig :=
  let peers := fetchPeers faults orders db gatewayID
  let s2sTunnels := fetchS2STunnels faults orders db gatewayID
  let fwConfig := buildFirewallConfig faults orders db gatewayID
  let smartRoutes := fetchSmartRoutesForGateway faults orders db gatewayID
  match peers with
  | none => none
  | some peers =>
    if peers ≠ [] ∨ s2sTunnels ≠ [] ∨ fwConfig.isSome then
      some ⟨peers, fwConfig, s2sTunnels, smartRoutes⟩
    else none

/-- The answer to `GetConfig`; a failed peer query only leaves the peers out. -/
def getConfig : GatewayConfig :=
  ⟨(fetchPeers faults orders db gatewayID).getD [], buildFirewallConfig faults orders db gatewayID,
    fetchS2STunnels faults orders db gatewayID, fetchSmartRoutesForGateway faults orders db gatewayID⟩

end Fetch

theorem syncOpening_isSome {faults : SyncFaults} {orders : SyncOrders} {db : Database}
    {gatewayID : Uuid} {peers : List Peer}
    (hpeers : fetchPeers faults orders db gatewayID = some peers) :
    (syncOpening faults orders db gatewayID).isSome = true ↔
      peers ≠ [] ∨ fetchS2STunnels faults orders db gatewayID ≠ [] ∨
        faults.firewall.aclQuery = false := by
  have hfw : (buildFirewallConfig faults orders db gatewayID).isSome = true ↔
      faults.firewall.aclQuery = false := by
    unfold buildFirewallConfig buildFirewallConfigFromPool
    cases faults.firewall.aclQuery <;> simp
  unfold syncOpening
  rw [hpeers]
  dsimp only
  split
  · rename_i hcond
    rw [hfw] at hcond
    simp [hcond]
  · rename_i hcond
    rw [hfw] at hcond
    simp [hcond]

section Peers

variable (orders : SyncOrders) (db : Database) (gatewayID : Uuid)

def devicePeers : List Peer :=
  (orders.peerRows.visit (db.peerQuery gatewayID)).map fun row => ⟨row.1, [row.2], "", 25⟩

theorem fetchPeers_noFaults : fetchPeers {} orders db gatewayID = some (devicePeers orders db gatewayID) :=
  rfl

def Device.toPeer (d : Device) : Peer :=
  ⟨d.wireguardPubkey, [host d.assignedIp ++ "/32"], "", 25⟩

theorem mem_devicePeers (p : Peer) :
    p ∈ devicePeers orders db gatewayID ↔ ∃ d, db.Listed gatewayID d ∧ p = d.toPeer := by
  simp only [devicePeers, List.mem_map, RangeOrder.mem_visit, Database.peerQuery, Prod.exists,
    Prod.mk.injEq]
  constructor
  · rintro ⟨pubkey, cidr, ⟨ip, key, hrow, rfl, rfl⟩, rfl⟩
    obtain ⟨d, hl, rfl, rfl⟩ := (db.mem_deviceQuery gatewayID ip key).mp hrow
    exact ⟨d, hl, rfl⟩
  · rintro ⟨d, hl, rfl⟩
    exact ⟨_, _, ⟨_, _, (db.mem_deviceQuery gatewayID _ _).mpr ⟨d, hl, rfl, rfl⟩, rfl, rfl⟩, rfl⟩

theorem publicKeys_addRoute (peers : List S2SPeer) (r : S2SRoute) :
    (addRoute peers r).map S2SPeer.publicKey = peers.map S2SPeer.publicKey := by
  induction peers with
  | nil => rfl
  | cons p peers ih =>
    unfold addRoute
    split
    · rfl
    · rw [List.map_cons, List.map_cons, ih]

theorem publicKeys_tunnelPeers (tunnelID : Uuid) :
    (tunnelPeers {} orders db gatewayID tunnelID).map S2SPeer.publicKey =
      ((orders.memberRows tunnelID).visit (db.memberQuery gatewayID tunnelID)).map
        S2SPeer.publicKey := by
  have hroutes : ∀ (routes : List S2SRoute) (peers : List S2SPeer),
      (routes.foldl addRoute peers).map S2SPeer.publicKey = peers.map S2SPeer.publicKey := by
    intro routes
    induction routes with
    | nil =>
      intro peers
      rfl
    | cons r routes ih =>
      intro peers
      rw [List.foldl_cons, ih, publicKeys_addRoute]
  unfold tunnelPeers
  rw [hroutes, scanRows_noFaults]

def Database.S2SKey (pubkey : String) : Prop :=
  ∃ row ∈ db.tunnelQuery gatewayID, ∃ m ∈ db.memberQuery gatewayID row.1.id, m.publicKey = pubkey

theorem mem_s2sPeers (pubkey : String) :
    (∃ t ∈ fetchS2STunnels {} orders db gatewayID, ∃ p ∈ t.peers, p.publicKey = pubkey) ↔
      db.S2SKey gatewayID pubkey := by
  have hkeys : ∀ tunnelID, (∃ p ∈ tunnelPeers {} orders db gatewayID tunnelID, p.publicKey = pubkey) ↔
      ∃ m ∈ db.memberQuery gatewayID tunnelID, m.publicKey = pubkey := by
    intro tunnelID
    rw [← List.mem_map, publicKeys_tunnelPeers]
    simp
  have htunnels : ∀ t, t ∈ fetchS2STunnels {} orders db gatewayID ↔
      ∃ row ∈ db.tunnelQuery gatewayID, t = ⟨row.1.id, "wg-s2s-" ++ row.1.name,
        row.2.privateKey.getD "", row.2.listenPort, tunnelPeers {} orders db gatewayID row.1.id⟩ := by
    intro t
    unfold fetchS2STunnels
    rw [scanRows_noFaults]
    simp [eq_comm]
  constructor
  · rintro ⟨t, ht, hp⟩
    obtain ⟨row, hrow, rfl⟩ := (htunnels t).mp ht
    exact ⟨row, hrow, (hkeys row.1.id).mp hp⟩
  · rintro ⟨row, hrow, hm⟩
    exact ⟨_, (htunnels _).mpr ⟨row, hrow, rfl⟩, (hkeys row.1.id).mpr hm⟩

theorem syncOpening_noFaults :
    syncOpening {} orders db gatewayID = some ⟨devicePeers orders db gatewayID,
      buildFirewallConfig {} orders db gatewayID, fetchS2STunnels {} orders db gatewayID,
      fetchSmartRoutesForGateway {} orders db gatewayID⟩ := by
  exact if_pos (.inr (.inr rfl))

end Peers

open GatewayAgent FirewallManager Iptables WireGuard

/-- On a machine that started without a smart chain, a full resync leaves both chains as its configs
would install them if and only if `OUTPOST-FWD` is that way already (or the message has no firewall
config), and the message has smart routes for a machine with WireGuard or `OUTPOST-SMART` is that
way already. Core sends the message if and only if there are peers or tunnels or the firewall query
succeeded. -/
theorem resync_restores_chains_iff {Key : Type} [DecidableEq Key] {env : AgentEnv Key}
    (reliable : env.fw.Reliable) {h₀ : Host} {fwd : List Rule}
    (hf : chain h₀ "FORWARD" = some fwd)
    (hrefs : ∀ c rules, chain h₀ c = some rules → ∀ r ∈ rules, r.target ≠ some (.jump smartChain))
    (wg : Option (Interface Key)) (initial : GatewayConfig) (events : List CoreEvent)
    (cfg : GatewayConfig) :
    (∃ (a : Agent Key) (h h' : Host), handleEvents env events (startAgent env wg initial h₀) = a ∧
      a.fw = some h ∧ (handleFullResync env cfg a).fw = some h' ∧
      ((chain h' outpostChain = chain (FirewallManager.apply env.fw cfg.firewall h).2 outpostChain ∧
        chain h' smartChain = chain (applySmartRoutes env.fw cfg.smartRoutes h).2 smartChain) ↔
      ((∀ config, cfg.firewall = some config →
          chain h outpostChain = some (forwardRules config)) ∧
        ((a.wg.isSome ∧ cfg.smartRoutes.isSome) ∨
          chain h smartChain = smartRules cfg.smartRoutes)))) ∧
    ∀ (faults : SyncFaults) (orders : SyncOrders) (db : Database) (gatewayID : Uuid)
      (peers : List Peer), fetchPeers faults orders db gatewayID = some peers →
      ((syncOpening faults orders db gatewayID).isSome = true ↔
        peers ≠ [] ∨ fetchS2STunnels faults orders db gatewayID ≠ [] ∨
          faults.firewall.aclQuery = false) := by
  refine ⟨?_, fun faults orders db gatewayID peers hpeers => syncOpening_isSome hpeers⟩
  have hstart := wired_startAgent reliable wg initial hf hrefs
  obtain ⟨h, hfw, wired⟩ := wired_handleEvents reliable hstart events
  cases hagent : handleEvents env events (startAgent env wg initial h₀) with
  | mk wg' fw' =>
    rw [hagent] at hfw
    obtain rfl : fw' = some h := hfw
    obtain ⟨h', hres, hsame, hsmart⟩ := resync_chains reliable wg' wired cfg
    refine ⟨_, h, h', rfl, rfl, hres, ?_⟩
    have hforward : (chain h' outpostChain =
        chain (FirewallManager.apply env.fw cfg.firewall h).2 outpostChain) ↔
        ∀ config, cfg.firewall = some config →
          chain h outpostChain = some (forwardRules config) := by
      rw [hsame]
      cases cfg.firewall with
      | none => simp [FirewallManager.apply]
      | some config =>
        rw [(apply_forwardRules reliable wired config).1]
        simp
    rw [hforward, (applySmartRoutes_smartRules reliable wired cfg.smartRoutes).1, hsmart]
    by_cases happlied : wg'.isSome ∧ cfg.smartRoutes.isSome
    · simp [happlied]
    · simp [happlied]

def bareHost : Host := ⟨⟨(∅ : Table).insert "FORWARD" [], ∅⟩, [], 0⟩

theorem bareHost_rules {c : String} {rules : List Rule} (hc : chain bareHost c = some rules) :
    rules = [] := by
  have hlookup : ((∅ : Table).insert "FORWARD" []).lookup c = some rules := hc
  by_cases hfw : c = "FORWARD"
  · subst hfw
    exact (Option.some.inj hlookup).symm
  · rw [AList.lookup_insert_ne hfw] at hlookup
    cases hlookup

theorem bareHost_refs : ∀ c rules, chain bareHost c = some rules → ∀ r ∈ rules,
    r.target ≠ some (.jump smartChain) := by
  intro c rules hc r hr
  obtain rfl := bareHost_rules hc
  cases hr

theorem textKeys_reliable : textKeys.fw.Reliable := fun _ => rfl

def emptyConfig : GatewayConfig := ⟨[], none, [], none⟩

def returnConfig : GatewayConfig := ⟨[], some ⟨[dropFrom "10.0.0.2"], true, ""⟩, [], none⟩

def blockRoute : CoreEvent := .smartRouteUpdate (some ⟨[⟨"cidr", "10.9.0.0/16", "block", 1⟩]⟩)

theorem resync_leaves_old_chains :
    (∃ (a : Agent String) (h h' : Host),
      handleEvents textKeys [blockRoute]
        (startAgent textKeys (some fun _ => none) emptyConfig bareHost) = a ∧
      a.fw = some h ∧ (handleFullResync textKeys returnConfig a).fw = some h' ∧
      chain h' outpostChain ≠
        chain (FirewallManager.apply textKeys.fw returnConfig.firewall h).2 outpostChain ∧
      chain h' smartChain ≠
        chain (applySmartRoutes textKeys.fw returnConfig.smartRoutes h).2 smartChain) ∧
    ∃ (faults : SyncFaults), fetchPeers faults .asListed Database.empty "gw" = some [] ∧
      syncOpening faults .asListed Database.empty "gw" = none := by
  refine ⟨⟨_, _, _, rfl, rfl, rfl, by decide, by decide⟩, ?_⟩
  exact ⟨{ firewall := { aclQuery := true } }, rfl, by decide⟩

theorem resync_restores_chains_smart :
    ∃ (a : Agent String) (h h' : Host),
      handleEvents textKeys [] (startAgent textKeys (some fun _ => none) emptyConfig bareHost) = a ∧
      a.fw = some h ∧
      (handleFullResync textKeys ⟨[], none, [], some ⟨[⟨"cidr", "10.9.0.0/16", "block", 1⟩]⟩⟩ a).fw =
        some h' ∧
      chain h' smartChain = chain (applySmartRoutes textKeys.fw
        (some ⟨[⟨"cidr", "10.9.0.0/16", "block", 1⟩]⟩) h).2 smartChain := by
  have hforward : chain bareHost "FORWARD" = some [] := rfl
  obtain ⟨⟨a, h, h', hagent, hfw, hres, hiff⟩, _⟩ :=
    resync_restores_chains_iff textKeys_reliable hforward bareHost_refs
      (some fun _ => none) emptyConfig [] ⟨[], none, [], some ⟨[⟨"cidr", "10.9.0.0/16", "block", 1⟩]⟩⟩
  refine ⟨a, h, h', hagent, hfw, hres, (hiff.mpr ⟨?_, .inl ⟨?_, rfl⟩⟩).2⟩
  · intro config hc
    cases hc
  · rw [← hagent]
    rfl

end Outpost
