import Outpost.GatewayFleet

/-!
# Site-to-site configs that are pushed

`NotifyS2SUpdate` sends a gateway all its tunnels, each as an added tunnel;
`NotifyGatewayNetworksChanged` also sends theirs to the gateways that share an active tunnel.
-/

namespace Outpost

open GatewayAgent WireGuard

abbrev Sends := List (Uuid × CoreEvent)

def Sends.sentTo (sends : Sends) (gatewayID : Uuid) : List CoreEvent :=
  sends.filterMap fun send => if send.1 = gatewayID then some send.2 else none

namespace Sends

variable (gatewayID : Uuid)

theorem sentTo_append (sends sends' : Sends) :
    sentTo (sends ++ sends') gatewayID = sentTo sends gatewayID ++ sentTo sends' gatewayID :=
  List.filterMap_append

theorem sentTo_map (target : Uuid) (events : List CoreEvent) :
    sentTo (events.map fun e => (target, e)) gatewayID =
      if target = gatewayID then events else [] := by
  unfold sentTo
  by_cases h : target = gatewayID
  · simp [h]
  · simp [h]

theorem sentTo_flatMap {targets : List Uuid} (nodup : targets.Nodup)
    (events : Uuid → List CoreEvent) :
    sentTo (targets.flatMap fun target => (events target).map fun e => (target, e)) gatewayID =
      if gatewayID ∈ targets then events gatewayID else [] := by
  induction targets with
  | nil => rfl
  | cons target targets ih =>
    obtain ⟨hnew, hrest⟩ := List.nodup_cons.mp nodup
    rw [List.flatMap_cons, sentTo_append, sentTo_map, ih hrest]
    by_cases h : target = gatewayID
    · subst h
      simp [hnew]
    · simp [h, Ne.symm h]

end Sends

namespace Database

variable (db : Database)

def tunnelNeighbours (gatewayID : Uuid) : List Uuid :=
  (db.s2sTunnelMembers.flatMap fun m₁ => db.s2sTunnelMembers.flatMap fun m₂ =>
    db.s2sTunnels.filterMap fun t =>
      if m₂.tunnelId = m₁.tunnelId ∧ t.id = m₁.tunnelId ∧ m₁.gatewayId = gatewayID ∧ t.isActive then
        some m₂.gatewayId
      else none).dedup

end Database

namespace S2SNotifier

structure Env where
  faults : Uuid → SyncFaults := fun _ => {}
  orders : Uuid → SyncOrders := fun _ => .asListed
  neighbourQuery : Bool := false
  neighbourScan : Nat → Bool := fun _ => false
  neighbourRows : RangeOrder Uuid := .asListed

structure Env.Reliable (env : Env) : Prop where
  faults : ∀ gatewayID, env.faults gatewayID = {}
  neighbourQuery : env.neighbourQuery = false
  neighbourScan : env.neighbourScan = fun _ => false

def quietEnv : Env := {}

theorem quietEnv_reliable : quietEnv.Reliable := ⟨fun _ => rfl, rfl, rfl⟩

variable (env : Env) (db : Database)

def buildS2SConfigs (gatewayID : Uuid) : List S2STunnelConfig :=
  fetchS2STunnels (env.faults gatewayID) (env.orders gatewayID) db gatewayID

def tunnelUpdates (gatewayID : Uuid) : List CoreEvent :=
  (buildS2SConfigs env db gatewayID).map fun cfg => .s2sUpdate ⟨.addTunnel, some cfg⟩

def notifyS2SUpdate (gatewayID : Uuid) : Sends :=
  (tunnelUpdates env db gatewayID).map fun e => (gatewayID, e)

def notifyGatewayNetworksChanged (gatewayID : Uuid) : Sends :=
  (match buildFirewallConfigFromPool (env.faults gatewayID).firewall (env.orders gatewayID).firewall
      db gatewayID with
    | none => []
    | some result => [(gatewayID, .firewallUpdate (some result.config))]) ++
  (scanRows env.neighbourQuery env.neighbourScan
    (env.neighbourRows.visit (db.tunnelNeighbours gatewayID))).flatMap (notifyS2SUpdate env db)

section Specs

variable {env} (reliable : env.Reliable)
include reliable

theorem networksChanged_sentTo (changed gatewayID : Uuid) :
    (notifyGatewayNetworksChanged env db changed).sentTo gatewayID =
      (if changed = gatewayID then
        [.firewallUpdate (some ⟨firewallRules noFaults (env.orders changed).firewall db changed,
          true, ""⟩)] else []) ++
      if gatewayID ∈ db.tunnelNeighbours changed then tunnelUpdates env db gatewayID else [] := by
  have hnodup : (env.neighbourRows.visit (db.tunnelNeighbours changed)).Nodup :=
    (env.neighbourRows.perm _).nodup_iff.mpr (List.nodup_dedup _)
  unfold notifyGatewayNetworksChanged
  rw [reliable.faults, reliable.neighbourQuery, reliable.neighbourScan, scanRows_noFaults,
    Sends.sentTo_append]
  congr 1
  · exact Sends.sentTo_map gatewayID changed [_]
  · unfold notifyS2SUpdate
    rw [Sends.sentTo_flatMap gatewayID hnodup]
    simp only [RangeOrder.mem_visit]

end Specs

variable {Key : Type} [DecidableEq Key] {agentEnv : AgentEnv Key}

def keyedPeers (configs : List S2STunnelConfig) : List Peer :=
  configs.flatMap fun t => (t.peers.filter fun p => p.publicKey ≠ "").map S2SPeer.toPeer

theorem handleEvents_addTunnels (configs : List S2STunnelConfig) (iface : Interface Key)
    (fw : Option FirewallManager.Host) :
    handleEvents agentEnv (configs.map fun cfg => .s2sUpdate ⟨.addTunnel, some cfg⟩)
        ⟨some iface, fw⟩ =
      ⟨some ((keyedPeers configs).foldl (addMessagePeer agentEnv.wg) iface), fw⟩ := by
  induction configs generalizing iface with
  | nil => rfl
  | cons cfg configs ih =>
    have hstep : handleEvent agentEnv ⟨some iface, fw⟩ (.s2sUpdate ⟨.addTunnel, some cfg⟩) =
        ⟨some (addS2SPeers agentEnv cfg.peers iface), fw⟩ := rfl
    change handleEvents agentEnv _ (handleEvent agentEnv ⟨some iface, fw⟩ _) = _
    rw [hstep, ih, addS2SPeers_eq]
    unfold keyedPeers
    rw [List.flatMap_cons, List.foldl_append]

theorem fw_tunnelUpdates (env : Env) (db : Database) (gatewayID : Uuid) {a : Agent Key}
    (managed : a.wg.isSome = true) :
    (handleEvents agentEnv (tunnelUpdates env db gatewayID) a).fw = a.fw := by
  obtain ⟨wg, fw⟩ := a
  obtain ⟨iface, rfl⟩ := Option.isSome_iff_exists.mp managed
  unfold tunnelUpdates
  rw [handleEvents_addTunnels]

theorem hasPeer_tunnelUpdates {env : Env} (reliable : env.Reliable) (db : Database)
    (gatewayID : Uuid) {a : Agent Key} (managed : a.wg.isSome = true) (k : Key) :
    HasPeer (handleEvents agentEnv (tunnelUpdates env db gatewayID) a) k ↔
      (∃ pubkey, pubkey ≠ "" ∧ db.S2SKey gatewayID pubkey ∧ agentEnv.wg.parseKey pubkey = some k) ∨
        HasPeer a k := by
  obtain ⟨wg, fw⟩ := a
  obtain ⟨iface, rfl⟩ := Option.isSome_iff_exists.mp managed
  unfold tunnelUpdates buildS2SConfigs
  rw [handleEvents_addTunnels, reliable.faults]
  simp only [HasPeer, Option.some.injEq, exists_eq_left', foldl_isSome]
  apply or_congr_left
  simp only [keyedPeers, List.mem_flatMap, List.mem_map, List.mem_filter, decide_eq_true_eq]
  constructor
  · rintro ⟨_, ⟨t, ht, p, ⟨hp, hne⟩, rfl⟩, hkey⟩
    exact ⟨p.publicKey, hne, (mem_s2sPeers _ db gatewayID _).mp ⟨t, ht, p, hp, rfl⟩, hkey⟩
  · rintro ⟨pubkey, hne, hs2s, hkey⟩
    obtain ⟨t, ht, p, hp, rfl⟩ := (mem_s2sPeers (env.orders gatewayID) db gatewayID pubkey).mpr hs2s
    exact ⟨_, ⟨t, ht, p, ⟨hp, hne⟩, rfl⟩, hkey⟩

end S2SNotifier

end Outpost
