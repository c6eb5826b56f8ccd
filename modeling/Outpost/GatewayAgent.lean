import Outpost.SmartRoutes
import Outpost.WireGuard

/-!
# The gateway agent

The handlers of the events that core sends on the sync stream. Either manager may
be missing on a machine: `wg` and `fw` are then `none` and the handlers return
early where the source does.
-/

namespace Outpost.GatewayAgent

open WireGuard FirewallManager Iptables

variable {Key : Type} [DecidableEq Key]

structure AgentEnv (Key : Type) where
  wg : WireGuard.Env Key
  fw : FirewallManager.Env

structure Agent (Key : Type) where
  wg : Option (Interface Key)
  fw : Option Host

def handlePeerUpdate (env : AgentEnv Key) (update : PeerUpdate) (a : Agent Key) : Agent Key :=
  match a.wg with
  | none => a
  | some iface =>
    match update.action with
    | .add | .modify => { a with wg := some (addMessagePeer env.wg iface update.peer) }
    | .remove => { a with wg := some (removePeer env.wg update.peer.publicKey iface).2 }
    | .unspecified => a

def S2SPeer.toPeer (p : S2SPeer) : Peer :=
  ⟨p.publicKey, p.allowedIps, p.endpoint, p.persistentKeepalive⟩

def addS2SPeers (env : AgentEnv Key) (peers : List S2SPeer) (iface : Interface Key) : Interface Key :=
  peers.foldl (fun iface p =>
    if p.publicKey = "" then iface else addMessagePeer env.wg iface (S2SPeer.toPeer p)) iface

def removeS2SPeers (env : AgentEnv Key) (peers : List S2SPeer) (iface : Interface Key) :
    Interface Key :=
  peers.foldl (fun iface p =>
    if p.publicKey = "" then iface else (removePeer env.wg p.publicKey iface).2) iface

def handleS2SUpdate (env : AgentEnv Key) (update : S2SUpdate) (a : Agent Key) : Agent Key :=
  match update.tunnel, a.wg with
  | some tunnel, some iface =>
    match update.action with
    | .addTunnel | .updateRoutes | .updatePeers =>
      { a with wg := some (addS2SPeers env tunnel.peers iface) }
    | .removeTunnel => { a with wg := some (removeS2SPeers env tunnel.peers iface) }
    | .unspecified => a
  | _, _ => a

def handleFirewallUpdate (env : AgentEnv Key) (config : Option FirewallConfig) (a : Agent Key) :
    Agent Key :=
  { a with fw := a.fw.map fun h => (FirewallManager.apply env.fw config h).2 }

def handleSmartRouteUpdate (env : AgentEnv Key) (config : Option SmartRouteConfig) (a : Agent Key) :
    Agent Key :=
  { a with fw := a.fw.map fun h => (applySmartRoutes env.fw config h).2 }

/-- Peers are added, none is removed, and the firewall config of the message is not read. -/
def handleFullResync (env : AgentEnv Key) (cfg : GatewayConfig) (a : Agent Key) : Agent Key :=
  match a.wg with
  | none => a
  | some iface =>
    let iface := cfg.peers.foldl (addMessagePeer env.wg) iface
    let iface := cfg.s2sTunnels.foldl (fun iface t => addS2SPeers env t.peers iface) iface
    let fw := match a.fw, cfg.smartRoutes with
      | some h, some config => some (applySmartRoutes env.fw (some config) h).2
      | fw, _ => fw
    { wg := some iface, fw := fw }

/-- The start of `Run`. -/
def startAgent (env : AgentEnv Key) (wg : Option (Interface Key)) (cfg : GatewayConfig) (h : Host) :
    Agent Key where
  wg := wg.map fun iface => cfg.peers.foldl (addMessagePeer env.wg) iface
  fw := match init env.fw h with
    | (some _, _) => none
    | (none, h) =>
      let h := match cfg.firewall with
        | none => h
        | some config => (FirewallManager.apply env.fw (some config) h).2
      match cfg.smartRoutes with
      | none => some h
      | some config => some (applySmartRoutes env.fw (some config) h).2

def handleEvent (env : AgentEnv Key) (a : Agent Key) : CoreEvent → Agent Key
  | .peerUpdate update => handlePeerUpdate env update a
  | .s2sUpdate update => handleS2SUpdate env update a
  | .firewallUpdate config => handleFirewallUpdate env config a
  | .smartRouteUpdate config => handleSmartRouteUpdate env config a
  | .fullResync cfg => handleFullResync env cfg a

def handleEvents (env : AgentEnv Key) (events : List CoreEvent) (a : Agent Key) : Agent Key :=
  events.foldl (handleEvent env) a

def resyncPeers (cfg : GatewayConfig) : List Peer :=
  cfg.peers ++ cfg.s2sTunnels.flatMap fun t =>
    (t.peers.filter fun p => p.publicKey ≠ "").map S2SPeer.toPeer

theorem addS2SPeers_eq (env : AgentEnv Key) (peers : List S2SPeer) (iface : Interface Key) :
    addS2SPeers env peers iface =
      ((peers.filter fun p => p.publicKey ≠ "").map S2SPeer.toPeer).foldl
        (addMessagePeer env.wg) iface := by
  unfold addS2SPeers
  induction peers generalizing iface with
  | nil => rfl
  | cons p peers ih =>
    rw [List.foldl_cons, ih]
    by_cases hp : p.publicKey = ""
    · rw [if_pos hp, List.filter_cons_of_neg (by simpa using hp)]
    · rw [if_neg hp, List.filter_cons_of_pos (by simpa using hp), List.map_cons, List.foldl_cons]

theorem resync_wg (env : AgentEnv Key) (cfg : GatewayConfig) (iface : Interface Key)
    (fw : Option Host) :
    (handleFullResync env cfg ⟨some iface, fw⟩).wg =
      some ((resyncPeers cfg).foldl (addMessagePeer env.wg) iface) := by
  have htunnels : ∀ (ts : List S2STunnelConfig) (iface : Interface Key),
      ts.foldl (fun iface t => addS2SPeers env t.peers iface) iface =
        (ts.flatMap fun t => (t.peers.filter fun p => p.publicKey ≠ "").map S2SPeer.toPeer).foldl
          (addMessagePeer env.wg) iface := by
    intro ts
    induction ts with
    | nil =>
      intro iface
      rfl
    | cons t ts ih =>
      intro iface
      rw [List.foldl_cons, ih, addS2SPeers_eq, List.flatMap_cons, List.foldl_append]
  unfold handleFullResync resyncPeers
  dsimp only
  rw [List.foldl_append, htunnels]

/-- A full resync leaves exactly the peers of the config if and only if the interface had no other
peer. -/
theorem resync_peers_exact_iff {env : AgentEnv Key} {cfg : GatewayConfig}
    (wf : WellFormed env.wg (resyncPeers cfg)) (iface : Interface Key) (fw : Option Host) :
    (∃ result, (handleFullResync env cfg ⟨some iface, fw⟩).wg = some result ∧
      ∀ k, (result k).map WgPeer.allowedIps = wantedNets env.wg (resyncPeers cfg) k) ↔
    ∀ k, (iface k).isSome = true →
      ∃ p ∈ resyncPeers cfg, env.wg.parseKey p.publicKey = some k := by
  rw [← foldl_exact_iff wf iface, resync_wg]
  constructor
  · rintro ⟨result, heq, hexact⟩
    obtain rfl := Option.some.inj heq
    exact hexact
  · intro hexact
    exact ⟨_, rfl, hexact⟩

def textKeys : AgentEnv String where
  wg := ⟨fun s => if s = "" then none else some s, fun s => some s⟩
  fw := ⟨fun _ => false, none⟩

def freshAgent : Agent String := ⟨some fun _ => none, none⟩

def configWith (peers : List Peer) : GatewayConfig := ⟨peers, none, [], none⟩

/-- The gateway misses the removal of a device; the next full resync keeps it. -/
theorem resync_keeps_stale_peer :
    ∃ (events : List CoreEvent) (cfg : GatewayConfig) (result : Interface String) (k : String),
      WellFormed textKeys.wg (resyncPeers cfg) ∧
      (handleFullResync textKeys cfg (handleEvents textKeys events freshAgent)).wg = some result ∧
      (result k).map WgPeer.allowedIps ≠ wantedNets textKeys.wg (resyncPeers cfg) k := by
  refine ⟨[.peerUpdate ⟨.add, ⟨"key", ["10.0.0.2/32"], "", 25⟩⟩], configWith [], _, "key",
    ⟨by simp [resyncPeers, configWith], List.Pairwise.nil, List.Pairwise.nil⟩, rfl, ?_⟩
  intro h
  exact absurd (congrArg Option.isSome h) (by decide)

theorem resync_peers_exact_fresh :
    ∃ result, (handleFullResync textKeys (configWith [⟨"key", ["10.0.0.2/32"], "", 25⟩])
        freshAgent).wg = some result ∧
      ∀ k, (result k).map WgPeer.allowedIps =
        wantedNets textKeys.wg [⟨"key", ["10.0.0.2/32"], "", 25⟩] k := by
  have wf : WellFormed textKeys.wg
      (resyncPeers (configWith [⟨"key", ["10.0.0.2/32"], "", 25⟩])) := by
    refine ⟨?_, List.pairwise_singleton _ _, List.pairwise_singleton _ _⟩
    intro p hp
    obtain rfl := List.mem_singleton.mp hp
    exact ⟨"key", rfl⟩
  apply (resync_peers_exact_iff wf (fun _ => none) none).mpr
  intro k hk
  cases hk

section HasPeer

variable {env : AgentEnv Key}

def HasPeer (a : Agent Key) (k : Key) : Prop :=
  ∃ iface, a.wg = some iface ∧ (iface k).isSome = true

theorem managed_handleEvent (a : Agent Key) (event : CoreEvent) :
    (handleEvent env a event).wg.isSome = a.wg.isSome := by
  obtain ⟨wg, fw⟩ := a
  cases wg with
  | none =>
    cases event <;>
      simp [handleEvent, handlePeerUpdate, handleS2SUpdate, handleFirewallUpdate,
        handleSmartRouteUpdate, handleFullResync]
  | some iface =>
    cases event with
    | peerUpdate update =>
      simp only [handleEvent, handlePeerUpdate]
      split <;> rfl
    | s2sUpdate update =>
      simp only [handleEvent, handleS2SUpdate]
      cases update.tunnel with
      | none => rfl
      | some tunnel =>
        dsimp only
        split <;> rfl
    | firewallUpdate config => rfl
    | smartRouteUpdate config => rfl
    | fullResync cfg => rfl

theorem managed_handleEvents (events : List CoreEvent) (a : Agent Key) :
    (handleEvents env events a).wg.isSome = a.wg.isSome := by
  unfold handleEvents
  induction events generalizing a with
  | nil => rfl
  | cons event events ih => rw [List.foldl_cons, ih, managed_handleEvent]

theorem handleEvents_append (events₁ events₂ : List CoreEvent) (a : Agent Key) :
    handleEvents env (events₁ ++ events₂) a =
      handleEvents env events₂ (handleEvents env events₁ a) :=
  List.foldl_append

variable {a : Agent Key}

theorem hasPeer_add (managed : a.wg.isSome = true) (peer : Peer) (k : Key) :
    HasPeer (handleEvent env a (.peerUpdate ⟨.add, peer⟩)) k ↔
      env.wg.parseKey peer.publicKey = some k ∨ HasPeer a k := by
  obtain ⟨iface, hi⟩ := Option.isSome_iff_exists.mp managed
  simp [HasPeer, handleEvent, handlePeerUpdate, hi, addMessagePeer_isSome]

def netsAt (a : Agent Key) (k : Key) : Option (Finset Cidr) :=
  a.wg.bind fun iface => (iface k).map WgPeer.allowedIps

omit [DecidableEq Key] in
theorem hasPeer_iff_netsAt (a : Agent Key) (k : Key) : HasPeer a k ↔ ∃ nets, netsAt a k = some nets := by
  unfold HasPeer netsAt
  cases a.wg with
  | none => simp
  | some iface => simp [Option.isSome_iff_exists]

theorem netsAt_firewallUpdate (a : Agent Key) (config : Option FirewallConfig) (k : Key) :
    netsAt (handleEvent env a (.firewallUpdate config)) k = netsAt a k :=
  rfl

theorem netsAt_remove (a : Agent Key) (peer : Peer) (k : Key) (nets : Finset Cidr) :
    netsAt (handleEvent env a (.peerUpdate ⟨.remove, peer⟩)) k = some nets ↔
      env.wg.parseKey peer.publicKey ≠ some k ∧ netsAt a k = some nets := by
  cases hw : a.wg with
  | none => simp [netsAt, handleEvent, handlePeerUpdate, hw]
  | some iface =>
    simp only [netsAt, handleEvent, handlePeerUpdate, hw, removePeer]
    cases hkey : env.wg.parseKey peer.publicKey with
    | none => simp
    | some key =>
      by_cases hk : k = key
      · subst hk
        simp
      · simp [hk, Ne.symm hk]

theorem netsAt_add (managed : a.wg.isSome = true) {peer : Peer} {key : Key}
    (hkey : env.wg.parseKey peer.publicKey = some key) (k : Key) :
    netsAt (handleEvent env a (.peerUpdate ⟨.add, peer⟩)) k =
      if k = key then some (allowedNets peer.allowedIps)
      else (netsAt a k).map (· \ allowedNets peer.allowedIps) := by
  obtain ⟨iface, hi⟩ := Option.isSome_iff_exists.mp managed
  simp only [netsAt, handleEvent, handlePeerUpdate, hi]
  by_cases hk : k = key
  · subst hk
    rw [if_pos rfl]
    exact addMessagePeer_self hkey
  · rw [if_neg hk]
    exact addMessagePeer_other hkey hk

theorem hasPeer_fullResync (managed : a.wg.isSome = true) (cfg : GatewayConfig) (k : Key) :
    HasPeer (handleEvent env a (.fullResync cfg)) k ↔
      (∃ p ∈ resyncPeers cfg, env.wg.parseKey p.publicKey = some k) ∨ HasPeer a k := by
  obtain ⟨wg, fw⟩ := a
  obtain ⟨iface, rfl⟩ := Option.isSome_iff_exists.mp managed
  simp [HasPeer, handleEvent, resync_wg, foldl_isSome]

theorem HasPeer.of_fullResync {cfg : GatewayConfig} {k : Key}
    (h : HasPeer (handleEvent env a (.fullResync cfg)) k) :
    (∃ p ∈ resyncPeers cfg, env.wg.parseKey p.publicKey = some k) ∨ HasPeer a k := by
  cases hw : a.wg.isSome with
  | true => exact (hasPeer_fullResync hw cfg k).mp h
  | false =>
    obtain ⟨iface, hi, _⟩ := h
    have hmanaged : (handleEvent env a (.fullResync cfg)).wg.isSome = a.wg.isSome :=
      managed_handleEvent a (.fullResync cfg)
    rw [hi, hw] at hmanaged
    cases hmanaged

end HasPeer

variable {env : AgentEnv Key} (reliable : env.fw.Reliable)
include reliable

def WiredAgent (a : Agent Key) : Prop := ∃ h, a.fw = some h ∧ Wired h

theorem wired_startAgent (wg : Option (Interface Key)) (cfg : GatewayConfig) {h : Host}
    {fwd : List Rule} (hf : chain h "FORWARD" = some fwd)
    (hrefs : ∀ c rules, chain h c = some rules → ∀ r ∈ rules, r.target ≠ some (.jump smartChain)) :
    WiredAgent (startAgent env wg cfg h) := by
  obtain ⟨hok, wired⟩ := wired_init reliable hf hrefs
  unfold startAgent WiredAgent
  cases hinit : init env.fw h with
  | mk err h₁ =>
    rw [hinit] at hok wired
    subst hok
    have wired₂ : Wired (match cfg.firewall with
        | none => h₁
        | some config => (FirewallManager.apply env.fw (some config) h₁).2) := by
      cases cfg.firewall with
      | none => exact wired
      | some config => exact wired_apply reliable wired (some config)
    cases cfg.smartRoutes with
    | none => exact ⟨_, rfl, wired₂⟩
    | some config => exact ⟨_, rfl, wired_applySmartRoutes reliable wired₂ (some config)⟩

variable {a : Agent Key}

theorem wired_handleFullResync (ha : WiredAgent a) (cfg : GatewayConfig) :
    WiredAgent (handleFullResync env cfg a) := by
  obtain ⟨wg, fw⟩ := a
  obtain ⟨h, rfl, wired⟩ := ha
  unfold handleFullResync
  cases wg with
  | none => exact ⟨h, rfl, wired⟩
  | some iface =>
    cases hs : cfg.smartRoutes with
    | none => exact ⟨h, by simp, wired⟩
    | some config => exact ⟨_, by simp, wired_applySmartRoutes reliable wired (some config)⟩

theorem wired_handleEvent (ha : WiredAgent a) (event : CoreEvent) :
    WiredAgent (handleEvent env a event) := by
  cases event with
  | fullResync cfg => exact wired_handleFullResync reliable ha cfg
  | firewallUpdate config =>
    obtain ⟨h, hfw, wired⟩ := ha
    exact ⟨_, by simp [handleEvent, handleFirewallUpdate, hfw], wired_apply reliable wired config⟩
  | smartRouteUpdate config =>
    obtain ⟨h, hfw, wired⟩ := ha
    exact ⟨_, by simp [handleEvent, handleSmartRouteUpdate, hfw],
      wired_applySmartRoutes reliable wired config⟩
  | peerUpdate update =>
    have hfw : (handleEvent env a (.peerUpdate update)).fw = a.fw := by
      simp only [handleEvent, handlePeerUpdate]
      split
      · rfl
      · split <;> rfl
    obtain ⟨h, ha, wired⟩ := ha
    exact ⟨h, hfw.trans ha, wired⟩
  | s2sUpdate update =>
    have hfw : (handleEvent env a (.s2sUpdate update)).fw = a.fw := by
      simp only [handleEvent, handleS2SUpdate]
      split
      · split <;> rfl
      · rfl
    obtain ⟨h, ha, wired⟩ := ha
    exact ⟨h, hfw.trans ha, wired⟩

theorem wired_handleEvents (ha : WiredAgent a) (events : List CoreEvent) :
    WiredAgent (handleEvents env events a) := by
  induction events generalizing a with
  | nil => exact ha
  | cons event events ih => exact ih (wired_handleEvent reliable ha event)

theorem resync_chains (wg : Option (Interface Key)) {h : Host} (wired : Wired h)
    (cfg : GatewayConfig) :
    ∃ h', (handleFullResync env cfg ⟨wg, some h⟩).fw = some h' ∧
      chain h' outpostChain = chain h outpostChain ∧
      chain h' smartChain =
        if wg.isSome ∧ cfg.smartRoutes.isSome then smartRules cfg.smartRoutes
        else chain h smartChain := by
  unfold handleFullResync
  cases wg with
  | none => exact ⟨h, rfl, rfl, by simp⟩
  | some iface =>
    cases hs : cfg.smartRoutes with
    | none => exact ⟨h, by simp, rfl, by simp⟩
    | some config =>
      obtain ⟨hsmart, hrest⟩ := applySmartRoutes_smartRules reliable wired (some config)
      refine ⟨_, by simp, hrest _ (by decide) (by decide), ?_⟩
      rw [hsmart]
      simp

end Outpost.GatewayAgent
