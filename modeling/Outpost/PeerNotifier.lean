import Outpost.FirewallConfigStructure
import Outpost.GatewayAgent

/-!
# Notifications from the handlers to the gateways

`hubPeerNotifier`: a change of a device is broadcast as a peer update, and the firewall configs
of the gateways that some query finds are pushed, with a removal for every device that ZTNA
blocks. There is a single core without Redis.
-/

namespace Outpost.PeerNotifier

inductive HubCall where
  | broadcastPeerUpdate (update : PeerUpdate)
  | sendFirewallUpdate (gatewayID : Uuid) (config : FirewallConfig)
deriving DecidableEq

/-- The failures and orders of one notification. -/
structure NotifyEnv where
  findQuery : Bool := false
  findScan : Nat → Bool := fun _ => false
  findRows : RangeOrder (Option Uuid) := .asListed
  faults : Uuid → QueryFaults := fun _ => noFaults
  orders : Uuid → Orders := fun _ => .asListed

structure NotifyEnv.Reliable (env : NotifyEnv) : Prop where
  findQuery : env.findQuery = false
  findScan : env.findScan = fun _ => false
  faults : ∀ gatewayID, env.faults gatewayID = noFaults

def quietNotify : NotifyEnv := {}

theorem quietNotify_reliable : quietNotify.Reliable := ⟨rfl, rfl, fun _ => rfl⟩

def addition (pubkey : String) (allowedIPs : List String) : PeerUpdate :=
  ⟨.add, ⟨pubkey, allowedIPs, "", 25⟩⟩

def removal (pubkey : String) : PeerUpdate := ⟨.remove, ⟨pubkey, [], "", 0⟩⟩

def leftJoin {α : Type} (rows : List α) : List (Option α) :=
  if rows.isEmpty then [none] else rows.map some

theorem mem_leftJoin {α : Type} {rows : List α} (a : α) : some a ∈ leftJoin rows ↔ a ∈ rows := by
  cases rows with
  | _ => simp [leftJoin]

theorem none_mem_leftJoin {α : Type} {rows : List α} : none ∈ leftJoin rows ↔ rows = [] := by
  cases rows with
  | _ => simp [leftJoin]

end PeerNotifier

namespace Database

variable (db : Database)

open PeerNotifier

def peerGateways (pubkey : String) : List (Option Uuid) :=
  (db.devices.flatMap fun d => db.gatewayNetworks.filterMap fun gn =>
    if some gn.networkId = d.networkId ∧ d.wireguardPubkey = pubkey then some (some gn.gatewayId)
    else none).dedup

/-- `COALESCE(gn.gateway_id, g.id)`: the legacy column counts only when no row of `gateway_networks`
has the network. -/
def networkGateways (networkID : Option Uuid) : List (Option Uuid) :=
  (leftJoin (db.gatewayNetworks.filter fun gn => some gn.networkId = networkID)).flatMap fun gn =>
    (leftJoin (db.gateways.filter fun g => g.networkId.isSome ∧ g.networkId = networkID)).map
      fun g => (gn.map GatewayNetwork.gatewayId).or (g.map Gateway.id)

def userGateways (userID : Uuid) : List (Option Uuid) :=
  ((db.devices.filter fun d => d.userId = userID ∧ d.isApproved ∧ d.wireguardPubkey ≠ "").flatMap
    fun d => db.networkGateways d.networkId).dedup

def groupGateways (groupID : Uuid) : List (Option Uuid) :=
  ((db.networkAcls.filter fun a => a.groupId = groupID).flatMap
    fun a => db.networkGateways (some a.networkId)).dedup

def activeGateways : List (Option Uuid) :=
  ((db.gateways.filter fun g => g.isActive).map fun g => some g.id).dedup

/-- The gateway has the network in `gateway_networks`, or in the legacy column if no row has it
there. -/
def ServesNetwork (networkID gatewayID : Uuid) : Prop :=
  (∃ gn ∈ db.gatewayNetworks, gn.networkId = networkID ∧ gn.gatewayId = gatewayID) ∨
    ((∀ gn ∈ db.gatewayNetworks, gn.networkId ≠ networkID) ∧
      ∃ g ∈ db.gateways, g.networkId = some networkID ∧ g.id = gatewayID)

theorem mem_networkGateways (networkID gatewayID : Uuid) :
    some gatewayID ∈ db.networkGateways (some networkID) ↔
      db.ServesNetwork networkID gatewayID := by
  unfold networkGateways
  rw [List.mem_flatMap]
  constructor
  · rintro ⟨gn, hgn, hin⟩
    obtain ⟨g, hg, heq⟩ := List.mem_map.mp hin
    cases gn with
    | some gn =>
      obtain ⟨hgn, hnet⟩ := List.mem_filter.mp ((mem_leftJoin gn).mp hgn)
      exact .inl ⟨gn, hgn, by simpa using hnet, by simpa using heq⟩
    | none =>
      have hnone := List.filter_eq_nil_iff.mp (none_mem_leftJoin.mp hgn)
      refine .inr ⟨fun gn hgn => by simpa using hnone gn hgn, ?_⟩
      cases g with
      | none => cases heq
      | some g =>
        obtain ⟨hg, hnet⟩ := List.mem_filter.mp ((mem_leftJoin g).mp hg)
        simp only [decide_eq_true_eq] at hnet
        exact ⟨g, hg, hnet.2, by simpa using heq⟩
  · rintro (⟨gn, hgn, rfl, rfl⟩ | ⟨hnone, g, hg, hnet, rfl⟩)
    · have hrow : some gn ∈ leftJoin (db.gatewayNetworks.filter fun x =>
          decide (some x.networkId = some gn.networkId)) := by
        rw [mem_leftJoin]
        exact List.mem_filter.mpr ⟨hgn, by simp⟩
      refine ⟨some gn, hrow, ?_⟩
      -- the other join has a row too, possibly of nulls
      cases hjoin : db.gateways.filter fun g =>
          decide (g.networkId.isSome ∧ g.networkId = some gn.networkId) with
      | nil => simp [leftJoin]
      | cons g rows => simp [leftJoin]
    · refine ⟨none, ?_, ?_⟩
      · rw [none_mem_leftJoin, List.filter_eq_nil_iff]
        intro gn hgn
        simpa using hnone gn hgn
      · apply List.mem_map.mpr
        refine ⟨some g, ?_, by simp⟩
        rw [mem_leftJoin]
        exact List.mem_filter.mpr ⟨hg, by simp [hnet]⟩

theorem mem_userGateways {gatewayID : Uuid} {d : Device} (hd : d ∈ db.devices) (hkey : Keyed d)
    (hatt : db.Attached gatewayID d) : some gatewayID ∈ db.userGateways d.userId := by
  obtain ⟨gn, hgn, hgw, hnet⟩ := hatt
  unfold userGateways
  rw [List.mem_dedup, List.mem_flatMap]
  refine ⟨d, List.mem_filter.mpr ⟨hd, by simp [hkey.1, hkey.2]⟩, ?_⟩
  rw [← hnet, mem_networkGateways]
  exact .inl ⟨gn, hgn, rfl, hgw⟩

end Database

namespace PeerNotifier

def scanGateways (env : NotifyEnv) (rows : List (Option Uuid)) : List Uuid :=
  (scanRows env.findQuery env.findScan (env.findRows.visit rows)).filterMap id

def removeZTNABlockedPeers (pubkeys : List String) : List HubCall :=
  pubkeys.map fun pk => .broadcastPeerUpdate (removal pk)

def sendFirewallResult (gatewayID : Uuid) : Option FirewallResult → List HubCall
  | none => []
  | some result =>
    .sendFirewallUpdate gatewayID result.config :: removeZTNABlockedPeers result.blockedPubkeys

def refreshFirewallForGateways (env : NotifyEnv) (db : Database) (gatewayIDs : List Uuid) :
    List HubCall :=
  gatewayIDs.flatMap fun gatewayID => sendFirewallResult gatewayID
    (buildFirewallConfigFromPool (env.faults gatewayID) (env.orders gatewayID) db gatewayID)

def findGatewaysForPeer (env : NotifyEnv) (db : Database) (pubkey : String) : List Uuid :=
  scanGateways env (db.peerGateways pubkey)

def refreshFirewallForUser (env : NotifyEnv) (db : Database) (userID : Uuid) : List HubCall :=
  refreshFirewallForGateways env db (scanGateways env (db.userGateways userID))

def refreshFirewallForGroup (env : NotifyEnv) (db : Database) (groupID : Uuid) : List HubCall :=
  refreshFirewallForGateways env db (scanGateways env (db.groupGateways groupID))

def refreshAllFirewalls (env : NotifyEnv) (db : Database) : List HubCall :=
  refreshFirewallForGateways env db (scanGateways env db.activeGateways)

def notifyPeerAdd (env : NotifyEnv) (db : Database) (pubkey : String) (allowedIPs : List String) :
    List HubCall :=
  .broadcastPeerUpdate (addition pubkey allowedIPs) ::
    refreshFirewallForGateways env db (findGatewaysForPeer env db pubkey)

def notifyPeerRemove (env : NotifyEnv) (db : Database) (pubkey : String) : List HubCall :=
  let gatewayIDs := findGatewaysForPeer env db pubkey
  .broadcastPeerUpdate (removal pubkey) :: refreshFirewallForGateways env db gatewayIDs

def eventFor (gatewayID : Uuid) : HubCall → Option CoreEvent
  | .broadcastPeerUpdate update => some (.peerUpdate update)
  | .sendFirewallUpdate target config =>
    if target = gatewayID then some (.firewallUpdate (some config)) else none

def eventsFor (gatewayID : Uuid) (calls : List HubCall) : List CoreEvent :=
  calls.filterMap (eventFor gatewayID)

section Queries

variable {env : NotifyEnv} (db : Database)

theorem mem_scanGateways (reliable : env.Reliable) (rows : List (Option Uuid)) (gatewayID : Uuid) :
    gatewayID ∈ scanGateways env rows ↔ some gatewayID ∈ rows := by
  unfold scanGateways
  rw [reliable.findQuery, reliable.findScan, scanRows_noFaults]
  simp

theorem mem_peerGateways (pubkey : String) (gatewayID : Uuid) :
    some gatewayID ∈ db.peerGateways pubkey ↔
      ∃ d ∈ db.devices, d.wireguardPubkey = pubkey ∧ db.Attached gatewayID d := by
  simp only [Database.peerGateways, List.mem_dedup, List.mem_flatMap, List.mem_filterMap,
    Option.ite_none_right_eq_some, Option.some.injEq]
  constructor
  · rintro ⟨d, hd, gn, hgn, ⟨hnet, hkey⟩, hgw⟩
    exact ⟨d, hd, hkey, gn, hgn, hgw, hnet⟩
  · rintro ⟨d, hd, hkey, gn, hgn, hgw, hnet⟩
    exact ⟨d, hd, gn, hgn, ⟨hnet, hkey⟩, hgw⟩

theorem build_reliable (reliable : env.Reliable) (gatewayID : Uuid) :
    buildFirewallConfigFromPool (env.faults gatewayID) (env.orders gatewayID) db gatewayID =
      some ⟨⟨firewallRules noFaults (env.orders gatewayID) db gatewayID, true, ""⟩,
        collectBlockedPubkeys noFaults (env.orders gatewayID) db gatewayID⟩ := by
  rw [reliable.faults]
  rfl

end Queries

def IsPush : HubCall → Prop
  | .sendFirewallUpdate _ _ => True
  | .broadcastPeerUpdate update => ∃ pubkey, update = removal pubkey

theorem refresh_isPush (env : NotifyEnv) (db : Database) (gatewayIDs : List Uuid) :
    ∀ call ∈ refreshFirewallForGateways env db gatewayIDs, IsPush call := by
  intro call hcall
  obtain ⟨gatewayID, _, hin⟩ := List.mem_flatMap.mp hcall
  unfold sendFirewallResult at hin
  split at hin
  · cases hin
  · rcases List.mem_cons.mp hin with rfl | hin
    · exact trivial
    · obtain ⟨pubkey, _, rfl⟩ := List.mem_map.mp hin
      exact ⟨pubkey, rfl⟩

theorem notifyPeerRemove_isPush (env : NotifyEnv) (db : Database) (pubkey : String) :
    ∀ call ∈ notifyPeerRemove env db pubkey, IsPush call := by
  intro call hcall
  rcases List.mem_cons.mp hcall with rfl | hcall
  · exact ⟨pubkey, rfl⟩
  · exact refresh_isPush env db _ call hcall

theorem removal_mem_refresh {env : NotifyEnv} (reliable : env.Reliable) (db : Database)
    (gatewayIDs : List Uuid) (pubkey : String) :
    .broadcastPeerUpdate (removal pubkey) ∈ refreshFirewallForGateways env db gatewayIDs ↔
      ∃ gatewayID ∈ gatewayIDs, ∃ d ∈ db.devices,
        db.ZtnaBlocked gatewayID d ∧ d.wireguardPubkey = pubkey := by
  have hcall : ∀ pk, removal pk = removal pubkey ↔ pk = pubkey := by simp [removal]
  simp [refreshFirewallForGateways, build_reliable db reliable, sendFirewallResult, removeZTNABlockedPeers, hcall, mem_collectBlockedPubkeys]

theorem removal_mem_found {n : NotifyEnv} (reliable : n.Reliable) (db : Database)
    (rows : List (Option Uuid)) (pubkey : String) :
    .broadcastPeerUpdate (removal pubkey) ∈ refreshFirewallForGateways n db (scanGateways n rows) ↔
      ∃ gatewayID, some gatewayID ∈ rows ∧
        ∃ d ∈ db.devices, db.ZtnaBlocked gatewayID d ∧ d.wireguardPubkey = pubkey := by
  rw [removal_mem_refresh reliable]
  simp only [mem_scanGateways reliable]

theorem removal_mem_notifyPeerRemove {n : NotifyEnv} (reliable : n.Reliable) (db : Database)
    (pk pubkey : String) :
    .broadcastPeerUpdate (removal pubkey) ∈ notifyPeerRemove n db pk ↔
      pubkey = pk ∨ ∃ gatewayID, some gatewayID ∈ db.peerGateways pk ∧
        ∃ d ∈ db.devices, db.ZtnaBlocked gatewayID d ∧ d.wireguardPubkey = pubkey := by
  unfold notifyPeerRemove findGatewaysForPeer
  rw [List.mem_cons, removal_mem_found reliable]
  simp [removal]

open GatewayAgent

variable {Key : Type} [DecidableEq Key] {env : AgentEnv Key}

variable {calls : List HubCall}

theorem netsAt_push (gatewayID : Uuid) (pushes : ∀ c ∈ calls, IsPush c) (a : Agent Key) (k : Key)
    (nets : Finset Cidr) :
    netsAt (handleEvents env (eventsFor gatewayID calls) a) k = some nets ↔
      netsAt a k = some nets ∧ ∀ pubkey, .broadcastPeerUpdate (removal pubkey) ∈ calls →
        env.wg.parseKey pubkey ≠ some k := by
  induction calls generalizing a with
  | nil => simp [eventsFor, handleEvents]
  | cons call calls ih =>
    have hrest := ih (fun c hc => pushes c (List.mem_cons_of_mem call hc))
    cases call with
    | sendFirewallUpdate target config =>
      have hsame : netsAt (handleEvents env
          (eventsFor gatewayID (.sendFirewallUpdate target config :: calls)) a) k = some nets ↔
          netsAt (handleEvents env (eventsFor gatewayID calls) a) k = some nets := by
        by_cases ht : target = gatewayID
        · have hcons : eventsFor gatewayID (.sendFirewallUpdate target config :: calls) =
              .firewallUpdate (some config) :: eventsFor gatewayID calls := by
            simp [eventsFor, eventFor, ht]
          rw [hcons]
          change netsAt (handleEvents env (eventsFor gatewayID calls)
            (handleEvent env a (.firewallUpdate (some config)))) k = some nets ↔ _
          rw [hrest, hrest, netsAt_firewallUpdate]
        · rw [show eventsFor gatewayID (.sendFirewallUpdate target config :: calls) =
            eventsFor gatewayID calls by simp [eventsFor, eventFor, ht]]
      rw [hsame, hrest]
      simp
    | broadcastPeerUpdate update =>
      obtain ⟨pubkey, rfl⟩ := pushes _ List.mem_cons_self
      change netsAt (handleEvents env (eventsFor gatewayID calls)
        (handleEvent env a (.peerUpdate (removal pubkey)))) k = some nets ↔ _
      have hcall : ∀ pk, removal pk = removal pubkey ↔ pk = pubkey := by simp [removal]
      rw [hrest, removal, netsAt_remove, ← removal]
      simp only [List.mem_cons, HubCall.broadcastPeerUpdate.injEq, hcall, or_imp, forall_and,
        forall_eq]
      tauto

theorem hasPeer_push (gatewayID : Uuid) (pushes : ∀ c ∈ calls, IsPush c) (a : Agent Key) (k : Key) :
    HasPeer (handleEvents env (eventsFor gatewayID calls) a) k ↔
      HasPeer a k ∧ ∀ pubkey, .broadcastPeerUpdate (removal pubkey) ∈ calls →
        env.wg.parseKey pubkey ≠ some k := by
  simp [hasPeer_iff_netsAt, netsAt_push gatewayID pushes]

omit [DecidableEq Key] in
theorem no_blocked_pubkey_iff {db : Database} {found : Uuid → Prop} {k : Key} :
    (∀ pubkey, (∃ g, found g ∧ ∃ d ∈ db.devices, db.ZtnaBlocked g d ∧ d.wireguardPubkey = pubkey) →
      env.wg.parseKey pubkey ≠ some k) ↔
    ¬ ∃ g, found g ∧ ∃ d ∈ db.devices, db.ZtnaBlocked g d ∧
      env.wg.parseKey d.wireguardPubkey = some k := by
  constructor
  · rintro h ⟨g, hg, d, hd, hblocked, hk⟩
    exact h d.wireguardPubkey ⟨g, hg, d, hd, hblocked, rfl⟩ hk
  · rintro h pubkey ⟨g, hg, d, hd, hblocked, rfl⟩ hk
    exact h ⟨g, hg, d, hd, hblocked, hk⟩

/-- A gateway of the device's network blocks a device with this key, as a rule the device itself. -/
def Evicted (wg : WireGuard.Env Key) (db : Database) (pubkey : String) : Prop :=
  ∃ gatewayID, some gatewayID ∈ db.peerGateways pubkey ∧ ∃ d ∈ db.devices,
    db.ZtnaBlocked gatewayID d ∧ wg.parseKey d.wireguardPubkey = wg.parseKey pubkey

variable {n : NotifyEnv} (reliable : n.Reliable) (db : Database) (gatewayID : Uuid)
  {pubkey : String} {k : Key} (hkey : env.wg.parseKey pubkey = some k)
include hkey

include reliable in
theorem hasPeer_notifyPeerAdd (allowedIPs : List String) {a : Agent Key}
    (managed : a.wg.isSome = true) :
    HasPeer (handleEvents env (eventsFor gatewayID (notifyPeerAdd n db pubkey allowedIPs)) a) k ↔
      ¬ Evicted env.wg db pubkey := by
  change HasPeer (handleEvents env (eventsFor gatewayID (refreshFirewallForGateways n db
    (findGatewaysForPeer n db pubkey)))
      (handleEvent env a (.peerUpdate (addition pubkey allowedIPs)))) k ↔ _
  have hadded : HasPeer (handleEvent env a (.peerUpdate (addition pubkey allowedIPs))) k :=
    (hasPeer_add managed _ k).mpr (.inl hkey)
  rw [hasPeer_push gatewayID (refresh_isPush n db _), Evicted, hkey, ← no_blocked_pubkey_iff]
  simp only [hadded, true_and, findGatewaysForPeer, removal_mem_found reliable]

theorem hasPeer_notifyPeerRemove (a : Agent Key) :
    ¬ HasPeer (handleEvents env (eventsFor gatewayID (notifyPeerRemove n db pubkey)) a) k := by
  rw [hasPeer_push gatewayID (notifyPeerRemove_isPush n db pubkey)]
  exact fun h => h.2 pubkey List.mem_cons_self hkey

end Outpost.PeerNotifier
