import Mathlib.Logic.Function.Basic
import Outpost.GatewaySync
import Outpost.PeerNotifier

/-!
# Gateways that come and go

The machines that run an agent, and whose sync streams are open. What core pushes reaches the open
streams; a stream that opens brings a full resync.
-/

namespace Outpost

open GatewayAgent PeerNotifier WireGuard FirewallManager Function

variable {Key : Type} [DecidableEq Key]

/-- The token lookup of `GetConfig` and `Sync` finds active gateways only. -/
def Database.Authenticates (db : Database) (gatewayID : Uuid) : Prop :=
  ∃ g ∈ db.gateways, g.id = gatewayID ∧ g.isActive = true

def Offered (env : AgentEnv Key) (db : Database) (gatewayID : Uuid) (k : Key) : Prop :=
  (∃ d, db.Listed gatewayID d ∧ env.wg.parseKey d.wireguardPubkey = some k) ∨
    ∃ pubkey, pubkey ≠ "" ∧ db.S2SKey gatewayID pubkey ∧ env.wg.parseKey pubkey = some k

theorem hasPeer_resync {env : AgentEnv Key} {orders : SyncOrders} {db : Database}
    {gatewayID : Uuid} {cfg : GatewayConfig} {a : Agent Key} (managed : a.wg.isSome = true)
    (hcfg : syncOpening {} orders db gatewayID = some cfg) (k : Key) :
    HasPeer (handleEvent env a (.fullResync cfg)) k ↔
      Offered env db gatewayID k ∨ HasPeer a k := by
  rw [syncOpening_noFaults] at hcfg
  obtain rfl := Option.some.inj hcfg
  rw [hasPeer_fullResync managed]
  apply or_congr_left
  unfold resyncPeers Offered
  simp only [List.mem_append, or_and_right, exists_or]
  apply or_congr
  · constructor
    · rintro ⟨p, hp, hkey⟩
      obtain ⟨d, hl, rfl⟩ := (mem_devicePeers orders db gatewayID p).mp hp
      exact ⟨d, hl, hkey⟩
    · rintro ⟨d, hl, hkey⟩
      exact ⟨d.toPeer, (mem_devicePeers orders db gatewayID _).mpr ⟨d, hl, rfl⟩, hkey⟩
  · simp only [List.mem_flatMap, List.mem_map, List.mem_filter, decide_eq_true_eq]
    constructor
    · rintro ⟨_, ⟨t, ht, p, ⟨hp, hne⟩, rfl⟩, hkey⟩
      exact ⟨p.publicKey, hne, (mem_s2sPeers orders db gatewayID _).mp ⟨t, ht, p, hp, rfl⟩, hkey⟩
    · rintro ⟨pubkey, hne, hs2s, hkey⟩
      obtain ⟨t, ht, p, hp, rfl⟩ := (mem_s2sPeers orders db gatewayID pubkey).mpr hs2s
      exact ⟨_, ⟨t, ht, p, ⟨hp, hne⟩, rfl⟩, hkey⟩

structure Fleet (Key : Type) where
  agent : Uuid → Option (Agent Key)
  online : Uuid → Bool

inductive Link where
  | disconnect (gatewayID : Uuid)
  | restart (gatewayID : Uuid)
  | resync (gatewayID : Uuid)
deriving DecidableEq

namespace Fleet

def Connected (f : Fleet Key) (gatewayID : Uuid) (a : Agent Key) : Prop :=
  f.online gatewayID = true ∧ f.agent gatewayID = some a

def receive (env : AgentEnv Key) (events : Uuid → List CoreEvent) (f : Fleet Key) : Fleet Key :=
  { f with agent := fun gatewayID =>
      if f.online gatewayID then (f.agent gatewayID).map (handleEvents env (events gatewayID))
      else f.agent gatewayID }

def deliver (env : AgentEnv Key) (calls : List HubCall) (f : Fleet Key) : Fleet Key :=
  f.receive env fun gatewayID => eventsFor gatewayID calls

def disconnect (gatewayID : Uuid) (f : Fleet Key) : Fleet Key :=
  { f with online := update f.online gatewayID false }

def restart (env : AgentEnv Key) (gatewayID : Uuid) (iface : Interface Key) (cfg : GatewayConfig)
    (h : Host) (f : Fleet Key) : Fleet Key where
  agent := update f.agent gatewayID (some (startAgent env (some iface) cfg h))
  online := update f.online gatewayID false

def resync (env : AgentEnv Key) (gatewayID : Uuid) (cfg : GatewayConfig) (f : Fleet Key) :
    Fleet Key where
  agent := update f.agent gatewayID
    ((f.agent gatewayID).map fun a => handleEvent env a (.fullResync cfg))
  online := update f.online gatewayID true

def Finds (f : Fleet Key) (gatewayID : Uuid) (iface : Interface Key) : Prop :=
  (iface = fun _ => none) ∨ ∃ a, f.agent gatewayID = some a ∧ a.wg = some iface

inductive Links (env : AgentEnv Key) (db : Database) : Fleet Key → Link → Fleet Key → Prop where
  | disconnect {f : Fleet Key} {gatewayID : Uuid} :
      Links env db f (.disconnect gatewayID) (f.disconnect gatewayID)
  | restart {f : Fleet Key} {gatewayID : Uuid} {iface : Interface Key} (orders : SyncOrders)
      (h : Host) :
      db.Authenticates gatewayID → f.Finds gatewayID iface →
      Links env db f (.restart gatewayID)
        (f.restart env gatewayID iface (getConfig {} orders db gatewayID) h)
  | resync {f : Fleet Key} {gatewayID : Uuid} {a : Agent Key} {cfg : GatewayConfig}
      (orders : SyncOrders) :
      db.Authenticates gatewayID → f.agent gatewayID = some a → a.wg.isSome = true →
      syncOpening {} orders db gatewayID = some cfg →
      Links env db f (.resync gatewayID) (f.resync env gatewayID cfg)

section Connected

variable {env : AgentEnv Key} {f f' : Fleet Key} {P : Uuid → Agent Key → Prop}

def All (P : Uuid → Agent Key → Prop) (f : Fleet Key) : Prop :=
  ∀ gatewayID a, f.Connected gatewayID a → P gatewayID a

theorem all_receive (events : Uuid → List CoreEvent) :
    All P (f.receive env events) ↔
      All (fun gatewayID a => P gatewayID (handleEvents env (events gatewayID) a)) f := by
  constructor
  · intro h gatewayID a hc
    apply h gatewayID
    refine ⟨hc.1, ?_⟩
    simp [receive, hc.1, hc.2]
  · intro h gatewayID a hc
    obtain ⟨honline, hagent⟩ := hc
    have honline' : f.online gatewayID = true := honline
    simp only [receive, honline'] at hagent
    obtain ⟨a₀, ha₀, rfl⟩ := Option.map_eq_some_iff.mp hagent
    exact h gatewayID a₀ ⟨honline', ha₀⟩

theorem all_deliver (calls : List HubCall) :
    All P (f.deliver env calls) ↔
      All (fun gatewayID a => P gatewayID (handleEvents env (eventsFor gatewayID calls) a)) f :=
  all_receive _

omit [DecidableEq Key] in
theorem All.disconnect (h : All P f) (gatewayID : Uuid) : All P (f.disconnect gatewayID) := by
  intro g a hc
  obtain ⟨honline, hagent⟩ := hc
  by_cases hg : g = gatewayID
  · subst hg
    simp [Fleet.disconnect] at honline
  · simp only [Fleet.disconnect, update_of_ne hg] at honline
    exact h g a ⟨honline, hagent⟩

theorem All.restart (h : All P f) (gatewayID : Uuid) (iface : Interface Key) (cfg : GatewayConfig)
    (host : Host) : All P (f.restart env gatewayID iface cfg host) := by
  intro g a hc
  obtain ⟨honline, hagent⟩ := hc
  by_cases hg : g = gatewayID
  · subst hg
    simp [Fleet.restart] at honline
  · simp only [Fleet.restart, update_of_ne hg] at honline hagent
    exact h g a ⟨honline, hagent⟩

theorem All.resync_iff (h : All P f) {gatewayID : Uuid} {a : Agent Key}
    (ha : f.agent gatewayID = some a) (cfg : GatewayConfig) :
    All P (f.resync env gatewayID cfg) ↔ P gatewayID (handleEvent env a (.fullResync cfg)) := by
  constructor
  · intro h'
    apply h' gatewayID
    simp [Connected, Fleet.resync, ha]
  · intro hp g b hc
    obtain ⟨honline, hagent⟩ := hc
    by_cases hg : g = gatewayID
    · subst hg
      simp only [Fleet.resync, ha, Option.map_some, update_self, Option.some.injEq] at hagent
      exact hagent ▸ hp
    · simp only [Fleet.resync, update_of_ne hg] at honline hagent
      exact h g b ⟨honline, hagent⟩

variable {db : Database} {Q : Uuid → Agent Key → Prop}

/-- What a change of connection needs, when `Q` is what a resync needs of an agent. -/
def Kept (Q : Uuid → Agent Key → Prop) (f : Fleet Key) : Link → Prop
  | .resync gatewayID => ∀ a, f.agent gatewayID = some a → Q gatewayID a
  | _ => True

theorem All.links_iff (h : All P f)
    (hresync : ∀ gatewayID a orders cfg, a.wg.isSome = true →
      syncOpening {} orders db gatewayID = some cfg →
      (P gatewayID (handleEvent env a (.fullResync cfg)) ↔ Q gatewayID a))
    {l : Link} (hl : Links env db f l f') : All P f' ↔ Kept Q f l := by
  cases hl with
  | disconnect => exact iff_of_true (h.disconnect _) trivial
  | restart orders host => exact iff_of_true (h.restart _ _ _ host) trivial
  | @resync gatewayID a cfg orders hauth ha managed hcfg =>
    rw [h.resync_iff ha, hresync gatewayID a orders cfg managed hcfg]
    constructor
    · intro hq b hb
      obtain rfl := Option.some.inj (ha.symm.trans hb)
      exact hq
    · intro hkept
      exact hkept a ha

end Connected

section One

variable {env : AgentEnv Key} (gatewayID : Uuid) (a : Agent Key)

def one : Fleet Key :=
  ⟨fun g => if g = gatewayID then some a else none, fun g => decide (g = gatewayID)⟩

omit [DecidableEq Key] in
theorem connected_one : (one gatewayID a).Connected gatewayID a := by
  simp [one, Connected]

omit [DecidableEq Key] in
theorem all_one {P : Uuid → Agent Key → Prop} : All P (one gatewayID a) ↔ P gatewayID a := by
  constructor
  · intro h
    exact h gatewayID a (connected_one gatewayID a)
  · intro h g b hc
    obtain ⟨honline, hb⟩ := hc
    obtain rfl : g = gatewayID := by simpa [one] using honline
    obtain rfl : a = b := by simpa [one] using hb
    exact h

theorem receive_one (events : Uuid → List CoreEvent) :
    (one gatewayID a).receive env events =
      one gatewayID (handleEvents env (events gatewayID) a) := by
  simp only [receive, one, Fleet.mk.injEq, and_true]
  funext g
  by_cases hg : g = gatewayID
  · subst hg
    simp
  · simp [hg]

theorem deliver_one (calls : List HubCall) :
    (one gatewayID a).deliver env calls =
      one gatewayID (handleEvents env (eventsFor gatewayID calls) a) :=
  receive_one gatewayID a _

theorem resync_one (cfg : GatewayConfig) :
    (one gatewayID a).resync env gatewayID cfg =
      one gatewayID (handleEvent env a (.fullResync cfg)) := by
  simp only [Fleet.resync, one, Fleet.mk.injEq]
  constructor
  · funext g
    by_cases hg : g = gatewayID
    · subst hg
      simp
    · simp [hg]
  · funext g
    by_cases hg : g = gatewayID
    · subst hg
      simp
    · simp [hg]

end One

end Fleet

def officeGateway : Gateway := ⟨"gw", none, "gateway key", "", true, 0, 0, "office gateway"⟩

def servedDb : Database := { officeDb "k" [] with gateways := [officeGateway] }

theorem servedDb_listed : servedDb.Listed "gw" (laptop "k") :=
  ⟨.head _, ⟨rfl, by decide⟩, .inl (officeDb_attached "k" [])⟩

def ruledDb (config : Option TrustScoreConfig) : Database :=
  { servedDb with trustScoreConfig := config }

def blocksUnscored : Option TrustScoreConfig → Bool
  | none => false
  | some c => c.autoBlockBelowLow || c.autoRestrictBelowMedium

theorem ruledDb_blocked (config : Option TrustScoreConfig) :
    (ruledDb config).ZtnaBlocked "gw" (laptop "k") ↔ blocksUnscored config = true := by
  have hblocks : (ruledDb config).blocksPosture
      ((ruledDb config).postureOf (laptop "k") alice "office") = blocksUnscored config := by
    cases config with
    | none => rfl
    | some c =>
      obtain ⟨restrict, block⟩ := c
      cases restrict <;> cases block <;> rfl
  have hposture : (ruledDb config).IsPosture (laptop "k")
      ((ruledDb config).postureOf (laptop "k") alice "office") :=
    ⟨alice, .head _, rfl, "office", rfl, rfl⟩
  rw [← hblocks]
  constructor
  · intro ⟨_, _, p, hp, hblocked⟩
    rwa [Database.IsPosture.unique _ hp hposture] at hblocked
  · intro hblocked
    exact ⟨⟨rfl, by decide⟩, officeDb_attached "k" [], _, hposture, hblocked⟩

def peeredAgent : Agent String :=
  handleEvent textKeys freshAgent (.peerUpdate (addition "k" ["10.0.0.2/32"]))

theorem peeredAgent_peer : HasPeer peeredAgent "k" := (hasPeer_add rfl _ "k").mpr (.inl rfl)

end Outpost
