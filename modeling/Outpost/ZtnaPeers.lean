import Outpost.GatewayFleet
import Outpost.ZtnaHandler
import Outpost.Shared.Runs

/-!
# ZTNA decisions and the peer tables

A refresh takes the blocked devices off the gateways, and nothing puts a device back but a resync,
which brings the blocked ones too. Requests are handled one after the other.
-/

namespace Outpost.ZtnaPeers

open GatewayAgent PeerNotifier ZtnaHandler Runs

variable {Key : Type} [DecidableEq Key]

structure State (Key : Type) where
  db : Database
  fleet : Fleet Key

inductive Label where
  | request (r : Request)
  | link (l : Link)
deriving DecidableEq

section Steps

variable (henv : HandlerEnv) (env : AgentEnv Key)

inductive Step : State Key → Label → State Key → Prop where
  | handled {s : State Key} {r : Request} {db : Database} {refresh : Refresh} (n : NotifyEnv) :
      n.Reliable → handle henv s.db r = .ok (db, refresh) →
      Step s (.request r) ⟨db, s.fleet.deliver env (refresh.calls n db)⟩
  | refused {s : State Key} {r : Request} {err : HandlerError} :
      handle henv s.db r = .error err → Step s (.request r) s
  | link {s : State Key} {l : Link} {fleet : Fleet Key} :
      Fleet.Links env s.db s.fleet l fleet → Step s (.link l) ⟨s.db, fleet⟩

end Steps

section Governs

variable (env : AgentEnv Key) (db : Database)

/-- Among the keys of devices, the agent's peers are those of the gateway's networks that are not
reported as blocked. -/
def Governs (gatewayID : Uuid) (a : Agent Key) : Prop :=
  ∀ (orders : Orders) (result : FirewallResult),
    buildFirewallConfigFromPool noFaults orders db gatewayID = some result →
    ∀ d ∈ db.devices, ∀ k, env.wg.parseKey d.wireguardPubkey = some k →
      (HasPeer a k ↔ ∃ e, db.Listed gatewayID e ∧ e.wireguardPubkey ∉ result.blockedPubkeys ∧
        env.wg.parseKey e.wireguardPubkey = some k)

def InSync (s : State Key) : Prop := s.fleet.All (Governs env s.db)

def DeviceKey (k : Key) : Prop :=
  ∃ d ∈ db.devices, env.wg.parseKey d.wireguardPubkey = some k

def Dropped (refreshed : Uuid → Prop) (k : Key) : Prop :=
  ∃ gatewayID, refreshed gatewayID ∧ ∃ d ∈ db.devices,
    db.ZtnaBlocked gatewayID d ∧ env.wg.parseKey d.wireguardPubkey = some k

end Governs

section Peers

variable {env : AgentEnv Key} {db : Database}

end Peers

section Exact

variable {henv : HandlerEnv} {env : AgentEnv Key} {s t : State Key}

omit [DecidableEq Key] in
theorem deviceKey_congr {db db' : Database} (same : SameServing db db') (k : Key) :
    DeviceKey env db' k ↔ DeviceKey env db k := by
  unfold DeviceKey
  rw [same.devices]

end Exact

def office (config : Option TrustScoreConfig) (a : Agent String) : State String :=
  ⟨ruledDb config, .one "gw" a⟩

section Office

variable (config : Option TrustScoreConfig) (a : Agent String)

end Office

def textIds : HandlerEnv := ⟨some, fun _ => none, fun _ => "", false⟩

end Outpost.ZtnaPeers
