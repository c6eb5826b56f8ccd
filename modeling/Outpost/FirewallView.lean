import Outpost.Enforcement
import Outpost.PeerNotifier

/-!
# What a gateway's firewall decides

The decisions of `OUTPOST-FWD` as a relation between source and destination that mentions neither
rules nor orders, and how pushed configs change them.
-/

namespace Outpost

open Iptables FirewallManager GatewayAgent PeerNotifier

namespace Database

variable (db : Database) (gatewayID : Uuid)

def Serves (src : BitVec 32) : Prop :=
  ∃ d, db.Listed gatewayID d ∧ d.assignedIp = .v4 src

def Admits (src dst : BitVec 32) : Prop :=
  ∃ d, db.Listed gatewayID d ∧ d.assignedIp = .v4 src ∧ db.Permits gatewayID d dst

end Database

structure SameView (gatewayID : Uuid) (db db' : Database) : Prop where
  serves : ∀ src, db.Serves gatewayID src ↔ db'.Serves gatewayID src
  admits : ∀ src dst, db.Admits gatewayID src dst ↔ db'.Admits gatewayID src dst

def Enforces (db : Database) (gatewayID : Uuid) (rules : List Rule) : Prop :=
  ∀ p : Packet, p.state = .new →
    (decides rules p = some .accept ↔ db.Admits gatewayID p.src p.dst) ∧
    (decides rules p = none ↔ ¬ db.Serves gatewayID p.src)

def freshConfig (orders : Orders) (db : Database) (gatewayID : Uuid) : FirewallConfig :=
  ⟨firewallRules noFaults orders db gatewayID, true, ""⟩

def UpToDate (db : Database) (gatewayID : Uuid) (rules : List Rule) : Prop :=
  ∀ (orders : Orders) (result : FirewallResult),
    buildFirewallConfigFromPool noFaults orders db gatewayID = some result →
    ∀ p : Packet, p.state = .new → decides rules p = decides (forwardRules result.config) p

section View

variable {db db' : Database} {gatewayID : Uuid}

theorem enforces_fresh (orders : Orders) (db : Database) (gatewayID : Uuid) :
    Enforces db gatewayID (forwardRules (freshConfig orders db gatewayID)) := by
  intro p hnew
  rw [forwardRules, decides_conntrack _ hnew, freshConfig]
  by_cases hserved : db.Serves gatewayID p.src
  · obtain ⟨d, hl, ha⟩ := hserved
    -- the source belongs to no other device
    have hadmits : db.Admits gatewayID p.src p.dst ↔ db.Permits gatewayID d p.dst := by
      constructor
      · rintro ⟨e, hle, hae, hp⟩
        obtain rfl := db.device_eq_of_assignedIp hl.1 hle.1 (ha.trans hae.symm)
        exact hp
      · exact fun hp => ⟨d, hl, ha, hp⟩
    rcases decides_listed orders hl ha with ⟨hp, hv⟩ | ⟨hp, hv⟩
    · rw [hv, hadmits]
      simp only [hp, reduceCtorEq, false_iff, not_not, true_and]
      exact ⟨d, hl, ha⟩
    · rw [hv, hadmits]
      simp only [hp, reduceCtorEq, false_iff, not_not, Option.some.injEq, true_and]
      exact ⟨d, hl, ha⟩
  · rw [decides_silent (rules_silent fun d hl ha => hserved ⟨d, hl, ha⟩)]
    simp only [reduceCtorEq, false_iff, hserved, not_false_eq_true, and_true]
    rintro ⟨d, hl, ha, _⟩
    exact hserved ⟨d, hl, ha⟩

variable {rules : List Rule}

theorem Enforces.decides_eq {rules' : List Rule} (h : Enforces db gatewayID rules)
    (h' : Enforces db gatewayID rules') {p : Packet} (hnew : p.state = .new) :
    decides rules p = decides rules' p := by
  obtain ⟨haccept, hnone⟩ := h p hnew
  obtain ⟨haccept', hnone'⟩ := h' p hnew
  have hsame := haccept.trans haccept'.symm
  have hsame' := hnone.trans hnone'.symm
  cases hd : decides rules p with
  | none => exact (hsame'.mp hd).symm
  | some v =>
    cases v with
    | accept => exact (hsame.mp hd).symm
    | drop =>
      cases hd' : decides rules' p with
      | none => simp [hd, hd'] at hsame'
      | some v' =>
        cases v' with
        | accept => simp [hd, hd'] at hsame
        | drop => rfl

theorem upToDate_iff :
    UpToDate db gatewayID rules ↔ Enforces db gatewayID rules := by
  constructor
  · intro h p hnew
    rw [h .asListed _ rfl p hnew]
    exact enforces_fresh .asListed db gatewayID p hnew
  · intro h orders result hres p hnew
    obtain rfl := Option.some.inj hres
    exact h.decides_eq (enforces_fresh orders db gatewayID) hnew

theorem Enforces.iff_sameView (h : Enforces db gatewayID rules) :
    Enforces db' gatewayID rules ↔ SameView gatewayID db db' := by
  constructor
  · intro h'
    have hp : ∀ src dst, (db.Admits gatewayID src dst ↔ db'.Admits gatewayID src dst) ∧
        (db.Serves gatewayID src ↔ db'.Serves gatewayID src) := by
      intro src dst
      obtain ⟨haccept, hnone⟩ := h ⟨src, dst, "tcp", 0, .new⟩ rfl
      obtain ⟨haccept', hnone'⟩ := h' ⟨src, dst, "tcp", 0, .new⟩ rfl
      exact ⟨haccept.symm.trans haccept', not_iff_not.mp (hnone.symm.trans hnone')⟩
    exact ⟨fun src => (hp src 0).2, fun src dst => (hp src dst).1⟩
  · intro same p hnew
    obtain ⟨haccept, hnone⟩ := h p hnew
    exact ⟨haccept.trans (same.admits p.src p.dst), hnone.trans (not_congr (same.serves p.src))⟩

end View

def FreshCalls (db : Database) (calls : List HubCall) : Prop :=
  ∀ gatewayID config, .sendFirewallUpdate gatewayID config ∈ calls →
    ∃ orders, config = freshConfig orders db gatewayID

def SendsTo (gatewayID : Uuid) (calls : List HubCall) : Prop :=
  ∃ config, .sendFirewallUpdate gatewayID config ∈ calls

section Refresh

variable {n : NotifyEnv} (reliable : n.Reliable) (db : Database) (gatewayIDs : List Uuid)
include reliable

theorem send_mem_refresh (gatewayID : Uuid) (config : FirewallConfig) :
    .sendFirewallUpdate gatewayID config ∈ refreshFirewallForGateways n db gatewayIDs ↔
      gatewayID ∈ gatewayIDs ∧ config = freshConfig (n.orders gatewayID) db gatewayID := by
  unfold refreshFirewallForGateways
  simp only [List.mem_flatMap, build_reliable db reliable, sendFirewallResult,
    removeZTNABlockedPeers, List.mem_cons, List.mem_map, reduceCtorEq, and_false, exists_false,
    or_false, HubCall.sendFirewallUpdate.injEq]
  constructor
  · rintro ⟨g, hg, rfl, rfl⟩
    exact ⟨hg, rfl⟩
  · rintro ⟨hg, rfl⟩
    exact ⟨gatewayID, hg, rfl, rfl⟩

theorem freshCalls_refresh : FreshCalls db (refreshFirewallForGateways n db gatewayIDs) := by
  intro gatewayID config h
  exact ⟨_, ((send_mem_refresh reliable db gatewayIDs gatewayID config).mp h).2⟩

theorem sendsTo_refresh (gatewayID : Uuid) :
    SendsTo gatewayID (refreshFirewallForGateways n db gatewayIDs) ↔ gatewayID ∈ gatewayIDs := by
  simp only [SendsTo, send_mem_refresh reliable, exists_and_left, exists_eq, and_true]

end Refresh

variable {Key : Type} [DecidableEq Key] {env : AgentEnv Key} (reliable : env.fw.Reliable)
include reliable

variable {calls : List HubCall} {a : Agent Key} {h : Host}

theorem push_chain {db : Database} (gatewayID : Uuid) (fresh : FreshCalls db calls)
    (hfw : a.fw = some h) (wired : Wired h) :
    ∃ h', (handleEvents env (eventsFor gatewayID calls) a).fw = some h' ∧ Wired h' ∧
      ((SendsTo gatewayID calls ∧ ∃ orders, chain h' outpostChain =
          some (forwardRules (freshConfig orders db gatewayID))) ∨
        (¬ SendsTo gatewayID calls ∧ chain h' outpostChain = chain h outpostChain)) := by
  induction calls generalizing a h with
  | nil => exact ⟨h, hfw, wired, .inr ⟨fun ⟨_, hin⟩ => absurd hin List.not_mem_nil, rfl⟩⟩
  | cons call calls ih =>
    have hfresh : FreshCalls db calls :=
      fun g config hin => fresh g config (List.mem_cons_of_mem call hin)
    cases call with
    | broadcastPeerUpdate update =>
      have hsends : SendsTo gatewayID (.broadcastPeerUpdate update :: calls) ↔
          SendsTo gatewayID calls := by
        simp [SendsTo]
      have hkeep : (handleEvent env a (.peerUpdate update)).fw = some h := by
        rw [← hfw]
        simp only [handleEvent, handlePeerUpdate]
        split
        · rfl
        · split <;> rfl
      rw [hsends]
      exact ih hfresh hkeep wired
    | sendFirewallUpdate target config =>
      by_cases ht : target = gatewayID
      · subst ht
        obtain ⟨orders, rfl⟩ := fresh target config List.mem_cons_self
        have happlied : (handleEvent env a (.firewallUpdate
            (some (freshConfig orders db target)))).fw =
            some (FirewallManager.apply env.fw (some (freshConfig orders db target)) h).2 := by
          simp [handleEvent, handleFirewallUpdate, hfw]
        have hevents : eventsFor target
            (.sendFirewallUpdate target (freshConfig orders db target) :: calls) =
            .firewallUpdate (some (freshConfig orders db target)) :: eventsFor target calls := by
          simp [eventsFor, eventFor]
        obtain ⟨h', hfw', wired', hcase⟩ :=
          ih hfresh happlied (wired_apply reliable wired (some (freshConfig orders db target)))
        rw [hevents]
        refine ⟨h', hfw', wired', .inl ⟨⟨_, .head _⟩, ?_⟩⟩
        rcases hcase with ⟨_, hchain⟩ | ⟨_, hchain⟩
        · exact hchain
        · exact ⟨orders, hchain.trans (apply_forwardRules reliable wired _).1⟩
      · have hevents : eventsFor gatewayID (.sendFirewallUpdate target config :: calls) =
            eventsFor gatewayID calls := by
          simp [eventsFor, eventFor, ht]
        have hsends : SendsTo gatewayID (.sendFirewallUpdate target config :: calls) ↔
            SendsTo gatewayID calls := by
          simp [SendsTo, show gatewayID ≠ target from fun heq => ht heq.symm]
        rw [hevents, hsends]
        exact ih hfresh hfw wired

theorem push_upToDate {db db' : Database} {gatewayID : Uuid} (fresh : FreshCalls db' calls)
    (hfw : a.fw = some h) (wired : Wired h) {rules : List Rule}
    (hchain : chain h outpostChain = some rules) (hup : UpToDate db gatewayID rules) :
    ∃ h' rules', (handleEvents env (eventsFor gatewayID calls) a).fw = some h' ∧ Wired h' ∧
      chain h' outpostChain = some rules' ∧
      (UpToDate db' gatewayID rules' ↔
        SendsTo gatewayID calls ∨ SameView gatewayID db db') := by
  obtain ⟨h', hfw', wired', hcase⟩ := push_chain reliable gatewayID fresh hfw wired
  rcases hcase with ⟨hsends, orders, hnew⟩ | ⟨hsilent, hold⟩
  · refine ⟨h', _, hfw', wired', hnew, ?_⟩
    rw [upToDate_iff]
    exact ⟨fun _ => .inl hsends, fun _ => enforces_fresh orders db' gatewayID⟩
  · refine ⟨h', rules, hfw', wired', hold.trans hchain, ?_⟩
    rw [upToDate_iff, (upToDate_iff.mp hup).iff_sameView]
    exact ⟨.inr, fun h => h.resolve_left hsilent⟩

end Outpost
