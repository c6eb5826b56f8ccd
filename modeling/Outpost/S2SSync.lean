import Outpost.S2SHandler
import Outpost.S2SPeers
import Outpost.Shared.Runs

/-!
# Keeping the site-to-site peers in step with the database

A notified gateway is sent all its tunnels again, which adds peers and replaces their prefixes but
removes none.
-/

namespace Outpost.S2SSync

open GatewayAgent WireGuard S2SHandler S2SPeers Runs

variable {Key : Type} [DecidableEq Key]

structure TellEnv where
  notifier : S2SNotifier.Env := {}
  memberQuery : Bool := false
  memberScan : Nat → Bool := fun _ => false
  memberRows : RangeOrder Uuid := .asListed

structure TellEnv.Reliable (t : TellEnv) : Prop where
  notifier : t.notifier.Reliable
  memberQuery : t.memberQuery = false
  memberScan : t.memberScan = fun _ => false

def notified (t : TellEnv) (db : Database) : Note → List String
  | .nobody => []
  | .gateway gatewayID => [gatewayID]
  | .members tunnelID => scanRows t.memberQuery t.memberScan (t.memberRows.visit
      ((db.s2sTunnelMembers.filter fun m => m.tunnelId = tunnelID).map S2STunnelMember.gatewayId))

def sends (t : TellEnv) (db : Database) (note : Note) : Sends :=
  (notified t db note).flatMap (S2SNotifier.notifyS2SUpdate t.notifier db)

def Told (db : Database) (gatewayID : Uuid) : Note → Prop
  | .nobody => False
  | .gateway target => target = gatewayID
  | .members tunnelID => db.MemberOf tunnelID gatewayID

section Told

variable {t : TellEnv} (reliable : t.Reliable) {db : Database}
include reliable

theorem mem_notified (gatewayID : Uuid) (note : Note) :
    gatewayID ∈ notified t db note ↔ Told db gatewayID note := by
  cases note with
  | nobody => simp [notified, Told]
  | gateway target => simp [notified, Told, eq_comm]
  | members tunnelID =>
    simp only [notified, reliable.memberQuery, reliable.memberScan, scanRows_noFaults,
      RangeOrder.mem_visit, List.mem_map, List.mem_filter, decide_eq_true_eq, Told,
      Database.MemberOf, and_assoc]

theorem notified_nodup (keyed : db.S2SKeyed) (note : Note) : (notified t db note).Nodup := by
  cases note with
  | nobody => exact List.nodup_nil
  | gateway target => exact List.nodup_singleton _
  | members tunnelID =>
    simp only [notified, reliable.memberQuery, reliable.memberScan, scanRows_noFaults]
    apply (t.memberRows.perm _).nodup_iff.mpr
    apply List.Nodup.of_map (fun gatewayID => (tunnelID, gatewayID))
    have hpairs : ((db.s2sTunnelMembers.filter fun m => m.tunnelId = tunnelID).map
        S2STunnelMember.gatewayId).map (fun gatewayID => (tunnelID, gatewayID)) =
        (db.s2sTunnelMembers.filter fun m => m.tunnelId = tunnelID).map
          fun m => (m.tunnelId, m.gatewayId) := by
      rw [List.map_map]
      apply List.map_congr_left
      intro m hm
      have htunnel : m.tunnelId = tunnelID := by simpa using (List.mem_filter.mp hm).2
      simp [htunnel]
    rw [hpairs]
    exact keyed.members.sublist (List.filter_sublist.map _)

theorem sends_told (keyed : db.S2SKeyed) {gatewayID : Uuid} {note : Note}
    (h : Told db gatewayID note) :
    (sends t db note).sentTo gatewayID = S2SNotifier.tunnelUpdates t.notifier db gatewayID := by
  unfold sends S2SNotifier.notifyS2SUpdate
  rw [Sends.sentTo_flatMap gatewayID (notified_nodup reliable keyed note),
    if_pos ((mem_notified reliable gatewayID note).mpr h)]

theorem sends_not_told (keyed : db.S2SKeyed) {gatewayID : Uuid} {note : Note}
    (h : ¬ Told db gatewayID note) : (sends t db note).sentTo gatewayID = [] := by
  unfold sends S2SNotifier.notifyS2SUpdate
  rw [Sends.sentTo_flatMap gatewayID (notified_nodup reliable keyed note),
    if_neg (mt (mem_notified reliable gatewayID note).mp h)]

end Told

variable {db db' : Database} {env : AgentEnv Key} {gatewayID : Uuid} {r : Request}
  {members : List String}

theorem effect_devices (h : Effect db db') : db'.devices = db.devices := by
  cases h <;> rfl

theorem keyed_joined (keyed : db.S2SKeyed) (m : S2STunnelMember) :
    (db.addTunnelMember m).S2SKeyed := by
  refine ⟨?_, keyed.gateways⟩
  unfold Database.addTunnelMember
  split
  · have hsame : (db.s2sTunnelMembers.map fun m' =>
        if m'.tunnelId = m.tunnelId ∧ m'.gatewayId = m.gatewayId then
          { m' with localSubnets := m.localSubnets }
        else m').map (fun m => (m.tunnelId, m.gatewayId)) =
        db.s2sTunnelMembers.map fun m => (m.tunnelId, m.gatewayId) := by
      rw [List.map_map]
      apply List.map_congr_left
      intro m' _
      dsimp only [Function.comp_apply]
      split <;> rfl
    rw [hsame]
    exact keyed.members
  · rename_i hnew
    rw [List.map_append, List.nodup_append]
    refine ⟨keyed.members, List.nodup_singleton _, ?_⟩
    intro x hx y hy heq
    obtain ⟨m', hm', rfl⟩ := List.mem_map.mp hx
    obtain rfl := List.mem_singleton.mp hy
    exact hnew ⟨m', hm', (Prod.mk.inj heq).1, (Prod.mk.inj heq).2⟩

theorem keyed_effect (h : Effect db db') (keyed : db.S2SKeyed) : db'.S2SKeyed := by
  cases h with
  | created t => exact ⟨keyed.members, keyed.gateways⟩
  | joined m => exact keyed_joined keyed m
  | routed r => exact ⟨keyed.members, keyed.gateways⟩
  | unrouted id tunnelID => exact ⟨keyed.members, keyed.gateways⟩
  | _ => exact ⟨keyed.members.sublist (List.filter_sublist.map _), keyed.gateways⟩

def DeviceKey (env : AgentEnv Key) (db : Database) (k : Key) : Prop :=
  ∃ d ∈ db.devices, env.wg.parseKey d.wireguardPubkey = some k

/-- The site-to-site peers on the interface are those of the gateway's configs with their prefixes,
and every other peer is a device. -/
structure InSync (env : AgentEnv Key) (db : Database) (gatewayID : Uuid) (a : Agent Key) :
    Prop where
  managed : a.wg.isSome = true
  installed : ∀ k nets, db.TunnelPeer env.wg gatewayID k nets → netsAt a k = some nets
  only : ∀ k, HasPeer a k → DeviceKey env db k ∨ ∃ nets, db.TunnelPeer env.wg gatewayID k nets

def Keeps (env : AgentEnv Key) (db db' : Database) (gatewayID : Uuid) : Prop :=
  ∀ k nets, db.TunnelPeer env.wg gatewayID k nets →
    DeviceKey env db k ∨ ∃ nets', db'.TunnelPeer env.wg gatewayID k nets'

section One

variable {env : AgentEnv Key} {db db' : Database} {gatewayID : Uuid} {a : Agent Key}

omit [DecidableEq Key] in
theorem deviceKey_congr (hdevices : db'.devices = db.devices) (k : Key) :
    DeviceKey env db' k ↔ DeviceKey env db k := by
  unfold DeviceKey
  rw [hdevices]

omit [DecidableEq Key] in
theorem inSync_grown_iff (h : InSync env db gatewayID a) (hdevices : db'.devices = db.devices)
    {a' : Agent Key} (managed : a'.wg.isSome = true) (hold : ∀ k, HasPeer a k → HasPeer a' k)
    (hnew : ∀ k, HasPeer a' k →
      (∃ nets, db'.TunnelPeer env.wg gatewayID k nets) ∨ HasPeer a k) :
    InSync env db' gatewayID a' ↔
      (∀ k nets, db'.TunnelPeer env.wg gatewayID k nets → netsAt a' k = some nets) ∧
        Keeps env db db' gatewayID := by
  constructor
  · intro h'
    refine ⟨h'.installed, ?_⟩
    intro k nets hpeer
    rw [← deviceKey_congr hdevices]
    exact h'.only k (hold k ((hasPeer_iff_netsAt _ k).mpr ⟨nets, h.installed k nets hpeer⟩))
  · intro ⟨hinstalled, hkeeps⟩
    refine ⟨managed, hinstalled, ?_⟩
    intro k hk
    rcases hnew k hk with htunnel | hk
    · exact .inr htunnel
    · rw [deviceKey_congr hdevices]
      rcases h.only k hk with hdevice | ⟨nets, hpeer⟩
      · exact .inl hdevice
      · exact hkeeps k nets hpeer

theorem inSync_told_iff (h : InSync env db gatewayID a) (keyed : db'.S2SKeyed)
    (hdevices : db'.devices = db.devices) {t : S2SNotifier.Env} (reliable : t.Reliable) :
    InSync env db' gatewayID (handleEvents env (S2SNotifier.tunnelUpdates t db' gatewayID) a) ↔
      Coherent (db'.TunnelPeer env.wg gatewayID) ∧ Keeps env db db' gatewayID := by
  obtain ⟨wg, fw⟩ := a
  obtain ⟨iface, rfl⟩ := Option.isSome_iff_exists.mp h.managed
  have hasked : db'.TunnelPeer env.wg gatewayID = Asked env.wg (S2SNotifier.keyedPeers
      (fetchS2STunnels {} (t.orders gatewayID) db' gatewayID)) :=
    funext fun k => funext fun nets => propext (asked_iff keyed _ gatewayID k nets).symm
  unfold S2SNotifier.tunnelUpdates S2SNotifier.buildS2SConfigs
  rw [S2SNotifier.handleEvents_addTunnels, reliable.faults]
  generalize S2SNotifier.keyedPeers (fetchS2STunnels {} (t.orders gatewayID) db' gatewayID) = peers
    at hasked
  have hhas : ∀ k, HasPeer (⟨some (peers.foldl (addMessagePeer env.wg) iface), fw⟩ : Agent Key) k ↔
      (∃ nets, db'.TunnelPeer env.wg gatewayID k nets) ∨ HasPeer (⟨some iface, fw⟩ : Agent Key) k := by
    intro k
    simp only [HasPeer, Option.some.injEq, exists_eq_left', foldl_isSome, hasked]
    apply or_congr_left
    constructor
    · rintro ⟨p, hp, hkey⟩
      exact ⟨_, p, hp, hkey, rfl⟩
    · rintro ⟨_, p, hp, hkey, _⟩
      exact ⟨p, hp, hkey⟩
  rw [inSync_grown_iff h hdevices rfl (fun k hk => (hhas k).mpr (.inr hk))
    (fun k hk => (hhas k).mp hk), hasked, ← foldl_asked_iff peers iface]
  rfl

omit [DecidableEq Key] in
theorem inSync_unchanged_iff (h : InSync env db gatewayID a) (hdevices : db'.devices = db.devices) :
    InSync env db' gatewayID a ↔
      (∀ k nets, db'.TunnelPeer env.wg gatewayID k nets → netsAt a k = some nets) ∧
        Keeps env db db' gatewayID :=
  inSync_grown_iff h hdevices h.managed (fun _ hk => hk) (fun _ hk => .inr hk)

end One

structure State (Key : Type) where
  db : Database
  fleet : Fleet Key

inductive Step (henv : S2SHandler.Env) (env : AgentEnv Key) :
    State Key → Request → State Key → Prop where
  | handled {s : State Key} {r : Request} {db : Database} {note : Note} (t : TellEnv) :
      t.Reliable → handle henv s.db r = .ok (db, note) →
      Step henv env s r ⟨db, s.fleet.receive env (sends t db note).sentTo⟩
  | refused {s : State Key} {r : Request} {err : HandlerError} :
      handle henv s.db r = .error err → Step henv env s r s

structure InStep (env : AgentEnv Key) (s : State Key) : Prop where
  keyed : s.db.S2SKeyed
  peers : s.fleet.All (InSync env s.db)

/-- When the gateway is notified, its peers can all be installed; otherwise, they are installed
already. -/
def Fits (env : AgentEnv Key) (db db' : Database) (note : Note) (gatewayID : Uuid)
    (a : Agent Key) : Prop :=
  Keeps env db db' gatewayID ∧
    (Told db' gatewayID note → Coherent (db'.TunnelPeer env.wg gatewayID)) ∧
    (¬ Told db' gatewayID note → ∀ k nets, db'.TunnelPeer env.wg gatewayID k nets →
      netsAt a k = some nets)

def Harmless (henv : S2SHandler.Env) (env : AgentEnv Key) (s : State Key) (r : Request) : Prop :=
  ∀ db note, handle henv s.db r = .ok (db, note) → s.fleet.All (Fits env s.db db note)

theorem inSync_iff_fits {t : TellEnv} (reliable : t.Reliable) (keyed : db'.S2SKeyed)
    (hdevices : db'.devices = db.devices) (note : Note) {a : Agent Key}
    (h : InSync env db gatewayID a) :
    InSync env db' gatewayID (handleEvents env ((sends t db' note).sentTo gatewayID) a) ↔
      Fits env db db' note gatewayID a := by
  unfold Fits
  by_cases htold : Told db' gatewayID note
  · rw [sends_told reliable keyed htold, inSync_told_iff h keyed hdevices reliable.notifier]
    simp [htold, and_comm]
  · rw [sends_not_told reliable keyed htold]
    change InSync env db' gatewayID a ↔ _
    rw [inSync_unchanged_iff h hdevices]
    simp [htold, and_comm]

theorem inStep_step {henv : S2SHandler.Env} {s t : State Key} (h : Step henv env s r t)
    (hs : InStep env s) : InStep env t ↔ Harmless henv env s r := by
  cases h with
  | @handled db note tell reliable hok =>
    have heffect := handle_effect hok
    have hkeyed := keyed_effect heffect hs.keyed
    have hall : (s.fleet.receive env (sends tell db note).sentTo).All (InSync env db) ↔
        s.fleet.All (Fits env s.db db note) := by
      rw [Fleet.all_receive]
      constructor
      · intro hsync gatewayID a ha
        exact (inSync_iff_fits reliable hkeyed (effect_devices heffect) note
          (hs.peers gatewayID a ha)).mp (hsync gatewayID a ha)
      · intro hfits gatewayID a ha
        exact (inSync_iff_fits reliable hkeyed (effect_devices heffect) note
          (hs.peers gatewayID a ha)).mpr (hfits gatewayID a ha)
    constructor
    · intro ht db' note' hok'
      obtain ⟨rfl, rfl⟩ := Prod.mk.inj (Except.ok.inj (hok.symm.trans hok'))
      exact hall.mp ht.peers
    · intro hharmless
      exact ⟨hkeyed, hall.mpr (hharmless db note hok)⟩
  | refused herr =>
    refine iff_of_true hs ?_
    intro db note hok
    rw [herr] at hok
    cases hok

/-- The runs that keep every connected gateway at the peers of its rows are exactly the runs whose
requests fit every connected gateway. -/
theorem s2s_peers_in_step_iff {henv : S2SHandler.Env} {env : AgentEnv Key} {s t : State Key}
    {requests : List Request} (hs : InStep env s) :
    Run (Through (Step henv env) (InStep env)) s requests t ↔
      Run (Guarded (Step henv env) (Harmless henv env)) s requests t :=
  Run.through_iff_guarded (fun _ _ _ h hi => inStep_step h hi) hs

def plainEnv : S2SHandler.Env := ⟨some, some, fun _ => none, some, true⟩

def site (name : String) : S2STunnelMember := ⟨"tunnel", name, [], some name, some name, 0⟩

def sitesDb (members : List String) : Database :=
  { Database.empty with
    gateways := [⟨"a", none, "", "", true, 0, 0, "a"⟩, ⟨"b", none, "", "", true, 0, 0, "b"⟩]
    s2sTunnels := [⟨"tunnel", "tunnel", "mesh", true, none⟩]
    s2sTunnelMembers := members.map site }

theorem sitesDb_keyed (nodup : members.Nodup) : (sitesDb members).S2SKeyed := by
  refine ⟨?_, show (["a", "b"] : List String).Nodup by decide⟩
  change ((members.map site).map fun m => (m.tunnelId, m.gatewayId)).Nodup
  rw [List.map_map]
  exact nodup.map fun x y h => (Prod.mk.inj h).2

theorem sitesDb_peer {gatewayID k : String} {nets : Finset Cidr}
    (h : (sitesDb members).TunnelPeer textKeys.wg gatewayID k nets) :
    gatewayID ∈ members ∧ k ∈ members ∧ k ≠ gatewayID ∧ nets = ∅ := by
  obtain ⟨t, _, _, ⟨m₀, hm₀, _, hself⟩, m, hm, g, _, _, hother, _, hne, hkey, hnets⟩ := h
  obtain ⟨self, hin₀, rfl⟩ := List.mem_map.mp hm₀
  obtain ⟨name, hin, rfl⟩ := List.mem_map.mp hm
  have hname : textKeys.wg.parseKey name = some name := if_neg hne
  obtain rfl : name = k := Option.some.inj (hname.symm.trans hkey)
  obtain rfl : self = gatewayID := hself
  exact ⟨hin₀, hin, hother, hnets.symm⟩

theorem sitesDb_peered : (sitesDb ["a", "b"]).TunnelPeer textKeys.wg "a" "b" ∅ :=
  ⟨_, .head _, rfl, ⟨site "a", .head _, rfl, rfl⟩,
    site "b", List.mem_cons_of_mem _ (.head _), _,
    List.mem_cons_of_mem _ (.head _), rfl, by decide, rfl, by decide, rfl, rfl⟩

theorem alone_inStep : InStep textKeys ⟨sitesDb ["a"], .one gatewayID freshAgent⟩ where
  keyed := sitesDb_keyed (List.nodup_singleton _)
  peers := by
    refine (Fleet.all_one _ _).mpr ⟨rfl, ?_, ?_⟩
    · intro k nets hpeer
      obtain ⟨hself, hk, hne, _⟩ := sitesDb_peer hpeer
      exact absurd ((List.mem_singleton.mp hk).trans (List.mem_singleton.mp hself).symm) hne
    · intro k ⟨iface, hiface, hk⟩
      obtain rfl := Option.some.inj hiface
      cases hk

def metAgent : Agent String := ⟨some fun k => if k = "b" then some ⟨∅, none⟩ else none, none⟩

theorem met_inStep : InStep textKeys ⟨sitesDb ["a", "b"], .one "a" metAgent⟩ where
  keyed := sitesDb_keyed (by decide)
  peers := by
    refine (Fleet.all_one _ _).mpr ⟨rfl, ?_, ?_⟩
    · intro k nets hpeer
      obtain ⟨_, hk, hne, rfl⟩ := sitesDb_peer hpeer
      rcases List.mem_cons.mp hk with rfl | hk
      · exact absurd rfl hne
      · obtain rfl := List.mem_singleton.mp hk
        rfl
    · intro k ⟨iface, hiface, hk⟩
      obtain rfl := Option.some.inj hiface
      by_cases hb : k = "b"
      · subst hb
        exact .inr ⟨∅, sitesDb_peered⟩
      · simp [hb] at hk

theorem not_inStep_of_handled {s : State String} (hs : InStep textKeys s) {note : Note}
    (hok : handle plainEnv s.db r = .ok (db, note)) (hharm : ¬ Harmless plainEnv textKeys s r) :
    ∃ t, Step plainEnv textKeys s r t ∧ ¬ InStep textKeys t := by
  have hstep : Step plainEnv textKeys s r _ :=
    .handled {} ⟨S2SNotifier.quietEnv_reliable, rfl, rfl⟩ hok
  exact ⟨_, hstep, mt (inStep_step hstep hs).mp hharm⟩

/-- A member does not learn of one that joins, and keeps the peers of a deleted tunnel. -/
theorem joined_unknown_deleted_kept :
    (InStep textKeys ⟨sitesDb ["a"], .one "a" freshAgent⟩ ∧
      ∃ t, Step plainEnv textKeys ⟨sitesDb ["a"], .one "a" freshAgent⟩
          (.addMember "tunnel" ⟨"b", [], some "b"⟩) t ∧ ¬ InStep textKeys t) ∧
    (InStep textKeys ⟨sitesDb ["a", "b"], .one "a" metAgent⟩ ∧
      ∃ t, Step plainEnv textKeys ⟨sitesDb ["a", "b"], .one "a" metAgent⟩ (.delete "tunnel") t ∧
        ¬ InStep textKeys t) := by
  refine ⟨⟨alone_inStep, ?_⟩, met_inStep, ?_⟩
  · have hok : handle plainEnv (sitesDb ["a"]) (.addMember "tunnel" ⟨"b", [], some "b"⟩) =
        .ok (sitesDb ["a", "b"], .gateway "b") := rfl
    refine not_inStep_of_handled alone_inStep hok ?_
    intro hharmless
    have hfits := hharmless _ _ hok "a" _ (Fleet.connected_one _ _)
    have hsilent : ¬ Told (sitesDb ["a", "b"]) "a" (.gateway "b") :=
      show ¬ "b" = "a" by decide
    have hnets := hfits.2.2 hsilent "b" ∅ sitesDb_peered
    cases hnets
  · have hok : handle plainEnv (sitesDb ["a", "b"]) (.delete "tunnel") =
        .ok ((sitesDb ["a", "b"]).deleteTunnel "tunnel", .nobody) := rfl
    refine not_inStep_of_handled met_inStep hok ?_
    intro hharmless
    have hfits := hharmless _ _ hok "a" _ (Fleet.connected_one _ _)
    rcases hfits.1 "b" ∅ sitesDb_peered with ⟨d, hd, _⟩ | ⟨_, t, ht, _⟩
    · cases hd
    · exact absurd ht List.not_mem_nil

/-- The gateway that joins learns of the others. -/
theorem joining_gateway_learns :
    InStep textKeys ⟨sitesDb ["a"], .one "b" freshAgent⟩ ∧
    ∃ t, Run (Through (Step plainEnv textKeys) (InStep textKeys))
      ⟨sitesDb ["a"], .one "b" freshAgent⟩ [.addMember "tunnel" ⟨"b", [], some "b"⟩] t := by
  have hok : handle plainEnv (sitesDb ["a"]) (.addMember "tunnel" ⟨"b", [], some "b"⟩) =
      .ok (sitesDb ["a", "b"], .gateway "b") := rfl
  have hstep : Step plainEnv textKeys ⟨sitesDb ["a"], .one "b" freshAgent⟩
      (.addMember "tunnel" ⟨"b", [], some "b"⟩) _ :=
    .handled {} ⟨S2SNotifier.quietEnv_reliable, rfl, rfl⟩ hok
  refine ⟨alone_inStep, _, (s2s_peers_in_step_iff alone_inStep).mpr (.single ⟨hstep, ?_⟩)⟩
  intro db note hok'
  obtain ⟨rfl, rfl⟩ := Prod.mk.inj (Except.ok.inj (hok.symm.trans hok'))
  refine (Fleet.all_one _ _).mpr ⟨?_, ?_, ?_⟩
  · intro k nets hpeer
    exact absurd (List.mem_singleton.mp (sitesDb_peer hpeer).1) (by decide)
  · intro _
    refine ⟨?_, ?_⟩
    · intro k nets nets' h h'
      rw [(sitesDb_peer h).2.2.2, (sitesDb_peer h').2.2.2]
    · intro k k' nets nets' h _ _
      rw [(sitesDb_peer h).2.2.2]
      exact Finset.disjoint_empty_left _
  · intro htold
    exact absurd rfl htold

end Outpost.S2SSync
