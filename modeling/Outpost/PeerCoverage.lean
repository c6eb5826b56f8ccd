import Outpost.FirewallRefresh
import Outpost.GatewayHandler
import Outpost.PeerTables
import Outpost.S2SNotifier

/-!
# Default deny for every peer

Peers are broadcast to all gateways, while rules are computed for the gateways that a query finds.
A device without a rule for its address passes the chain undecided.
-/

namespace Outpost.PeerCoverage

open Iptables FirewallManager GatewayAgent PeerNotifier FirewallRefresh Runs

variable {Key : Type} [DecidableEq Key]

inductive Request where
  | device (r : PeerTables.Request)
  | deleteNetwork (id : Uuid)
  | updateGateway (id : Uuid) (req : GatewayHandler.UpdateRequest)

inductive Told where
  | push (pushed : Push)
  | networksChanged (gatewayID : Uuid)

def handle (henv : HandlerEnv) (db : Database) : Request → Except HandlerError (Database × Told)
  | .device r =>
    (PeerTables.handle db r).map fun res => (res.1, .push (res.2.elim .nothing .peer))
  | .deleteNetwork id => (NetworkHandler.delete henv db id).map fun res => (res.1, .push res.2)
  | .updateGateway id req => (GatewayHandler.update henv db id req).map fun res =>
      (res.1, res.2.elim (.push .nothing) .networksChanged)

structure TellEnv where
  peers : NotifyEnv
  s2s : S2SNotifier.Env

structure TellEnv.Reliable (n : TellEnv) : Prop where
  peers : n.peers.Reliable
  s2s : n.s2s.Reliable

def Told.events (n : TellEnv) (db : Database) (gatewayID : Uuid) : Told → List CoreEvent
  | .push pushed => eventsFor gatewayID (pushed.calls n.peers db)
  | .networksChanged changed =>
    (S2SNotifier.notifyGatewayNetworksChanged n.s2s db changed).sentTo gatewayID

structure State (Key : Type) where
  db : Database
  fleet : Fleet Key

section Steps

variable (henv : HandlerEnv) (env : AgentEnv Key)

inductive Step : State Key → Request → State Key → Prop where
  | handled {s : State Key} {r : Request} {db : Database} {told : Told} (n : TellEnv) :
      n.Reliable → handle henv s.db r = .ok (db, told) →
      Step s r ⟨db, s.fleet.receive env fun gatewayID => told.events n db gatewayID⟩
  | refused {s : State Key} {r : Request} {err : HandlerError} :
      handle henv s.db r = .error err → Step s r s

end Steps

def Covers (rules : List Rule) (d : Device) : Prop :=
  ∃ src, d.assignedIp = .v4 src ∧
    ∀ p : Packet, p.state = .new → p.src = src → (decides rules p).isSome = true

/-- The agent has its chains, and `OUTPOST-FWD` covers every device that is a peer. -/
def Denies (env : AgentEnv Key) (db : Database) (a : Agent Key) : Prop :=
  a.wg.isSome = true ∧ ∃ h rules, a.fw = some h ∧ Wired h ∧ chain h outpostChain = some rules ∧
    ∀ d ∈ db.devices, ∀ k, env.wg.parseKey d.wireguardPubkey = some k → HasPeer a k →
      Covers rules d

def DeniedByDefault (env : AgentEnv Key) (s : State Key) : Prop :=
  s.fleet.All fun _ a => Denies env s.db a

section Told

variable (env : AgentEnv Key) (db : Database)

def Told.Adds (gatewayID : Uuid) : Told → Key → Prop
  | .push pushed, k => ∃ pubkey allowedIPs, pushed = .peer (.peerAdd pubkey allowedIPs) ∧
      env.wg.parseKey pubkey = some k
  | .networksChanged changed, k => gatewayID ∈ db.tunnelNeighbours changed ∧
      ∃ pubkey, pubkey ≠ "" ∧ db.S2SKey gatewayID pubkey ∧ env.wg.parseKey pubkey = some k

def Told.Drops : Told → Key → Prop
  | .push pushed, k => ∃ pubkey, (pushed = .peer (.peerRemove pubkey) ∨
      ∃ gatewayID, Finds db gatewayID pushed ∧
        ∃ d ∈ db.devices, db.ZtnaBlocked gatewayID d ∧ d.wireguardPubkey = pubkey) ∧
      env.wg.parseKey pubkey = some k
  | .networksChanged _, _ => False

def Told.Refreshes (gatewayID : Uuid) : Told → Prop
  | .push pushed => Finds db gatewayID pushed
  | .networksChanged changed => changed = gatewayID

variable {env db} {n : TellEnv} (reliable : n.Reliable) (gatewayID : Uuid)
include reliable

theorem removal_mem_calls (push : Push) (pubkey : String) :
    .broadcastPeerUpdate (removal pubkey) ∈ push.calls n.peers db ↔
      push = .peer (.peerRemove pubkey) ∨ ∃ gatewayID, Finds db gatewayID push ∧
        ∃ d ∈ db.devices, db.ZtnaBlocked gatewayID d ∧ d.wireguardPubkey = pubkey := by
  cases push with
  | nothing => simp [Push.calls, Finds]
  | peer note =>
    cases note with
    | peerAdd pk ips =>
      have hadd : HubCall.broadcastPeerUpdate (removal pubkey) ≠
          .broadcastPeerUpdate (addition pk ips) := by
        simp [removal, addition]
      simp only [Push.calls, DeviceHandler.Notification.calls, notifyPeerAdd, List.mem_cons, hadd,
        false_or, findGatewaysForPeer, removal_mem_found reliable.peers, Finds,
        DeviceHandler.Notification.pubkey, Push.peer.injEq, reduceCtorEq]
    | peerRemove pk =>
      simp only [Push.calls, DeviceHandler.Notification.calls,
        removal_mem_notifyPeerRemove reliable.peers, Finds, DeviceHandler.Notification.pubkey,
        Push.peer.injEq, DeviceHandler.Notification.peerRemove.injEq, eq_comm]
  | user userID =>
    simp only [Push.calls, refreshFirewallForUser, removal_mem_found reliable.peers, Finds,
      reduceCtorEq, false_or]
  | group groupID =>
    simp only [Push.calls, refreshFirewallForGroup, removal_mem_found reliable.peers, Finds,
      reduceCtorEq, false_or]
  | gateways gatewayIDs =>
    simp only [Push.calls, removal_mem_refresh reliable.peers, Finds, reduceCtorEq, false_or]

variable {a : Agent Key}

theorem hasPeer_networksChanged (managed : a.wg.isSome = true) (changed : Uuid) (k : Key) :
    HasPeer (handleEvents env ((Told.networksChanged changed).events n db gatewayID) a) k ↔
      (Told.networksChanged changed).Adds env db gatewayID k ∨ HasPeer a k := by
  simp only [Told.events, S2SNotifier.networksChanged_sentTo db reliable.s2s, handleEvents_append]
  -- the firewall config leaves the peers alone
  generalize hevents : (if changed = gatewayID then
    [CoreEvent.firewallUpdate (some ⟨firewallRules noFaults (n.s2s.orders changed).firewall db changed,
      true, ""⟩)] else []) = events
  have hsame : HasPeer (handleEvents env events a) k ↔ HasPeer a k := by
    rw [← hevents]
    split <;> exact Iff.rfl
  by_cases hnear : gatewayID ∈ db.tunnelNeighbours changed
  · rw [if_pos hnear, S2SNotifier.hasPeer_tunnelUpdates reliable.s2s db gatewayID
      (by rw [managed_handleEvents, managed]), hsame]
    simp only [Told.Adds, hnear, true_and]
  · simp only [Told.Adds, hnear, false_and, false_or]
    exact hsame

omit reliable in
theorem isPush_calls {push : Push} (h : ∀ pubkey ips, push ≠ .peer (.peerAdd pubkey ips)) :
    ∀ call ∈ push.calls n.peers db, IsPush call := by
  cases push with
  | nothing => exact fun _ hin => absurd hin List.not_mem_nil
  | peer note =>
    cases note with
    | peerAdd pubkey ips => exact absurd rfl (h pubkey ips)
    | peerRemove pubkey => exact notifyPeerRemove_isPush n.peers db pubkey
  | _ => exact refresh_isPush n.peers db _

omit reliable in
theorem hasPeer_peerAdd {a : Agent Key} (managed : a.wg.isSome = true) (pubkey : String)
    (ips : List String) (k : Key) :
    HasPeer (handleEvents env (eventsFor gatewayID
        (Push.calls n.peers db (.peer (.peerAdd pubkey ips)))) a) k ↔
      (env.wg.parseKey pubkey = some k ∨ HasPeer a k) ∧ ∀ pk,
        .broadcastPeerUpdate (removal pk) ∈ Push.calls n.peers db (.peer (.peerAdd pubkey ips)) →
          env.wg.parseKey pk ≠ some k := by
  have hcalls : ∀ pk, .broadcastPeerUpdate (removal pk) ∈
      refreshFirewallForGateways n.peers db (findGatewaysForPeer n.peers db pubkey) ↔
      .broadcastPeerUpdate (removal pk) ∈ Push.calls n.peers db (.peer (.peerAdd pubkey ips)) := by
    simp [Push.calls, DeviceHandler.Notification.calls, notifyPeerAdd, removal, addition]
  change HasPeer (handleEvents env (eventsFor gatewayID (refreshFirewallForGateways n.peers db
    (findGatewaysForPeer n.peers db pubkey)))
      (handleEvent env a (.peerUpdate (addition pubkey ips)))) k ↔ _
  rw [hasPeer_push gatewayID (refresh_isPush n.peers db _)]
  simp only [hcalls]
  rw [addition, hasPeer_add managed]

theorem hasPeer_told (managed : a.wg.isSome = true) (told : Told) (k : Key) :
    HasPeer (handleEvents env (told.events n db gatewayID) a) k ↔
      (told.Adds env db gatewayID k ∨ HasPeer a k) ∧ ¬ told.Drops env db k := by
  cases told with
  | networksChanged changed =>
    rw [hasPeer_networksChanged reliable gatewayID managed]
    simp only [Told.Drops, not_false_eq_true, and_true]
  | push pushed =>
    have hdrops : (∀ pubkey, .broadcastPeerUpdate (removal pubkey) ∈ pushed.calls n.peers db →
        env.wg.parseKey pubkey ≠ some k) ↔ ¬ (Told.push pushed).Drops env db k := by
      simp only [removal_mem_calls reliable, Told.Drops, not_exists, not_and, ne_eq]
    rw [← hdrops]
    by_cases hadd : ∃ pubkey ips, pushed = .peer (.peerAdd pubkey ips)
    · obtain ⟨pubkey, ips, rfl⟩ := hadd
      rw [Told.events, hasPeer_peerAdd gatewayID managed]
      apply and_congr_left
      intro _
      simp [Told.Adds]
    · have hnone : ¬ (Told.push pushed).Adds env db gatewayID k := by
        intro ⟨pubkey, ips, heq, _⟩
        exact hadd ⟨pubkey, ips, heq⟩
      rw [or_iff_right hnone]
      exact hasPeer_push gatewayID (isPush_calls fun pubkey ips heq => hadd ⟨pubkey, ips, heq⟩) a k

theorem chain_told (quiet : env.fw.Reliable) (managed : a.wg.isSome = true) {h : Host}
    (hfw : a.fw = some h) (wired : Wired h) (told : Told) :
    ∃ h', (handleEvents env (told.events n db gatewayID) a).fw = some h' ∧ Wired h' ∧
      ((told.Refreshes db gatewayID ∧ ∃ orders, chain h' outpostChain =
          some (forwardRules (freshConfig orders db gatewayID))) ∨
        (¬ told.Refreshes db gatewayID ∧ chain h' outpostChain = chain h outpostChain)) := by
  cases told with
  | push pushed =>
    obtain ⟨fresh, hsends⟩ := calls_spec reliable.peers db pushed
    obtain ⟨h', hfw', wired', hcase⟩ := push_chain quiet gatewayID fresh hfw wired
    exact ⟨h', hfw', wired', by simpa only [Told.Refreshes, hsends] using hcase⟩
  | networksChanged changed =>
    -- one config for the changed gateway, then tunnels, which leave the chains alone
    have hcalls : eventsFor gatewayID [.sendFirewallUpdate changed
        (freshConfig (n.s2s.orders changed).firewall db changed)] =
        if changed = gatewayID then [.firewallUpdate (some
          (freshConfig (n.s2s.orders changed).firewall db changed))] else [] := by
      by_cases hg : changed = gatewayID
      · simp [eventsFor, eventFor, hg]
      · simp [eventsFor, eventFor, hg]
    have fresh : FreshCalls db [.sendFirewallUpdate changed
        (freshConfig (n.s2s.orders changed).firewall db changed)] := by
      intro g config hin
      obtain ⟨rfl, rfl⟩ := HubCall.sendFirewallUpdate.inj (List.mem_singleton.mp hin)
      exact ⟨_, rfl⟩
    have hsends : SendsTo gatewayID [.sendFirewallUpdate changed
        (freshConfig (n.s2s.orders changed).firewall db changed)] ↔ changed = gatewayID := by
      simp [SendsTo, eq_comm]
    obtain ⟨h', hfw', wired', hcase⟩ := push_chain quiet gatewayID fresh hfw wired
    refine ⟨h', ?_, wired', by simpa only [Told.Refreshes, hsends] using hcase⟩
    simp only [Told.events, S2SNotifier.networksChanged_sentTo db reliable.s2s, handleEvents_append]
    rw [hcalls] at hfw'
    rw [← hfw']
    split
    · exact S2SNotifier.fw_tunnelUpdates _ db gatewayID (by rw [managed_handleEvents, managed])
    · rfl

end Told

theorem covers_fresh_iff (orders : Orders) (db : Database) (gatewayID : Uuid) {d : Device}
    (hd : d ∈ db.devices) :
    Covers (forwardRules (freshConfig orders db gatewayID)) d ↔
      (∃ src, d.assignedIp = .v4 src) ∧ db.Listed gatewayID d := by
  have hdecides : ∀ p : Packet, p.state = .new →
      ((decides (forwardRules (freshConfig orders db gatewayID)) p).isSome = true ↔
        db.Serves gatewayID p.src) := by
    intro p hnew
    rw [Option.isSome_iff_ne_none, ne_eq, (enforces_fresh orders db gatewayID p hnew).2, not_not]
  constructor
  · intro ⟨src, hip, hall⟩
    obtain ⟨e, hl, he⟩ := (hdecides ⟨src, 0, "tcp", 0, .new⟩ rfl).mp (hall _ rfl rfl)
    obtain rfl := db.device_eq_of_assignedIp hd hl.1 (hip.trans he.symm)
    exact ⟨⟨src, hip⟩, hl⟩
  · intro ⟨⟨src, hip⟩, hl⟩
    refine ⟨src, hip, ?_⟩
    intro p hnew hsrc
    exact (hdecides p hnew).mpr ⟨d, hl, hip.trans (congrArg _ hsrc.symm)⟩

def ChainCovers (a : Agent Key) (d : Device) : Prop :=
  ∃ h rules, a.fw = some h ∧ chain h outpostChain = some rules ∧ Covers rules d

/-- Every device that is a peer afterwards is served by the gateway, if this gets a config, and is
covered by the present chain, if not. -/
def Safe (env : AgentEnv Key) (db : Database) (told : Told) (gatewayID : Uuid) (a : Agent Key) :
    Prop :=
  ∀ d ∈ db.devices, ∀ k, env.wg.parseKey d.wireguardPubkey = some k →
    told.Adds env db gatewayID k ∨ HasPeer a k → ¬ told.Drops env db k →
    (told.Refreshes db gatewayID → (∃ src, d.assignedIp = .v4 src) ∧ db.Listed gatewayID d) ∧
    (¬ told.Refreshes db gatewayID → ChainCovers a d)

def Cautious (henv : HandlerEnv) (env : AgentEnv Key) (s : State Key) (r : Request) : Prop :=
  ∀ db told, handle henv s.db r = .ok (db, told) → s.fleet.All (Safe env db told)

section Exact

variable {henv : HandlerEnv} {env : AgentEnv Key} (quiet : env.fw.Reliable)
include quiet

theorem denies_told_iff {db db' : Database} {a : Agent Key} (hdenies : Denies env db a) {n : TellEnv}
    (reliable : n.Reliable) (gatewayID : Uuid) (told : Told) :
    Denies env db' (handleEvents env (told.events n db' gatewayID) a) ↔
      Safe env db' told gatewayID a := by
  obtain ⟨managed, h, rules, hfw, wired, hchain, _⟩ := hdenies
  obtain ⟨h', hfw', wired', hcase⟩ := chain_told reliable gatewayID quiet managed hfw wired told
  have hmanaged : (handleEvents env (told.events n db' gatewayID) a).wg.isSome = true := by
    rw [managed_handleEvents, managed]
  -- it is enough to say what covering a device means in the chain afterwards
  have hiff : ∀ rules', chain h' outpostChain = some rules' →
      (Denies env db' (handleEvents env (told.events n db' gatewayID) a) ↔
        ∀ d ∈ db'.devices, ∀ k, env.wg.parseKey d.wireguardPubkey = some k →
          told.Adds env db' gatewayID k ∨ HasPeer a k → ¬ told.Drops env db' k → Covers rules' d) := by
    intro rules' hrules'
    constructor
    · intro ⟨_, h₁, rules₁, hfw₁, _, hchain₁, hcovers⟩ d hd k hk hgets hkept
      obtain rfl : h' = h₁ := Option.some.inj (hfw'.symm.trans hfw₁)
      obtain rfl : rules' = rules₁ := Option.some.inj (hrules'.symm.trans hchain₁)
      exact hcovers d hd k hk ((hasPeer_told reliable gatewayID managed told k).mpr ⟨hgets, hkept⟩)
    · intro hcovers
      refine ⟨hmanaged, h', rules', hfw', wired', hrules', ?_⟩
      intro d hd k hk hpeer
      obtain ⟨hgets, hkept⟩ := (hasPeer_told reliable gatewayID managed told k).mp hpeer
      exact hcovers d hd k hk hgets hkept
  rcases hcase with ⟨hrefreshes, orders, hfresh⟩ | ⟨hsilent, hsame⟩
  · rw [hiff _ hfresh]
    refine forall₂_congr fun d hd => forall₂_congr fun k _ => forall₂_congr fun _ _ => ?_
    rw [covers_fresh_iff orders db' gatewayID hd]
    exact ⟨fun hserved => ⟨fun _ => hserved, fun hnot => absurd hrefreshes hnot⟩,
      fun hboth => hboth.1 hrefreshes⟩
  · rw [hiff rules (hsame.trans hchain)]
    refine forall₂_congr fun d hd => forall₂_congr fun k _ => forall₂_congr fun _ _ => ?_
    constructor
    · intro hcovers
      exact ⟨fun hrefreshes => absurd hrefreshes hsilent, fun _ => ⟨h, rules, hfw, hchain, hcovers⟩⟩
    · intro hboth
      obtain ⟨h₁, rules₁, hfw₁, hchain₁, hcovers⟩ := hboth.2 hsilent
      obtain rfl : h = h₁ := Option.some.inj (hfw.symm.trans hfw₁)
      obtain rfl : rules = rules₁ := Option.some.inj (hchain.symm.trans hchain₁)
      exact hcovers

theorem denied_step {s t : State Key} {r : Request} (hstep : Step henv env s r t)
    (hs : DeniedByDefault env s) : DeniedByDefault env t ↔ Cautious henv env s r := by
  cases hstep with
  | refused herr =>
    refine iff_of_true hs ?_
    intro db told hok
    rw [herr] at hok
    cases hok
  | @handled db told n reliable hhandle =>
    have hall : DeniedByDefault env
        ⟨db, s.fleet.receive env fun gatewayID => told.events n db gatewayID⟩ ↔
        s.fleet.All (Safe env db told) := by
      unfold DeniedByDefault
      rw [Fleet.all_receive]
      exact forall₂_congr fun g a => forall_congr' fun hc =>
        denies_told_iff quiet (hs g a hc) reliable g told
    rw [hall]
    constructor
    · intro hsafe db₁ told₁ hhandle₁
      obtain ⟨rfl, rfl⟩ := Prod.mk.inj (Except.ok.inj (hhandle.symm.trans hhandle₁))
      exact hsafe
    · intro hcautious
      exact hcautious db told hhandle

/-- The runs in which every peer stays covered are exactly the runs of cautious requests. -/
theorem every_peer_covered_iff {s t : State Key} {requests : List Request}
    (hs : DeniedByDefault env s) :
    Run (Through (Step henv env) (DeniedByDefault env)) s requests t ↔
      Run (Guarded (Step henv env) (Cautious henv env)) s requests t :=
  Run.through_iff_guarded (fun _ _ _ hstep hi => denied_step quiet hstep hi) hs

end Exact

def ruledAgent (iface : WireGuard.Interface String) (db : Database) (gatewayID : Uuid) :
    Agent String :=
  ⟨some iface, some (FirewallManager.apply textKeys.fw
    (some (freshConfig .asListed db gatewayID)) startedHost).2⟩

theorem ruledAgent_chain (db : Database) (gatewayID : Uuid) :
    chain (FirewallManager.apply textKeys.fw (some (freshConfig .asListed db gatewayID))
      startedHost).2 outpostChain = some (forwardRules (freshConfig .asListed db gatewayID)) :=
  (apply_forwardRules textKeys_reliable startedHost_wired _).1

theorem ruledAgent_denies {iface : WireGuard.Interface String} {db : Database} {gatewayID : Uuid}
    (h : ∀ d ∈ db.devices, ∀ k, textKeys.wg.parseKey d.wireguardPubkey = some k →
      (iface k).isSome = true → (∃ src, d.assignedIp = .v4 src) ∧ db.Listed gatewayID d) :
    Denies textKeys db (ruledAgent iface db gatewayID) := by
  refine ⟨rfl, _, _, rfl, wired_apply textKeys_reliable startedHost_wired _,
    ruledAgent_chain db gatewayID, ?_⟩
  intro d hd k hk ⟨iface', hiface, hsome⟩
  obtain rfl : iface = iface' := Option.some.inj hiface
  exact (covers_fresh_iff .asListed db gatewayID hd).mpr (h d hd k hk hsome)

def approveLaptop : Request := .device (.device (.approve "laptop"))

def waiting (gatewayID : Uuid) : State String :=
  ⟨PeerTables.waitingDb, .one gatewayID (ruledAgent (fun _ => none) PeerTables.waitingDb gatewayID)⟩

theorem waiting_denied (gatewayID : Uuid) : DeniedByDefault textKeys (waiting gatewayID) := by
  refine (Fleet.all_one _ _).mpr (ruledAgent_denies ?_)
  intro d _ k _ hsome
  cases hsome

def labDb : Database :=
  { servedDb with
    networks := servedDb.networks ++ [⟨"lab", "lab", .v4 officeBlock, none, true⟩] }

def peeredIface : WireGuard.Interface String :=
  WireGuard.addMessagePeer textKeys.wg (fun _ => none)
    (addition "k" [host (laptop "k").assignedIp ++ "/32"]).peer

theorem peeredIface_peer : (peeredIface "k").isSome = true :=
  (WireGuard.addMessagePeer_isSome _ "k").mpr (.inl rfl)

def served : State String := ⟨labDb, .one "gw" (ruledAgent peeredIface labDb "gw")⟩

theorem served_denied : DeniedByDefault textKeys served := by
  refine (Fleet.all_one _ _).mpr (ruledAgent_denies ?_)
  intro d hd k _ _
  obtain rfl := List.mem_singleton.mp hd
  exact ⟨⟨_, rfl⟩, servedDb_listed⟩

def moveToLab : Request := .updateGateway "gw" ⟨none, none, none, none, none, ["lab"]⟩

def quietTell : TellEnv := ⟨quietNotify, S2SNotifier.quietEnv⟩

theorem quietTell_reliable : quietTell.Reliable :=
  ⟨quietNotify_reliable, S2SNotifier.quietEnv_reliable⟩

theorem uncovered {s : State String} (hs : DeniedByDefault textKeys s) {r : Request} {db : Database}
    {told : Told} (hhandle : handle plainHandlers s.db r = .ok (db, told))
    (hcareless : ¬ Cautious plainHandlers textKeys s r) :
    ∃ t, Step plainHandlers textKeys s r t ∧ ¬ DeniedByDefault textKeys t := by
  have hstep : Step plainHandlers textKeys s r _ := .handled quietTell quietTell_reliable hhandle
  exact ⟨_, hstep, fun ht => hcareless ((denied_step textKeys_reliable hstep hs).mp ht)⟩

/-- An approved laptop becomes a peer of a gateway without a rule for it, and a gateway that leaves
its network keeps the peer and loses the rule. -/
theorem peers_without_rules :
    (DeniedByDefault textKeys (waiting "annex") ∧
      ∃ t, Step plainHandlers textKeys (waiting "annex") approveLaptop t ∧
        ¬ DeniedByDefault textKeys t) ∧
    DeniedByDefault textKeys served ∧
      ∃ t, Step plainHandlers textKeys served moveToLab t ∧ ¬ DeniedByDefault textKeys t := by
  refine ⟨⟨waiting_denied "annex", ?_⟩, served_denied, ?_⟩
  · have hhandle : handle plainHandlers (waiting "annex").db approveLaptop =
        .ok (servedDb, .push (.peer PeerTables.approval)) := rfl
    refine uncovered (waiting_denied "annex") hhandle ?_
    intro hcautious
    have hsafe := hcautious _ _ hhandle "annex" _ (Fleet.connected_one _ _) (laptop "k")
      (.head _) "k" rfl (.inl ⟨_, _, rfl, rfl⟩)
    have hkept : ¬ (Told.push (.peer PeerTables.approval)).Drops textKeys servedDb "k" := by
      rintro ⟨pubkey, hremove | ⟨g, _, d, _, hblocked, _⟩, _⟩
      · cases hremove
      · exact Database.not_ztnaBlocked rfl rfl g d hblocked
    have hsilent : ¬ (Told.push (.peer PeerTables.approval)).Refreshes servedDb "annex" := by
      intro hfound
      obtain ⟨d, _, _, gn, hgn, hgw, _⟩ := (mem_peerGateways _ _ _).mp hfound
      obtain rfl := List.mem_singleton.mp hgn
      exact absurd hgw (by decide)
    obtain ⟨h, rules, hfw, hchain, src, hsrc, hcovers⟩ := (hsafe hkept).2 hsilent
    obtain rfl := Option.some.inj hfw
    obtain rfl := Option.some.inj
      ((ruledAgent_chain PeerTables.waitingDb "annex").symm.trans hchain)
    have hrow : Covers (forwardRules (freshConfig .asListed PeerTables.waitingDb "annex"))
        ((laptop "k").setApproved "laptop" false) := ⟨src, hsrc, hcovers⟩
    exact PeerTables.waitingDb_unlisted "annex" _
      ((covers_fresh_iff _ _ _ (.head _)).mp hrow).2
  · have hhandle : handle plainHandlers served.db moveToLab =
        .ok ((labDb.updateGateway "gw" (Gateway.set ⟨none, none, none, none, none, ["lab"]⟩)).replaceNetworks
          "gw" ["lab"], .networksChanged "gw") := rfl
    refine uncovered served_denied hhandle ?_
    intro hcautious
    have hsafe := hcautious _ _ hhandle "gw" _ (Fleet.connected_one _ _) (laptop "k")
      (.head _) "k" rfl (.inr ⟨_, rfl, peeredIface_peer⟩) (fun h => h)
    rcases (hsafe.1 rfl).2.2.2 with ⟨gn, hgn, _, hnet⟩ | ⟨g, hg, _, _, hnet⟩
    · obtain rfl := List.mem_singleton.mp hgn
      exact absurd hnet (by decide)
    · obtain rfl := List.mem_singleton.mp hg
      exact absurd hnet (by decide)

/-- The approval of the laptop is safe where the gateway serves it. -/
theorem approval_covered_at_office :
    ∃ t, Run (Through (Step plainHandlers textKeys) (DeniedByDefault textKeys)) (waiting "gw")
      [approveLaptop] t := by
  have hhandle : handle plainHandlers (waiting "gw").db approveLaptop =
      .ok (servedDb, .push (.peer PeerTables.approval)) := rfl
  have hstep : Step plainHandlers textKeys (waiting "gw") approveLaptop _ :=
    .handled quietTell quietTell_reliable hhandle
  refine ⟨_, (every_peer_covered_iff textKeys_reliable (waiting_denied "gw")).mpr
    (.single ⟨hstep, ?_⟩)⟩
  intro db told hhandle'
  obtain ⟨rfl, rfl⟩ := Prod.mk.inj (Except.ok.inj (hhandle.symm.trans hhandle'))
  refine (Fleet.all_one _ _).mpr ?_
  intro d hd k _ _ _
  obtain rfl := List.mem_singleton.mp hd
  refine ⟨fun _ => ⟨⟨_, rfl⟩, servedDb_listed⟩, ?_⟩
  intro hsilent
  exact absurd ((mem_peerGateways _ _ _).mpr ⟨laptop "k", .head _, rfl,
    officeDb_attached "k" []⟩) hsilent

end Outpost.PeerCoverage
