import Outpost.DeviceConfig
import Outpost.FirewallView
import Outpost.Shared.KeyedRows

/-!
# Routes of a client and rules of its gateway

The routes of a downloaded configuration come from the entries of the owner's ACLs; the rules of the
gateway accept the networks on which the owner's groups have an ACL, whatever its entries are.
-/

namespace Outpost.DeviceConfig

open Iptables FirewallManager GatewayAgent

def Covers (allowedIPs : List String) (x : BitVec 32) : Prop :=
  ∃ cidr ∈ allowedIPs, ∃ p, parseAddress cidr = some p ∧ p.contains x = true

def ConfigEnv.ReadsAcls (env : ConfigEnv) : Prop :=
  env.aclQuery = false ∧ ∀ i, env.aclScan i = false

theorem covers_text (c : Cidr) (x : BitVec 32) :
    (∃ p, parseAddress c.text = some p ∧ p.contains x = true) ↔ c.contains4 x = true := by
  cases c with
  | v4 p => simp [parseAddress_text, Cidr.contains4]
  | v6 p => simp [parseAddress_text_v6, Cidr.contains4]

section Routes

variable (db : Database) (d : Device)

def Route (c : Cidr) : Prop :=
  ∃ n ∈ db.networks, n.isActive = true ∧ ∃ a, db.OwnerAcl d n a ∧
    ((a.allowedIps ≠ wildcard ∧ c ∈ a.allowedIps) ∨ (a.allowedIps = wildcard ∧ c = n.address))

theorem mem_aclRoutes (text : String) :
    text ∈ aclRoutes db d.userId ↔ ∃ c, Route db d c ∧ c.text = text := by
  unfold aclRoutes
  simp only [List.mem_dedup, List.mem_append, List.mem_flatMap, List.mem_ite_nil_right,
    List.mem_map, List.mem_singleton]
  constructor
  · intro h
    rcases h with ⟨a, ha, ug, hug, n, hn, ⟨hgroup, hnet, huser, hactive, hlist⟩, c, hc, htext⟩ |
      ⟨a, ha, ug, hug, n, hn, ⟨hgroup, hnet, huser, hactive, hwild⟩, htext⟩
    · exact ⟨c, ⟨n, hn, hactive, a, ⟨ha, hnet.symm, ug, hug, huser, hgroup⟩, .inl ⟨hlist, hc⟩⟩,
        htext⟩
    · exact ⟨n.address, ⟨n, hn, hactive, a, ⟨ha, hnet.symm, ug, hug, huser, hgroup⟩,
        .inr ⟨hwild, rfl⟩⟩, htext.symm⟩
  · intro ⟨c, ⟨n, hn, hactive, a, ⟨ha, hnet, ug, hug, huser, hgroup⟩, hkind⟩, htext⟩
    rcases hkind with ⟨hlist, hc⟩ | ⟨hwild, rfl⟩
    · exact .inl ⟨a, ha, ug, hug, n, hn, ⟨hgroup, hnet.symm, huser, hactive, hlist⟩, c, hc, htext⟩
    · exact .inr ⟨a, ha, ug, hug, n, hn, ⟨hgroup, hnet.symm, huser, hactive, hwild⟩, htext.symm⟩

variable {db d} {env : ConfigEnv}

theorem covers_resolveAllowedIPs (hreads : env.ReadsAcls) (fallback : Cidr) (x : BitVec 32) :
    Covers (resolveAllowedIPs env db d.userId fallback.text) x ↔
      (∃ c, Route db d c ∧ c.contains4 x = true) ∨
        ((∀ c, ¬ Route db d c) ∧ fallback.contains4 x = true) := by
  have hrows : scanRows false env.aclScan (env.aclRows.visit (aclRoutes db d.userId)) =
      env.aclRows.visit (aclRoutes db d.userId) := by
    rw [funext hreads.2, scanRows_noFaults]
  have hmem : ∀ text, text ∈ env.aclRows.visit (aclRoutes db d.userId) ↔
      ∃ c, Route db d c ∧ c.text = text := by
    intro text
    rw [RangeOrder.mem_visit, mem_aclRoutes]
  unfold resolveAllowedIPs
  rw [hreads.1, hrows]
  cases hcidrs : env.aclRows.visit (aclRoutes db d.userId) with
  | nil =>
    rw [hcidrs] at hmem
    have hnone : ∀ c, ¬ Route db d c :=
      fun c hc => List.not_mem_nil ((hmem c.text).mpr ⟨c, hc, rfl⟩)
    constructor
    · intro ⟨cidr, hcidr, hcovers⟩
      obtain rfl := List.mem_singleton.mp hcidr
      exact .inr ⟨hnone, (covers_text fallback x).mp hcovers⟩
    · intro h
      rcases h with ⟨c, hc, _⟩ | ⟨_, hx⟩
      · exact absurd hc (hnone c)
      · exact ⟨fallback.text, .head _, (covers_text fallback x).mpr hx⟩
  | cons first rest =>
    rw [hcidrs] at hmem
    constructor
    · intro ⟨cidr, hcidr, hcovers⟩
      obtain ⟨c, hc, rfl⟩ := (hmem cidr).mp hcidr
      exact .inl ⟨c, hc, (covers_text c x).mp hcovers⟩
    · intro h
      rcases h with ⟨c, hc, hx⟩ | ⟨hnone, _⟩
      · exact ⟨c.text, (hmem c.text).mpr ⟨c, hc, rfl⟩, (covers_text c x).mpr hx⟩
      · obtain ⟨c, hc, _⟩ := (hmem first).mp List.mem_cons_self
        exact absurd hc (hnone c)

end Routes

section Accepts

variable {db : Database} {gatewayID : Uuid} {d : Device}

def Granted (db : Database) (d : Device) (x : BitVec 32) : Prop :=
  ∃ m, db.Grants d m ∧ m.address.contains4 x = true

variable {result : FirewallResult}

theorem accepts_iff (orders : Orders) (hd : d ∈ db.devices) (hkeyed : Database.Keyed d)
    (hattached : db.Attached gatewayID d) (hfree : ¬ db.ZtnaBlocked gatewayID d)
    (hbuild : buildFirewallConfigFromPool noFaults orders db gatewayID = some result) {p : Packet}
    (hnew : p.state = .new) (hsrc : d.assignedIp = .v4 p.src) :
    decides (forwardRules result.config) p = some .accept ↔ Granted db d p.dst := by
  obtain rfl := Option.some.inj hbuild
  have hlisted : db.Listed gatewayID d := ⟨hd, hkeyed, .inl hattached⟩
  refine (enforces_fresh orders db gatewayID p hnew).1.trans ?_
  constructor
  · intro ⟨e, hl, hip, _, _, hgranted⟩
    obtain rfl := db.device_eq_of_assignedIp hl.1 hd (hip.trans hsrc.symm)
    exact hgranted
  · intro hgranted
    exact ⟨d, hlisted, hsrc, hattached, hfree, hgranted⟩

theorem accepted_iff_granted (orders : Orders) {src : BitVec 32} (hd : d ∈ db.devices)
    (hkeyed : Database.Keyed d) (hattached : db.Attached gatewayID d)
    (hfree : ¬ db.ZtnaBlocked gatewayID d) (hsrc : d.assignedIp = .v4 src)
    (hbuild : buildFirewallConfigFromPool noFaults orders db gatewayID = some result)
    (x : BitVec 32) :
    (∀ p : Packet, p.state = .new → p.src = src → p.dst = x →
      decides (forwardRules result.config) p = some .accept) ↔ Granted db d x := by
  constructor
  · intro h
    have hp := h ⟨src, x, "tcp", 0, .new⟩ rfl rfl rfl
    exact (accepts_iff orders hd hkeyed hattached hfree hbuild rfl hsrc).mp hp
  · intro h p hnew hpsrc hdst
    subst hpsrc hdst
    exact (accepts_iff orders hd hkeyed hattached hfree hbuild hnew hsrc).mpr h

end Accepts

theorem downloaded_covers {env : ConfigEnv} {t : DeviceRecords} {d : Device}
    {claims : Option Claims} {res : InterfaceConfig × List (Gateway × Int) × String}
    (hreads : env.ReadsAcls) (hd : d ∈ t.db.devices)
    (hdownload : downloadInterface env t d.id claims = .ok res) :
    ∃ n, networkOf env t d.networkId = some n ∧
      ∀ x, Covers (res.1.peers.flatMap PeerConfig.allowedIPs) x ↔
        (∃ c, Route t.db d c ∧ c.contains4 x = true) ∨
          ((∀ c, ¬ Route t.db d c) ∧ n.address.contains4 x = true) := by
  obtain ⟨d', n, g, port, privateKey, hd', hn, _, _, _, hcfg⟩ := downloadInterface_spec hdownload
  have hfind := (KeyedRows.find?_eq_some t.db.device_id_unique).mpr ⟨hd, rfl⟩
  obtain rfl : d = d' := Option.some.inj (hfind.symm.trans hd')
  refine ⟨n, hn, ?_⟩
  intro x
  rw [hcfg, ← covers_resolveAllowedIPs hreads n.address x]
  simp [interfaceConfig]

/-- The gateway accepts what the downloaded configuration routes exactly when each entry of the
owner's ACLs lies in granted networks, and so does the network routed for want of entries. -/
theorem routes_accepted_iff {env : ConfigEnv} {t : DeviceRecords} {gatewayID : Uuid} {d : Device}
    {claims : Option Claims} {src : BitVec 32} {orders : Orders} {result : FirewallResult}
    {res : InterfaceConfig × List (Gateway × Int) × String} (hreads : env.ReadsAcls)
    (hd : d ∈ t.db.devices) (hkeyed : Database.Keyed d) (hattached : t.db.Attached gatewayID d)
    (hfree : ¬ t.db.ZtnaBlocked gatewayID d) (hsrc : d.assignedIp = .v4 src)
    (hbuild : buildFirewallConfigFromPool noFaults orders t.db gatewayID = some result)
    (hdownload : downloadInterface env t d.id claims = .ok res) :
    (∀ p : Packet, p.state = .new → p.src = src →
        Covers (res.1.peers.flatMap PeerConfig.allowedIPs) p.dst →
        decides (forwardRules result.config) p = some .accept) ↔
      (∀ n ∈ t.db.networks, n.isActive = true → ∀ a, t.db.OwnerAcl d n a → a.allowedIps ≠ wildcard →
        ∀ c ∈ a.allowedIps, ∀ x, c.contains4 x = true → Granted t.db d x) ∧
      ((∀ c, ¬ Route t.db d c) → ∀ n, networkOf env t d.networkId = some n →
        ∀ x, n.address.contains4 x = true → Granted t.db d x) := by
  obtain ⟨n, hn, hroutes⟩ := downloaded_covers hreads hd hdownload
  have haccepts := accepted_iff_granted orders hd hkeyed hattached hfree hsrc hbuild
  constructor
  · intro h
    have hgranted : ∀ x, Covers (res.1.peers.flatMap PeerConfig.allowedIPs) x →
        Granted t.db d x := by
      intro x hx
      refine (haccepts x).mp ?_
      intro p hnew hpsrc hdst
      exact h p hnew hpsrc (hdst ▸ hx)
    constructor
    · intro m hm hactive a ha hlist c hc x hx
      exact hgranted x ((hroutes x).mpr
        (.inl ⟨c, ⟨m, hm, hactive, a, ha, .inl ⟨hlist, hc⟩⟩, hx⟩))
    · intro hnone m hm x hx
      obtain rfl := Option.some.inj (hn.symm.trans hm)
      exact hgranted x ((hroutes x).mpr (.inr ⟨hnone, hx⟩))
  · intro ⟨hlisted, hfallback⟩ p hnew hpsrc hx
    refine (haccepts p.dst).mpr ?_ p hnew hpsrc rfl
    rcases (hroutes p.dst).mp hx with ⟨c, ⟨m, hm, hactive, a, ha, hkind⟩, hcontains⟩ |
      ⟨hnone, hcontains⟩
    · rcases hkind with ⟨hlist, hc⟩ | ⟨_, rfl⟩
      · exact hlisted m hm hactive a ha hlist c hc p.dst hcontains
      -- a wildcard routes the network itself, which its ACL grants
      · exact ⟨m, ⟨hm, hactive, .inl ⟨a, ha⟩⟩, hcontains⟩
    · exact hfallback hnone n hn p.dst hcontains

def officeGateway : Gateway := ⟨"gw", none, "gkey", "gw:51820", true, 0, 0, "gw"⟩

/-- The laptop's key was made by the server; with `acls`, its owner has the wildcard ACL. -/
def officeTables (acls : Bool) : DeviceRecords where
  db := { officeDb "k" wildcard with
    gateways := [officeGateway]
    networkAcls := if acls then [⟨"acl", "office", "staff", wildcard⟩] else [] }
  deviceColumns := fun _ => ⟨"laptop", some "private", none, 0, 0⟩
  networkColumns := fun _ => ⟨[], 51820, 0⟩
  gatewayColumns := fun _ => ⟨none, "healthy"⟩

def keyEnv : ConfigEnv where
  publicKey := fun _ => some "k"

def laptopConfig : InterfaceConfig :=
  ⟨"private", "10.0.0.2/8", 0, ["1.1.1.1", "8.8.8.8"], 0,
    [⟨"gkey", ["10.0.0.0/8"], "gw:51820", "", 25⟩]⟩

theorem download_office (acls : Bool) :
    downloadInterface keyEnv (officeTables acls) "laptop" (some ⟨"alice", false⟩) =
      .ok (laptopConfig, [(officeGateway, 51820)], "k") := by
  cases acls
  · decide +kernel
  · decide +kernel

theorem laptopConfig_covers :
    Covers (laptopConfig.peers.flatMap PeerConfig.allowedIPs) 0x0A000003#32 :=
  ⟨"10.0.0.0/8", .head _, officeBlock, by decide, by decide⟩

theorem office_not_blocked (acls : Bool) : ¬ (officeTables acls).db.ZtnaBlocked "gw" (laptop "k") :=
  Database.not_ztnaBlocked rfl rfl "gw" (laptop "k")

theorem wildcard_route_accepted : ∃ result,
    buildFirewallConfigFromPool noFaults .asListed (officeTables true).db "gw" = some result ∧
    Covers (laptopConfig.peers.flatMap PeerConfig.allowedIPs) 0x0A000003#32 ∧
    decides (forwardRules result.config) ⟨0x0A000002#32, 0x0A000003#32, "tcp", 22, .new⟩ =
      some .accept := by
  have hbuild : buildFirewallConfigFromPool noFaults .asListed
      (officeTables true).db "gw" = some _ := rfl
  have hattached : (officeTables true).db.Attached "gw" (laptop "k") :=
    ⟨⟨"gw", "office"⟩, .head _, rfl, rfl⟩
  have hkeyed : Database.Keyed (laptop "k") := ⟨rfl, by decide⟩
  refine ⟨_, hbuild, laptopConfig_covers, ?_⟩
  have haccepted := routes_accepted_iff ⟨rfl, fun _ => rfl⟩ (List.mem_singleton_self (laptop "k"))
    hkeyed hattached (office_not_blocked true) rfl hbuild (download_office true)
  refine haccepted.mpr ⟨?_, ?_⟩ ⟨0x0A000002#32, 0x0A000003#32, "tcp", 22, .new⟩ rfl rfl
    laptopConfig_covers
  · intro n _ _ a ha hlist
    obtain rfl := List.mem_singleton.mp ha.1
    exact absurd rfl hlist
  · intro hnone
    refine absurd ?_ (hnone (.v4 officeBlock))
    exact ⟨_, .head _, rfl, ⟨"acl", "office", "staff", wildcard⟩,
      ⟨.head _, rfl, ⟨"alice", "staff"⟩, .head _, rfl, rfl⟩,
      .inr ⟨rfl, rfl⟩⟩

/-- Without ACLs the whole office is routed into the tunnel, and dropped at its end. -/
theorem fallback_route_dropped : ∃ result,
    downloadInterface keyEnv (officeTables false) (laptop "k").id (some ⟨"alice", false⟩) =
      .ok (laptopConfig, [(officeGateway, 51820)], "k") ∧
    laptop "k" ∈ (officeTables false).db.devices ∧ Database.Keyed (laptop "k") ∧
    ¬ (officeTables false).db.OwnerIsAdmin (laptop "k") ∧
    (officeTables false).db.Attached "gw" (laptop "k") ∧
    ¬ (officeTables false).db.ZtnaBlocked "gw" (laptop "k") ∧
    buildFirewallConfigFromPool noFaults .asListed (officeTables false).db "gw" = some result ∧
    Covers (laptopConfig.peers.flatMap PeerConfig.allowedIPs) 0x0A000003#32 ∧
    decides (forwardRules result.config) ⟨0x0A000002#32, 0x0A000003#32, "tcp", 22, .new⟩ =
      some .drop := by
  refine ⟨_, download_office false, .head _, ⟨rfl, by decide⟩, ?_,
    ⟨⟨"gw", "office"⟩, .head _, rfl, rfl⟩, office_not_blocked false, rfl,
    laptopConfig_covers, ?_⟩
  · exact officeDb_owner_not_admin "k" wildcard
  · decide +kernel

end Outpost.DeviceConfig
