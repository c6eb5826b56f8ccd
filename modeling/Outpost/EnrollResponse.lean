import Outpost.DeviceConfig
import Outpost.Shared.RowOrder

/-!
# The answer to an enrollment

`enroll` answers with the address of the device, the gateway of the first row, and all rows of
the query for failover, which joins every active gateway with every active network it has.
-/

namespace Outpost.Enrollment

open DeviceConfig DeviceHandler

structure EnrollResponse where
  deviceID : Uuid
  address : String
  dns : List String
  (endpoint serverPublicKey : String)
  allowedIPs : List String
  persistentKeepalive : Nat
  gateways : List GatewayEndpoint
deriving DecidableEq

section Handler

variable (env : EnrollEnv) (t : DeviceRecords)

def enrollRows (db : Database) : List (Gateway × Network) :=
  scanRows false env.gatewayScan ((env.gatewayRows.visit db.enrollQuery).mergeSort enrollsBefore)

def enrollResponse (rows : List (Gateway × Network)) (row : Gateway × Network) (d : Device) :
    EnrollResponse where
  deviceID := d.id
  address := clientAddress d row.2
  dns := dnsOf t row.2
  endpoint := clientEndpoint t row.1 (t.networkColumns row.2.id).port
  serverPublicKey := row.1.wireguardPubkey
  allowedIPs := [row.2.address.text]
  persistentKeepalive := 25
  gateways := rows.map fun r => gatewayEndpoint t r.1 (t.networkColumns r.2.id).port

def enrollAnswer (req : EnrollRequest) (res : Database × Option Notification) :
    Except HandlerError (Nat × EnrollResponse) :=
  match primary env t.db, res.1.devices.find? fun d => d.wireguardPubkey = req.wireguardPubkey with
  | some row, some d =>
    .ok (if res.2.isSome then 201 else 200, enrollResponse t (enrollRows env t.db) row d)
  | _, _ => .error ⟨500, "failed to look up existing device"⟩

def enrollDevice (now : Nat) (req : EnrollRequest) (claims : Option Claims) :
    Except HandlerError (DeviceRecords × Option Notification × Nat × EnrollResponse) :=
  match enroll env t.db req claims with
  | .error e => .error e
  | .ok res =>
    match enrollAnswer env t req res with
    | .error e => .error e
    | .ok answer =>
      .ok (if res.2.isSome then t.insert res.1 now env.newID req.name none else t, res.2, answer)

end Handler

section Spec

variable {env : EnrollEnv} {t t' : DeviceRecords} {now status : Nat} {req : EnrollRequest}
  {claims : Option Claims} {note : Option Notification} {response : EnrollResponse}

theorem enrollRows_perm (hscans : ∀ i, env.gatewayScan i = false) (db : Database) :
    (enrollRows env db).Perm db.enrollQuery := by
  unfold enrollRows
  rw [funext hscans, scanRows_noFaults]
  exact RangeOrder.sorted_perm enrollsBefore env.gatewayRows db.enrollQuery

theorem enrollDevice_spec
    (h : enrollDevice env t now req claims = .ok (t', note, status, response)) :
    enroll env t.db req claims = .ok (t'.db, note) ∧ ∃ row d, primary env t.db = some row ∧
      d ∈ t'.db.devices ∧ d.wireguardPubkey = req.wireguardPubkey ∧
      response = enrollResponse t (enrollRows env t.db) row d := by
  unfold enrollDevice at h
  split at h
  · cases h
  rename_i res hres
  split at h
  · cases h
  rename_i answer hanswer
  have hdb : t'.db = res.1 ∧ note = res.2 ∧ (status, response) = answer := by
    simp only [Except.ok.injEq, Prod.mk.injEq] at h
    obtain ⟨ht, hnote, hsame⟩ := h
    refine ⟨?_, hnote.symm, hsame.symm⟩
    rw [← ht]
    split
    · rfl
    · rename_i hnone
      rcases enroll_inserts hres with ⟨hsame, _⟩ | ⟨_, _, _, _, _, _, _, _, _, _, _, _, hnew⟩
      · rw [hsame]
      · exact absurd (by rw [hnew]; rfl) hnone
  obtain ⟨hdb, rfl, rfl⟩ := hdb
  unfold enrollAnswer at hanswer
  split at hanswer
  · rename_i row d hrow hd
    simp only [Except.ok.injEq, Prod.mk.injEq] at hanswer
    refine ⟨by rw [hres, hdb], row, d, hrow, ?_, ?_, hanswer.2.symm⟩
    · rw [hdb]
      exact List.mem_of_find?_eq_some hd
    · simpa using List.find?_some hd
  · cases hanswer

theorem enrollDevice_gateways
    (h : enrollDevice env t now req claims = .ok (t', note, status, response)) :
    t'.db.gateways = t.db.gateways ∧ t'.db.networks = t.db.networks ∧
      t'.db.gatewayNetworks = t.db.gatewayNetworks := by
  rcases enroll_inserts (enrollDevice_spec h).1 with
    ⟨hsame, _⟩ | ⟨_, _, _, _, _, _, _, _, _, _, _, _, hnew⟩
  · rw [(Prod.mk.inj hsame).1]
    exact ⟨rfl, rfl, rfl⟩
  · rw [(Prod.mk.inj hnew).1]
    exact ⟨rfl, rfl, rfl⟩

end Spec

structure GatewaysKeyed (db : Database) : Prop where
  gateways : (db.gateways.map Gateway.id).Nodup
  networks : (db.networks.map Network.id).Nodup
  gatewayNetworks : db.gatewayNetworks.Nodup

def Serves (db : Database) (g : Gateway) (d : Device) : Prop :=
  ∃ id, d.networkId = some id ∧ ⟨g.id, id⟩ ∈ db.gatewayNetworks

/-- All gateways of the answer are active, serve the device and are there once, and the address is
in its block. -/
structure Usable (db : Database) (d : Device) (response : EnrollResponse) : Prop where
  gateways : ∀ e ∈ response.gateways, ∃ g ∈ db.gateways, g.id = e.id ∧ g.isActive ∧ Serves db g d
  primary : ∃ e ∈ response.gateways,
    e.endpoint = response.endpoint ∧ e.serverPublicKey = response.serverPublicKey
  distinct : (response.gateways.map GatewayEndpoint.id).Nodup
  address : ∃ n ∈ db.networks, d.networkId = some n.id ∧
    response.address = host d.assignedIp ++ "/" ++ toString (masklen (allocCIDR n))

section Query

variable {db : Database} {n : Network}

theorem GatewaysKeyed.pairwise_enrollQuery (keyed : GatewaysKeyed db) :
    db.enrollQuery.Pairwise fun r s => r.1.id = s.1.id → r.2.id ≠ s.2.id := by
  unfold Database.enrollQuery
  rw [List.pairwise_flatMap]
  constructor
  · intro g _
    rw [List.pairwise_flatMap]
    constructor
    · intro gn _
      apply List.pairwise_filterMap.mpr
      apply (List.pairwise_map.mp keyed.networks).imp
      intro n n' hne r hr r' hr' _
      rw [Option.ite_none_right_eq_some] at hr hr'
      exact absurd (hr.1.2.1.trans hr'.1.2.1.symm) hne
    · apply keyed.gatewayNetworks.imp
      intro gn gn' hne r hr r' hr' _ hsame
      obtain ⟨n, _, hr⟩ := List.mem_filterMap.mp hr
      obtain ⟨n', _, hr'⟩ := List.mem_filterMap.mp hr'
      rw [Option.ite_none_right_eq_some, Option.some.injEq] at hr hr'
      obtain ⟨⟨hg, hn, _⟩, rfl⟩ := hr
      obtain ⟨⟨hg', hn', _⟩, rfl⟩ := hr'
      refine hne ?_
      exact congrArg₂ GatewayNetwork.mk (hg.trans hg'.symm) (hn.symm.trans (hsame.trans hn'))
  · apply (List.pairwise_map.mp keyed.gateways).imp
    intro g g' hne r hr r' hr' hsame
    simp only [List.mem_flatMap, List.mem_filterMap, Option.ite_none_right_eq_some,
      Option.some.injEq] at hr hr'
    obtain ⟨_, _, _, _, _, rfl⟩ := hr
    obtain ⟨_, _, _, _, _, rfl⟩ := hr'
    exact absurd hsame hne

theorem GatewaysKeyed.nodup_gateways (keyed : GatewaysKeyed db)
    (hone : ∀ r ∈ db.enrollQuery, r.2 = n) : (db.enrollQuery.map fun r => r.1.id).Nodup := by
  apply List.pairwise_map.mpr
  refine keyed.pairwise_enrollQuery.imp_of_mem ?_
  intro r s hr hs hne hsame
  exact hne hsame (by rw [hone r hr, hone s hs])

end Query

theorem ids_enrollResponse (t : DeviceRecords) (rows : List (Gateway × Network))
    (row : Gateway × Network) (d : Device) :
    (enrollResponse t rows row d).gateways.map GatewayEndpoint.id = rows.map fun r => r.1.id := by
  show (rows.map _).map _ = _
  rw [List.map_map]
  rfl

/-- The gateways of the answer are usable exactly if the active gateways have no other
active network than that of the device. -/
theorem enrolled_usable_iff {env : EnrollEnv} {t t' : DeviceRecords} {now status : Nat}
    {req : EnrollRequest} {claims : Option Claims} {note : Option Notification}
    {response : EnrollResponse} {d : Device} {n : Network} (keyed : GatewaysKeyed t.db)
    (hscans : ∀ i, env.gatewayScan i = false)
    (hok : enrollDevice env t now req claims = .ok (t', note, status, response))
    (hd : d ∈ t'.db.devices) (hid : d.id = response.deviceID) (hn : n ∈ t.db.networks)
    (hnetwork : d.networkId = some n.id) (hactive : n.isActive) :
    Usable t'.db d response ↔ ∀ r ∈ t.db.enrollQuery, r.2 = n := by
  obtain ⟨_, row, e, hrow, he, _, rfl⟩ := enrollDevice_spec hok
  obtain rfl : d = e := t'.db.device_eq_of_id hd he hid
  obtain ⟨hgateways, hnetworks, hattached⟩ := enrollDevice_gateways hok
  have hrows := enrollRows_perm hscans t.db
  constructor
  · intro husable ⟨g, m⟩ hr
    obtain ⟨hg, hgactive, _⟩ := mem_enrollQuery.mp hr
    obtain ⟨g', _, hsame, _, id, hid, hserves⟩ := husable.gateways _
      (List.mem_map_of_mem (hrows.mem_iff.mpr hr))
    -- the gateway has a row for the network of the device as well
    have hrow' : (g, n) ∈ t.db.enrollQuery := by
      refine mem_enrollQuery.mpr ⟨hg, hgactive, hn, hactive, ?_⟩
      rw [← hattached, ← Option.some.inj (hid.symm.trans hnetwork), ← show g'.id = g.id from hsame]
      exact hserves
    have hdistinct := husable.distinct
    rw [ids_enrollResponse] at hdistinct
    exact congrArg Prod.snd (List.inj_on_of_nodup_map hdistinct (hrows.mem_iff.mpr hr)
      (hrows.mem_iff.mpr hrow') rfl)
  · intro hone
    have hfirst := primary_mem hrow
    constructor
    · intro e he
      obtain ⟨r, hr, rfl⟩ := List.mem_map.mp he
      have hquery := hrows.mem_iff.mp hr
      obtain ⟨hg, hgactive, _, _, hserves⟩ := mem_enrollQuery.mp hquery
      refine ⟨r.1, hgateways ▸ hg, rfl, hgactive, n.id, hnetwork, ?_⟩
      rw [hattached, ← hone r hquery]
      exact hserves
    · exact ⟨_, List.mem_map_of_mem (List.mem_of_head? hrow), rfl, rfl⟩
    · rw [ids_enrollResponse]
      exact ((hrows.map _).nodup_iff).mpr (keyed.nodup_gateways hone)
    · refine ⟨n, hnetworks ▸ hn, hnetwork, ?_⟩
      rw [← hone row hfirst]
      rfl

def siteNet : Network := ⟨"site", "site", .v4 (.ofAddr 0x0A000000#32 28 (by decide)), none, true⟩

def branchNet : Network :=
  ⟨"branch", "branch", .v4 (.ofAddr 0x0A000100#32 24 (by decide)), none, true⟩

def siteGateway : Gateway := ⟨"gw", none, "gkey", "gw:51820", true, 1, 0, "gw"⟩

def branchGateway : Gateway := ⟨"gw2", none, "gkey2", "gw2:51820", true, 0, 0, "gw2"⟩

def sites (attached : List GatewayNetwork) : DeviceRecords where
  db := { Database.empty with
    users := [⟨"c", true, false, false, "carol", "carol@site.example"⟩]
    networks := [siteNet, branchNet]
    gateways := [siteGateway, branchGateway]
    gatewayNetworks := attached
    user_id_unique := by decide
    device_owner := by
      intro d hd
      cases hd }
  deviceColumns := fun _ => ⟨"", none, none, 0, 0⟩
  networkColumns := fun _ => ⟨[], 51820, 0⟩
  gatewayColumns := fun _ => ⟨none, "healthy"⟩

def enrollEnv : EnrollEnv where
  validWireGuardKey := fun _ => true
  parseUuid := some
  newID := "d"

def siteLaptop : Device := ⟨"d", "c", "k", .v4 0x0A000002#32, true, some "site"⟩

def siteResponse (gateways : List GatewayEndpoint) : EnrollResponse :=
  ⟨"d", "10.0.0.2/28", ["1.1.1.1", "8.8.8.8"], "gw:51820", "gkey", ["10.0.0.0/28"], 25, gateways⟩

theorem enroll_site {attached : List GatewayNetwork} {rows : List (Gateway × Network)}
    (hrows : enrollRows enrollEnv (sites attached).db = (siteGateway, siteNet) :: rows) :
    ∃ t', enrollDevice enrollEnv (sites attached) 0 ⟨"laptop", "k"⟩ (some ⟨"c", false⟩) =
        .ok (t', some (.peerAdd "k" ["10.0.0.2/32"]), 201,
          siteResponse (((siteGateway, siteNet) :: rows).map fun r =>
            gatewayEndpoint (sites attached) r.1 51820)) ∧
      t'.db.devices = [siteLaptop] := by
  have hprimary : primary enrollEnv (sites attached).db = some (siteGateway, siteNet) :=
    congrArg List.head? hrows
  have henroll : ∃ db', enroll enrollEnv (sites attached).db ⟨"laptop", "k"⟩ (some ⟨"c", false⟩) =
      .ok (db', some (.peerAdd "k" ["10.0.0.2/32"])) ∧ db'.devices = [siteLaptop] := by
    unfold enroll
    rw [hprimary]
    refine ⟨_, rfl, ?_⟩
    rfl
  obtain ⟨db', henroll, hdevices⟩ := henroll
  unfold enrollDevice enrollAnswer
  simp only [henroll, hprimary, hdevices, hrows]
  exact ⟨_, rfl, hdevices⟩

theorem site_gateways_usable : ∃ t' response,
    enrollDevice enrollEnv (sites [⟨"gw", "site"⟩]) 0 ⟨"laptop", "k"⟩ (some ⟨"c", false⟩) =
      .ok (t', some (.peerAdd "k" ["10.0.0.2/32"]), 201, response) ∧
    siteLaptop ∈ t'.db.devices ∧ siteLaptop.id = response.deviceID ∧
    Usable t'.db siteLaptop response := by
  have hquery : (sites [⟨"gw", "site"⟩]).db.enrollQuery = [(siteGateway, siteNet)] := by decide
  have hrows : enrollRows enrollEnv (sites [⟨"gw", "site"⟩]).db = [(siteGateway, siteNet)] := by
    decide +kernel
  obtain ⟨t', hok, hdevices⟩ := enroll_site hrows
  have hd : siteLaptop ∈ t'.db.devices := by
    rw [hdevices]
    exact .head _
  refine ⟨t', _, hok, hd, rfl, (enrolled_usable_iff (n := siteNet) ⟨by decide, by decide, by decide⟩
    (fun _ => rfl) hok hd rfl List.mem_cons_self rfl rfl).mpr ?_⟩
  intro r hr
  rw [hquery, List.mem_singleton] at hr
  rw [hr]

/-- The gateway of the branch is listed for a device of the site. -/
theorem branch_gateway_listed : ∃ t' response,
    enrollDevice enrollEnv (sites [⟨"gw", "site"⟩, ⟨"gw2", "branch"⟩]) 0 ⟨"laptop", "k"⟩
        (some ⟨"c", false⟩) =
      .ok (t', some (.peerAdd "k" ["10.0.0.2/32"]), 201, response) ∧
    siteLaptop ∈ t'.db.devices ∧ siteLaptop.id = response.deviceID ∧
    ¬ Usable t'.db siteLaptop response := by
  have hrows : enrollRows enrollEnv (sites [⟨"gw", "site"⟩, ⟨"gw2", "branch"⟩]).db =
      [(siteGateway, siteNet), (branchGateway, branchNet)] := by
    unfold enrollRows
    rw [List.mergeSort_of_pairwise (by decide)]
    decide
  obtain ⟨t', hok, hdevices⟩ := enroll_site hrows
  obtain ⟨_, _, hattached⟩ := enrollDevice_gateways hok
  refine ⟨t', _, hok, ?_, rfl, ?_⟩
  · rw [hdevices]
    exact .head _
  · intro husable
    obtain ⟨g, _, hsame, _, id, hid, hserves⟩ := husable.gateways
      (gatewayEndpoint (sites [⟨"gw", "site"⟩, ⟨"gw2", "branch"⟩]) branchGateway 51820)
      (List.mem_cons_of_mem _ List.mem_cons_self)
    obtain rfl := Option.some.inj hid
    rw [hattached, hsame] at hserves
    exact absurd hserves (by decide)

end Outpost.Enrollment
