import Outpost.DeviceRecords
import Outpost.Enforcement
import Outpost.Enrollment
import Outpost.WireguardConfig

/-!
# Client configurations

`downloadConfig` takes the gateways of the device's network and the routes of the owner's groups;
`sendConfig` takes the gateway by its legacy network and routes the network of the device.
-/

namespace Outpost.DeviceConfig

open DeviceHandler Enrollment WireguardConfig

/-- Failures, key derivation, and the orders that the queries leave open. `ORDER BY cidr` is on
texts and depends on the collation. -/
structure ConfigEnv where
  publicKey : String → Option String
  networkRows : RangeOrder Network := .asListed
  gatewayRows : RangeOrder (Gateway × Int) := .asListed
  gatewayQuery : Bool := false
  gatewayScan : Nat → Bool := fun _ => false
  aclRows : RangeOrder String := .asListed
  aclQuery : Bool := false
  aclScan : Nat → Bool := fun _ => false

def aclRoutes (db : Database) (userID : Uuid) : List String :=
  ((db.networkAcls.flatMap fun a => db.userGroups.flatMap fun ug => db.networks.flatMap fun n =>
      if ug.groupId = a.groupId ∧ n.id = a.networkId ∧ ug.userId = userID ∧ n.isActive ∧
          a.allowedIps ≠ wildcard then
        a.allowedIps.map Cidr.text
      else []) ++
   (db.networkAcls.flatMap fun a => db.userGroups.flatMap fun ug => db.networks.flatMap fun n =>
      if ug.groupId = a.groupId ∧ n.id = a.networkId ∧ ug.userId = userID ∧ n.isActive ∧
          a.allowedIps = wildcard then
        [n.address.text]
      else [])).dedup

def resolveAllowedIPs (env : ConfigEnv) (db : Database) (userID : Uuid) (fallbackCIDR : String) :
    List String :=
  if env.aclQuery then [fallbackCIDR]
  else
    match scanRows false env.aclScan (env.aclRows.visit (aclRoutes db userID)) with
    | [] => [fallbackCIDR]
    | cidrs => cidrs

variable (env : ConfigEnv) (t : DeviceRecords)

def networkOf : Option Uuid → Option Network
  | some id => t.db.networks.find? fun n => n.id = id
  | none =>
    ((env.networkRows.visit (t.db.networks.filter fun n => n.isActive)).mergeSort fun n m =>
      (t.networkColumns n.id).createdAt ≤ (t.networkColumns m.id).createdAt).head?

def dnsOf (n : Network) : List String :=
  if (t.networkColumns n.id).dns = [] then ["1.1.1.1", "8.8.8.8"] else (t.networkColumns n.id).dns

/-- `ORDER BY g.priority DESC, g.created_at`. -/
def selectsBefore (r s : Gateway × Int) : Bool :=
  r.1.priority > s.1.priority ∨ (r.1.priority = s.1.priority ∧ r.1.createdAt ≤ s.1.createdAt)

def gatewayQuery : Option Uuid → List (Gateway × Int)
  | some networkID =>
    t.db.gateways.flatMap fun g => t.db.gatewayNetworks.flatMap fun gn =>
      t.db.networks.filterMap fun n =>
        if gn.gatewayId = g.id ∧ n.id = gn.networkId ∧ gn.networkId = networkID ∧ g.isActive then
          some (g, (t.networkColumns n.id).port)
        else none
  | none =>
    (t.db.gateways.filter fun g => g.isActive).flatMap fun g =>
      -- `LEFT JOIN`: a gateway without a legacy network stays, with the default port
      match t.db.networks.filter fun n => g.networkId = some n.id with
      | [] => [(g, 51820)]
      | networks => networks.map fun n => (g, (t.networkColumns n.id).port)

def clientEndpoint (g : Gateway) (port : Int) : String :=
  match (t.gatewayColumns g.id).publicIp with
  | none => g.endpoint
  | some ip => host ip ++ ":" ++ toString port

structure GatewayEndpoint where
  id : Uuid
  (endpoint serverPublicKey : String)
  priority : Int
  healthStatus : String
deriving DecidableEq

def gatewayEndpoint (g : Gateway) (port : Int) : GatewayEndpoint :=
  ⟨g.id, clientEndpoint t g port, g.wireguardPubkey, g.priority,
    (t.gatewayColumns g.id).healthStatus⟩

def downloadPort (port : Int) : Int := if port = 0 then 51820 else port

def downloadGateways (networkID : Option Uuid) : List (Gateway × Int) :=
  scanRows false env.gatewayScan
    ((env.gatewayRows.visit (gatewayQuery t networkID)).mergeSort selectsBefore)

def storedKey (id : Uuid) : Option String := (t.deviceColumns id).wireguardPrivkey.filter (· ≠ "")

def clientAddress (d : Device) (n : Network) : String :=
  host d.assignedIp ++ "/" ++ toString (masklen (allocCIDR n))

def interfaceConfig (d : Device) (n : Network) (privateKey serverKey endpoint : String)
    (allowedIPs : List String) : InterfaceConfig where
  privateKey := privateKey
  address := clientAddress d n
  dns := dnsOf t n
  peers := [⟨serverKey, allowedIPs, endpoint, "", 25⟩]

structure ConfigResponse where
  (config privateKey publicKey : String)
  gateways : List GatewayEndpoint
deriving DecidableEq

def downloadInterface (id : Uuid) (claims : Option Claims) :
    Except HandlerError (InterfaceConfig × List (Gateway × Int) × String) :=
  match claims with
  | none => .error ⟨401, "authentication required"⟩
  | some claims =>
    match t.db.deviceByID id with
    | none => .error notFound
    | some d =>
      if claims.isAdmin = false ∧ claims.userID ≠ d.userId then
        .error ⟨403, "you can only download config for your own devices"⟩
      else match networkOf env t d.networkId with
        | none => .error ⟨500, "failed to read network mask"⟩
        | some n =>
          if env.gatewayQuery then .error ⟨500, "failed to read gateway configuration"⟩
          else match (downloadGateways env t d.networkId).find? fun r => r.1.endpoint ≠ "" with
            | none => .error ⟨422,
                "no active gateway available — create and activate a gateway first"⟩
            | some (g, port) =>
              match storedKey t d.id with
              | none => .error ⟨422,
                  "config download unavailable: this device was enrolled with a user-provided key. Re-create the device with auto-generated keys or use your own WireGuard config file."⟩
              | some privateKey =>
                match env.publicKey privateKey with
                | none => .error ⟨500, "failed to derive public key"⟩
                | some publicKey => .ok (interfaceConfig t d n privateKey g.wireguardPubkey
                    (clientEndpoint t g (downloadPort port))
                    (resolveAllowedIPs env t.db d.userId n.address.text),
                    downloadGateways env t d.networkId, publicKey)

def downloadConfig (id : Uuid) (claims : Option Claims) : Except HandlerError ConfigResponse :=
  (downloadInterface env t id claims).map fun res =>
    ⟨renderConfig res.1, res.1.privateKey, res.2.2,
      res.2.1.map fun r => gatewayEndpoint t r.1 (downloadPort r.2)⟩

/-- `networks n ON n.id = g.network_id`: the legacy column. -/
def mailQuery : List (Gateway × Int) :=
  t.db.gateways.flatMap fun g => t.db.networks.filterMap fun n =>
    if g.networkId = some n.id ∧ n.isActive ∧ g.isActive then some (g, (t.networkColumns n.id).port)
    else none

def mailGateway : Option (Gateway × Int) :=
  ((env.gatewayRows.visit (mailQuery t)).mergeSort selectsBefore).head?

variable {env t} {id : Uuid} {claims : Option Claims}

theorem downloadInterface_spec {res : InterfaceConfig × List (Gateway × Int) × String}
    (h : downloadInterface env t id claims = .ok res) :
    ∃ d n g port privateKey, t.db.deviceByID id = some d ∧ networkOf env t d.networkId = some n ∧
      (downloadGateways env t d.networkId).find? (fun r => r.1.endpoint ≠ "") = some (g, port) ∧
      storedKey t d.id = some privateKey ∧ res.2.1 = downloadGateways env t d.networkId ∧
      res.1 = interfaceConfig t d n privateKey g.wireguardPubkey
        (clientEndpoint t g (downloadPort port))
        (resolveAllowedIPs env t.db d.userId n.address.text) := by
  unfold downloadInterface at h
  split at h
  · cases h
  split at h
  · cases h
  rename_i d hd
  split at h
  · cases h
  split at h
  · cases h
  rename_i n hn
  split at h
  · cases h
  split at h
  · cases h
  rename_i g port hg
  split at h
  · cases h
  rename_i privateKey hkey
  split at h
  · cases h
  obtain rfl := Except.ok.inj h
  exact ⟨d, n, g, port, privateKey, hd, hn, hg, hkey, rfl, rfl⟩

end Outpost.DeviceConfig
