import Outpost.GroupHandler

/-!
# Networks

Creating, updating and deleting networks, with the checks of the request fields.
The columns `dns`, `port` and `keepalive` are checked here and read nowhere else,
so that the table has no fields for them.
-/

namespace Outpost

open Function

def Cidr.address : Cidr → Addr
  | .v4 p => .v4 p.addr
  | .v6 p => .v6 p.addr

/-- `ON DELETE SET NULL` on one row. -/
def Device.leaveNetwork (id : Uuid) (d : Device) : Device :=
  if d.networkId = some id then { d with networkId := none } else d

namespace Device

variable (id : Uuid) (d : Device)

@[simp] theorem leaveNetwork_id : (d.leaveNetwork id).id = d.id := by
  unfold leaveNetwork
  split <;> rfl

@[simp] theorem leaveNetwork_userId : (d.leaveNetwork id).userId = d.userId := by
  unfold leaveNetwork
  split <;> rfl

@[simp] theorem leaveNetwork_wireguardPubkey :
    (d.leaveNetwork id).wireguardPubkey = d.wireguardPubkey := by
  unfold leaveNetwork
  split <;> rfl

@[simp] theorem leaveNetwork_assignedIp : (d.leaveNetwork id).assignedIp = d.assignedIp := by
  unfold leaveNetwork
  split <;> rfl

end Device

namespace Database

variable (db : Database) (id : Uuid)

def addNetwork (n : Network) : Database :=
  { db with networks := db.networks ++ [n] }

def updateNetwork (name : Option String) (address tunnelCidr : Option Cidr)
    (isActive : Option Bool) : Database :=
  { db with
    networks := db.networks.map fun n => if n.id = id then
      { n with
        name := name.getD n.name
        address := address.getD n.address
        tunnelCidr := tunnelCidr.or n.tunnelCidr
        isActive := isActive.getD n.isActive }
    else n }

/-- What the cascades of `DELETE FROM networks` leave: gateways with the network in their legacy
column go, with all that refers to them; devices lose the reference. -/
def deleteNetwork : Database :=
  let gone : Uuid → Prop := fun gatewayID =>
    ∃ g ∈ db.gateways, g.id = gatewayID ∧ g.networkId = some id
  { db with
    networks := db.networks.filter fun n => n.id ≠ id
    gateways := db.gateways.filter fun g => g.networkId ≠ some id
    gatewayNetworks := db.gatewayNetworks.filter fun gn =>
      gn.networkId ≠ id ∧ ¬ gone gn.gatewayId
    networkAcls := db.networkAcls.filter fun a => a.networkId ≠ id
    networkSmartRoutes := db.networkSmartRoutes.filter fun r => r.networkId ≠ id
    s2sTunnelMembers := db.s2sTunnelMembers.filter fun m => ¬ gone m.gatewayId
    s2sRoutes := db.s2sRoutes.filter fun r => ¬ gone r.viaGateway
    devices := db.devices.map (Device.leaveNetwork id)
    device_id_unique := by simpa [comp_def] using db.device_id_unique
    wireguard_pubkey_unique := by simpa [comp_def] using db.wireguard_pubkey_unique
    assigned_ip_unique := by simpa [comp_def] using db.assigned_ip_unique
    device_owner := by
      intro d hd
      obtain ⟨e, he, rfl⟩ := List.mem_map.mp hd
      rw [Device.leaveNetwork_userId]
      exact db.device_owner e he }

/-- The query of the delete handler, as a server would run it that accepts it. -/
def networkDeleteGateways : List Uuid :=
  let legacy := db.gateways.filter fun g => g.networkId = some id
  let rows :=
    (db.gatewayNetworks.filter fun gn => gn.networkId = id ∨ legacy ≠ []).map
      GatewayNetwork.gatewayId
  (if db.gatewayNetworks = [] then legacy.map Gateway.id else rows).dedup

end Database

namespace NetworkHandler

structure CreateRequest where
  (name address : String)
  tunnelCidr : Option String
  dns : List String
  (port keepalive : Int)

structure UpdateRequest where
  (name address tunnelCidr : Option String)
  dns : List String
  (port keepalive : Option Int)
  isActive : Option Bool

variable (env : HandlerEnv) (db : Database)

def badRequest (message : String) : HandlerError := ⟨400, message⟩

/-- A text must be a block without host bits; `hostBits` gets the block's own text. -/
def checkBlock (invalid : String) (hostBits : String → String) (text : String) :
    Except HandlerError Unit :=
  match parseCIDR text with
  | none => .error (badRequest invalid)
  | some (ip, ipNet) =>
    if ip = ipNet.address then .ok () else .error (badRequest (hostBits (env.ipNetString ipNet)))

def checkAddress (invalid text : String) : Except HandlerError Unit :=
  checkBlock env invalid (fun network =>
    "invalid network address: " ++ text ++ " has host bits set — did you mean " ++ network ++ "?") text

def checkTunnel (hint : String) : Option String → Except HandlerError Unit
  | none => .ok ()
  | some text =>
    if text = "" then .ok ()
    else checkBlock env ("invalid tunnel_cidr format: " ++ text ++ hint) (fun network =>
      "invalid tunnel_cidr: " ++ text ++ " has host bits set — did you mean " ++ network ++ "?") text

def checkPort (port : Int) : Except HandlerError Unit :=
  if port < 1 ∨ 65535 < port then .error (badRequest "port must be between 1 and 65535") else .ok ()

def checkKeepalive (keepalive : Int) : Except HandlerError Unit :=
  if keepalive < 0 ∨ 3600 < keepalive then
    .error (badRequest "keepalive must be between 0 and 3600")
  else .ok ()

def checkDns (dns : List String) : Except HandlerError Unit :=
  match dns.find? fun server => parseIP server = none with
  | some server => .error (badRequest ("invalid DNS server IP: " ++ server))
  | none => .ok ()

def checkRequired (message text : String) : Except HandlerError Unit :=
  if text = "" then .error (badRequest message) else .ok ()

def checkPresent {α : Type} (check : α → Except HandlerError Unit) : Option α → Except HandlerError Unit
  | none => .ok ()
  | some value => check value

def checkCreate (req : CreateRequest) : Except HandlerError Unit := do
  checkRequired "name is required" req.name
  checkRequired "address (CIDR) is required" req.address
  checkAddress env
    ("invalid CIDR format: " ++ req.address ++ " — expected format like 10.0.0.0/24") req.address
  checkPort (if req.port = 0 then 51820 else req.port)
  checkKeepalive (if req.keepalive = 0 then 25 else req.keepalive)
  checkDns req.dns
  checkTunnel env " — expected format like 10.10.0.0/24" req.tunnelCidr

def checkUpdate (req : UpdateRequest) : Except HandlerError Unit := do
  checkPresent (fun text =>
    if text = "" then .ok () else checkAddress env ("invalid CIDR format: " ++ text) text) req.address
  checkPresent checkPort req.port
  checkPresent checkKeepalive req.keepalive
  checkDns req.dns
  checkTunnel env "" req.tunnelCidr

/-- The value of a text parameter of type `cidr` that may be null. -/
def castOptional : Option String → Option (Option Cidr)
  | none => some none
  | some text => (env.castCidr text).map some

def nameTaken : HandlerError := ⟨409, "network with this name already exists"⟩

def create (id : Uuid) (req : CreateRequest) : Except HandlerError (Database × Push) := do
  checkCreate env req
  match env.castCidr req.address, castOptional env req.tunnelCidr with
  | some address, some tunnelCidr =>
    if ∃ n ∈ db.networks, n.id = id then .error ⟨409, "network already exists"⟩
    else if ∃ n ∈ db.networks, n.name = req.name then .error nameTaken
    else .ok (db.addNetwork ⟨id, req.name, address, tunnelCidr, true⟩, .nothing)
  | _, _ => .error ⟨500, "failed to create network"⟩

def update (id : Uuid) (req : UpdateRequest) : Except HandlerError (Database × Push) := do
  checkUpdate env req
  match castOptional env req.address, castOptional env req.tunnelCidr with
  | some address, some tunnelCidr =>
    match db.networks.find? fun n => n.id = id with
    | none => .error ⟨404, "network not found"⟩
    | some n =>
      if ∃ n' ∈ db.networks, n'.id ≠ id ∧ n'.name = req.name.getD n.name then .error nameTaken
      else .ok (db.updateNetwork id req.name address tunnelCidr req.isActive, .nothing)
  | _, _ => .error ⟨500, "failed to update network"⟩

def delete (id : Uuid) : Except HandlerError (Database × Push) :=
  let gatewayIDs := if env.fullJoin then db.networkDeleteGateways id else []
  if ∃ n ∈ db.networks, n.id = id then
    .ok (db.deleteNetwork id, if gatewayIDs = [] then .nothing else .gateways gatewayIDs)
  else .error ⟨404, "network not found"⟩

variable {env} {db} {id : Uuid} {res : Database × Push}
variable {α β : Type} {x : Except HandlerError α} {f : α → Except HandlerError β} {b : β}
  {req : CreateRequest}

theorem bind_eq_ok (h : x >>= f = .ok b) : ∃ a, x = .ok a ∧ f a = .ok b := by
  cases x with
  | error e => cases h
  | ok a => exact ⟨a, rfl, h⟩

theorem map_eq_ok {f : α → β} (h : x.map f = .ok b) : ∃ a, x = .ok a ∧ f a = b := by
  cases x with
  | error e => cases h
  | ok a => exact ⟨a, rfl, Except.ok.inj h⟩

theorem bind_ok (h : x >>= f = .ok b) : ∃ a, f a = .ok b := by
  obtain ⟨a, _, ha⟩ := bind_eq_ok h
  exact ⟨a, ha⟩

theorem create_spec (h : create env db id req = .ok res) :
    ∃ address tunnelCidr, env.castCidr req.address = some address ∧
      castOptional env req.tunnelCidr = some tunnelCidr ∧
      res = (db.addNetwork ⟨id, req.name, address, tunnelCidr, true⟩, .nothing) := by
  obtain ⟨_, h⟩ := bind_ok h
  split at h
  · rename_i address tunnelCidr haddress htunnel
    split at h
    · cases h
    · split at h
      · cases h
      · exact ⟨address, tunnelCidr, haddress, htunnel, (Except.ok.inj h).symm⟩
  · cases h

theorem create_fresh (h : create env db id req = .ok res) : ∀ n ∈ db.networks, n.id ≠ id := by
  obtain ⟨_, h⟩ := bind_ok h
  split at h
  · split at h
    · cases h
    · rename_i hfresh
      intro n hn hid
      exact hfresh ⟨n, hn, hid⟩
  · cases h

theorem update_spec {req : UpdateRequest} (h : update env db id req = .ok res) :
    ∃ address tunnelCidr, castOptional env req.address = some address ∧
      castOptional env req.tunnelCidr = some tunnelCidr ∧
      res = (db.updateNetwork id req.name address tunnelCidr req.isActive, .nothing) := by
  obtain ⟨_, h⟩ := bind_ok h
  split at h
  · rename_i address tunnelCidr haddress htunnel
    split at h
    · cases h
    · split at h
      · cases h
      · exact ⟨address, tunnelCidr, haddress, htunnel, (Except.ok.inj h).symm⟩
  · cases h

theorem delete_spec (h : delete env db id = .ok res) :
    res = (db.deleteNetwork id,
      if (if env.fullJoin then db.networkDeleteGateways id else []) = [] then .nothing
      else .gateways (if env.fullJoin then db.networkDeleteGateways id else [])) := by
  unfold delete at h
  dsimp only at h
  split at h
  · exact (Except.ok.inj h).symm
  · cases h

end NetworkHandler

end Outpost
