import Outpost.SmartRouteHandler

/-!
# Site-to-site tunnels

A change of the members notifies the one gateway that joins or leaves, a change of the routes every
member, and the creation or deletion of a tunnel nobody. Descriptions are left out.
-/

namespace Outpost

namespace Database

variable (db : Database)

def addTunnel (t : S2STunnel) : Database :=
  { db with s2sTunnels := db.s2sTunnels ++ [t] }

def deleteTunnel (id : Uuid) : Database :=
  { db with
    s2sTunnels := db.s2sTunnels.filter fun t => t.id ≠ id
    s2sTunnelMembers := db.s2sTunnelMembers.filter fun m => m.tunnelId ≠ id
    s2sRoutes := db.s2sRoutes.filter fun r => r.tunnelId ≠ id }

/-- `ON CONFLICT (tunnel_id, gateway_id) DO UPDATE`: an existing member gets the subnets. -/
def addTunnelMember (m : S2STunnelMember) : Database :=
  { db with
    s2sTunnelMembers :=
      if ∃ m' ∈ db.s2sTunnelMembers, m'.tunnelId = m.tunnelId ∧ m'.gatewayId = m.gatewayId then
        db.s2sTunnelMembers.map fun m' =>
          if m'.tunnelId = m.tunnelId ∧ m'.gatewayId = m.gatewayId then
            { m' with localSubnets := m.localSubnets }
          else m'
      else db.s2sTunnelMembers ++ [m] }

def removeTunnelMember (tunnelID gatewayID : Uuid) : Database :=
  { db with
    s2sTunnelMembers := db.s2sTunnelMembers.filter fun m =>
      ¬ (m.tunnelId = tunnelID ∧ m.gatewayId = gatewayID) }

def addTunnelRoute (r : S2SRoute) : Database :=
  { db with s2sRoutes := db.s2sRoutes ++ [r] }

def removeTunnelRoute (id tunnelID : Uuid) : Database :=
  { db with s2sRoutes := db.s2sRoutes.filter fun r => ¬ (r.id = id ∧ r.tunnelId = tunnelID) }

end Database

namespace S2SHandler

open NetworkHandler
open SmartRouteHandler (require castOptionalUuid)

structure Env where
  parseUuid : String → Option Uuid
  /-- The value that the driver sends for a text where the column is a `uuid`. -/
  castUuid : String → Option Uuid
  castCidr : String → Option Cidr
  /-- `wireguard.PublicKey`. -/
  publicKey : String → Option String
  timestampText : Bool

structure CreateRequest where
  (name topology : String)
  hubGatewayID : Option String
deriving DecidableEq

structure MemberRequest where
  gatewayID : String
  localSubnets : List String
  privateKey : Option String
deriving DecidableEq

structure RouteRequest where
  (destination viaGateway : String)
  metric : Option Int
deriving DecidableEq

inductive Note where
  | nobody
  | gateway (gatewayID : String)
  | members (tunnelID : Uuid)
deriving DecidableEq

variable (env : Env) (db : Database)

def checkCreate (req : CreateRequest) : Except HandlerError Unit := do
  require (req.name ≠ "" ∧ req.topology ≠ "") "name and topology are required"
  require (req.topology ∈ ["mesh", "hub_spoke"]) "topology must be 'mesh' or 'hub_spoke'"
  require (req.topology ≠ "hub_spoke" ∨ req.hubGatewayID.getD "" ≠ "")
    "hub_gateway_id is required for hub_spoke topology"

def create (id : Uuid) (req : CreateRequest) : Except HandlerError (Database × Note) := do
  checkCreate req
  match castOptionalUuid env.castUuid req.hubGatewayID with
  | none => .error ⟨500, "failed to create tunnel"⟩
  | some hub =>
    if ∃ t ∈ db.s2sTunnels, t.id = id then .error ⟨409, "tunnel already exists"⟩
    else if ∃ t ∈ db.s2sTunnels, t.name = req.name then
      .error ⟨409, "tunnel with this name already exists"⟩
    else if ∃ h ∈ hub, ∀ g ∈ db.gateways, g.id ≠ h then .error ⟨500, "failed to create tunnel"⟩
    else .ok (db.addTunnel ⟨id, req.name, req.topology, true, hub⟩, .nobody)

def delete (id : Uuid) : Except HandlerError (Database × Note) :=
  if ∃ t ∈ db.s2sTunnels, t.id = id then .ok (db.deleteTunnel id, .nobody)
  else .error ⟨404, "tunnel not found"⟩

def insertMember (tunnelID gatewayID : Uuid) (req : MemberRequest) (privateKey publicKey : String) :
    Except HandlerError (Database × Note) :=
  match req.localSubnets.mapM env.castCidr with
  | none => .error ⟨500, "failed to add member"⟩
  | some subnets =>
    if (∀ t ∈ db.s2sTunnels, t.id ≠ tunnelID) ∨ ∀ g ∈ db.gateways, g.id ≠ gatewayID then
      .error (badRequest "gateway or tunnel not found")
    else .ok (db.addTunnelMember ⟨tunnelID, gatewayID, subnets, some privateKey, some publicKey, 0⟩,
      .gateway req.gatewayID)

def addMember (tunnelID : Uuid) (req : MemberRequest) : Except HandlerError (Database × Note) := do
  checkRequired "gateway_id is required" req.gatewayID
  match env.parseUuid req.gatewayID, req.privateKey with
  | none, _ => .error (badRequest "invalid gateway_id")
  | some _, none => .error ⟨500, "failed to generate S2S private key"⟩
  | some gatewayID, some privateKey =>
    match env.publicKey privateKey with
    | none => .error ⟨500, "failed to derive S2S public key"⟩
    | some publicKey => insertMember env db tunnelID gatewayID req privateKey publicKey

def removeMember (tunnelID gatewayID : Uuid) : Except HandlerError (Database × Note) :=
  if ∃ m ∈ db.s2sTunnelMembers, m.tunnelId = tunnelID ∧ m.gatewayId = gatewayID then
    .ok (db.removeTunnelMember tunnelID gatewayID, .gateway gatewayID)
  else .error ⟨404, "member not found"⟩

def addRoute (id tunnelID : Uuid) (req : RouteRequest) : Except HandlerError (Database × Note) := do
  require (req.destination ≠ "" ∧ req.viaGateway ≠ "") "destination and via_gateway are required"
  match env.parseUuid req.viaGateway with
  | none => .error (badRequest "invalid via_gateway")
  | some viaGateway =>
    let metric := req.metric.getD 100
    if metric < -2147483648 ∨ 2147483647 < metric then .error ⟨500, "failed to add route"⟩
    else match env.castCidr req.destination with
      | none => .error (badRequest "invalid CIDR format for destination")
      | some destination =>
        if ∃ r ∈ db.s2sRoutes, r.id = id then .error ⟨500, "failed to add route"⟩
        else if (∀ t ∈ db.s2sTunnels, t.id ≠ tunnelID) ∨ ∀ g ∈ db.gateways, g.id ≠ viaGateway then
          .error (badRequest "tunnel or gateway not found")
        else .ok (db.addTunnelRoute ⟨id, tunnelID, destination, viaGateway, metric, true⟩,
          if env.timestampText then .members tunnelID else .nobody)

def removeRoute (tunnelID routeID : Uuid) : Except HandlerError (Database × Note) :=
  if ∃ r ∈ db.s2sRoutes, r.id = routeID ∧ r.tunnelId = tunnelID then
    .ok (db.removeTunnelRoute routeID tunnelID, .members tunnelID)
  else .error ⟨404, "route not found"⟩

inductive Request where
  | create (id : Uuid) (req : CreateRequest)
  | delete (id : Uuid)
  | addMember (tunnelID : Uuid) (req : MemberRequest)
  | removeMember (tunnelID gatewayID : Uuid)
  | addRoute (id tunnelID : Uuid) (req : RouteRequest)
  | removeRoute (tunnelID routeID : Uuid)
deriving DecidableEq

def handle : Request → Except HandlerError (Database × Note)
  | .create id req => create env db id req
  | .delete id => delete db id
  | .addMember tunnelID req => addMember env db tunnelID req
  | .removeMember tunnelID gatewayID => removeMember db tunnelID gatewayID
  | .addRoute id tunnelID req => addRoute env db id tunnelID req
  | .removeRoute tunnelID routeID => removeRoute db tunnelID routeID

inductive Effect (db : Database) : Database → Prop where
  | created (t : S2STunnel) : Effect db (db.addTunnel t)
  | deleted (id : Uuid) : Effect db (db.deleteTunnel id)
  | joined (m : S2STunnelMember) : Effect db (db.addTunnelMember m)
  | left (tunnelID gatewayID : Uuid) : Effect db (db.removeTunnelMember tunnelID gatewayID)
  | routed (r : S2SRoute) : Effect db (db.addTunnelRoute r)
  | unrouted (id tunnelID : Uuid) : Effect db (db.removeTunnelRoute id tunnelID)

variable {env db} {res : Database × Note}

variable {id tunnelID : Uuid}

theorem create_effect {req : CreateRequest} (h : create env db id req = .ok res) :
    Effect db res.1 := by
  obtain ⟨_, h⟩ := bind_ok h
  split at h
  · cases h
  · split_ifs at h
    obtain rfl := Except.ok.inj h
    exact .created _

variable {req : MemberRequest}

theorem addMember_eq_ok (h : addMember env db tunnelID req = .ok res) :
    ∃ gatewayID subnets privateKey publicKey, env.parseUuid req.gatewayID = some gatewayID ∧
      req.localSubnets.mapM env.castCidr = some subnets ∧
      res.1 = db.addTunnelMember
        ⟨tunnelID, gatewayID, subnets, some privateKey, some publicKey, 0⟩ := by
  obtain ⟨_, h⟩ := bind_ok h
  split at h
  · cases h
  · cases h
  · rename_i gatewayID privateKey hgateway _
    split at h
    · cases h
    · unfold insertMember at h
      split at h
      · cases h
      · rename_i subnets hsubnets
        split at h
        · cases h
        · obtain rfl := Except.ok.inj h
          exact ⟨gatewayID, subnets, privateKey, _, hgateway, hsubnets, rfl⟩

theorem addMember_effect (h : addMember env db tunnelID req = .ok res) : Effect db res.1 := by
  obtain ⟨_, _, _, _, _, _, hres⟩ := addMember_eq_ok h
  rw [hres]
  exact .joined _

theorem addRoute_effect {req : RouteRequest} (h : addRoute env db id tunnelID req = .ok res) :
    Effect db res.1 := by
  obtain ⟨_, h⟩ := bind_ok h
  split at h
  · cases h
  · dsimp only at h
    split at h
    · cases h
    · split at h
      · cases h
      · split at h
        · cases h
        · split at h
          · cases h
          · obtain rfl := Except.ok.inj h
            exact .routed _

theorem handle_effect {r : Request} (h : handle env db r = .ok res) : Effect db res.1 := by
  cases r with
  | create id req => exact create_effect h
  | delete id =>
    simp only [handle, delete] at h
    split at h
    · obtain rfl := Except.ok.inj h
      exact .deleted id
    · cases h
  | addMember tunnelID req => exact addMember_effect h
  | removeMember tunnelID gatewayID =>
    simp only [handle, removeMember] at h
    split at h
    · obtain rfl := Except.ok.inj h
      exact .left tunnelID gatewayID
    · cases h
  | addRoute id tunnelID req => exact addRoute_effect h
  | removeRoute tunnelID routeID =>
    simp only [handle, removeRoute] at h
    split at h
    · obtain rfl := Except.ok.inj h
      exact .unrouted routeID tunnelID
    · cases h

end S2SHandler

end Outpost
