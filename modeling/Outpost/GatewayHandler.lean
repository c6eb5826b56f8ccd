import Outpost.NetworkHandler

/-!
# Updating a gateway

`update` of the gateway handler: the columns of the row, and the networks of the
gateway when the request names any. All statements run in one transaction.
-/

namespace Outpost

namespace GatewayHandler

structure UpdateRequest where
  (name endpoint publicIP : Option String)
  priority : Option Int
  isActive : Option Bool
  networkIDs : List String
deriving DecidableEq

end GatewayHandler

def Gateway.set (req : GatewayHandler.UpdateRequest) (g : Gateway) : Gateway :=
  { g with
    name := req.name.getD g.name
    endpoint := req.endpoint.getD g.endpoint
    priority := req.priority.getD g.priority
    isActive := req.isActive.getD g.isActive }

namespace Database

variable (db : Database) (id : Uuid)

def updateGateway (f : Gateway → Gateway) : Database :=
  { db with gateways := db.gateways.map fun g => if g.id = id then f g else g }

/-- The rows of `gateway_networks` are replaced, and the first network becomes that of
the legacy column. -/
def replaceNetworks (networkIDs : List Uuid) : Database :=
  { db.updateGateway id fun g => { g with networkId := networkIDs.head? } with
    gatewayNetworks := db.gatewayNetworks.filter (fun gn => gn.gatewayId ≠ id) ++
      networkIDs.map fun networkID => ⟨id, networkID⟩ }

def GatewayTaken (g : Gateway) : Prop :=
  g.networkId.isSome ∧ ∃ g' ∈ db.gateways, g'.id ≠ g.id ∧ g'.networkId = g.networkId ∧
    (g'.name = g.name ∨ g'.endpoint = g.endpoint)

instance (g : Gateway) : Decidable (db.GatewayTaken g) := by
  unfold GatewayTaken
  infer_instance

end Database

namespace GatewayHandler

open NetworkHandler

variable (env : HandlerEnv) (db : Database) (id : Uuid)

def checkPublicIP : Option String → Except HandlerError Unit :=
  checkPresent fun text =>
    if text ≠ "" ∧ parseIP text = none then
      .error (badRequest "public_ip must be a valid IPv4 or IPv6 address (no CIDR, no port)")
    else .ok ()

def parseNetworkIDs (texts : List String) : Except HandlerError (List Uuid) :=
  match texts.find? fun text => (env.parseUuid text).isNone with
  | some text => .error (badRequest ("invalid network_id: " ++ text))
  | none => .ok (texts.filterMap env.parseUuid)

/-- The statements on the networks of a gateway whose row is `g` by now. A conflict in the legacy
column shows at the commit. -/
def assignNetworks (g : Gateway) (networkIDs : List Uuid) : Except HandlerError Database :=
  if ¬ networkIDs.Nodup ∨ ∃ networkID ∈ networkIDs, ∀ n ∈ db.networks, n.id ≠ networkID then
    .error ⟨500, "failed to assign network to gateway"⟩
  else if db.GatewayTaken { g with networkId := networkIDs.head? } then
    .error ⟨500, "failed to commit transaction"⟩
  else .ok (db.replaceNetworks id networkIDs)

def update (req : UpdateRequest) : Except HandlerError (Database × Option Uuid) := do
  checkPublicIP req.publicIP
  if req.publicIP = some "" then .error ⟨500, "failed to update gateway"⟩
  else
    match db.gateways.find? fun g => g.id = id with
    | none => .error ⟨404, "gateway not found"⟩
    | some g =>
      if db.GatewayTaken (g.set req) then
        .error ⟨409, "gateway with this name or endpoint already exists"⟩
      else if req.networkIDs = [] then .ok (db.updateGateway id (Gateway.set req), none)
      else do
        let networkIDs ← parseNetworkIDs env req.networkIDs
        let db ← assignNetworks (db.updateGateway id (Gateway.set req)) id (g.set req) networkIDs
        .ok (db, some id)

variable {env db id}

theorem assignNetworks_spec {g : Gateway} {networkIDs : List Uuid} {db' : Database}
    (h : assignNetworks db id g networkIDs = .ok db') : db' = db.replaceNetworks id networkIDs := by
  unfold assignNetworks at h
  split at h
  · cases h
  split at h
  · cases h
  · exact (Except.ok.inj h).symm

theorem update_spec {req : UpdateRequest} {res : Database × Option Uuid}
    (h : update env db id req = .ok res) :
    (req.networkIDs = [] ∧ res = (db.updateGateway id (Gateway.set req), none)) ∨
      ∃ networkIDs, parseNetworkIDs env req.networkIDs = .ok networkIDs ∧ req.networkIDs ≠ [] ∧
        res = ((db.updateGateway id (Gateway.set req)).replaceNetworks id networkIDs, some id) := by
  obtain ⟨_, h⟩ := bind_ok h
  split at h
  · cases h
  split at h
  · cases h
  split at h
  · cases h
  split at h
  · rename_i hnone
    exact .inl ⟨hnone, (Except.ok.inj h).symm⟩
  · rename_i hsome
    obtain ⟨networkIDs, hparse, h⟩ := bind_eq_ok h
    obtain ⟨db', hassign, h⟩ := bind_eq_ok h
    obtain rfl := assignNetworks_spec hassign
    exact .inr ⟨networkIDs, hparse, hsome, (Except.ok.inj h).symm⟩

end GatewayHandler

end Outpost
