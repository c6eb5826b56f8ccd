import Outpost.NetworkHandler

/-!
# Smart routes

Every handler but that of creation has the gateways of the route's networks notified after its
statement. Descriptions and the proxy of an entry are left out.
-/

namespace Outpost

namespace Database

variable (db : Database)

def addSmartRoute (sr : SmartRoute) : Database :=
  { db with smartRoutes := db.smartRoutes ++ [sr] }

def updateSmartRoute (id : Uuid) (name : Option String) (isActive : Option Bool) : Database :=
  { db with
    smartRoutes := db.smartRoutes.map fun sr => if sr.id = id then
      { sr with name := name.getD sr.name, isActive := isActive.getD sr.isActive }
    else sr }

def deleteSmartRoute (id : Uuid) : Database :=
  { db with
    smartRoutes := db.smartRoutes.filter fun sr => sr.id ≠ id
    smartRouteEntries := db.smartRouteEntries.filter fun e => e.smartRouteId ≠ id
    networkSmartRoutes := db.networkSmartRoutes.filter fun nsr => nsr.smartRouteId ≠ id }

def addSmartRouteEntry (e : SmartRouteEntry) : Database :=
  { db with smartRouteEntries := db.smartRouteEntries ++ [e] }

def removeSmartRouteEntry (id routeID : Uuid) : Database :=
  { db with
    smartRouteEntries := db.smartRouteEntries.filter fun e =>
      ¬ (e.id = id ∧ e.smartRouteId = routeID) }

def addNetworkSmartRoute (nsr : NetworkSmartRoute) : Database :=
  { db with networkSmartRoutes := db.networkSmartRoutes ++ [nsr] }

def removeNetworkSmartRoute (nsr : NetworkSmartRoute) : Database :=
  { db with networkSmartRoutes := db.networkSmartRoutes.filter fun x => x ≠ nsr }

end Database

namespace SmartRouteHandler

open NetworkHandler

structure Env where
  parseUuid : String → Option Uuid
  /-- The value that the driver sends for a text where the column is a `uuid`. -/
  castUuid : String → Option Uuid

structure EntryRequest where
  (entryType value action : String)
  proxyID : Option String
  priority : Option Int
deriving DecidableEq

variable (env : Env) (db : Database)

def require (p : Prop) [Decidable p] (message : String) : Except HandlerError Unit :=
  if p then .ok () else .error (badRequest message)

/-- One label of `validHostnameRe`: letters, digits and inner hyphens, at most 63. -/
def hostnameLabel (cs : List Char) : Bool :=
  cs.length ≤ 63 && cs.all (fun c => c.isAlphanum || c = '-') &&
    cs.head?.any Char.isAlphanum && cs.getLast?.any Char.isAlphanum

def validHostname (cs : List Char) : Bool := (cs.splitOn '.').all hostnameLabel

def checkValue (entryType value : String) : Except HandlerError Unit :=
  if entryType = "cidr" then
    require ((parseCIDR value).isSome = true) ("invalid CIDR format: " ++ value)
  else if entryType = "domain" then
    require (validHostname value.toList = true) ("invalid domain: " ++ value)
  else if entryType = "domain_suffix" then do
    require (value.toList.head? = some '.') "domain_suffix must start with '.'"
    require (validHostname value.toList.tail = true) ("invalid domain suffix: " ++ value)
  else .ok ()

def checkEntry (req : EntryRequest) : Except HandlerError Unit := do
  require (req.entryType ≠ "" ∧ req.value ≠ "" ∧ req.action ≠ "")
    "entry_type, value, and action are required"
  require (req.entryType ∈ ["domain", "cidr", "domain_suffix"])
    "entry_type must be 'domain', 'cidr', or 'domain_suffix'"
  require (req.action ∈ ["proxy", "direct", "block"]) "action must be 'proxy', 'direct', or 'block'"
  require (req.action ≠ "proxy" ∨ req.proxyID.isSome = true)
    "proxy_id is required when action is 'proxy'"
  checkValue req.entryType req.value
  checkPresent (fun priority => require (0 ≤ priority) "priority must not be negative") req.priority

def nameTaken : HandlerError := ⟨409, "smart route with this name already exists"⟩

def routeNotFound : HandlerError := ⟨404, "smart route not found"⟩

def createRoute (id : Uuid) (name : String) : Except HandlerError (Database × Option Uuid) := do
  checkRequired "name is required" name
  if ∃ sr ∈ db.smartRoutes, sr.id = id ∨ sr.name = name then .error nameTaken
  else .ok (db.addSmartRoute ⟨id, true, name⟩, none)

def updateRoute (id : Uuid) (name : Option String) (isActive : Option Bool) :
    Except HandlerError (Database × Option Uuid) :=
  match db.smartRoutes.find? fun sr => sr.id = id with
  | none => .error routeNotFound
  | some sr =>
    if ∃ sr' ∈ db.smartRoutes, sr'.id ≠ id ∧ sr'.name = name.getD sr.name then .error nameTaken
    else .ok (db.updateSmartRoute id name isActive, some id)

def deleteRoute (id : Uuid) : Except HandlerError (Database × Option Uuid) :=
  if ∃ sr ∈ db.smartRoutes, sr.id = id then .ok (db.deleteSmartRoute id, some id)
  else .error routeNotFound

/-- The statement of `addEntry`: parameters, then the unique indexes, then the foreign keys in the
order of their creation. -/
def insertEntry (id routeID : Uuid) (req : EntryRequest) (proxyID : Option Uuid) (priority : Int) :
    Except HandlerError (Database × Option Uuid) :=
  if 2147483647 < priority then .error ⟨500, "failed to add entry"⟩
  else if ∃ e ∈ db.smartRouteEntries, e.id = id then .error ⟨409, "entry already exists"⟩
  else if ∃ e ∈ db.smartRouteEntries, e.smartRouteId = routeID ∧ e.entryType = req.entryType ∧
      e.value = req.value then
    .error ⟨409, "duplicate entry for this route"⟩
  else if ∀ sr ∈ db.smartRoutes, sr.id ≠ routeID then .error (badRequest "smart route not found")
  else if ∃ proxy ∈ proxyID, proxy ∉ db.proxyServers then
    .error (badRequest "proxy server not found")
  else .ok (db.addSmartRouteEntry ⟨id, routeID, req.entryType, req.value, req.action, priority⟩,
    some routeID)

def castOptionalUuid (castUuid : String → Option Uuid) : Option String → Option (Option Uuid)
  | none => some none
  | some text => (castUuid text).map some

def addEntry (id routeID : Uuid) (req : EntryRequest) :
    Except HandlerError (Database × Option Uuid) := do
  checkEntry req
  match castOptionalUuid env.castUuid req.proxyID with
  | none => .error ⟨500, "failed to add entry"⟩
  | some proxyID => insertEntry db id routeID req proxyID (req.priority.getD 100)

def deleteEntry (routeID entryID : Uuid) : Except HandlerError (Database × Option Uuid) :=
  if ∃ e ∈ db.smartRouteEntries, e.id = entryID ∧ e.smartRouteId = routeID then
    .ok (db.removeSmartRouteEntry entryID routeID, some routeID)
  else .error ⟨404, "entry not found"⟩

/-- Either foreign key has `network` in its name, so a missing route is reported as a missing
network. -/
def addRouteNetwork (routeID : Uuid) (networkID : String) :
    Except HandlerError (Database × Option Uuid) := do
  checkRequired "network_id is required" networkID
  require ((env.parseUuid networkID).isSome = true) "invalid network_id: not a valid UUID"
  match env.castUuid networkID with
  | none => .error ⟨500, "failed to associate network"⟩
  | some networkID =>
    if ⟨networkID, routeID⟩ ∈ db.networkSmartRoutes then
      .error ⟨409, "network is already associated with this route"⟩
    else if (∀ n ∈ db.networks, n.id ≠ networkID) ∨ ∀ sr ∈ db.smartRoutes, sr.id ≠ routeID then
      .error (badRequest "network not found")
    else .ok (db.addNetworkSmartRoute ⟨networkID, routeID⟩, some routeID)

def removeRouteNetwork (routeID networkID : Uuid) : Except HandlerError (Database × Option Uuid) :=
  if ⟨networkID, routeID⟩ ∈ db.networkSmartRoutes then
    .ok (db.removeNetworkSmartRoute ⟨networkID, routeID⟩, some routeID)
  else .error ⟨404, "association not found"⟩

inductive Request where
  | createRoute (id : Uuid) (name : String)
  | updateRoute (id : Uuid) (name : Option String) (isActive : Option Bool)
  | deleteRoute (id : Uuid)
  | addEntry (id routeID : Uuid) (req : EntryRequest)
  | deleteEntry (routeID entryID : Uuid)
  | addRouteNetwork (routeID : Uuid) (networkID : String)
  | removeRouteNetwork (routeID networkID : Uuid)
deriving DecidableEq

def handle : Request → Except HandlerError (Database × Option Uuid)
  | .createRoute id name => createRoute db id name
  | .updateRoute id name isActive => updateRoute db id name isActive
  | .deleteRoute id => deleteRoute db id
  | .addEntry id routeID req => addEntry env db id routeID req
  | .deleteEntry routeID entryID => deleteEntry db routeID entryID
  | .addRouteNetwork routeID networkID => addRouteNetwork env db routeID networkID
  | .removeRouteNetwork routeID networkID => removeRouteNetwork db routeID networkID

inductive Effect (db : Database) : Database → Prop where
  | added (sr : SmartRoute) : Effect db (db.addSmartRoute sr)
  | updated (id : Uuid) (name : Option String) (isActive : Option Bool) :
      Effect db (db.updateSmartRoute id name isActive)
  | deleted (id : Uuid) : Effect db (db.deleteSmartRoute id)
  | entryAdded (e : SmartRouteEntry) : Effect db (db.addSmartRouteEntry e)
  | entryRemoved (id routeID : Uuid) : Effect db (db.removeSmartRouteEntry id routeID)
  | networkAdded (nsr : NetworkSmartRoute) : Effect db (db.addNetworkSmartRoute nsr)
  | networkRemoved (nsr : NetworkSmartRoute) : Effect db (db.removeNetworkSmartRoute nsr)

variable {env db}
variable {id routeID : Uuid} {req : EntryRequest} {res : Database × Option Uuid}

theorem insertEntry_effect {proxyID : Option Uuid} {priority : Int}
    (h : insertEntry db id routeID req proxyID priority = .ok res) : Effect db res.1 := by
  unfold insertEntry at h
  split_ifs at h
  obtain rfl := Except.ok.inj h
  exact .entryAdded _

theorem addEntry_effect (h : addEntry env db id routeID req = .ok res) : Effect db res.1 := by
  obtain ⟨_, h⟩ := bind_ok h
  split at h
  · cases h
  · exact insertEntry_effect h

theorem addRouteNetwork_effect {networkID : String}
    (h : addRouteNetwork env db routeID networkID = .ok res) : Effect db res.1 := by
  obtain ⟨_, h⟩ := bind_ok h
  obtain ⟨_, h⟩ := bind_ok h
  split at h
  · cases h
  · split_ifs at h
    obtain rfl := Except.ok.inj h
    exact .networkAdded _

theorem handle_effect {r : Request} (h : handle env db r = .ok res) : Effect db res.1 := by
  cases r with
  | createRoute id name =>
    obtain ⟨_, h⟩ := bind_ok h
    split at h
    · cases h
    · obtain rfl := Except.ok.inj h
      exact .added _
  | updateRoute id name isActive =>
    simp only [handle, updateRoute] at h
    split at h
    · cases h
    · split at h
      · cases h
      · obtain rfl := Except.ok.inj h
        exact .updated id name isActive
  | deleteRoute id =>
    simp only [handle, deleteRoute] at h
    split at h
    · obtain rfl := Except.ok.inj h
      exact .deleted id
    · cases h
  | addEntry id routeID req => exact addEntry_effect h
  | deleteEntry routeID entryID =>
    simp only [handle, deleteEntry] at h
    split at h
    · obtain rfl := Except.ok.inj h
      exact .entryRemoved entryID routeID
    · cases h
  | addRouteNetwork routeID networkID => exact addRouteNetwork_effect h
  | removeRouteNetwork routeID networkID =>
    simp only [handle, removeRouteNetwork] at h
    split at h
    · obtain rfl := Except.ok.inj h
      exact .networkRemoved _
    · cases h

end SmartRouteHandler

end Outpost
