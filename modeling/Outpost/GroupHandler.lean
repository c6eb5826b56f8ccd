import Outpost.DeviceHandler

/-!
# Groups, members and ACLs

The handlers that change who may reach which network. Path parameters are taken
as parsed; ids that the database generates are part of the request. Constraint
violations are checked in the order in which PostgreSQL raises them.
-/

namespace Outpost

open PeerNotifier DeviceHandler

structure HandlerEnv where
  parseUuid : String → Option Uuid
  castCidr : String → Option Cidr
  ipNetString : Cidr → String
  fullJoin : Bool

inductive Push where
  | nothing
  | peer (note : Notification)
  | user (userID : Uuid)
  | group (groupID : Uuid)
  | gateways (gatewayIDs : List Uuid)
deriving DecidableEq

def Push.calls (env : NotifyEnv) (db : Database) : Push → List HubCall
  | .nothing => []
  | .peer note => note.calls env db
  | .user userID => refreshFirewallForUser env db userID
  | .group groupID => refreshFirewallForGroup env db groupID
  | .gateways gatewayIDs => refreshFirewallForGateways env db gatewayIDs

namespace Database

variable (db : Database)

def addGroup (g : Group) : Database :=
  { db with groups := db.groups ++ [g] }

def updateGroup (id : Uuid) (name description : Option String) : Database :=
  { db with
    groups := db.groups.map fun g => if g.id = id then
      { g with name := name.getD g.name, description := description.getD g.description }
    else g }

def deleteGroup (id : Uuid) : Database :=
  { db with
    groups := db.groups.filter fun g => g.id ≠ id
    userGroups := db.userGroups.filter fun ug => ug.groupId ≠ id
    networkAcls := db.networkAcls.filter fun a => a.groupId ≠ id }

/-- `ON CONFLICT DO NOTHING`. -/
def addUserGroup (ug : UserGroup) : Database :=
  { db with userGroups := if ug ∈ db.userGroups then db.userGroups else db.userGroups ++ [ug] }

def removeUserGroup (ug : UserGroup) : Database :=
  { db with userGroups := db.userGroups.filter fun x => x ≠ ug }

def addNetworkAcl (a : NetworkAcl) : Database :=
  { db with networkAcls := db.networkAcls ++ [a] }

def removeNetworkAcl (id groupID : Uuid) : Database :=
  { db with networkAcls := db.networkAcls.filter fun a => ¬ (a.id = id ∧ a.groupId = groupID) }

end Database

namespace GroupHandler

variable (env : HandlerEnv) (db : Database)

def nameTaken : HandlerError := ⟨409, "group with this name already exists"⟩

def create (id : Uuid) (name description : String) : Except HandlerError (Database × Push) :=
  if name = "" then .error ⟨400, "name is required"⟩
  else if ∃ g ∈ db.groups, g.id = id ∨ g.name = name then .error nameTaken
  else .ok (db.addGroup ⟨id, name, description, false⟩, .nothing)

def update (id : Uuid) (name description : Option String) : Except HandlerError (Database × Push) :=
  match db.groups.find? fun g => g.id = id with
  | none => .error ⟨404, "group not found"⟩
  | some g =>
    if ∃ g' ∈ db.groups, g'.id ≠ id ∧ g'.name = name.getD g.name then .error nameTaken
    else .ok (db.updateGroup id name description, .nothing)

def delete (id : Uuid) : Except HandlerError (Database × Push) :=
  match db.groups.find? fun g => g.id = id with
  | none => .error ⟨404, "group not found"⟩
  | some g =>
    if g.isSystem then .error ⟨403, "cannot delete a system group"⟩
    else .ok (db.deleteGroup id, .nothing)

def addMember (groupID : Uuid) (userID : String) : Except HandlerError (Database × Push) :=
  if userID = "" then .error ⟨400, "user_id is required"⟩
  else match env.parseUuid userID with
    | none => .error ⟨400, "invalid user_id"⟩
    | some uid =>
      if ⟨uid, groupID⟩ ∈ db.userGroups ∨
          (∃ u ∈ db.users, u.id = uid) ∧ ∃ g ∈ db.groups, g.id = groupID then
        .ok (db.addUserGroup ⟨uid, groupID⟩, .user uid)
      else .error ⟨400, "user or group not found"⟩

def removeMember (groupID userID : Uuid) : Except HandlerError (Database × Push) :=
  if ⟨userID, groupID⟩ ∈ db.userGroups then
    .ok (db.removeUserGroup ⟨userID, groupID⟩, .user userID)
  else .error ⟨404, "member not found"⟩

def addACL (id groupID : Uuid) (networkID : String) (allowedIPs : Option (List String)) :
    Except HandlerError (Database × Push) :=
  if networkID = "" then .error ⟨400, "network_id is required"⟩
  else match env.parseUuid networkID with
    | none => .error ⟨400, "invalid network_id"⟩
    | some nid =>
      match (allowedIPs.getD ["0.0.0.0/0"]).mapM env.castCidr with
      | none => .error ⟨400, "invalid CIDR format in allowed_ips"⟩
      | some cidrs =>
        if ∃ a ∈ db.networkAcls, a.id = id ∨ (a.networkId = nid ∧ a.groupId = groupID) then
          .error ⟨409, "acl for this network and group already exists"⟩
        else if (∃ n ∈ db.networks, n.id = nid) ∧ ∃ g ∈ db.groups, g.id = groupID then
          .ok (db.addNetworkAcl ⟨id, nid, groupID, cidrs⟩, .group groupID)
        else .error ⟨400, "network or group not found"⟩

def removeACL (groupID aclID : Uuid) : Except HandlerError (Database × Push) :=
  if ∃ a ∈ db.networkAcls, a.id = aclID ∧ a.groupId = groupID then
    .ok (db.removeNetworkAcl aclID groupID, .group groupID)
  else .error ⟨404, "acl not found"⟩

variable {env} {db} {id groupID : Uuid} {res : Database × Push}

theorem create_spec {name description : String} (h : create db id name description = .ok res) :
    res = (db.addGroup ⟨id, name, description, false⟩, .nothing) := by
  unfold create at h
  split at h
  · cases h
  · split at h
    · cases h
    · exact (Except.ok.inj h).symm

theorem update_spec {name description : Option String}
    (h : update db id name description = .ok res) :
    res = (db.updateGroup id name description, .nothing) := by
  unfold update at h
  split at h
  · cases h
  · split at h
    · cases h
    · exact (Except.ok.inj h).symm

theorem delete_spec (h : delete db id = .ok res) : res = (db.deleteGroup id, .nothing) := by
  unfold delete at h
  split at h
  · cases h
  · split at h
    · cases h
    · exact (Except.ok.inj h).symm

theorem addMember_spec {userID : String} (h : addMember env db groupID userID = .ok res) :
    ∃ uid, env.parseUuid userID = some uid ∧ res = (db.addUserGroup ⟨uid, groupID⟩, .user uid) := by
  unfold addMember at h
  split at h
  · cases h
  · split at h
    · cases h
    · rename_i uid hparse
      split at h
      · exact ⟨uid, hparse, (Except.ok.inj h).symm⟩
      · cases h

theorem removeMember_spec {userID : Uuid} (h : removeMember db groupID userID = .ok res) :
    res = (db.removeUserGroup ⟨userID, groupID⟩, .user userID) := by
  unfold removeMember at h
  split at h
  · exact (Except.ok.inj h).symm
  · cases h

theorem addACL_spec {networkID : String} {allowedIPs : Option (List String)}
    (h : addACL env db id groupID networkID allowedIPs = .ok res) :
    ∃ nid cidrs, env.parseUuid networkID = some nid ∧
      (allowedIPs.getD ["0.0.0.0/0"]).mapM env.castCidr = some cidrs ∧
      res = (db.addNetworkAcl ⟨id, nid, groupID, cidrs⟩, .group groupID) := by
  unfold addACL at h
  split at h
  · cases h
  · split at h
    · cases h
    · rename_i nid hparse
      split at h
      · cases h
      · rename_i cidrs hcast
        split at h
        · cases h
        · split at h
          · exact ⟨nid, cidrs, hparse, hcast, (Except.ok.inj h).symm⟩
          · cases h

theorem removeACL_spec {aclID : Uuid} (h : removeACL db groupID aclID = .ok res) :
    res = (db.removeNetworkAcl aclID groupID, .group groupID) := by
  unfold removeACL at h
  split at h
  · exact (Except.ok.inj h).symm
  · cases h

end GroupHandler

end Outpost
