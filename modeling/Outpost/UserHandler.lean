import Outpost.NetworkHandler
import Outpost.Passwords

/-!
# User accounts

The handlers of the admin API that create, update, activate and delete users. The columns that no
other handler reads are left out, and so are the roles.
-/

namespace Outpost

open PeerNotifier

structure UserFields where
  username : Option String := none
  email : Option String := none
  isActive : Option Bool := none
  isAdmin : Option Bool := none
deriving DecidableEq

/-- `UPDATE users SET ... WHERE id = $1` on one row. -/
def User.set (id : Uuid) (f : UserFields) (u : User) : User :=
  if u.id = id then
    { u with
      username := f.username.getD u.username
      email := f.email.getD u.email
      isActive := f.isActive.getD u.isActive
      isAdmin := f.isAdmin.getD u.isAdmin }
  else u

namespace User

variable (id : Uuid) (f : UserFields) (u : User)

@[simp] theorem set_id : (u.set id f).id = u.id := by
  unfold set
  split <;> rfl

@[simp] theorem set_mfaEnabled : (u.set id f).mfaEnabled = u.mfaEnabled := by
  unfold set
  split <;> rfl

theorem set_of_ne (h : u.id ≠ id) : u.set id f = u := by
  unfold set
  rw [if_neg h]

theorem set_empty : u.set id {} = u := by
  unfold set
  split <;> rfl

theorem set_isActive :
    (u.set id f).isActive = if u.id = id then f.isActive.getD u.isActive else u.isActive := by
  unfold set
  split <;> rfl

theorem set_isAdmin :
    (u.set id f).isAdmin = if u.id = id then f.isAdmin.getD u.isAdmin else u.isAdmin := by
  unfold set
  split <;> rfl

end User

namespace Database

variable (db : Database)

def userByID (id : Uuid) : Option User := db.users.find? fun u => u.id = id

def updateUser (id : Uuid) (f : UserFields) : Database :=
  { db with
    users := db.users.map (User.set id f)
    user_id_unique := by simpa [Function.comp_def] using db.user_id_unique
    device_owner := by
      intro d hd
      obtain ⟨u, hu, huser⟩ := db.device_owner d hd
      exact ⟨u.set id f, List.mem_map_of_mem hu, by simpa using huser⟩ }

variable {id : Uuid}

theorem updateUser_eq_self {f : UserFields} (h : ∀ u ∈ db.users, u.set id f = u) :
    db.updateUser id f = db := by
  have hmap : db.users.map (User.set id f) = db.users := by
    rw [List.map_congr_left h]
    exact List.map_id' db.users
  simp only [updateUser, hmap]

def UsernameTaken (id : Uuid) (username : String) : Prop :=
  ∃ u ∈ db.users, u.id ≠ id ∧ u.username = username

def EmailTaken (id : Uuid) (email : String) : Prop :=
  ∃ u ∈ db.users, u.id ≠ id ∧ u.email = email

instance (id : Uuid) (username : String) : Decidable (db.UsernameTaken id username) := by
  unfold UsernameTaken
  infer_instance

instance (id : Uuid) (email : String) : Decidable (db.EmailTaken id email) := by
  unfold EmailTaken
  infer_instance

def updateConflict (id : Uuid) (f : UserFields) : Option String :=
  if f.username.any fun username => db.UsernameTaken id username then some "users_username_key"
  else if f.email.any fun email => db.EmailTaken id email then some "users_email_key"
  else none

def HasUser (id : Uuid) : Prop := ∃ u ∈ db.users, u.id = id

instance (id : Uuid) : Decidable (db.HasUser id) := by
  unfold HasUser
  infer_instance

theorem userByID_eq_some {u : User} (h : db.userByID id = some u) :
    u ∈ db.users ∧ u.id = id :=
  ⟨List.mem_of_find?_eq_some h, by simpa using List.find?_some h⟩

theorem exists_userByID (h : db.HasUser id) : ∃ u, db.userByID id = some u := by
  obtain ⟨u, hu, hid⟩ := h
  exact Option.isSome_iff_exists.mp (List.find?_isSome.mpr ⟨u, hu, decide_eq_true hid⟩)

def addUser (u : User) (fresh : ¬ db.HasUser u.id) : Database :=
  { db with
    users := db.users ++ [u]
    user_id_unique := by
      rw [List.map_append, List.map_singleton]
      refine List.nodup_append.mpr ⟨db.user_id_unique, List.nodup_singleton _, ?_⟩
      intro a ha b hb hab
      obtain ⟨w, hw, rfl⟩ := List.mem_map.mp ha
      exact fresh ⟨w, hw, hab.trans (List.mem_singleton.mp hb)⟩
    device_owner := by
      intro d hd
      obtain ⟨w, hw, huser⟩ := db.device_owner d hd
      exact ⟨w, List.mem_append_left _ hw, huser⟩ }

/-- `SELECT $1, id FROM groups WHERE name = 'everyone' AND is_system = true`. -/
def joinEveryone (id : Uuid) : Database :=
  (db.groups.filter fun g => g.name = "everyone" ∧ g.isSystem = true).foldl
    (fun db g => db.addUserGroup ⟨id, g.id⟩) db

theorem joinEveryone_users (id : Uuid) : (db.joinEveryone id).users = db.users := by
  unfold joinEveryone
  induction db.groups.filter _ generalizing db with
  | nil => rfl
  | cons g gs ih => exact ih (db.addUserGroup ⟨id, g.id⟩)

def deleteUser (id : Uuid) : Database :=
  { db with
    users := db.users.filter fun u => u.id ≠ id
    userGroups := db.userGroups.filter fun ug => ug.userId ≠ id
    devices := db.devices.filter fun d => d.userId ≠ id
    deviceTrustScores := db.deviceTrustScores.filter fun t =>
      ¬ ∃ d ∈ db.devices, d.userId = id ∧ d.id = t.deviceId
    devicePosture := db.devicePosture.filter fun p =>
      ¬ ∃ d ∈ db.devices, d.userId = id ∧ d.id = p.deviceId
    user_id_unique := db.user_id_unique.sublist (List.filter_sublist.map _)
    device_id_unique := db.device_id_unique.sublist (List.filter_sublist.map _)
    wireguard_pubkey_unique := db.wireguard_pubkey_unique.sublist (List.filter_sublist.map _)
    assigned_ip_unique := db.assigned_ip_unique.sublist (List.filter_sublist.map _)
    device_owner := by
      intro d hd
      obtain ⟨hin, hne⟩ := List.mem_filter.mp hd
      obtain ⟨u, hu, huser⟩ := db.device_owner d hin
      exact ⟨u, List.mem_filter.mpr ⟨hu, by simpa [huser] using hne⟩, huser⟩ }

theorem mem_deleteUser {u : User} :
    u ∈ (db.deleteUser id).users ↔ u ∈ db.users ∧ u.id ≠ id := by
  simp [deleteUser]

def OwnerActive (d : Device) : Prop := ∃ u ∈ db.users, u.id = d.userId ∧ u.isActive = true

instance (d : Device) : Decidable (db.OwnerActive d) := by
  unfold OwnerActive
  infer_instance

theorem ownerActive_updateUser (id : Uuid) (f : UserFields) (d : Device) (hd : d ∈ db.devices) :
    (db.updateUser id f).OwnerActive d ↔
      if d.userId = id then f.isActive = some true ∨ (f.isActive = none ∧ db.OwnerActive d)
      else db.OwnerActive d := by
  obtain ⟨w, hw, hwid⟩ := db.device_owner d hd
  have hset : (db.updateUser id f).OwnerActive d ↔ (w.set id f).isActive = true := by
    constructor
    · rintro ⟨u, hu, huid, hactive⟩
      obtain ⟨v, hv, rfl⟩ := List.mem_map.mp hu
      rw [User.set_id] at huid
      obtain rfl := db.user_eq_of_id hv hw (huid.trans hwid.symm)
      exact hactive
    · intro hactive
      exact ⟨w.set id f, List.mem_map_of_mem hw, by simpa using hwid, hactive⟩
  have hown : db.OwnerActive d ↔ w.isActive = true := by
    constructor
    · rintro ⟨u, hu, huid, hactive⟩
      obtain rfl := db.user_eq_of_id hu hw (huid.trans hwid.symm)
      exact hactive
    · exact fun hactive => ⟨w, hw, hwid, hactive⟩
  rw [hset, hown, User.set_isActive, hwid]
  split
  · cases f.isActive with
    | _ => simp
  · exact Iff.rfl

end Database

namespace UserHandler

/-- What a handler starts after its database step, each in a goroutine of its own. -/
inductive Note where
  | removePeers (userID : Uuid)
  | refresh (userID : Uuid)
deriving DecidableEq

structure UpdateRequest where
  email : Option String
  (isActive isAdmin : Option Bool)
deriving DecidableEq

variable (db : Database)

def notFound : HandlerError := ⟨404, "user not found"⟩

def conflict (constraint : String) : HandlerError :=
  ⟨409, if constraint = "users_email_key" then "user with this email already exists"
    else "user with this username already exists"⟩

def UpdateRequest.fields (req : UpdateRequest) : UserFields :=
  { email := req.email, isActive := req.isActive, isAdmin := req.isAdmin }

def UpdateRequest.notes (id : Uuid) (req : UpdateRequest) : List Note :=
  (if req.isActive = some false then [.removePeers id] else []) ++
    if req.isActive.isSome ∨ req.isAdmin.isSome then [.refresh id] else []

def update (id : Uuid) (req : UpdateRequest) : Except HandlerError (Database × List Note) :=
  match db.userByID id with
  | none => .error notFound
  | some _ =>
    match db.updateConflict id req.fields with
    | some constraint => .error (conflict constraint)
    | none => .ok (db.updateUser id req.fields, req.notes id)

def activate (id : Uuid) : Except HandlerError (Database × List Note) :=
  match db.userByID id with
  | none => .error notFound
  | some _ => .ok (db.updateUser id { isActive := some true }, [])

structure CreateRequest where
  (username email password : String)
  isAdmin : Bool
deriving DecidableEq

structure CreateEnv where
  unicode : Passwords.Unicode
  bcrypt : Passwords.Bcrypt
  salt : String

def create (env : CreateEnv) (id : Uuid) (req : CreateRequest) :
    Except HandlerError (Database × List Note) := do
  NetworkHandler.checkRequired "username is required" req.username
  NetworkHandler.checkRequired "email is required" req.email
  NetworkHandler.checkRequired "password is required" req.password
  match Passwords.validatePasswordPolicy env.unicode req.password with
  | some message => .error (NetworkHandler.badRequest message)
  | none =>
    match Passwords.hashPassword env.bcrypt env.salt req.password with
    | none => .error ⟨500, "failed to hash password"⟩
    | some _ =>
      if fresh : db.HasUser id then .error ⟨409, "user already exists"⟩
      else
        match db.updateConflict id { username := some req.username, email := some req.email } with
        | some constraint => .error (conflict constraint)
        | none =>
          .ok ((db.addUser ⟨id, true, req.isAdmin, false, req.username, req.email⟩ fresh).joinEveryone
            id, [])

structure Deletion where
  userID : Uuid
  countedAdmins : Bool
  devicePubkeys : List String
deriving DecidableEq

def activeAdminCount : Nat := (db.users.filter fun u => u.isAdmin = true ∧ u.isActive = true).length

/-- The reads of `delete`, all on the snapshot of the transaction. -/
def checkDelete (id : Uuid) : Except HandlerError Deletion :=
  match db.userByID id with
  | none => .error notFound
  | some u =>
    if u.isAdmin ∧ u.isActive ∧ activeAdminCount db ≤ 1 then
      .error ⟨409, "cannot delete the last admin user"⟩
    else
      .ok ⟨id, u.isAdmin && u.isActive,
        (db.devices.filter fun d => d.userId = id ∧ d.wireguardPubkey ≠ "").map
          Device.wireguardPubkey⟩

def delete (id : Uuid) : Except HandlerError (Database × List String) := do
  let d ← checkDelete db id
  .ok (db.deleteUser d.userID, d.devicePubkeys)

def removeUserPeers (n : NotifyEnv) (userID : Uuid) : List HubCall :=
  ((db.devices.filter fun d => d.userId = userID ∧ d.wireguardPubkey ≠ "").map
    Device.wireguardPubkey).flatMap (notifyPeerRemove n db)

def Note.calls (n : NotifyEnv) : Note → List HubCall
  | .removePeers userID => removeUserPeers db n userID
  | .refresh userID => refreshFirewallForUser n db userID

variable {db} {id : Uuid} {res : Database × List Note}

theorem create_spec {env : CreateEnv} {req : CreateRequest}
    (h : create db env id req = .ok res) : ∃ u : User, res.1.users = db.users ++ [u] := by
  obtain ⟨_, h⟩ := NetworkHandler.bind_ok h
  obtain ⟨_, h⟩ := NetworkHandler.bind_ok h
  obtain ⟨_, h⟩ := NetworkHandler.bind_ok h
  split at h
  · cases h
  · split at h
    · cases h
    · split at h
      · cases h
      · split at h
        · cases h
        · cases h
          exact ⟨_, Database.joinEveryone_users _ _⟩

theorem update_spec {req : UpdateRequest} (h : update db id req = .ok res) :
    res = (db.updateUser id req.fields, req.notes id) := by
  unfold update at h
  split at h
  · cases h
  · split at h
    · cases h
    · exact (Except.ok.inj h).symm

theorem activate_spec (h : activate db id = .ok res) :
    res = (db.updateUser id { isActive := some true }, []) := by
  unfold activate at h
  split at h
  · cases h
  · exact (Except.ok.inj h).symm

theorem calls_isPush (n : NotifyEnv) (note : Note) : ∀ call ∈ note.calls db n, IsPush call := by
  intro call hcall
  cases note with
  | removePeers userID =>
    obtain ⟨pubkey, _, hin⟩ := List.mem_flatMap.mp hcall
    exact notifyPeerRemove_isPush n db pubkey call hin
  | refresh userID => exact refresh_isPush n db _ call hcall

end UserHandler

end Outpost
