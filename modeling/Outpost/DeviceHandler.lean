import Outpost.PeerNotifier

/-!
# Approving, revoking and deleting devices

The database step of each handler and the notification that it then owes. The
notifier is set, and the queries succeed; a request that finds no row is refused
and owes nothing.
-/

namespace Outpost

open PeerNotifier Function

structure HandlerError where
  status : Nat
  message : String
deriving DecidableEq

structure Claims where
  userID : Uuid
  isAdmin : Bool
deriving DecidableEq

/-- `SET is_approved = value WHERE id = $1` on one row. -/
def Device.setApproved (id : Uuid) (value : Bool) (d : Device) : Device :=
  if d.id = id then { d with isApproved := value } else d

namespace Device

variable (id : Uuid) (value : Bool) (d : Device)

@[simp] theorem setApproved_id : (d.setApproved id value).id = d.id := by
  unfold setApproved
  split <;> rfl

@[simp] theorem setApproved_userId : (d.setApproved id value).userId = d.userId := by
  unfold setApproved
  split <;> rfl

@[simp] theorem setApproved_wireguardPubkey :
    (d.setApproved id value).wireguardPubkey = d.wireguardPubkey := by
  unfold setApproved
  split <;> rfl

@[simp] theorem setApproved_assignedIp : (d.setApproved id value).assignedIp = d.assignedIp := by
  unfold setApproved
  split <;> rfl

@[simp] theorem setApproved_networkId : (d.setApproved id value).networkId = d.networkId := by
  unfold setApproved
  split <;> rfl

end Device

namespace Database

variable (db : Database) (id : Uuid)

def deviceByID : Option Device := db.devices.find? fun d => d.id = id

def setApproved (value : Bool) : Database :=
  { db with
    devices := db.devices.map (Device.setApproved id value)
    device_id_unique := by simpa [comp_def] using db.device_id_unique
    wireguard_pubkey_unique := by simpa [comp_def] using db.wireguard_pubkey_unique
    assigned_ip_unique := by simpa [comp_def] using db.assigned_ip_unique
    device_owner := by
      intro d hd
      obtain ⟨e, he, rfl⟩ := List.mem_map.mp hd
      rw [Device.setApproved_userId]
      exact db.device_owner e he }

def deleteDevice : Database :=
  { db with
    devices := db.devices.filter fun d => d.id ≠ id
    deviceTrustScores := db.deviceTrustScores.filter fun t => t.deviceId ≠ id
    devicePosture := db.devicePosture.filter fun p => p.deviceId ≠ id
    device_id_unique := db.device_id_unique.sublist (List.filter_sublist.map _)
    wireguard_pubkey_unique := db.wireguard_pubkey_unique.sublist (List.filter_sublist.map _)
    assigned_ip_unique := db.assigned_ip_unique.sublist (List.filter_sublist.map _)
    device_owner := fun d hd => db.device_owner d (List.mem_filter.mp hd).1 }

end Database

namespace DeviceHandler

inductive Notification where
  | peerAdd (pubkey : String) (allowedIPs : List String)
  | peerRemove (pubkey : String)
deriving DecidableEq

def Notification.pubkey : Notification → String
  | .peerAdd pubkey _ => pubkey
  | .peerRemove pubkey => pubkey

def Notification.isAdd : Notification → Bool
  | .peerAdd _ _ => true
  | .peerRemove _ => false

def Notification.calls (env : NotifyEnv) (db : Database) : Notification → List HubCall
  | .peerAdd pubkey allowedIPs => notifyPeerAdd env db pubkey allowedIPs
  | .peerRemove pubkey => notifyPeerRemove env db pubkey

def notFound : HandlerError := ⟨404, "device not found"⟩

def approve (db : Database) (id : Uuid) : Except HandlerError (Database × Option Notification) :=
  match db.deviceByID id with
  | none => .error notFound
  | some d => .ok (db.setApproved id true,
      if d.wireguardPubkey ≠ "" then
        some (.peerAdd d.wireguardPubkey [host d.assignedIp ++ "/32"])
      else none)

def revoke (db : Database) (id : Uuid) : Except HandlerError (Database × Option Notification) :=
  match db.deviceByID id with
  | none => .error notFound
  | some d => .ok (db.setApproved id false,
      if d.wireguardPubkey ≠ "" then some (.peerRemove d.wireguardPubkey) else none)

def delete (db : Database) (id : Uuid) (claims : Claims) :
    Except HandlerError (Database × Option Notification) :=
  match db.devices.find? fun d => d.id = id ∧ (d.userId = claims.userID ∨ claims.isAdmin) with
  | none => .error notFound
  | some d => .ok (db.deleteDevice id,
      if d.wireguardPubkey ≠ "" then some (.peerRemove d.wireguardPubkey) else none)

inductive Request where
  | approve (id : Uuid)
  | revoke (id : Uuid)
  | delete (id : Uuid) (claims : Claims)
deriving DecidableEq

def Request.deviceID : Request → Uuid
  | .approve id => id
  | .revoke id => id
  | .delete id _ => id

def Request.isRemoval : Request → Bool
  | .approve _ => false
  | .revoke _ => true
  | .delete _ _ => true

def handle (db : Database) : Request → Except HandlerError (Database × Option Notification)
  | .approve id => approve db id
  | .revoke id => revoke db id
  | .delete id claims => delete db id claims

def Request.statement (db : Database) : Request → Database
  | .approve id => db.setApproved id true
  | .revoke id => db.setApproved id false
  | .delete id _ => db.deleteDevice id

def Request.debt (d : Device) : Request → Notification
  | .approve _ => .peerAdd d.wireguardPubkey [host d.assignedIp ++ "/32"]
  | .revoke _ => .peerRemove d.wireguardPubkey
  | .delete _ _ => .peerRemove d.wireguardPubkey

variable {r : Request} {db db' : Database} {note : Option Notification} {id : Uuid} {d : Device}
  {pubkey : String}

theorem Request.debt_removal (h : r.isRemoval = true) (d : Device) :
    r.debt d = .peerRemove d.wireguardPubkey := by
  cases r with
  | approve id => cases h
  | revoke id => rfl
  | delete id claims => rfl

theorem handle_inv (h : handle db r = .ok (db', note)) :
    ∃ d ∈ db.devices, d.id = r.deviceID ∧ db' = r.statement db ∧
      note = if d.wireguardPubkey ≠ "" then some (r.debt d) else none := by
  cases r with
  | approve id =>
    simp only [handle, approve] at h
    split at h
    · cases h
    · rename_i d hd
      obtain ⟨rfl, rfl⟩ := Prod.mk.inj (Except.ok.inj h)
      exact ⟨d, List.mem_of_find?_eq_some hd, by simpa [Request.deviceID] using List.find?_some hd, rfl,
        rfl⟩
  | revoke id =>
    simp only [handle, revoke] at h
    split at h
    · cases h
    · rename_i d hd
      obtain ⟨rfl, rfl⟩ := Prod.mk.inj (Except.ok.inj h)
      exact ⟨d, List.mem_of_find?_eq_some hd, by simpa [Request.deviceID] using List.find?_some hd, rfl,
        rfl⟩
  | delete id claims =>
    simp only [handle, delete] at h
    split at h
    · cases h
    · rename_i d hd
      obtain ⟨rfl, rfl⟩ := Prod.mk.inj (Except.ok.inj h)
      have hfound := List.find?_some hd
      simp only [decide_eq_true_eq] at hfound
      exact ⟨d, List.mem_of_find?_eq_some hd, hfound.1, rfl, rfl⟩

def Approved (db : Database) (id : Uuid) : Prop :=
  ∃ d ∈ db.devices, d.id = id ∧ d.isApproved = true

instance (db : Database) (id : Uuid) : Decidable (Approved db id) := by
  unfold Approved
  infer_instance

def HasKey (db : Database) (id : Uuid) (pubkey : String) : Prop :=
  ∀ d ∈ db.devices, d.id = id → d.wireguardPubkey = pubkey

theorem approved_setApproved (hd : d ∈ db.devices) (hid : d.id = id) (value : Bool) :
    Approved (db.setApproved id value) id ↔ value = true := by
  constructor
  · rintro ⟨e, he, heid, happ⟩
    obtain ⟨f, _, rfl⟩ := List.mem_map.mp he
    rw [Device.setApproved_id] at heid
    simpa [Device.setApproved, heid] using happ
  · intro hv
    refine ⟨d.setApproved id value, List.mem_map_of_mem hd, by simpa using hid, ?_⟩
    simpa [Device.setApproved, hid] using hv

theorem not_approved_deleteDevice (db : Database) (id : Uuid) :
    ¬ Approved (db.deleteDevice id) id := by
  rintro ⟨d, hd, hid, _⟩
  exact absurd hid (by simpa using (List.mem_filter.mp hd).2)

theorem approved_statement (r : Request) (hd : d ∈ db.devices) (hid : d.id = r.deviceID) :
    (r.debt d).isAdd = true ↔ Approved (r.statement db) r.deviceID := by
  cases r with
  | approve id => exact (approved_setApproved hd hid true).symm
  | revoke id => exact (approved_setApproved hd hid false).symm
  | delete id claims =>
    exact ⟨fun h => Bool.noConfusion h, fun h => absurd h (not_approved_deleteDevice db id)⟩

theorem hasKey_setApproved (h : HasKey db id pubkey) (value : Bool) :
    HasKey (db.setApproved id value) id pubkey := by
  intro d hd hid
  obtain ⟨e, he, rfl⟩ := List.mem_map.mp hd
  rw [Device.setApproved_wireguardPubkey]
  exact h e he (by simpa using hid)

theorem hasKey_statement (r : Request) (h : HasKey db r.deviceID pubkey) :
    HasKey (r.statement db) r.deviceID pubkey := by
  cases r with
  | approve id => exact hasKey_setApproved h true
  | revoke id => exact hasKey_setApproved h false
  | delete id claims => exact fun d hd hid => h d (List.mem_filter.mp hd).1 hid

theorem handle_spec (hne : pubkey ≠ "") (hrow : HasKey db r.deviceID pubkey)
    (h : handle db r = .ok (db', note)) :
    HasKey db' r.deviceID pubkey ∧ ∃ d, note = some (r.debt d) ∧ (r.debt d).pubkey = pubkey ∧
      ((r.debt d).isAdd = true ↔ Approved db' r.deviceID) := by
  obtain ⟨d, hd, hid, rfl, rfl⟩ := handle_inv h
  have hkey : d.wireguardPubkey = pubkey := hrow d hd hid
  refine ⟨hasKey_statement r hrow, d, if_pos (hkey ▸ hne), ?_, approved_statement r hd hid⟩
  cases r <;> exact hkey

theorem mem_statement (hid : d.id ≠ r.deviceID) :
    d ∈ (r.statement db).devices ↔ d ∈ db.devices := by
  have hset : ∀ value, d ∈ (db.setApproved r.deviceID value).devices ↔ d ∈ db.devices := by
    intro value
    constructor
    · intro hd
      obtain ⟨e, he, rfl⟩ := List.mem_map.mp hd
      rw [Device.setApproved_id] at hid
      rwa [Device.setApproved, if_neg hid]
    · intro hd
      exact List.mem_map.mpr ⟨d, hd, by rw [Device.setApproved, if_neg hid]⟩
  cases r with
  | approve id => exact hset true
  | revoke id => exact hset false
  | delete id claims =>
    have hne : d.id ≠ id := hid
    simp [Request.statement, Database.deleteDevice, hne]

theorem approved_frame (hid : r.deviceID ≠ id) : Approved (r.statement db) id ↔ Approved db id := by
  constructor
  · rintro ⟨d, hd, rfl, happ⟩
    exact ⟨d, (mem_statement hid.symm).mp hd, rfl, happ⟩
  · rintro ⟨d, hd, rfl, happ⟩
    exact ⟨d, (mem_statement hid.symm).mpr hd, rfl, happ⟩

theorem hasKey_frame (hid : r.deviceID ≠ id) (hrow : HasKey db id pubkey) :
    HasKey (r.statement db) id pubkey := by
  rintro d hd rfl
  exact hrow d ((mem_statement hid.symm).mp hd) rfl

end DeviceHandler

end Outpost
