import Outpost.DeviceHandler

/-!
# The other columns of devices, networks and gateways

The columns that only answers to clients contain, and the two handlers that read or write nothing
else: `get` and `update` of the device handler.
-/

namespace Outpost

structure DeviceColumns where
  name : String
  wireguardPrivkey : Option String
  lastHandshake : Option Nat
  (createdAt updatedAt : Nat)
deriving DecidableEq

structure NetworkColumns where
  dns : List String
  port : Int
  createdAt : Nat
deriving DecidableEq

structure EndpointColumns where
  publicIp : Option Addr
  healthStatus : String
deriving DecidableEq

structure DeviceRecords where
  db : Database
  deviceColumns : Uuid → DeviceColumns
  networkColumns : Uuid → NetworkColumns
  gatewayColumns : Uuid → EndpointColumns

/-- The tables after the `INSERT` of a device, with the columns of the new row. -/
def DeviceRecords.insert (t : DeviceRecords) (db : Database) (now : Nat) (id : Uuid) (name : String)
    (wireguardPrivkey : Option String) : DeviceRecords :=
  { t with
    db := db
    deviceColumns := fun id' =>
      if id' = id then ⟨name, wireguardPrivkey, none, now, now⟩ else t.deviceColumns id' }

namespace DeviceHandler

structure DeviceResponse where
  (id userID : Uuid)
  (ownerName name wireguardPubkey assignedIP : String)
  isApproved : Bool
  lastHandshake : Option Nat
  (createdAt updatedAt : Nat)
deriving DecidableEq

variable (t : DeviceRecords)

def ownedRow (id : Uuid) (claims : Claims) : Option Device :=
  t.db.devices.find? fun d => d.id = id ∧ (d.userId = claims.userID ∨ claims.isAdmin)

def ownerName (d : Device) : String :=
  ((t.db.users.find? fun u => u.id = d.userId).map User.username).getD ""

def deviceResponse (d : Device) : DeviceResponse where
  id := d.id
  userID := d.userId
  ownerName := ownerName t d
  name := (t.deviceColumns d.id).name
  wireguardPubkey := d.wireguardPubkey
  assignedIP := host d.assignedIp
  isApproved := d.isApproved
  lastHandshake := (t.deviceColumns d.id).lastHandshake
  createdAt := (t.deviceColumns d.id).createdAt
  updatedAt := (t.deviceColumns d.id).updatedAt

def get (id : Uuid) (claims : Claims) : Except HandlerError DeviceResponse :=
  match ownedRow t id claims with
  | none => .error notFound
  | some d => .ok (deviceResponse t d)

def setName (now : Nat) (id : Uuid) (name : String) : DeviceRecords :=
  { t with
    deviceColumns := fun id' =>
      if id' = id then
        { t.deviceColumns id' with
          name := name
          updatedAt := now }
      else t.deviceColumns id' }

def update (now : Nat) (id : Uuid) (name : Option String) (claims : Claims) :
    Except HandlerError DeviceRecords :=
  match name with
  | none => .error ⟨400, "no fields to update"⟩
  | some name =>
    match ownedRow t id claims with
    | none => .error notFound
    | some d => .ok (setName t now d.id name)

variable {t}

theorem update_db {now : Nat} {id : Uuid} {name : Option String} {claims : Claims}
    {t' : DeviceRecords} (h : update t now id name claims = .ok t') : t'.db = t.db := by
  unfold update at h
  split at h
  · cases h
  · split at h
    · cases h
    · obtain rfl := Except.ok.inj h
      rfl

end DeviceHandler

end Outpost
