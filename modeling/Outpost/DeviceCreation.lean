import Outpost.Enrollment
import Outpost.NetworkHandler

/-!
# Creating a device

`create` of the device handler: administrators create devices for anyone, others for themselves.
The request is handled alone, so the retry loop for racing inserts runs once.
-/

namespace Outpost.DeviceCreation

open DeviceHandler Enrollment

structure CreateRequest where
  (name wireguardPubkey userID networkID : String)
deriving DecidableEq

/-- Key generation and checks, the parsing of ids, the new row's id and the orders that the queries
leave open. -/
structure CreateEnv where
  generatePrivateKey : Option String
  publicKey : String → Option String
  validWireGuardKey : String → Bool
  (parseUuid castUuid : String → Option Uuid)
  newID : Uuid
  networkRows : RangeOrder Network
  candidates : RangeOrder Addr

variable (env : CreateEnv) (db : Database)

def keyPair (given : String) : Except HandlerError (String × Option String) :=
  if given = "" ∨ given = "auto-generated" then
    match env.generatePrivateKey with
    | none => .error ⟨500, "failed to generate key pair"⟩
    | some privateKey =>
      match env.publicKey privateKey with
      | none => .error ⟨500, "failed to derive public key"⟩
      | some publicKey => .ok (publicKey, some privateKey)
  else if env.validWireGuardKey given = false then
    .error ⟨400, "invalid WireGuard public key: must be 44-character base64 (32 bytes)"⟩
  else .ok (given, none)

def owner (claims : Claims) (given : String) : Except HandlerError Uuid :=
  let rawUserID := if given = "" then claims.userID else given
  if claims.isAdmin = false ∧ rawUserID ≠ claims.userID then
    .error ⟨403, "you can only create devices for yourself"⟩
  else match env.parseUuid rawUserID with
    | none => .error ⟨400, "invalid user_id"⟩
    | some userID => .ok userID

def noNetwork : HandlerError := ⟨422, "no active network found"⟩

def network (given : String) : Except HandlerError Network :=
  if given = "" then
    ((env.networkRows.visit (db.networks.filter fun n => n.isActive)).head?).elim (.error noNetwork)
      .ok
  else match env.castUuid given with
    | none => .error ⟨500, "failed to read network"⟩
    | some id =>
      (db.networks.find? fun n => n.id = id ∧ n.isActive).elim (.error noNetwork) .ok

def insert (d : Device) : Except HandlerError Database :=
  if ∃ e ∈ db.devices, e.id = d.id then .error ⟨409, "device already exists"⟩
  else if ∃ e ∈ db.devices, e.wireguardPubkey = d.wireguardPubkey then
    .error ⟨409, "device with this public key already exists"⟩
  else if h : db.Insertable d then .ok (db.insertDevice d h)
  else .error ⟨500, "failed to create device"⟩

def allocate (n : Network) : Except HandlerError Addr :=
  match seriesEnd (masklen (allocCIDR n)) with
  | none => .error ⟨500, "failed to create device"⟩
  | some last =>
    ((env.candidates.visit (freeAddresses db (allocCIDR n) last)).head?).elim
      (.error ⟨500, "no available IP addresses in the network"⟩) .ok

def create (req : CreateRequest) (claims : Option Claims) :
    Except HandlerError (Database × Option String) :=
  if req.name = "" then .error ⟨400, "name is required"⟩
  else do
    let (pubkey, privateKey) ← keyPair env req.wireguardPubkey
    match claims with
    | none => .error ⟨401, "authentication required"⟩
    | some claims =>
      let userID ← owner env claims req.userID
      let n ← network env db req.networkID
      let ip ← allocate env db n
      let db' ← insert db ⟨env.newID, userID, pubkey, ip, false, some n.id⟩
      return (db', privateKey)

open NetworkHandler

variable {env db}

theorem network_spec {given : String} {n : Network} (h : network env db given = .ok n) :
    n ∈ db.networks ∧ n.isActive := by
  unfold network at h
  split at h
  · cases hhead : (env.networkRows.visit (db.networks.filter fun n => n.isActive)).head? with
    | none =>
      rw [hhead] at h
      cases h
    | some n' =>
      rw [hhead] at h
      obtain rfl := Except.ok.inj h
      have hin := (env.networkRows.mem_visit _ _).mp (List.mem_of_head? hhead)
      exact List.mem_filter.mp hin
  · split at h
    · cases h
    · rename_i id _
      cases hfind : db.networks.find? fun n => n.id = id ∧ n.isActive with
      | none =>
        rw [hfind] at h
        cases h
      | some n' =>
        rw [hfind] at h
        obtain rfl := Except.ok.inj h
        have hfound := List.find?_some hfind
        exact ⟨List.mem_of_find?_eq_some hfind, (of_decide_eq_true hfound).2⟩

theorem allocate_spec {n : Network} {ip : Addr} (h : allocate env db n = .ok ip) :
    ∃ last, seriesEnd (masklen (allocCIDR n)) = some last ∧
      ip ∈ freeAddresses db (allocCIDR n) last := by
  unfold allocate at h
  split at h
  · cases h
  · rename_i last hlast
    cases hhead : (env.candidates.visit (freeAddresses db (allocCIDR n) last)).head? with
    | none =>
      rw [hhead] at h
      cases h
    | some ip' =>
      rw [hhead] at h
      obtain rfl := Except.ok.inj h
      exact ⟨last, hlast, (env.candidates.mem_visit _ _).mp (List.mem_of_head? hhead)⟩

theorem insert_spec {d : Device} {db' : Database} (h : insert db d = .ok db') :
    ∃ hd : db.Insertable d, db' = db.insertDevice d hd := by
  unfold insert at h
  split at h
  · cases h
  split at h
  · cases h
  split at h
  · rename_i hd
    exact ⟨hd, (Except.ok.inj h).symm⟩
  · cases h

theorem create_spec {req : CreateRequest} {claims : Option Claims} {db' : Database}
    {privateKey : Option String} (h : create env db req claims = .ok (db', privateKey)) :
    ∃ d n, ∃ hd : db.Insertable d, n ∈ db.networks ∧ d.networkId = some n.id ∧
      d.isApproved = false ∧ db' = db.insertDevice d hd ∧
      keyPair env req.wireguardPubkey = .ok (d.wireguardPubkey, privateKey) ∧
      ∃ last, seriesEnd (masklen (allocCIDR n)) = some last ∧
        d.assignedIp ∈ freeAddresses db (allocCIDR n) last := by
  unfold create at h
  split at h
  · cases h
  obtain ⟨⟨pubkey, _⟩, hpair, h⟩ := bind_eq_ok h
  cases claims with
  | none => cases h
  | some claims =>
    obtain ⟨userID, _, h⟩ := bind_eq_ok h
    obtain ⟨n, hn, h⟩ := bind_eq_ok h
    obtain ⟨ip, hip, h⟩ := bind_eq_ok h
    obtain ⟨db₁, hinsert, h⟩ := bind_eq_ok h
    obtain ⟨rfl, rfl⟩ := Prod.mk.inj (Except.ok.inj h)
    obtain ⟨hd, rfl⟩ := insert_spec hinsert
    exact ⟨_, n, hd, (network_spec hn).1, rfl, rfl, rfl, hpair, allocate_spec hip⟩

end Outpost.DeviceCreation
