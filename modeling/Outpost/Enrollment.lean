import Outpost.DeviceHandler

/-!
# Enrollment of a device

`enroll` takes the network of the first active gateway, allocates an address in it and inserts an
approved device. The request is handled alone, so the retry loop for racing inserts runs once.
-/

namespace Outpost

open DeviceHandler

structure EnrollRequest where
  (name wireguardPubkey : String)
deriving DecidableEq

/-- Key and id parsing, the new row's id, the failures of the gateway query, and the orders that the
queries leave open. -/
structure EnrollEnv where
  validWireGuardKey : String → Bool
  parseUuid : String → Option Uuid
  newID : Uuid
  gatewayQuery : Bool := false
  gatewayScan : Nat → Bool := fun _ => false
  gatewayRows : RangeOrder (Gateway × Network) := .asListed
  candidates : RangeOrder Addr := .asListed

namespace Enrollment

/-- `(1 << (32 - masklen)) - 2` in `int4`: the count is modulo 32, an overflow an error. -/
def seriesEnd (masklen : Nat) : Option Int :=
  let shifted := (1#32 <<< ((32 - (masklen : Int)) % 32).toNat).toInt
  if shifted - 2 < -2 ^ 31 then none else some (shifted - 2)

def masklen : Cidr → Nat
  | .v4 p => p.len
  | .v6 p => p.len

/-- `network(cidr) + off`. -/
def addrAt (cidr : Cidr) (off : Nat) : Addr :=
  match cidr with
  | .v4 p => .v4 (p.addr + BitVec.ofNat 32 off)
  | .v6 p => .v6 (p.addr + BitVec.ofNat 128 off)

/-- The addresses of `generate_series(2, last)` that no device has. -/
def freeAddresses (db : Database) (cidr : Cidr) (last : Int) : List Addr :=
  ((List.range' 2 (last - 1).toNat).map (addrAt cidr)).filter fun ip =>
    ∀ d ∈ db.devices, d.assignedIp ≠ ip

end Enrollment

namespace Database

variable (db : Database)

def enrollQuery : List (Gateway × Network) :=
  db.gateways.flatMap fun g => db.gatewayNetworks.flatMap fun gn => db.networks.filterMap fun n =>
    if gn.gatewayId = g.id ∧ n.id = gn.networkId ∧
      n.isActive ∧ g.isActive then some (g, n) else none

structure Insertable (d : Device) : Prop where
  id : ∀ e ∈ db.devices, e.id ≠ d.id
  wireguardPubkey : ∀ e ∈ db.devices, e.wireguardPubkey ≠ d.wireguardPubkey
  assignedIp : ∀ e ∈ db.devices, e.assignedIp ≠ d.assignedIp
  owner : ∃ u ∈ db.users, u.id = d.userId

instance (d : Device) : Decidable (db.Insertable d) :=
  decidable_of_iff ((∀ e ∈ db.devices, e.id ≠ d.id) ∧
      (∀ e ∈ db.devices, e.wireguardPubkey ≠ d.wireguardPubkey) ∧
      (∀ e ∈ db.devices, e.assignedIp ≠ d.assignedIp) ∧ ∃ u ∈ db.users, u.id = d.userId)
    ⟨fun h => ⟨h.1, h.2.1, h.2.2.1, h.2.2.2⟩,
      fun h => ⟨h.id, h.wireguardPubkey, h.assignedIp, h.owner⟩⟩

def insertDevice (d : Device) (h : db.Insertable d) : Database :=
  { db with
    devices := db.devices ++ [d]
    device_id_unique := by
      rw [List.map_append]
      exact db.device_id_unique.append (List.nodup_singleton _) (by simpa using h.id)
    wireguard_pubkey_unique := by
      rw [List.map_append]
      exact db.wireguard_pubkey_unique.append (List.nodup_singleton _)
        (by simpa using h.wireguardPubkey)
    assigned_ip_unique := by
      rw [List.map_append]
      exact db.assigned_ip_unique.append (List.nodup_singleton _) (by simpa using h.assignedIp)
    device_owner := by
      intro e he
      rcases List.mem_append.mp he with he | he
      · exact db.device_owner e he
      · obtain rfl := List.mem_singleton.mp he
        exact h.owner }

end Database

namespace Enrollment

variable (env : EnrollEnv) (db : Database)

/-- `ORDER BY g.priority DESC, g.created_at`. -/
def enrollsBefore (r s : Gateway × Network) : Bool :=
  r.1.priority > s.1.priority ∨ (r.1.priority = s.1.priority ∧ r.1.createdAt ≤ s.1.createdAt)

def primary : Option (Gateway × Network) :=
  (scanRows false env.gatewayScan
    ((env.gatewayRows.visit db.enrollQuery).mergeSort enrollsBefore)).head?

def allocCIDR (n : Network) : Cidr := n.tunnelCidr.getD n.address

/-- The `INSERT` and its unique violations, in the order of the indexes. -/
def insert (d : Device) : Except HandlerError (Database × Option Notification) :=
  if ∃ e ∈ db.devices, e.id = d.id then .error ⟨409, "device with this name already exists"⟩
  else if ∃ e ∈ db.devices, e.wireguardPubkey = d.wireguardPubkey then
    -- enrolled before: the existing device is returned, and nobody is told
    .ok (db, none)
  else if ∃ e ∈ db.devices, e.assignedIp = d.assignedIp then
    .error ⟨500, "failed to allocate IP address after retries"⟩
  else if h : db.Insertable d then
    .ok (db.insertDevice d h, some (.peerAdd d.wireguardPubkey [host d.assignedIp ++ "/32"]))
  else .error ⟨500, "failed to create device"⟩

def allocate (req : EnrollRequest) (userID : Uuid) (n : Network) :
    Except HandlerError (Database × Option Notification) :=
  match seriesEnd (masklen (allocCIDR n)) with
  | none => .error ⟨500, "failed to create device"⟩
  | some last =>
    match (env.candidates.visit (freeAddresses db (allocCIDR n) last)).head? with
    | none => .error ⟨500, "no available IP addresses in the network"⟩
    | some ip => insert db ⟨env.newID, userID, req.wireguardPubkey, ip, true, some n.id⟩

def enroll (req : EnrollRequest) (claims : Option Claims) :
    Except HandlerError (Database × Option Notification) :=
  if req.name = "" then .error ⟨400, "name is required"⟩
  else if req.wireguardPubkey = "" then .error ⟨400, "wireguard_pubkey is required"⟩
  else if env.validWireGuardKey req.wireguardPubkey = false then
    .error ⟨400, "invalid WireGuard public key: must be 44-character base64 (32 bytes)"⟩
  else if env.gatewayQuery then
    .error ⟨500, "failed to read gateway/network configuration"⟩
  else
    match primary env db with
    | none => .error ⟨422,
        "no active gateway with an active network — create and activate a gateway first"⟩
    | some row =>
      match claims with
      | none => .error ⟨401, "authentication required"⟩
      | some claims =>
        match env.parseUuid claims.userID with
        | none => .error ⟨500, "invalid user ID in token"⟩
        | some userID => allocate env db req userID row.2

variable {env db} {res : Database × Option Notification}

theorem insert_spec {d : Device} (h : insert db d = .ok res) :
    (res = (db, none) ∧ ∃ e ∈ db.devices, e.wireguardPubkey = d.wireguardPubkey) ∨
    ∃ hd : db.Insertable d, res =
      (db.insertDevice d hd, some (.peerAdd d.wireguardPubkey [host d.assignedIp ++ "/32"])) := by
  unfold insert at h
  split at h
  · cases h
  split at h
  · rename_i hsame
    exact .inl ⟨(Except.ok.inj h).symm, hsame⟩
  split at h
  · cases h
  split at h
  · rename_i hd
    exact .inr ⟨hd, (Except.ok.inj h).symm⟩
  · cases h

theorem mem_enrollQuery {g : Gateway} {n : Network} : (g, n) ∈ db.enrollQuery ↔
    g ∈ db.gateways ∧ g.isActive ∧ n ∈ db.networks ∧ n.isActive ∧
      ⟨g.id, n.id⟩ ∈ db.gatewayNetworks := by
  unfold Database.enrollQuery
  simp only [List.mem_flatMap, List.mem_filterMap, Option.ite_none_right_eq_some, Option.some.injEq,
    Prod.mk.injEq]
  constructor
  · intro ⟨g', hg, gn, hgn, n', hn, hjoin, hg', hn'⟩
    subst hg' hn'
    obtain ⟨hgateway, hnetwork, hnactive, hgactive⟩ := hjoin
    refine ⟨hg, hgactive, hn, hnactive, ?_⟩
    rw [← hgateway, hnetwork]
    exact hgn
  · intro ⟨hg, hgactive, hn, hnactive, hgn⟩
    exact ⟨g, hg, ⟨g.id, n.id⟩, hgn, n, hn, ⟨rfl, rfl, hnactive, hgactive⟩, rfl, rfl⟩

theorem primary_mem {row : Gateway × Network} (h : primary env db = some row) :
    row ∈ db.enrollQuery := by
  have hin := (scanRows_sublist _ _ _).subset (List.mem_of_head? h)
  rw [List.mem_mergeSort, RangeOrder.mem_visit] at hin
  exact hin

variable {req : EnrollRequest} {claims : Option Claims}

theorem enroll_inserts (h : enroll env db req claims = .ok res) :
    (res = (db, none) ∧ ∃ e ∈ db.devices, e.wireguardPubkey = req.wireguardPubkey) ∨
    ∃ d, ∃ hd : db.Insertable d, ∃ g n last, primary env db = some (g, n) ∧
      d.networkId = some n.id ∧ seriesEnd (masklen (allocCIDR n)) = some last ∧
      d.assignedIp ∈ freeAddresses db (allocCIDR n) last ∧
      d.wireguardPubkey = req.wireguardPubkey ∧ d.wireguardPubkey ≠ "" ∧ d.isApproved = true ∧
      res = (db.insertDevice d hd,
        some (.peerAdd d.wireguardPubkey [host d.assignedIp ++ "/32"])) := by
  unfold enroll at h
  split at h
  · cases h
  split at h
  · cases h
  rename_i hkey
  split at h
  · cases h
  split at h
  · cases h
  split at h
  · cases h
  rename_i row hprimary
  split at h
  · cases h
  split at h
  · cases h
  unfold allocate at h
  split at h
  · cases h
  rename_i last hlast
  split at h
  · cases h
  rename_i ip hip
  have hfree := (env.candidates.mem_visit _ _).mp (List.mem_of_head? hip)
  rcases insert_spec h with hsame | ⟨hd, hnew⟩
  · exact .inl hsame
  · exact .inr ⟨_, hd, row.1, row.2, last, hprimary, rfl, hlast, hfree, rfl, hkey, rfl, hnew⟩

theorem enroll_spec (h : enroll env db req claims = .ok res) :
    res = (db, none) ∨ ∃ d, ∃ hd : db.Insertable d,
      d.wireguardPubkey = req.wireguardPubkey ∧ d.wireguardPubkey ≠ "" ∧ d.isApproved = true ∧
      res = (db.insertDevice d hd,
        some (.peerAdd d.wireguardPubkey [host d.assignedIp ++ "/32"])) := by
  rcases enroll_inserts h with ⟨hsame, _⟩ | ⟨d, hd, _, _, _, _, _, _, _, hnew⟩
  · exact .inl hsame
  · exact .inr ⟨d, hd, hnew⟩

end Enrollment

end Outpost
