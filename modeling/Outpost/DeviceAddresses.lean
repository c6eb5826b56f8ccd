import Outpost.DeviceCreation
import Outpost.Shared.Runs

/-!
# The addresses of devices and the blocks of their networks

Every address is allocated inside the block of its network. The allocation happens once,
and a later update of the network may move its block; the devices keep their addresses.
-/

namespace Outpost

open DeviceHandler Enrollment Runs
open NetworkHandler (map_eq_ok)

namespace Prefix

variable {width : Nat} (p : Prefix width)

/-- The addresses of the block are numbered from 0 to `p.size - 1`. -/
def size : Nat := 2 ^ (width - p.len)

def nth (off : Nat) : BitVec width := p.addr + BitVec.ofNat width off

def Usable (a : BitVec width) : Prop :=
  p.contains a ∧ a ≠ p.addr ∧ a ≠ p.nth 1 ∧ a ≠ p.nth (p.size - 1)

instance decidableUsable (a : BitVec width) : Decidable (p.Usable a) := by
  unfold Usable
  infer_instance

variable {p}

theorem size_dvd_addr : p.size ∣ p.addr.toNat := by
  have haligned := congrArg BitVec.toNat p.aligned
  rw [BitVec.toNat_shiftLeft, BitVec.toNat_ushiftRight, Nat.shiftLeft_eq,
    Nat.shiftRight_eq_div_pow, Nat.mod_eq_of_lt] at haligned
  · exact Dvd.intro_left _ haligned
  · exact Nat.lt_of_le_of_lt (Nat.div_mul_le_self _ _) p.addr.isLt

theorem addr_add_size_le : p.addr.toNat + p.size ≤ 2 ^ width := by
  have hwidth : p.size ∣ 2 ^ width := Nat.pow_dvd_pow 2 (Nat.sub_le _ _)
  exact Nat.le_of_lt_add_of_dvd (by have := p.addr.isLt; omega)
    (Nat.dvd_add size_dvd_addr (Nat.dvd_refl _)) hwidth

variable {off : Nat}

theorem toNat_nth (h : off < p.size) : (p.nth off).toNat = p.addr.toNat + off := by
  have hle := addr_add_size_le (p := p)
  unfold nth
  rw [BitVec.toNat_add, BitVec.toNat_ofNat, Nat.add_mod_mod, Nat.mod_eq_of_lt (by omega)]

theorem contains_nth (h : off < p.size) : p.contains (p.nth off) = true := by
  apply decide_eq_true
  apply BitVec.eq_of_toNat_eq
  rw [BitVec.toNat_ushiftRight, BitVec.toNat_ushiftRight, Nat.shiftRight_eq_div_pow,
    Nat.shiftRight_eq_div_pow, toNat_nth h]
  obtain ⟨q, hq⟩ := size_dvd_addr (p := p)
  unfold size at h hq
  rw [hq, Nat.mul_add_div (Nat.two_pow_pos _), Nat.div_eq_of_lt h, Nat.add_zero,
    Nat.mul_div_cancel_left _ (Nat.two_pow_pos _)]

theorem nth_ne {off' : Nat} (h : off < p.size) (h' : off' < p.size) (hne : off ≠ off') :
    p.nth off ≠ p.nth off' := by
  intro heq
  have hnat := congrArg BitVec.toNat heq
  rw [toNat_nth h, toNat_nth h'] at hnat
  omega

theorem usable_nth (hlow : 2 ≤ off) (hhigh : off + 2 ≤ p.size) :
    p.Usable (p.nth off) := by
  have hzero : p.addr = p.nth 0 := by simp [nth]
  refine ⟨contains_nth (by omega), ?_, nth_ne (by omega) (by omega) (by omega),
    nth_ne (by omega) (by omega) (by omega)⟩
  rw [hzero]
  exact nth_ne (by omega) (by omega) (by omega)

theorem nth_of_contains {a : BitVec width} (h : p.contains a = true) :
    ∃ off, off < p.size ∧ a = p.nth off := by
  have hsize : 0 < p.size := Nat.two_pow_pos _
  have hblock := congrArg BitVec.toNat (of_decide_eq_true h)
  rw [BitVec.toNat_ushiftRight, BitVec.toNat_ushiftRight, Nat.shiftRight_eq_div_pow,
    Nat.shiftRight_eq_div_pow] at hblock
  change a.toNat / p.size = p.addr.toNat / p.size at hblock
  have haddr := Nat.div_mul_cancel (size_dvd_addr (p := p))
  refine ⟨a.toNat % p.size, Nat.mod_lt _ hsize, ?_⟩
  apply BitVec.eq_of_toNat_eq
  rw [toNat_nth (Nat.mod_lt _ hsize), ← haddr, ← hblock]
  exact (Nat.div_add_mod' a.toNat p.size).symm

theorem usable_iff {a : BitVec width} :
    p.Usable a ↔ ∃ off, 2 ≤ off ∧ off + 2 ≤ p.size ∧ a = p.nth off := by
  constructor
  · intro h
    obtain ⟨hin, hnetwork, hgateway, hlast⟩ := h
    obtain ⟨off, hoff, rfl⟩ := nth_of_contains hin
    have hzero : off ≠ 0 := by
      intro heq
      subst heq
      exact hnetwork (by simp [nth])
    have hone : off ≠ 1 := by
      intro heq
      subst heq
      exact hgateway rfl
    have hend : off ≠ p.size - 1 := by
      intro heq
      subst heq
      exact hlast rfl
    exact ⟨off, by omega, by omega, rfl⟩
  · intro h
    obtain ⟨off, hlow, hhigh, rfl⟩ := h
    exact usable_nth hlow hhigh

end Prefix

def Cidr.Usable : Cidr → Addr → Prop
  | .v4 p, .v4 a => p.Usable a
  | .v6 p, .v6 a => p.Usable a
  | _, _ => False

instance decidableUsable : ∀ (c : Cidr) (a : Addr), Decidable (c.Usable a)
  | .v4 p, .v4 a => p.decidableUsable a
  | .v6 p, .v6 a => p.decidableUsable a
  | .v4 _, .v6 _ => .isFalse id
  | .v6 _, .v4 _ => .isFalse id

namespace Enrollment

theorem seriesEnd_le32 : ∀ len : Fin 33, ∀ last ∈ seriesEnd len,
    last + 2 ≤ ((2 ^ (32 - len.val) : Nat) : Int) := by
  decide

theorem seriesEnd_le128 : ∀ len : Fin 129, ∀ last ∈ seriesEnd len,
    last + 2 ≤ ((2 ^ (128 - len.val) : Nat) : Int) := by
  decide

theorem usable_of_free {db : Database} {cidr : Cidr} {last : Int} {ip : Addr}
    (hlast : seriesEnd (masklen cidr) = some last) (h : ip ∈ freeAddresses db cidr last) :
    cidr.Usable ip := by
  obtain ⟨off, hoff, rfl⟩ := List.mem_map.mp (List.mem_filter.mp h).1
  obtain ⟨hlow, hhigh⟩ := List.mem_range'_1.mp hoff
  cases cidr with
  | v4 p =>
    have hend : last + 2 ≤ (p.size : Int) :=
      seriesEnd_le32 ⟨p.len, Nat.lt_succ_of_le p.len_le⟩ last hlast
    exact Prefix.usable_nth hlow (by omega)
  | v6 p =>
    have hend : last + 2 ≤ (p.size : Int) :=
      seriesEnd_le128 ⟨p.len, Nat.lt_succ_of_le p.len_le⟩ last hlast
    exact Prefix.usable_nth hlow (by omega)

end Enrollment

namespace DeviceAddresses

inductive Request where
  | createNetwork (env : HandlerEnv) (id : Uuid) (req : NetworkHandler.CreateRequest)
  | updateNetwork (env : HandlerEnv) (id : Uuid) (req : NetworkHandler.UpdateRequest)
  | deleteNetwork (env : HandlerEnv) (id : Uuid)
  | createDevice (env : DeviceCreation.CreateEnv) (req : DeviceCreation.CreateRequest)
      (claims : Option Claims)
  | enroll (env : EnrollEnv) (req : EnrollRequest) (claims : Option Claims)
  | deleteDevice (id : Uuid) (claims : Claims)

def Request.serve (db : Database) : Request → Except HandlerError Database
  | .createNetwork env id req => Prod.fst <$> NetworkHandler.create env db id req
  | .updateNetwork env id req => Prod.fst <$> NetworkHandler.update env db id req
  | .deleteNetwork env id => Prod.fst <$> NetworkHandler.delete env db id
  | .createDevice env req claims => Prod.fst <$> DeviceCreation.create env db req claims
  | .enroll env req claims => Prod.fst <$> Enrollment.enroll env db req claims
  | .deleteDevice id claims => Prod.fst <$> DeviceHandler.delete db id claims

def Step (db : Database) (r : Request) (db' : Database) : Prop :=
  r.serve db = .ok db' ∨ (∃ e, r.serve db = .error e) ∧ db' = db

structure InRange (db : Database) : Prop where
  network_id_unique : (db.networks.map Network.id).Nodup
  usable : ∀ d ∈ db.devices, ∀ id, d.networkId = some id →
    ∃ n ∈ db.networks, n.id = id ∧ (allocCIDR n).Usable d.assignedIp

def newBlock (n : Network) (address tunnelCidr : Option Cidr) : Cidr :=
  (tunnelCidr.or n.tunnelCidr).getD (address.getD n.address)

/-- An update that goes through leaves every device of the network a usable address. -/
def Request.KeepsAddresses (db : Database) : Request → Prop
  | .updateNetwork env id req => ∀ res address tunnelCidr,
      NetworkHandler.update env db id req = .ok res →
      NetworkHandler.castOptional env req.address = some address →
      NetworkHandler.castOptional env req.tunnelCidr = some tunnelCidr →
      ∀ n ∈ db.networks, n.id = id → ∀ d ∈ db.devices, d.networkId = some id →
        (newBlock n address tunnelCidr).Usable d.assignedIp
  | _ => True

section Steps

variable {db db' : Database} {id : Uuid}

theorem InRange.insert (h : InRange db) {d : Device} {n : Network} {last : Int}
    (hd : db.Insertable d) (hn : n ∈ db.networks) (hnet : d.networkId = some n.id)
    (hlast : seriesEnd (masklen (allocCIDR n)) = some last)
    (hfree : d.assignedIp ∈ freeAddresses db (allocCIDR n) last) :
    InRange (db.insertDevice d hd) := by
  refine ⟨h.network_id_unique, ?_⟩
  intro e he id hid
  rcases List.mem_append.mp he with he | he
  · exact h.usable e he id hid
  · obtain rfl := List.mem_singleton.mp he
    exact ⟨n, hn, Option.some.inj (hnet.symm.trans hid), usable_of_free hlast hfree⟩

theorem InRange.deleteDevice (h : InRange db) : InRange (db.deleteDevice id) :=
  ⟨h.network_id_unique, fun d hd => h.usable d (List.mem_filter.mp hd).1⟩

theorem InRange.addNetwork (h : InRange db) {n : Network}
    (hfresh : ∀ n' ∈ db.networks, n'.id ≠ n.id) :
    InRange (db.addNetwork n) := by
  constructor
  · show ((db.networks ++ [n]).map Network.id).Nodup
    rw [List.map_append]
    exact h.network_id_unique.append (List.nodup_singleton _) (by simpa using hfresh)
  · intro d hd id hid
    obtain ⟨n', hn', hrest⟩ := h.usable d hd id hid
    exact ⟨n', List.mem_append_left _ hn', hrest⟩

theorem InRange.deleteNetwork (h : InRange db) : InRange (db.deleteNetwork id) := by
  constructor
  · exact h.network_id_unique.sublist (List.filter_sublist.map _)
  · intro d hd id' hid'
    obtain ⟨e, he, rfl⟩ := List.mem_map.mp hd
    rw [Device.leaveNetwork_assignedIp]
    unfold Device.leaveNetwork at hid'
    split at hid'
    · cases hid'
    · rename_i hstays
      obtain ⟨n, hn, rfl, husable⟩ := h.usable e he id' hid'
      have hne : n.id ≠ id := by
        intro heq
        exact hstays (heq ▸ hid')
      exact ⟨n, List.mem_filter.mpr ⟨hn, decide_eq_true hne⟩, rfl, husable⟩

theorem InRange.updateNetwork_iff (h : InRange db) (name : Option String)
    (address tunnelCidr : Option Cidr) (isActive : Option Bool) :
    InRange (db.updateNetwork id name address tunnelCidr isActive) ↔
      ∀ n ∈ db.networks, n.id = id → ∀ d ∈ db.devices, d.networkId = some id →
        (newBlock n address tunnelCidr).Usable d.assignedIp := by
  constructor
  · intro hafter n hn hid d hd hnet
    obtain ⟨n', hn', hid', husable⟩ := hafter.usable d hd id hnet
    obtain ⟨n₀, hn₀, rfl⟩ := List.mem_map.mp hn'
    by_cases hupdated : n₀.id = id
    · obtain rfl := List.inj_on_of_nodup_map h.network_id_unique hn hn₀ (hid.trans hupdated.symm)
      rw [if_pos hupdated] at husable
      exact husable
    · rw [if_neg hupdated] at hid'
      exact absurd hid' hupdated
  · intro hkeeps
    constructor
    · have hids : (db.updateNetwork id name address tunnelCidr isActive).networks.map Network.id =
          db.networks.map Network.id := by
        unfold Database.updateNetwork
        rw [List.map_map]
        apply List.map_congr_left
        intro n _
        by_cases hid : n.id = id <;> simp [hid]
      rw [hids]
      exact h.network_id_unique
    · intro d hd id' hid'
      obtain ⟨n, hn, rfl, husable⟩ := h.usable d hd id' hid'
      refine ⟨_, List.mem_map_of_mem hn, ?_⟩
      by_cases hid : n.id = id
      · rw [if_pos hid]
        exact ⟨rfl, hkeeps n hn hid d hd (hid ▸ hid')⟩
      · rw [if_neg hid]
        exact ⟨rfl, husable⟩

theorem inRange_serve {r : Request} (hserve : r.serve db = .ok db') (h : InRange db) :
    InRange db' ↔ r.KeepsAddresses db := by
  cases r with
  | createNetwork env id req =>
    obtain ⟨⟨_, _⟩, hcreate, rfl⟩ := map_eq_ok hserve
    obtain ⟨address, tunnelCidr, _, _, hres⟩ := NetworkHandler.create_spec hcreate
    obtain ⟨rfl, _⟩ := Prod.mk.inj hres
    exact iff_of_true (h.addNetwork (NetworkHandler.create_fresh hcreate)) trivial
  | updateNetwork env id req =>
    obtain ⟨⟨_, _⟩, hupdate, rfl⟩ := map_eq_ok hserve
    obtain ⟨address, tunnelCidr, haddress, htunnel, hres⟩ := NetworkHandler.update_spec hupdate
    obtain ⟨rfl, _⟩ := Prod.mk.inj hres
    rw [h.updateNetwork_iff]
    constructor
    · intro hkeeps res address' tunnelCidr' _ haddress' htunnel'
      obtain rfl := Option.some.inj (haddress.symm.trans haddress')
      obtain rfl := Option.some.inj (htunnel.symm.trans htunnel')
      exact hkeeps
    · intro hkeeps
      exact hkeeps _ address tunnelCidr hupdate haddress htunnel
  | deleteNetwork env id =>
    obtain ⟨⟨_, _⟩, hdelete, rfl⟩ := map_eq_ok hserve
    obtain ⟨rfl, _⟩ := Prod.mk.inj (NetworkHandler.delete_spec hdelete)
    exact iff_of_true h.deleteNetwork trivial
  | createDevice env req claims =>
    obtain ⟨⟨_, _⟩, hcreate, rfl⟩ := map_eq_ok hserve
    obtain ⟨d, n, hd, hn, hnet, _, rfl, _, last, hlast, hfree⟩ := DeviceCreation.create_spec hcreate
    exact iff_of_true (h.insert hd hn hnet hlast hfree) trivial
  | enroll env req claims =>
    obtain ⟨⟨_, _⟩, henroll, rfl⟩ := map_eq_ok hserve
    rcases enroll_inserts henroll with ⟨hsame, _⟩ |
      ⟨d, hd, g, n, last, hprimary, hnet, hlast, hfree, _, _,
      _, hnew⟩
    · obtain ⟨rfl, _⟩ := Prod.mk.inj hsame
      exact iff_of_true h trivial
    · obtain ⟨rfl, _⟩ := Prod.mk.inj hnew
      have hn := (mem_enrollQuery.mp (primary_mem hprimary)).2.2.1
      exact iff_of_true (h.insert hd hn hnet hlast hfree) trivial
  | deleteDevice id claims =>
    obtain ⟨⟨_, _⟩, hdelete, rfl⟩ := map_eq_ok hserve
    obtain ⟨_, _, _, rfl, _⟩ := handle_inv (r := .delete id claims) hdelete
    exact iff_of_true h.deleteDevice trivial

theorem inRange_step {r : Request} (hstep : Step db r db') (h : InRange db) :
    InRange db' ↔ r.KeepsAddresses db := by
  rcases hstep with hserve | ⟨⟨e, hrefused⟩, rfl⟩
  · exact inRange_serve hserve h
  · refine iff_of_true h ?_
    cases r with
    | updateNetwork env id req =>
      intro res address tunnelCidr hok
      have hserved : Request.serve db' (.updateNetwork env id req) = .ok res.1 :=
        congrArg (Functor.map Prod.fst) hok
      cases hserved.symm.trans hrefused
    | _ => trivial

end Steps

/-- From tables whose devices all have usable addresses, they keep them exactly when every update
leaves the devices of its network usable addresses. -/
theorem addresses_in_range_iff {db db' : Database} {requests : List Request} (h : InRange db) :
    Run (Through Step InRange) db requests db' ↔
      Run (Guarded Step fun db r => r.KeepsAddresses db) db requests db' :=
  Run.through_iff_guarded (fun _ _ _ hstep hi => inRange_step hstep hi) h

def carolsInstall : Database :=
  { Database.empty with
    users := [⟨"c", true, false, false, "carol", ""⟩]
    user_id_unique := List.nodup_singleton _
    device_owner := by simp [Database.empty] }

def asciiEnv : HandlerEnv :=
  ⟨some, fun text => (parseCIDR text).map Prod.snd, fun _ => "", false⟩

def keyEnv : DeviceCreation.CreateEnv where
  generatePrivateKey := none
  publicKey := fun _ => none
  validWireGuardKey := fun _ => true
  parseUuid := some
  castUuid := some
  newID := "d"
  networkRows := .asListed
  candidates := .asListed

def openOffice : Request :=
  .createNetwork asciiEnv "n" ⟨"office", "10.0.0.0/29", none, [], 0, 0⟩

def addLaptop : Request := .createDevice keyEnv ⟨"laptop", "key", "", ""⟩ (some ⟨"c", false⟩)

def moveOffice (address : String) : Request :=
  .updateNetwork asciiEnv "n" ⟨none, some address, none, [], none, none, none⟩

def officeDb : Database :=
  carolsInstall.addNetwork ⟨"n", "office", .v4 (.ofAddr 0x0A000000 29 (by decide)), none, true⟩

def laptop : Device := ⟨"d", "c", "key", .v4 0x0A000002, false, some "n"⟩

theorem laptop_insertable : officeDb.Insertable laptop := by decide

def laptopDb : Database := officeDb.insertDevice laptop laptop_insertable

theorem openOffice_step : Step carolsInstall openOffice officeDb := .inl rfl

theorem addLaptop_step : Step officeDb addLaptop laptopDb := .inl rfl

theorem inRange_install : InRange carolsInstall :=
  ⟨List.nodup_nil, fun _ hd => absurd hd List.not_mem_nil⟩

/-- The office gets a larger block that has the laptop's address. -/
theorem growing_office_keeps_laptop : ∃ db,
    Run (Through Step InRange) carolsInstall [openOffice, addLaptop, moveOffice "10.0.0.0/28"] db ∧
      laptop ∈ db.devices := by
  refine ⟨_, (addresses_in_range_iff inRange_install).mpr (.cons ⟨openOffice_step, trivial⟩
    (.cons ⟨addLaptop_step, trivial⟩ (.cons ⟨.inl rfl, ?_⟩ (.nil _)))), ?_⟩
  · intro res address tunnelCidr _ haddress htunnel n hn _ d hd _
    obtain rfl : some (.v4 (.ofAddr 0x0A000000 28 (by decide))) = address :=
      Option.some.inj haddress
    obtain rfl : none = tunnelCidr := Option.some.inj htunnel
    obtain rfl := List.mem_singleton.mp hn
    obtain rfl := List.mem_singleton.mp hd
    decide
  · decide

/-- The office moves to a block without the laptop's address. -/
theorem moving_office_strands_laptop : ∃ db,
    Run Step carolsInstall [openOffice, addLaptop, moveOffice "10.1.0.0/29"] db ∧
      laptop ∈ db.devices ∧ ∃ n ∈ db.networks, laptop.networkId = some n.id ∧
        ¬ (allocCIDR n).Usable laptop.assignedIp := by
  refine ⟨_, .cons openOffice_step (.cons addLaptop_step (.cons (.inl rfl) (.nil _))), ?_, ?_⟩
  · decide
  · decide

end DeviceAddresses

end Outpost
