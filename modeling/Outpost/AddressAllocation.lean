import Outpost.DeviceAddresses
import Outpost.Enforcement

/-!
# The allocation query

`create` and `enroll` search the offsets of `generate_series(2, (1 << (32 - masklen)) - 2)` from
the network address, without those that a device has. The bound is computed in `int4`.
-/

namespace Outpost.AddressAllocation

open Enrollment

/-- The row that `LIMIT 1` leaves, if any; `none` is the arithmetic error. -/
def allocationQuery (order : RangeOrder Addr) (db : Database) (cidr : Cidr) :
    Option (Option Addr) :=
  (seriesEnd (masklen cidr)).map fun last => (order.visit (freeAddresses db cidr last)).head?

theorem create_allocates (env : DeviceCreation.CreateEnv) (db : Database) (n : Network) :
    DeviceCreation.allocate env db n =
      match allocationQuery env.candidates db (allocCIDR n) with
      | none => .error ⟨500, "failed to create device"⟩
      | some none => .error ⟨500, "no available IP addresses in the network"⟩
      | some (some ip) => .ok ip := by
  unfold DeviceCreation.allocate allocationQuery
  cases seriesEnd (masklen (allocCIDR n)) with
  | none => rfl
  | some last =>
    dsimp only [Option.map_some]
    cases (env.candidates.visit (freeAddresses db (allocCIDR n) last)).head? <;> rfl

theorem enroll_allocates (env : EnrollEnv) (db : Database) (req : EnrollRequest) (userID : Uuid)
    (n : Network) :
    Enrollment.allocate env db req userID n =
      match allocationQuery env.candidates db (allocCIDR n) with
      | none => .error ⟨500, "failed to create device"⟩
      | some none => .error ⟨500, "no available IP addresses in the network"⟩
      | some (some ip) =>
        Enrollment.insert db ⟨env.newID, userID, req.wireguardPubkey, ip, true, some n.id⟩ := by
  unfold Enrollment.allocate allocationQuery
  cases seriesEnd (masklen (allocCIDR n)) with
  | none => rfl
  | some last =>
    dsimp only [Option.map_some]
    cases (env.candidates.visit (freeAddresses db (allocCIDR n) last)).head? <;> rfl

section Query

variable {order : RangeOrder Addr} {db : Database} {cidr : Cidr}

theorem unassigned_of_free {last : Int} {ip : Addr} (h : ip ∈ freeAddresses db cidr last) :
    ∀ d ∈ db.devices, d.assignedIp ≠ ip :=
  of_decide_eq_true (List.mem_filter.mp h).2

theorem found_free {ip : Addr} (h : allocationQuery order db cidr = some (some ip)) :
    ∃ last, seriesEnd (masklen cidr) = some last ∧ ip ∈ freeAddresses db cidr last := by
  obtain ⟨last, hlast, hhead⟩ := Option.map_eq_some_iff.mp h
  exact ⟨last, hlast, (order.mem_visit _ _).mp (List.mem_of_head? hhead)⟩

theorem none_free (h : allocationQuery order db cidr = some none) :
    ∃ last, seriesEnd (masklen cidr) = some last ∧ ∀ ip, ip ∉ freeAddresses db cidr last := by
  obtain ⟨last, hlast, hhead⟩ := Option.map_eq_some_iff.mp h
  refine ⟨last, hlast, ?_⟩
  intro ip hip
  rw [← order.mem_visit, List.head?_eq_none_iff.mp hhead] at hip
  cases hip

theorem seriesEnd_of_two_le : ∀ len : Fin 33, 2 ≤ len.val →
    seriesEnd len = some (((2 ^ (32 - len.val) : Nat) : Int) - 2) := by
  decide

theorem seriesEnd_v4 (p : Prefix 32) (hlen : 2 ≤ p.len) :
    seriesEnd p.len = some ((p.size : Int) - 2) :=
  seriesEnd_of_two_le ⟨p.len, Nat.lt_succ_of_le p.len_le⟩ hlen

theorem free_or_assigned {p : Prefix 32} {a : BitVec 32} (h : p.Usable a) :
    .v4 a ∈ freeAddresses db (.v4 p) ((p.size : Int) - 2) ∨
      ∃ d ∈ db.devices, d.assignedIp = .v4 a := by
  obtain ⟨off, hlow, hhigh, rfl⟩ := Prefix.usable_iff.mp h
  by_cases hassigned : ∃ d ∈ db.devices, d.assignedIp = .v4 (p.nth off)
  · exact .inr hassigned
  · refine .inl (List.mem_filter.mpr ⟨List.mem_map.mpr ⟨off, ?_, rfl⟩, ?_⟩)
    · apply List.mem_range'_1.mpr
      omega
    · apply decide_eq_true
      intro d hd heq
      exact hassigned ⟨d, hd, heq⟩

end Query

/-- What the query yields lies in the block, belongs to no device, and is neither its first address,
nor the gateway's, nor the last. On an IPv4 block from `/2` on it yields nothing only when every
such address is assigned. -/
theorem address_allocation (order : RangeOrder Addr) (db : Database) (cidr : Cidr) :
    (∀ ip, allocationQuery order db cidr = some (some ip) →
      cidr.Usable ip ∧ ∀ d ∈ db.devices, d.assignedIp ≠ ip) ∧
    ∀ p : Prefix 32, cidr = .v4 p → 2 ≤ p.len →
      allocationQuery order db cidr ≠ none ∧
      (allocationQuery order db cidr = some none →
        ∀ a, p.Usable a → ∃ d ∈ db.devices, d.assignedIp = .v4 a) := by
  refine ⟨?_, ?_⟩
  · intro ip hip
    obtain ⟨last, hlast, hfree⟩ := found_free hip
    exact ⟨usable_of_free hlast hfree, unassigned_of_free hfree⟩
  · intro p hcidr hlen
    subst hcidr
    have hend : seriesEnd (masklen (.v4 p)) = some ((p.size : Int) - 2) := seriesEnd_v4 p hlen
    refine ⟨?_, ?_⟩
    · unfold allocationQuery
      rw [hend]
      exact Option.some_ne_none _
    · intro hnone a ha
      obtain ⟨last, hlast, hempty⟩ := none_free hnone
      obtain rfl := Option.some.inj (hend.symm.trans hlast)
      exact (free_or_assigned ha).resolve_left (hempty _)

theorem length30 : 30 ≤ 32 := by decide

theorem length29 : 29 ≤ 32 := by decide

def slash30 : Prefix 32 := Prefix.ofAddr 0x0A000000#32 30 length30

def slash29 : Prefix 32 := Prefix.ofAddr 0x0A000000#32 29 length29

/-- The laptop has the one usable address of a `/30`; a `/29` has another one. -/
theorem small_blocks :
    (∀ a, slash30.Usable a → ∃ d ∈ (officeDb "k" []).devices, d.assignedIp = .v4 a) ∧
    (Cidr.v4 slash29).Usable (.v4 0x0A000003#32) := by
  have hfull : allocationQuery .asListed (officeDb "k" []) (.v4 slash30) = some none := by decide
  have hfound : allocationQuery .asListed (officeDb "k" []) (.v4 slash29) =
      some (some (.v4 0x0A000003#32)) := by decide
  have hlen : 2 ≤ slash30.len := by decide
  refine ⟨?_, ?_⟩
  · exact ((address_allocation .asListed (officeDb "k" []) (.v4 slash30)).2 _ rfl hlen).2 hfull
  · exact ((address_allocation .asListed (officeDb "k" []) (.v4 slash29)).1 _ hfound).1

end Outpost.AddressAllocation
