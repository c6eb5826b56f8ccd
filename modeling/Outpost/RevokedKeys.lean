import Outpost.DeviceCreation
import Outpost.DeviceRecords
import Outpost.Shared.Runs

/-!
# Revoked keys

An administrator revokes a device. Its owner may delete the row, and a later enrollment
of the same key then inserts an approved one. Nothing but this brings a revoked key back
without an administrator.
-/

namespace Outpost.RevokedKeys

open DeviceHandler Runs
open NetworkHandler (map_eq_ok bind_eq_ok)

/-- `RequireAdmin` stands before approvals and revocations only. -/
inductive Request where
  | enroll (env : EnrollEnv) (now : Nat) (req : EnrollRequest) (claims : Option Claims)
  | create (env : DeviceCreation.CreateEnv) (now : Nat) (req : DeviceCreation.CreateRequest)
      (claims : Option Claims)
  | update (now : Nat) (id : Uuid) (name : Option String) (claims : Claims)
  | delete (id : Uuid) (claims : Claims)
  | approve (id : Uuid)
  | revoke (id : Uuid)

def Request.serve (t : DeviceRecords) : Request → Except HandlerError DeviceRecords
  | .enroll env now req claims => do
    let (db, note) ← Enrollment.enroll env t.db req claims
    -- a key that is enrolled already inserts nothing, and nobody is told
    return if note.isSome then t.insert db now env.newID req.name none else t
  | .create env now req claims => do
    let (db, privateKey) ← DeviceCreation.create env t.db req claims
    return t.insert db now env.newID req.name privateKey
  | .update now id name claims => DeviceHandler.update t now id name claims
  | .delete id claims => (DeviceHandler.delete t.db id claims).map fun res => { t with db := res.1 }
  | .approve id => (DeviceHandler.approve t.db id).map fun res => { t with db := res.1 }
  | .revoke id => (DeviceHandler.revoke t.db id).map fun res => { t with db := res.1 }

def Step (t : DeviceRecords) (r : Request) (t' : DeviceRecords) : Prop :=
  r.serve t = .ok t' ∨ (∃ e, r.serve t = .error e) ∧ t' = t

def Unapproved (key : String) (t : DeviceRecords) : Prop :=
  ∀ d ∈ t.db.devices, d.wireguardPubkey = key → d.isApproved = false

def Request.SparesKey (key : String) (t : DeviceRecords) : Request → Prop
  | .approve id => ∀ d ∈ t.db.devices, d.id = id → d.wireguardPubkey ≠ key
  | _ => True

def Request.Reenrolls (key : String) (t : DeviceRecords) : Request → Prop
  | .enroll env _ req claims => req.wireguardPubkey = key ∧
      (∀ d ∈ t.db.devices, d.wireguardPubkey ≠ key) ∧
      ∃ res, Enrollment.enroll env t.db req claims = .ok res
  | _ => False

section Steps

variable {key : String} {t t' : DeviceRecords}

theorem Unapproved.delete (h : Unapproved key t) (id : Uuid) :
    Unapproved key { t with db := t.db.deleteDevice id } :=
  fun d hd => h d (List.mem_filter.mp hd).1

theorem Unapproved.setApproved (h : Unapproved key t) {id : Uuid} {value : Bool}
    (hspares : value = true → ∀ d ∈ t.db.devices, d.id = id → d.wireguardPubkey ≠ key) :
    Unapproved key { t with db := t.db.setApproved id value } := by
  intro e he hkey
  obtain ⟨d, hd, rfl⟩ := List.mem_map.mp he
  rw [Device.setApproved_wireguardPubkey] at hkey
  by_cases hid : d.id = id
  · rw [Device.setApproved, if_pos hid]
    cases value with
    | false => rfl
    | true => exact absurd hkey (hspares rfl d hd hid)
  · rw [Device.setApproved, if_neg hid]
    exact h d hd hkey

theorem unapproved_insert_iff (h : Unapproved key t) {d : Device} (hd : t.db.Insertable d)
    (now : Nat)
    (id : Uuid) (name : String) (privkey : Option String) :
    Unapproved key (t.insert (t.db.insertDevice d hd) now id name privkey) ↔
      (d.wireguardPubkey = key → d.isApproved = false) := by
  constructor
  · intro hafter hkey
    exact hafter d (List.mem_append_right _ (List.mem_singleton_self d)) hkey
  · intro hnew e he hkey
    rcases List.mem_append.mp he with he | he
    · exact h e he hkey
    · obtain rfl := List.mem_singleton.mp he
      exact hnew hkey

theorem enroll_iff (h : Unapproved key t) {env : EnrollEnv} {now : Nat} {req : EnrollRequest}
    {claims : Option Claims} (hserve : Request.serve t (.enroll env now req claims) = .ok t') :
    Unapproved key t' ↔ ¬ Request.Reenrolls key t (.enroll env now req claims) := by
  obtain ⟨⟨db, note⟩, henroll, hret⟩ := bind_eq_ok hserve
  obtain rfl := Except.ok.inj hret
  rcases Enrollment.enroll_inserts henroll with ⟨hsame, e, he, hekey⟩ | ⟨d, hd, _, _, _, _, _, _, _,
    hpubkey, _, happroved, hnew⟩
  · obtain ⟨rfl, rfl⟩ := Prod.mk.inj hsame
    refine iff_of_true h ?_
    intro ⟨hkey, hfree, _⟩
    exact hfree e he (hekey.trans hkey)
  · obtain ⟨rfl, rfl⟩ := Prod.mk.inj hnew
    rw [Option.isSome_some, if_pos rfl, unapproved_insert_iff h hd, happroved]
    constructor
    · intro hnew ⟨hkey, _⟩
      cases hnew (hpubkey.trans hkey)
    · intro hspares hkey
      refine absurd ⟨hpubkey.symm.trans hkey, ?_, _, henroll⟩ hspares
      intro e he hekey
      exact hd.wireguardPubkey e he (hekey.trans hkey.symm)

theorem unapproved_serve {r : Request} (hserve : r.serve t = .ok t') (hspares : r.SparesKey key t)
    (h : Unapproved key t) : Unapproved key t' ↔ ¬ r.Reenrolls key t := by
  cases r with
  | enroll env now req claims => exact enroll_iff h hserve
  | create env now req claims =>
    obtain ⟨⟨db, privateKey⟩, hcreate, hret⟩ := bind_eq_ok hserve
    obtain rfl := Except.ok.inj hret
    obtain ⟨d, n, hd, _, _, hwaits, rfl, _⟩ := DeviceCreation.create_spec hcreate
    exact iff_of_true ((unapproved_insert_iff h hd _ _ _ _).mpr fun _ => hwaits) not_false
  | update now id name claims =>
    refine iff_of_true ?_ not_false
    unfold Unapproved
    rw [update_db hserve]
    exact h
  | delete id claims =>
    obtain ⟨⟨db, note⟩, hdelete, rfl⟩ := map_eq_ok hserve
    obtain ⟨_, _, _, rfl, _⟩ := handle_inv (r := .delete id claims) hdelete
    exact iff_of_true (h.delete id) not_false
  | approve id =>
    obtain ⟨⟨db, note⟩, happrove, rfl⟩ := map_eq_ok hserve
    obtain ⟨_, _, _, rfl, _⟩ := handle_inv (r := .approve id) happrove
    exact iff_of_true (h.setApproved fun _ => hspares) not_false
  | revoke id =>
    obtain ⟨⟨db, note⟩, hrevoke, rfl⟩ := map_eq_ok hserve
    obtain ⟨_, _, _, rfl, _⟩ := handle_inv (r := .revoke id) hrevoke
    exact iff_of_true (h.setApproved nofun) not_false

theorem unapproved_step {r : Request} (hstep : Guarded Step (fun t r => r.SparesKey key t) t r t')
    (h : Unapproved key t) : Unapproved key t' ↔ ¬ r.Reenrolls key t := by
  obtain ⟨hserved | ⟨⟨e, hrefused⟩, rfl⟩, hspares⟩ := hstep
  · exact unapproved_serve hserved hspares h
  · refine iff_of_true h ?_
    cases r with
    | enroll env now req claims =>
      intro ⟨_, _, res, hok⟩
      simp only [Request.serve, hok] at hrefused
      cases hrefused
    | _ => exact not_false

theorem unapproved_of_revoke {id : Uuid} {d : Device} (hd : d ∈ t.db.devices) (hid : d.id = id)
    (hrevoke : Request.serve t (.revoke id) = .ok t') : Unapproved d.wireguardPubkey t' := by
  obtain ⟨⟨db, note⟩, hhandled, rfl⟩ := map_eq_ok hrevoke
  obtain ⟨_, _, _, rfl, _⟩ := handle_inv (r := .revoke id) hhandled
  intro e he hkey
  obtain ⟨e₀, he₀, rfl⟩ := List.mem_map.mp he
  rw [Device.setApproved_wireguardPubkey] at hkey
  obtain rfl := t.db.device_eq_of_pubkey he₀ hd hkey
  rw [Device.setApproved, if_pos hid]

end Steps

/-- As long as no administrator approves a device with the revoked key, its rows stay without
approval exactly when nobody enrolls it again after its row is gone. -/
theorem revoked_key_stays_iff {t₀ t t' : DeviceRecords} {id : Uuid} {d : Device}
    {requests : List Request} (hd : d ∈ t₀.db.devices) (hid : d.id = id)
    (hrevoke : Request.serve t₀ (.revoke id) = .ok t) :
    Run (Through (Guarded Step fun t r => r.SparesKey d.wireguardPubkey t)
        (Unapproved d.wireguardPubkey)) t requests t' ↔
      Run (Guarded (Guarded Step fun t r => r.SparesKey d.wireguardPubkey t)
        fun t r => ¬ r.Reenrolls d.wireguardPubkey t) t requests t' :=
  Run.through_iff_guarded (fun _ _ _ hstep h => unapproved_step hstep h)
    (unapproved_of_revoke hd hid hrevoke)

def carol : User := ⟨"c", true, false, false, "carol", ""⟩

def laptop : Device := ⟨"d", "c", "key", .v4 0x0A000002, true, some "n"⟩

def officeNet : Network := ⟨"n", "office", .v4 (.ofAddr 0x0A000000 27 (by decide)), none, true⟩

def officeGateway : Gateway := ⟨"g", none, "gkey", "gw:51820", true, 0, 0, "gw"⟩

def office : DeviceRecords where
  db := { Database.ofDevice carol laptop rfl with
    networks := [officeNet]
    gateways := [officeGateway]
    gatewayNetworks := [⟨"g", "n"⟩] }
  deviceColumns := fun _ => ⟨"laptop", none, none, 0, 0⟩
  networkColumns := fun _ => ⟨[], 51820, 0⟩
  gatewayColumns := fun _ => ⟨none, "healthy"⟩

def revokedOffice : DeviceRecords := { office with db := office.db.setApproved "d" false }

def emptyOffice : DeviceRecords := { revokedOffice with db := revokedOffice.db.deleteDevice "d" }

def keyEnv : EnrollEnv where
  validWireGuardKey := fun _ => true
  parseUuid := some
  newID := "e"

def enrollAgain : Request := .enroll keyEnv 1 ⟨"laptop", "key"⟩ (some ⟨"c", false⟩)

theorem primary_office {db : Database} (h : db.enrollQuery = [(officeGateway, officeNet)]) :
    Enrollment.primary keyEnv db = some (officeGateway, officeNet) := by
  have hrows : keyEnv.gatewayRows.visit db.enrollQuery = [(officeGateway, officeNet)] := h
  unfold Enrollment.primary
  rw [hrows, List.mergeSort_singleton]
  rfl

theorem enrollAgain_step {t t' : DeviceRecords} {res : Database × Option Notification}
    (h : t.db.enrollQuery = [(officeGateway, officeNet)])
    (hallocate : Enrollment.allocate keyEnv t.db ⟨"laptop", "key"⟩ "c" officeNet = .ok res)
    (ht : (if res.2.isSome then t.insert res.1 1 "e" "laptop" none else t) = t') :
    Step t enrollAgain t' := by
  have henroll : Enrollment.enroll keyEnv t.db ⟨"laptop", "key"⟩ (some ⟨"c", false⟩) = .ok res := by
    unfold Enrollment.enroll
    rw [primary_office h]
    exact hallocate
  refine .inl ?_
  simp only [enrollAgain, Request.serve, henroll, ← ht]
  rfl

/-- As long as the row is there, enrolling again changes nothing. -/
theorem enrolling_again_waits : ∃ t', Run (Through
      (Guarded Step fun t r => r.SparesKey laptop.wireguardPubkey t)
      (Unapproved laptop.wireguardPubkey)) revokedOffice [enrollAgain] t' ∧
    laptop.setApproved "d" false ∈ t'.db.devices := by
  have hrevoke : Request.serve office (.revoke "d") = .ok revokedOffice := rfl
  have hstep : Step revokedOffice enrollAgain revokedOffice := enrollAgain_step rfl rfl rfl
  refine ⟨revokedOffice, (revoked_key_stays_iff (d := laptop) (.head _) rfl
    hrevoke).mpr (.cons ⟨⟨hstep, trivial⟩, ?_⟩ (.nil _)), .head _⟩
  intro ⟨_, hfree, _⟩
  exact hfree _ (.head _) rfl

/-- Carol deletes the revoked laptop and enrolls it again, approved. -/
theorem owner_undoes_revocation : Request.serve office (.revoke "d") = .ok revokedOffice ∧
    ∃ t', Run (Guarded Step fun t r => r.SparesKey laptop.wireguardPubkey t) revokedOffice
        [.delete "d" ⟨"c", false⟩, enrollAgain] t' ∧
      ∃ e ∈ t'.db.devices, e.wireguardPubkey = laptop.wireguardPubkey ∧ e.isApproved = true := by
  have hdelete : Step revokedOffice (.delete "d" ⟨"c", false⟩) emptyOffice := .inl rfl
  have hstep : Step emptyOffice enrollAgain _ := enrollAgain_step rfl rfl rfl
  refine ⟨rfl, _, .cons ⟨hdelete, trivial⟩ (.cons ⟨hstep, trivial⟩ (.nil _)), ?_⟩
  decide

end Outpost.RevokedKeys
