import Outpost.ScimHandler
import Outpost.Shared.Runs

/-!
# There is always an administrator

The requests that write the users table, statement by statement. `delete` checks and removes in
one serializable transaction, which PostgreSQL refuses when the row has a newer version or
another such transaction that counted the admins has committed since.
-/

namespace Outpost

namespace Database

variable (db : Database)

def HasAdmin : Prop := ∃ u ∈ db.users, u.isAdmin = true ∧ u.isActive = true

def OnlyAdmin (id : Uuid) : Prop :=
  ∀ u ∈ db.users, u.isAdmin = true → u.isActive = true → u.id = id

def Spares (id : Uuid) (isActive isAdmin : Option Bool) : Prop :=
  db.OnlyAdmin id → isActive ≠ some false ∧ isAdmin ≠ some false

instance : Decidable db.HasAdmin := by
  unfold HasAdmin
  infer_instance

instance (id : Uuid) : Decidable (db.OnlyAdmin id) := by
  unfold OnlyAdmin
  infer_instance

instance (id : Uuid) (isActive isAdmin : Option Bool) : Decidable (db.Spares id isActive isAdmin) := by
  unfold Spares
  infer_instance

variable {db} {id : Uuid} {f : UserFields}

theorem not_onlyAdmin : ¬ db.OnlyAdmin id ↔
    ∃ u ∈ db.users, u.isAdmin = true ∧ u.isActive = true ∧ u.id ≠ id := by
  unfold OnlyAdmin
  push Not
  exact Iff.rfl

theorem set_admin {u : User} (hactive : f.isActive ≠ some false) (hadmin : f.isAdmin ≠ some false)
    (hu : u.isAdmin = true ∧ u.isActive = true) :
    (u.set id f).isAdmin = true ∧ (u.set id f).isActive = true := by
  have hkeep : ∀ {o : Option Bool} {b : Bool}, o ≠ some false → b = true → o.getD b = true := by
    intro o b ho hb
    cases o with
    | none => exact hb
    | some v => cases v with
      | true => rfl
      | false => exact absurd rfl ho
  rw [User.set_isAdmin, User.set_isActive]
  split
  · exact ⟨hkeep hadmin hu.1, hkeep hactive hu.2⟩
  · exact hu

theorem hasAdmin_updateUser (h : db.HasAdmin) :
    (db.updateUser id f).HasAdmin ↔ db.Spares id f.isActive f.isAdmin := by
  constructor
  · intro ⟨u', hu', hadmin, hactive⟩ honly
    obtain ⟨u, hu, rfl⟩ := List.mem_map.mp hu'
    by_cases hid : u.id = id
    · rw [User.set_isAdmin, if_pos hid] at hadmin
      rw [User.set_isActive, if_pos hid] at hactive
      constructor
      · intro hoff
        rw [hoff] at hactive
        cases hactive
      · intro hoff
        rw [hoff] at hadmin
        cases hadmin
    · rw [User.set_of_ne id f u hid] at hadmin hactive
      exact absurd (honly u hu hadmin hactive) hid
  · intro hspares
    by_cases honly : db.OnlyAdmin id
    · obtain ⟨hactive, hadmin⟩ := hspares honly
      obtain ⟨u, hu, hflags⟩ := h
      exact ⟨u.set id f, List.mem_map_of_mem hu, set_admin hactive hadmin hflags⟩
    · obtain ⟨u, hu, hadmin, hactive, hid⟩ := not_onlyAdmin.mp honly
      refine ⟨u.set id f, List.mem_map_of_mem hu, ?_⟩
      rw [User.set_of_ne id f u hid]
      exact ⟨hadmin, hactive⟩

theorem hasAdmin_deleteUser : (db.deleteUser id).HasAdmin ↔ ¬ db.OnlyAdmin id := by
  rw [not_onlyAdmin]
  constructor
  · intro ⟨u, hu, hadmin, hactive⟩
    obtain ⟨hu, hid⟩ := (mem_deleteUser db).mp hu
    exact ⟨u, hu, hadmin, hactive, hid⟩
  · intro ⟨u, hu, hadmin, hactive, hid⟩
    exact ⟨u, (mem_deleteUser db).mpr ⟨hu, hid⟩, hadmin, hactive⟩

end Database

namespace Administrators

open Runs UserHandler Function

/-- The requests of one statement, and `create`. -/
inductive Request where
  | create (id : Uuid) (req : CreateRequest)
  | update (id : Uuid) (req : UpdateRequest)
  | activate (id : Uuid)
  | scimPut (id : Uuid) (req : Scim.UserResource)
  | scimDelete (id : Uuid)

namespace Request

def userID : Request → Uuid
  | .create id _ => id
  | .update id _ => id
  | .activate id => id
  | .scimPut id _ => id
  | .scimDelete id => id

def active : Request → Option Bool
  | .create _ _ => none
  | .update _ req => req.isActive
  | .activate _ => some true
  | .scimPut _ req => some (req.active.getD true)
  | .scimDelete _ => some false

def admin : Request → Option Bool
  | .update _ req => req.isAdmin
  | _ => none

end Request

def succeeded : Database × Option HandlerError → Option Database
  | (db, none) => some db
  | (_, some _) => none

def accept (env : CreateEnv) (db : Database) : Request → Option Database
  | .create id req => (create db env id req).toOption.map Prod.fst
  | .update id req => (update db id req).toOption.map Prod.fst
  | .activate id => (activate db id).toOption.map Prod.fst
  | .scimPut id req => succeeded (Scim.replaceUser db id req)
  | .scimDelete id => succeeded (Scim.deleteUser db id)

inductive Progress where
  | idle
  | patching (id : Uuid) (rest : List Scim.Part)
  | deleting (d : Deletion) (conflict : Bool)

namespace Progress

def touch (id : Uuid) : Progress → Progress
  | .deleting d conflict => .deleting d (conflict || d.userID = id)
  | p => p

def overtake (d : Deletion) : Progress → Progress
  | .deleting e conflict =>
    .deleting e (conflict || e.userID = d.userID || (d.countedAdmins && e.countedAdmins))
  | p => p

end Progress

structure State where
  db : Database
  requests : Nat → Progress

namespace State

variable (s : State)

def set (n : Nat) (p : Progress) : State := ⟨s.db, update s.requests n p⟩

def write (id : Uuid) (db : Database) : State := ⟨db, fun n => (s.requests n).touch id⟩

def remove (d : Deletion) : State :=
  ⟨s.db.deleteUser d.userID, fun n => (s.requests n).overtake d⟩

end State

inductive Label where
  | request (r : Request)
  | patch (n : Nat) (id : Uuid) (ops : List Scim.PatchOperation)
  | part (n : Nat) (id : Uuid) (part : Scim.Part)
  | answer (n : Nat)
  | check (n : Nat) (id : Uuid)
  | commit (n : Nat) (d : Deletion)
  | abort (n : Nat)

section Steps

variable (env : CreateEnv) (senv : Scim.Env)

/-- A refused request is no step. A transaction may abort at any time, and with a conflict it can do
nothing else. -/
inductive Step : State → Label → State → Prop where
  | request {s : State} {r : Request} {db : Database} :
      accept env s.db r = some db → Step s (.request r) (s.write r.userID db)
  | patch {s : State} {n : Nat} {id : Uuid} {ops : List Scim.PatchOperation} :
      s.requests n = .idle →
      Step s (.patch n id ops) (s.set n (.patching id (ops.flatMap Scim.PatchOperation.parts)))
  | part {s : State} {n : Nat} {id : Uuid} {part : Scim.Part} {rest : List Scim.Part}
      {db : Database} :
      s.requests n = .patching id (part :: rest) → part.run senv id s.db = (db, none) →
      Step s (.part n id part) ((s.write id db).set n (.patching id rest))
  | failed {s : State} {n : Nat} {id : Uuid} {part : Scim.Part} {rest : List Scim.Part}
      {db : Database} {message : String} :
      s.requests n = .patching id (part :: rest) → part.run senv id s.db = (db, some message) →
      Step s (.part n id part) (State.set ⟨db, s.requests⟩ n .idle)
  | answer {s : State} {n : Nat} {id : Uuid} :
      s.requests n = .patching id [] → Step s (.answer n) (s.set n .idle)
  | check {s : State} {n : Nat} {id : Uuid} {d : Deletion} :
      s.requests n = .idle → checkDelete s.db id = .ok d →
      Step s (.check n id) (s.set n (.deleting d false))
  | commit {s : State} {n : Nat} {d : Deletion} :
      s.requests n = .deleting d false → Step s (.commit n d) ((s.remove d).set n .idle)
  | abort {s : State} {n : Nat} {d : Deletion} {conflict : Bool} :
      s.requests n = .deleting d conflict → Step s (.abort n) (s.set n .idle)

end Steps

section Exact

variable {env : CreateEnv} {senv : Scim.Env} {db db' : Database} {r : Request}

inductive Accepted (r : Request) (db db' : Database) : Prop where
  | created (u : User) : r.active = none → r.admin = none → db'.users = db.users ++ [u] →
      Accepted r db db'
  | updated (f : UserFields) : f.isActive = r.active → f.isAdmin = r.admin →
      db' = db.updateUser r.userID f → Accepted r db db'

theorem succeeded_some {res : Database × Option HandlerError} (h : succeeded res = some db') :
    res = (db', none) := by
  obtain ⟨db, err⟩ := res
  cases err with
  | none =>
    cases h
    rfl
  | some e => cases h

theorem accepted_of_accept (h : accept env db r = some db') : Accepted r db db' := by
  have hok : ∀ {x : Except HandlerError (Database × List Note)},
      x.toOption.map Prod.fst = some db' → ∃ notes, x = .ok (db', notes) := by
    intro x hx
    cases x with
    | error e => cases hx
    | ok res =>
      cases hx
      exact ⟨res.2, rfl⟩
  cases r with
  | create id req =>
    obtain ⟨notes, hres⟩ := hok h
    obtain ⟨u, hu⟩ := create_spec hres
    exact .created u rfl rfl hu
  | update id req =>
    obtain ⟨notes, hres⟩ := hok h
    obtain ⟨rfl, -⟩ := Prod.mk.inj (update_spec hres)
    exact .updated req.fields rfl rfl rfl
  | activate id =>
    obtain ⟨notes, hres⟩ := hok h
    obtain ⟨rfl, -⟩ := Prod.mk.inj (activate_spec hres)
    exact .updated _ rfl rfl rfl
  | scimPut id req =>
    have hres := succeeded_some h
    unfold Scim.replaceUser at hres
    split at hres
    · cases hres
    · split at hres
      · cases hres
      · cases hres
        exact .updated req.fields rfl rfl rfl
  | scimDelete id =>
    have hres := succeeded_some h
    unfold Scim.deleteUser at hres
    split at hres
    · cases hres
    · cases hres
      exact .updated _ rfl rfl rfl

theorem hasAdmin_of_append {u : User} (hu : db'.users = db.users ++ [u]) (h : db.HasAdmin) :
    db'.HasAdmin := by
  obtain ⟨w, hw, hflags⟩ := h
  refine ⟨w, ?_, hflags⟩
  rw [hu]
  exact List.mem_append_left _ hw

theorem hasAdmin_accepted (h : db.HasAdmin) (ha : Accepted r db db') :
    db'.HasAdmin ↔ db.Spares r.userID r.active r.admin := by
  cases ha with
  | created u hactive hadmin hu =>
    rw [hactive, hadmin]
    exact iff_of_true (hasAdmin_of_append hu h) fun _ => ⟨nofun, nofun⟩
  | updated f hactive hadmin hdb =>
    rw [hdb, ← hactive, ← hadmin]
    exact Database.hasAdmin_updateUser h

theorem hasAdmin_sets {id : Uuid} {active : Option Bool} {res : Database × Option String}
    (h : db.HasAdmin) (hsets : Scim.Sets id active db res) :
    res.1.HasAdmin ↔ db.Spares id active none := by
  obtain ⟨f, hactive, hadmin, hdb⟩ := hsets.update
  rw [hdb, ← hactive, ← hadmin]
  exact Database.hasAdmin_updateUser h

/-- The step does not take away the only active admin. -/
def Label.Spares (db : Database) : Label → Prop
  | .request r => db.Spares r.userID r.active r.admin
  | .part _ id p => db.Spares id p.active none
  | .commit _ d => ¬ db.OnlyAdmin d.userID
  | _ => True

theorem hasAdmin_step {s t : State} {l : Label} (hstep : Step env senv s l t) (h : s.db.HasAdmin) :
    t.db.HasAdmin ↔ l.Spares s.db := by
  cases hstep with
  | request hacc => exact hasAdmin_accepted h (accepted_of_accept hacc)
  | part _ hrun => exact hasAdmin_sets h (hrun ▸ Scim.sets_run _)
  | failed _ hrun => exact hasAdmin_sets h (hrun ▸ Scim.sets_run _)
  | commit _ => exact Database.hasAdmin_deleteUser
  | _ => exact iff_of_true h trivial

end Exact

/-! ## Deletions against each other

When no statement takes a flag from an active admin, the check of `delete` is
enough: the table cannot lose its last admin, however deletions interleave. -/

section Deletions

variable {env : CreateEnv} {senv : Scim.Env} {db db' : Database} {id : Uuid} {d e : Deletion}

def KeepsAdmins (db : Database) (id : Uuid) (isActive isAdmin : Option Bool) : Prop :=
  ∀ u ∈ db.users, u.id = id → u.isAdmin = true ∧ u.isActive = true →
    isActive ≠ some false ∧ isAdmin ≠ some false

def Label.KeepsAdmins (db : Database) : Label → Prop
  | .request r => Administrators.KeepsAdmins db r.userID r.active r.admin
  | .part _ id p => Administrators.KeepsAdmins db id p.active none
  | _ => True

/-- What a deletion without a conflict has read is still so, as far as it matters. -/
structure Sound (db : Database) (d : Deletion) : Prop where
  row : ∃ u ∈ db.users, u.id = d.userID ∧ (u.isAdmin && u.isActive) = d.countedAdmins
  other : d.countedAdmins = true → ¬ db.OnlyAdmin d.userID

structure Inv (s : State) : Prop where
  admin : s.db.HasAdmin
  sound : ∀ n d, s.requests n = .deleting d false → Sound s.db d

theorem not_onlyAdmin_of_count (h : 1 < activeAdminCount db) : ¬ db.OnlyAdmin id := by
  intro honly
  have hnodup : (db.users.filter fun u => u.isAdmin = true ∧ u.isActive = true).Nodup :=
    (List.Nodup.of_map _ db.user_id_unique).filter _
  have hsame : ∀ u ∈ db.users.filter (fun u => u.isAdmin = true ∧ u.isActive = true),
      ∀ w ∈ db.users.filter (fun u => u.isAdmin = true ∧ u.isActive = true), u = w := by
    intro u hu w hw
    obtain ⟨hu, huflags⟩ := List.mem_filter.mp hu
    obtain ⟨hw, hwflags⟩ := List.mem_filter.mp hw
    have huflags := of_decide_eq_true huflags
    have hwflags := of_decide_eq_true hwflags
    apply db.user_eq_of_id hu hw
    rw [honly u hu huflags.1 huflags.2, honly w hw hwflags.1 hwflags.2]
  unfold activeAdminCount at h
  rcases hlist : db.users.filter fun u => u.isAdmin = true ∧ u.isActive = true with _ | ⟨u, rest⟩
  · rw [hlist] at h
    cases h
  · rcases rest with _ | ⟨w, rest⟩
    · rw [hlist] at h
      exact absurd h (Nat.lt_irrefl 1)
    · rw [hlist] at hnodup hsame
      have huw : u = w := hsame u (by simp) w (by simp)
      simp [huw] at hnodup

theorem sound_checkDelete (h : checkDelete db id = .ok d) : Sound db d := by
  unfold checkDelete at h
  split at h
  · cases h
  · rename_i u huser
    obtain ⟨hu, hid⟩ := db.userByID_eq_some huser
    split at h
    · cases h
    · rename_i hcount
      cases h
      refine ⟨⟨u, hu, hid, rfl⟩, ?_⟩
      intro hcounted
      obtain ⟨hadmin, hactive⟩ := Bool.and_eq_true_iff.mp hcounted
      apply not_onlyAdmin_of_count
      apply Nat.lt_of_not_le
      intro hle
      exact hcount ⟨hadmin, hactive, hle⟩

theorem not_onlyAdmin_of_sound (h : db.HasAdmin) (hd : Sound db d) : ¬ db.OnlyAdmin d.userID := by
  cases hcounted : d.countedAdmins with
  | true => exact hd.other hcounted
  | false =>
    obtain ⟨u, hu, hadmin, hactive⟩ := h
    obtain ⟨w, hw, hwid, hflags⟩ := hd.row
    intro honly
    obtain rfl := db.user_eq_of_id hu hw ((honly u hu hadmin hactive).trans hwid.symm)
    rw [hadmin, hactive, hcounted] at hflags
    cases hflags

theorem sound_append {u : User} (hu : db'.users = db.users ++ [u]) (hd : Sound db d) :
    Sound db' d where
  row := by
    obtain ⟨w, hw, hrow⟩ := hd.row
    refine ⟨w, ?_, hrow⟩
    rw [hu]
    exact List.mem_append_left _ hw
  other := by
    intro hcounted
    obtain ⟨w, hw, hrow⟩ := Database.not_onlyAdmin.mp (hd.other hcounted)
    refine Database.not_onlyAdmin.mpr ⟨w, ?_, hrow⟩
    rw [hu]
    exact List.mem_append_left _ hw

variable {f : UserFields} {p : Progress} {s t : State}

theorem set_admin_of_keeps (h : KeepsAdmins db id f.isActive f.isAdmin) {u : User}
    (hu : u ∈ db.users) (hflags : u.isAdmin = true ∧ u.isActive = true) :
    (u.set id f).isAdmin = true ∧ (u.set id f).isActive = true := by
  by_cases hid : u.id = id
  · obtain ⟨hactive, hadmin⟩ := h u hu hid hflags
    exact Database.set_admin hactive hadmin hflags
  · rw [User.set_of_ne id f u hid]
    exact hflags

theorem hasAdmin_of_keeps (h : KeepsAdmins db id f.isActive f.isAdmin) (hadmin : db.HasAdmin) :
    (db.updateUser id f).HasAdmin := by
  obtain ⟨u, hu, hflags⟩ := hadmin
  exact ⟨u.set id f, List.mem_map_of_mem hu, set_admin_of_keeps h hu hflags⟩

theorem sound_updateUser (h : KeepsAdmins db id f.isActive f.isAdmin) (hne : d.userID ≠ id)
    (hd : Sound db d) : Sound (db.updateUser id f) d where
  row := by
    obtain ⟨u, hu, hid, hflags⟩ := hd.row
    refine ⟨u, ?_, hid, hflags⟩
    rw [← User.set_of_ne id f u (hid ▸ hne)]
    exact List.mem_map_of_mem hu
  other := by
    intro hcounted
    obtain ⟨u, hu, hadmin, hactive, hid⟩ := Database.not_onlyAdmin.mp (hd.other hcounted)
    obtain ⟨hadmin, hactive⟩ := set_admin_of_keeps h hu ⟨hadmin, hactive⟩
    exact Database.not_onlyAdmin.mpr
      ⟨u.set id f, List.mem_map_of_mem hu, hadmin, hactive, by rw [User.set_id]; exact hid⟩

theorem sound_deleteUser (hd : Sound db d) (he : Sound db e) (hne : e.userID ≠ d.userID)
    (hboth : (d.countedAdmins && e.countedAdmins) = false) : Sound (db.deleteUser d.userID) e where
  row := by
    obtain ⟨u, hu, hid, hflags⟩ := he.row
    exact ⟨u, (db.mem_deleteUser).mpr ⟨hu, hid ▸ hne⟩, hid, hflags⟩
  other := by
    intro hcounted
    obtain ⟨u, hu, hadmin, hactive, hid⟩ := Database.not_onlyAdmin.mp (he.other hcounted)
    refine Database.not_onlyAdmin.mpr ⟨u, (db.mem_deleteUser).mpr ⟨hu, ?_⟩, hadmin, hactive, hid⟩
    intro hsame
    obtain ⟨w, hw, hwid, hflags⟩ := hd.row
    obtain rfl := db.user_eq_of_id hu hw (hsame.trans hwid.symm)
    rw [hcounted, Bool.and_true] at hboth
    rw [hadmin, hactive, hboth] at hflags
    cases hflags

theorem touch_eq_deleting (h : p.touch id = .deleting d false) :
    p = .deleting d false ∧ d.userID ≠ id := by
  cases p with
  | deleting e conflict =>
    simp only [Progress.touch, Progress.deleting.injEq, Bool.or_eq_false_iff,
      decide_eq_false_iff_not] at h
    obtain ⟨rfl, rfl, hne⟩ := h
    exact ⟨rfl, hne⟩
  | idle => cases h
  | patching userID rest => cases h

theorem overtake_eq_deleting (h : p.overtake d = .deleting e false) :
    p = .deleting e false ∧ e.userID ≠ d.userID ∧ (d.countedAdmins && e.countedAdmins) = false := by
  cases p with
  | deleting e' conflict =>
    simp only [Progress.overtake, Progress.deleting.injEq, Bool.or_eq_false_iff,
      decide_eq_false_iff_not] at h
    obtain ⟨rfl, ⟨rfl, hne⟩, hboth⟩ := h
    exact ⟨rfl, hne, hboth⟩
  | idle => cases h
  | patching userID rest => cases h

theorem inv_set {n : Nat} (h : Inv s) (hp : ∀ d, p = .deleting d false → Sound s.db d) :
    Inv (s.set n p) where
  admin := h.admin
  sound := by
    intro k d hk
    by_cases hkn : k = n
    · subst hkn
      simp only [State.set, update_self] at hk
      exact hp d hk
    · simp only [State.set, update_of_ne hkn] at hk
      exact h.sound k d hk

theorem inv_write_update (h : Inv s) (hkeeps : KeepsAdmins s.db id f.isActive f.isAdmin) :
    Inv (s.write id (s.db.updateUser id f)) where
  admin := hasAdmin_of_keeps hkeeps h.admin
  sound := by
    intro n d hn
    obtain ⟨hn, hne⟩ := touch_eq_deleting hn
    exact sound_updateUser hkeeps hne (h.sound n d hn)

theorem inv_accepted {r : Request} (h : Inv s) (hkeeps : KeepsAdmins s.db r.userID r.active r.admin)
    (ha : Accepted r s.db db) : Inv (s.write r.userID db) := by
  cases ha with
  | created u _ _ hu =>
    refine ⟨hasAdmin_of_append hu h.admin, ?_⟩
    intro n d hn
    exact sound_append hu (h.sound n d (touch_eq_deleting hn).1)
  | updated f hactive hadmin hdb =>
    rw [hdb]
    apply inv_write_update h
    rw [hactive, hadmin]
    exact hkeeps

theorem inv_remove {n : Nat} (h : Inv s) (hn : s.requests n = .deleting d false) :
    Inv (s.remove d) where
  admin := Database.hasAdmin_deleteUser.mpr (not_onlyAdmin_of_sound h.admin (h.sound n d hn))
  sound := by
    intro k e hk
    obtain ⟨hk, hne, hboth⟩ := overtake_eq_deleting hk
    exact sound_deleteUser (h.sound n d hn) (h.sound k e hk) hne hboth

theorem inv_step {l : Label} (hstep : Guarded (Step env senv) (fun s l => l.KeepsAdmins s.db) s l t)
    (h : Inv s) : Inv t := by
  obtain ⟨hstep, hkeeps⟩ := hstep
  cases hstep with
  | request hacc => exact inv_accepted h hkeeps (accepted_of_accept hacc)
  | @part n id part rest db _ hrun =>
    have hsets : Scim.Sets id part.active s.db (db, none) := hrun ▸ Scim.sets_run part
    obtain ⟨f, hactive, hadmin, rfl⟩ : ∃ f : UserFields, f.isActive = part.active ∧
        f.isAdmin = none ∧ db = s.db.updateUser id f := hsets.update
    apply inv_set
    · apply inv_write_update h
      rw [hactive, hadmin]
      exact hkeeps
    · exact fun d hd => nomatch hd
  | @failed n id part rest db message _ hrun =>
    have hsets : Scim.Sets id part.active s.db (db, some message) := hrun ▸ Scim.sets_run part
    obtain rfl : db = s.db := hsets.failed nofun
    exact inv_set h fun d hd => nomatch hd
  | commit hn => exact inv_set (inv_remove h hn) fun d hd => nomatch hd
  | check _ hcheck =>
    apply inv_set h
    intro d hd
    cases hd
    exact sound_checkDelete hcheck
  | _ => exact inv_set h fun d hd => nomatch hd

theorem deletions_keep_admin {labels : List Label} (h : s.db.HasAdmin)
    (hidle : ∀ n, s.requests n = .idle)
    (hrun : Run (Guarded (Step env senv) fun s l => l.KeepsAdmins s.db) s labels t) :
    t.db.HasAdmin := by
  have hinv : Inv s := by
    refine ⟨h, ?_⟩
    intro n d hn
    rw [hidle n] at hn
    cases hn
  exact (hrun.invariant (fun _ _ _ hstep => inv_step hstep) hinv).admin

end Deletions

theorem always_admin_iff (env : CreateEnv) (senv : Scim.Env) {s t : State} {labels : List Label}
    (h : s.db.HasAdmin) :
    Run (Through (Step env senv) fun s => s.db.HasAdmin) s labels t ↔
      Run (Guarded (Step env senv) fun s l => l.Spares s.db) s labels t := by
  apply Run.through_iff_guarded (I := fun s : State => s.db.HasAdmin)
  · intro s l t hstep hs
    exact hasAdmin_step hstep hs
  · exact h

def asciiEnv : CreateEnv :=
  ⟨⟨Char.isUpper, Char.isLower, Char.isDigit⟩, ⟨fun _ password => password, fun a b => a == b⟩, ""⟩

def noEmails : Scim.Env := ⟨fun _ => .ok []⟩

def alice : User := ⟨"a", true, true, false, "alice", "alice@example.com"⟩

def bob : User := ⟨"b", true, true, false, "bob", "bob@example.com"⟩

def aliceDb : Database :=
  { Database.empty with
    users := [alice]
    user_id_unique := by decide
    device_owner := by simp [Database.empty] }

def bothDb : Database :=
  { Database.empty with
    users := [alice, bob]
    user_id_unique := by decide
    device_owner := by simp [Database.empty] }

def resting (db : Database) : State := ⟨db, fun _ => .idle⟩

def demotion : UpdateRequest := ⟨none, none, some false⟩

/-- Of two admins one may be demoted. -/
theorem second_admin_demoted :
    bothDb.HasAdmin ∧ ∃ t, Run (Through (Step asciiEnv noEmails) fun s => s.db.HasAdmin)
      (resting bothDb) [.request (.update "b" demotion)] t := by
  have hadmin : bothDb.HasAdmin := by decide
  have hacc : accept asciiEnv bothDb (.update "b" demotion) =
      some (bothDb.updateUser "b" demotion.fields) := rfl
  have hstep : Step asciiEnv noEmails (resting bothDb) (.request (.update "b" demotion)) _ :=
    .request hacc
  have hspares : bothDb.Spares "b" none (some false) := by decide
  exact ⟨hadmin, _, (always_admin_iff asciiEnv noEmails hadmin).mpr (.single ⟨hstep, hspares⟩)⟩

/-- The last admin is demoted, or switched off by SCIM; and of two, one is demoted while the
deletion of the other is on its way. -/
theorem last_admin_lost :
    aliceDb.HasAdmin ∧
    (∃ t, Step asciiEnv noEmails (resting aliceDb) (.request (.update "a" demotion)) t ∧
      ¬ t.db.HasAdmin) ∧
    (∃ t, Step asciiEnv noEmails (resting aliceDb) (.request (.scimDelete "a")) t ∧
      ¬ t.db.HasAdmin) ∧
    bothDb.HasAdmin ∧
    ∃ t, Run (Step asciiEnv noEmails) (resting bothDb)
      [.check 0 "a", .request (.update "b" demotion), .commit 0 ⟨"a", true, []⟩] t ∧
      ¬ t.db.HasAdmin := by
  refine ⟨by decide, ?_, ?_, by decide, ?_⟩
  · have hacc : accept asciiEnv aliceDb (.update "a" demotion) =
        some (aliceDb.updateUser "a" demotion.fields) := rfl
    exact ⟨_, .request hacc, show ¬ (aliceDb.updateUser "a" demotion.fields).HasAdmin by decide⟩
  · have hacc : accept asciiEnv aliceDb (.scimDelete "a") =
        some (aliceDb.updateUser "a" { isActive := some false }) := rfl
    exact ⟨_, .request hacc,
      show ¬ (aliceDb.updateUser "a" { isActive := some false }).HasAdmin by decide⟩
  · have hcheck : checkDelete bothDb "a" = .ok ⟨"a", true, []⟩ := rfl
    have hacc : accept asciiEnv bothDb (.update "b" demotion) =
        some (bothDb.updateUser "b" demotion.fields) := rfl
    refine ⟨_, .cons (.check rfl hcheck) (.cons (.request hacc) (.single (.commit ?_))), ?_⟩
    · rfl
    · exact show ¬ ((bothDb.updateUser "b" demotion.fields).deleteUser "a").HasAdmin by decide

end Administrators

end Outpost
