import Outpost.ScimGroups
import Outpost.Shared.KeyedRows
import Outpost.Shared.Runs

/-!
# System groups

`is_system` protects a group from the `delete` of the admin API. Nothing sets or clears the
flag, and only deletions take a group's ACLs away; but the deletions of the SCIM API do not
read the flag.
-/

namespace Outpost.SystemGroups

open Runs Scim

inductive Request where
  | create (id : Uuid) (name description : String)
  | update (id : Uuid) (name description : Option String)
  | delete (id : Uuid)
  | scimCreate (env : GroupEnv) (id : Uuid) (req : GroupResource)
  | scimReplace (env : GroupEnv) (id : Uuid) (req : GroupResource)
  | scimPatch (env : GroupEnv) (id : Uuid) (ops : List PatchOperation)
  | scimDelete (id : Uuid)

def admin (db : Database) : Except HandlerError (Database × Push) → Database
  | .ok res => res.1
  | .error _ => db

def Request.serve (db : Database) : Request → Database
  | .create id name description => admin db (GroupHandler.create db id name description)
  | .update id name description => admin db (GroupHandler.update db id name description)
  | .delete id => admin db (GroupHandler.delete db id)
  | .scimCreate env id req => (createGroup env db id req).1
  | .scimReplace env id req => (replaceGroup env db id req).1
  | .scimPatch env id ops => (patchGroup env db id ops).1
  | .scimDelete id => (deleteGroup db id).1

def Step (db : Database) (r : Request) (db' : Database) : Prop := r.serve db = db'

def aclsOf (db : Database) (groupID : Uuid) : List NetworkAcl :=
  db.networkAcls.filter fun a => a.groupId = groupID

def SystemKept (db₀ db : Database) : Prop :=
  ∀ g ∈ db₀.groups, g.isSystem = true →
    (∃ g' ∈ db.groups, g'.id = g.id ∧ g'.isSystem = true) ∧ aclsOf db g.id = aclsOf db₀ g.id

def Keyed (db : Database) : Prop := (db.groups.map Group.id).Nodup

def Request.Spares (db₀ : Database) : Request → Prop
  | .scimDelete id => ∀ g ∈ db₀.groups, g.isSystem = true → g.id ≠ id
  | _ => True

section Steps

variable {db₀ db db' : Database} {id : Uuid}

theorem SystemKept.refl : SystemKept db db := fun g hg hsystem => ⟨⟨g, hg, rfl, hsystem⟩, rfl⟩

theorem keyed_of_keepsGroups (h : KeepsGroups db db') (hkeyed : Keyed db) : Keyed db' := by
  have hids := congrArg (List.map Prod.fst) h.groups
  simp only [List.map_map, Function.comp_def] at hids
  unfold Keyed
  rw [hids]
  exact hkeyed

theorem SystemKept.of_keepsGroups (hkept : SystemKept db₀ db) (h : KeepsGroups db db') :
    SystemKept db₀ db' := by
  intro g hg hsystem
  obtain ⟨⟨g', hg', hid, hflag⟩, hacls⟩ := hkept g hg hsystem
  refine ⟨?_, ?_⟩
  · have hrow : (g'.id, g'.isSystem) ∈ db'.groups.map fun g => (g.id, g.isSystem) := by
      rw [h.groups]
      exact List.mem_map.mpr ⟨g', hg', rfl⟩
    obtain ⟨g'', hg'', heq⟩ := List.mem_map.mp hrow
    obtain ⟨hid', hflag'⟩ := Prod.mk.inj heq
    exact ⟨g'', hg'', hid'.trans hid, hflag'.trans hflag⟩
  · unfold aclsOf
    rw [h.networkAcls]
    exact hacls

theorem keyed_addGroup {g : Group} (hkeyed : Keyed db) (hfresh : ∀ g' ∈ db.groups, g'.id ≠ g.id) :
    Keyed (db.addGroup g) := by
  unfold Keyed Database.addGroup
  rw [List.map_append]
  exact hkeyed.append (List.nodup_singleton _) (by simpa using hfresh)

theorem SystemKept.addGroup (hkept : SystemKept db₀ db) (g : Group) :
    SystemKept db₀ (db.addGroup g) := by
  intro g₀ hg₀ hsystem
  obtain ⟨⟨g', hg', hrow⟩, hacls⟩ := hkept g₀ hg₀ hsystem
  exact ⟨⟨g', List.mem_append_left _ hg', hrow⟩, hacls⟩

theorem keyed_deleteGroup (hkeyed : Keyed db) : Keyed (db.deleteGroup id) :=
  hkeyed.sublist (List.filter_sublist.map _)

theorem systemKept_deleteGroup (hkept : SystemKept db₀ db) :
    SystemKept db₀ (db.deleteGroup id) ↔ ∀ g ∈ db₀.groups, g.isSystem = true → g.id ≠ id := by
  constructor
  · intro h g hg hsystem hid
    obtain ⟨⟨g', hg', hid', _⟩, _⟩ := h g hg hsystem
    have hne := (List.mem_filter.mp hg').2
    exact of_decide_eq_true hne (hid'.trans hid)
  · intro hspares g hg hsystem
    obtain ⟨⟨g', hg', hid, hflag⟩, hacls⟩ := hkept g hg hsystem
    have hne := hspares g hg hsystem
    refine ⟨⟨g', List.mem_filter.mpr ⟨hg', decide_eq_true (hid.trans_ne hne)⟩, hid, hflag⟩, ?_⟩
    rw [← hacls, aclsOf, Database.deleteGroup, List.filter_filter]
    apply List.filter_congr
    intro a _
    by_cases ha : a.groupId = g.id
    · simp [ha, hne]
    · simp [ha]

end Steps

theorem delete_spares {db₀ db : Database} {id : Uuid} {res : Database × Push} (hkeyed : Keyed db)
    (hkept : SystemKept db₀ db) (h : GroupHandler.delete db id = .ok res) :
    ∀ g ∈ db₀.groups, g.isSystem = true → g.id ≠ id := by
  intro g hg hsystem hid
  obtain ⟨⟨g', hg', hid', hflag⟩, _⟩ := hkept g hg hsystem
  have hfind : (db.groups.find? fun g => g.id = id) = some g' :=
    (KeyedRows.find?_eq_some hkeyed).mpr ⟨hg', hid'.trans hid⟩
  unfold GroupHandler.delete at h
  rw [hfind] at h
  simp only [hflag] at h
  cases h

section Requests

variable {db₀ db db' : Database} {r : Request}

inductive Effect (db : Database) : Request → Database → Prop where
  | keeps {r : Request} {db' : Database} :
      (∀ id, r ≠ .scimDelete id) → KeepsGroups db db' → Effect db r db'
  | adds {r : Request} {db' : Database} (g : Group) :
      (∀ id, r ≠ .scimDelete id) → (∀ g' ∈ db.groups, g'.id ≠ g.id) →
      KeepsGroups (db.addGroup g) db' → Effect db r db'
  | deletes {id : Uuid} {res : Database × Push} :
      GroupHandler.delete db id = .ok res → Effect db (.delete id) (db.deleteGroup id)
  | scimDeletes (id : Uuid) : Effect db (.scimDelete id) (db.deleteGroup id)
  | scimMisses {id : Uuid} : (¬ ∃ g ∈ db.groups, g.id = id) → Effect db (.scimDelete id) db

theorem effect_serve (db : Database) (r : Request) : Effect db r (r.serve db) := by
  cases r with
  | create id name description =>
    have hother : ∀ id', Request.create id name description ≠ .scimDelete id' := by
      intro id' h
      cases h
    rw [Request.serve, GroupHandler.create]
    split
    · exact .keeps hother .refl
    · split
      · exact .keeps hother .refl
      · rename_i htaken
        refine .adds _ hother ?_ .refl
        intro g hg hid
        exact htaken ⟨g, hg, .inl hid⟩
  | update id name description =>
    refine .keeps (fun id' h => by cases h) ?_
    rw [Request.serve]
    cases h : GroupHandler.update db id name description with
    | error e => exact .refl
    | ok res =>
      obtain rfl := GroupHandler.update_spec h
      exact keepsGroups_updateGroup db id name description
  | delete id =>
    rw [Request.serve]
    cases h : GroupHandler.delete db id with
    | error e => exact .keeps (fun id' h => by cases h) .refl
    | ok res =>
      have hdeletes := h
      obtain rfl := GroupHandler.delete_spec h
      exact .deletes hdeletes
  | scimCreate env id req =>
    have hother : ∀ id', Request.scimCreate env id req ≠ .scimDelete id' := by
      intro id' h
      cases h
    rw [Request.serve, createGroup]
    split
    · exact .keeps hother .refl
    · split
      · exact .keeps hother .refl
      · rename_i htaken
        refine .adds _ hother ?_ (keepsGroups_provisionMembers _)
        intro g hg hid
        exact htaken ⟨g, hg, .inl hid⟩
  | scimReplace env id req =>
    exact .keeps (fun id' h => by cases h) (keepsGroups_replaceGroup req)
  | scimPatch env id ops =>
    exact .keeps (fun id' h => by cases h) (keepsGroups_patchGroup ops)
  | scimDelete id =>
    rw [Request.serve, deleteGroup]
    split
    · exact .scimDeletes id
    · rename_i hnone
      exact .scimMisses hnone

theorem keyed_effect (hkeyed : Keyed db) (h : Effect db r db') : Keyed db' := by
  cases h with
  | keeps _ hkeeps => exact keyed_of_keepsGroups hkeeps hkeyed
  | adds g _ hfresh hkeeps => exact keyed_of_keepsGroups hkeeps (keyed_addGroup hkeyed hfresh)
  | scimMisses _ => exact hkeyed
  | _ => exact keyed_deleteGroup hkeyed

theorem spares_of_other (h : ∀ id, r ≠ .scimDelete id) : r.Spares db₀ := by
  cases r with
  | scimDelete id => exact absurd rfl (h id)
  | _ => trivial

theorem systemKept_effect (hkeyed : Keyed db) (hkept : SystemKept db₀ db) (h : Effect db r db') :
    SystemKept db₀ db' ↔ r.Spares db₀ := by
  cases h with
  | keeps hother hkeeps => exact iff_of_true (hkept.of_keepsGroups hkeeps) (spares_of_other hother)
  | adds g hother _ hkeeps =>
    exact iff_of_true ((hkept.addGroup g).of_keepsGroups hkeeps) (spares_of_other hother)
  | deletes hdelete =>
    exact iff_of_true ((systemKept_deleteGroup hkept).mpr
      (delete_spares hkeyed hkept hdelete)) trivial
  | scimDeletes id => exact systemKept_deleteGroup hkept
  | scimMisses hnone =>
    -- a system group is still there, so the missing one is another
    refine iff_of_true hkept ?_
    intro g hg hsystem hid
    obtain ⟨⟨g', hg', hid', _⟩, _⟩ := hkept g hg hsystem
    exact hnone ⟨g', hg', hid'.trans hid⟩

end Requests

/-- A run keeps its system groups, and their ACLs, exactly when none of its requests is a SCIM
deletion of one of them. -/
theorem system_groups_persist_iff {db₀ db : Database} {requests : List Request}
    (hkeyed : Keyed db₀) :
    Run (Through Step (SystemKept db₀)) db₀ requests db ↔
      Run (Guarded Step fun _ r => r.Spares db₀) db₀ requests db := by
  refine Run.through_iff_guarded_within ?_ ?_ hkeyed .refl
  · intro s r t hstep hs
    obtain rfl : r.serve s = t := hstep
    exact keyed_effect hs (effect_serve s r)
  · intro s r t hstep hs hkept
    obtain rfl : r.serve s = t := hstep
    exact systemKept_effect hs hkept (effect_serve s r)

def admins : Group := ⟨"admins", "admins", "System administrators", true⟩

def installed : Database :=
  { Database.empty with
    groups := [admins, ⟨"staff", "Staff", "", false⟩]
    networkAcls := [⟨"acl", "office", "admins", []⟩] }

/-- The admin API refuses to delete the group; a SCIM request deletes it with its ACL. -/
theorem scim_deletes_admins :
    GroupHandler.delete installed "admins" = .error ⟨403, "cannot delete a system group"⟩ ∧
      ∃ db, Run Step installed [.scimDelete "admins"] db ∧ ¬ SystemKept installed db ∧
        db.groups = [⟨"staff", "Staff", "", false⟩] ∧ db.networkAcls = [] := by
  refine ⟨rfl, _, .single rfl, ?_, rfl, rfl⟩
  intro h
  obtain ⟨⟨g, hg, hid, _⟩, _⟩ := h admins List.mem_cons_self rfl
  obtain rfl := List.mem_singleton.mp hg
  exact absurd hid (by decide)

theorem scim_deletes_staff :
    Run (Through Step (SystemKept installed)) installed [.delete "admins", .scimDelete "staff"]
      (installed.deleteGroup "staff") :=
  (system_groups_persist_iff (show (installed.groups.map Group.id).Nodup by decide)).mpr
    (.cons ⟨rfl, trivial⟩ (.single ⟨rfl, show ∀ g ∈ installed.groups, g.isSystem = true →
      g.id ≠ "staff" by decide⟩))

end Outpost.SystemGroups
