import Outpost.ScimHandler

/-!
# SCIM requests on groups

`createGroup`, `replaceGroup`, `patchGroup` and `deleteGroup`. Groups are renamed and deleted
whatever their `is_system` flag says.
-/

namespace Outpost.Scim

structure GroupEnv where
  /-- `uuid.Parse`, with the canonical text of the result. -/
  parseUuid : String → Option Uuid
  /-- `patchValueToMembers`: the values of the members, or the text of its error. -/
  membersOf : Json → Except String (List String)

structure GroupResource where
  displayName : String
  members : List String
deriving DecidableEq

def missing (constraint : String) : String :=
  "ERROR: insert or update on table \"user_groups\" violates foreign key constraint \"" ++
    constraint ++ "\" (SQLSTATE 23503)"

section Statements

variable (db : Database) (id : Uuid)

/-- `UPDATE groups SET name`; it is no error that no row has the id. -/
def renameGroup (name : String) : Database × Option String :=
  if ∃ g ∈ db.groups, g.id = id then
    if ∃ g ∈ db.groups, g.id ≠ id ∧ g.name = name then (db, some (violation "groups_name_key"))
    else (db.updateGroup id (some name) none, none)
  else (db, none)

/-- `ON CONFLICT DO NOTHING` comes before the foreign keys. -/
def insertMember (userID : Uuid) : Database × Option String :=
  if ⟨userID, id⟩ ∈ db.userGroups then (db, none)
  else if ¬ ∃ u ∈ db.users, u.id = userID then (db, some (missing "user_groups_user_id_fkey"))
  else if ¬ ∃ g ∈ db.groups, g.id = id then (db, some (missing "user_groups_group_id_fkey"))
  else (db.addUserGroup ⟨userID, id⟩, none)

def clearMembers : Database :=
  { db with userGroups := db.userGroups.filter fun ug => ug.groupId ≠ id }

end Statements

section Members

variable (env : GroupEnv) (id : Uuid)

/-- The loop of `createGroup` and `replaceGroup`: what fails is logged. -/
def provisionMembers (members : List String) (db : Database) : Database :=
  members.foldl (fun db value => match env.parseUuid value with
    | none => db
    | some userID => (insertMember db id userID).1) db

def addMembers : List String → Database → Database × Option String
  | [], db => (db, none)
  | value :: rest, db =>
    match env.parseUuid value with
    | none => addMembers rest db
    | some userID =>
      match insertMember db id userID with
      | (db, some message) => (db, some ("failed to add member " ++ value ++ ": " ++ message))
      | (db, none) => addMembers rest db

def removeMembers (members : List String) (db : Database) : Database :=
  members.foldl (fun db value => match env.parseUuid value with
    | none => db
    | some userID => db.removeUserGroup ⟨userID, id⟩) db

end Members

/-- `members[value eq "..."]`, with something between the quotes. -/
def parseMemberFilter (path : String) : Option String :=
  let head := "members[value eq \"".toList
  let tail := "\"]".toList
  let cs := path.toList
  if head.length + tail.length < cs.length ∧ cs.take head.length = head ∧
      cs.drop (cs.length - tail.length) = tail then
    some (String.ofList ((cs.take (cs.length - tail.length)).drop head.length))
  else none

theorem between_iff {α : Type} {head tail cs mid : List α} :
    (head.length + tail.length < cs.length ∧ cs.take head.length = head ∧
      cs.drop (cs.length - tail.length) = tail) ∧
        (cs.take (cs.length - tail.length)).drop head.length = mid ↔
      mid ≠ [] ∧ cs = head ++ mid ++ tail := by
  constructor
  · rintro ⟨⟨hlong, hhead, htail⟩, rfl⟩
    have hfront := List.take_append_drop head.length (cs.take (cs.length - tail.length))
    have hall := List.take_append_drop (cs.length - tail.length) cs
    rw [List.take_take, Nat.min_eq_left (by omega), hhead] at hfront
    rw [htail] at hall
    refine ⟨List.ne_nil_of_length_pos ?_, ?_⟩
    · rw [List.length_drop, List.length_take]
      omega
    · rw [hfront, hall]
  · rintro ⟨hne, rfl⟩
    have hpos := List.length_pos_iff.mpr hne
    have hcut : (head ++ mid ++ tail).length - tail.length = (head ++ mid).length := by
      simp only [List.length_append, Nat.add_sub_cancel]
    rw [hcut, List.take_left, List.drop_left, List.drop_left, List.append_assoc, List.take_left]
    simpa using hpos

theorem parseMemberFilter_exact (path : String) :
    (∀ v, parseMemberFilter path = some v ↔
      v ≠ "" ∧ path = "members[value eq \"" ++ v ++ "\"]") ∧
    ∀ v w, "members[value eq \"" ++ v ++ "\"]" = "members[value eq \"" ++ w ++ "\"]" → v = w := by
  constructor
  · intro v
    have hne : v ≠ "" ↔ v.toList ≠ [] := not_congr String.toList_eq_nil_iff.symm
    unfold parseMemberFilter
    generalize "members[value eq \"" = head, "\"]" = tail
    rw [Option.ite_none_right_eq_some, Option.some_inj, hne, ← String.toList_inj,
      ← String.toList_inj, String.toList_append, String.toList_append, String.toList_ofList]
    exact between_iff
  · intro v w h
    exact (String.append_right_inj _).mp ((String.append_left_inj _).mp h)

section Patch

variable (env : GroupEnv) (id : Uuid)

def applyGroupAttribute (clear : Bool) (path : String) (value : Json) (db : Database) :
    Database × Option String :=
  if path = "displayName" then
    match value with
    | .text name => renameGroup db id name
    | _ => (db, some "invalid value for displayName: expected string")
  else if path = "members" then
    match env.membersOf value with
    | .error message => (db, some message)
    | .ok members => addMembers env id members (if clear then clearMembers db id else db)
  else if path = "" then (db, some "expected object value when path is empty")
  else (db, some ("unsupported patch path: " ++ path))

mutual

def applyGroupValue (clear : Bool) : Json → String → Database → Database × Option String
  | .object fields, path, db =>
    if path = "" then applyGroupFields clear fields db
    else applyGroupAttribute env id clear path (.object fields) db
  | .null, path, db => applyGroupAttribute env id clear path .null db
  | .bool value, path, db => applyGroupAttribute env id clear path (.bool value) db
  | .number value, path, db => applyGroupAttribute env id clear path (.number value) db
  | .text value, path, db => applyGroupAttribute env id clear path (.text value) db
  | .array items, path, db => applyGroupAttribute env id clear path (.array items) db

def applyGroupFields (clear : Bool) : List (String × Json) → Database → Database × Option String
  | [], db => (db, none)
  | (key, value) :: rest, db =>
    match applyGroupValue clear value key db with
    | (db, some message) => (db, some message)
    | (db, none) => applyGroupFields clear rest db

end

def applyGroupPatch (db : Database) (o : PatchOperation) : Database × Option String :=
  applyGroupValue env id true o.value o.path db

def applyGroupAdd (db : Database) (o : PatchOperation) : Database × Option String :=
  applyGroupValue env id false o.value o.path db

def applyGroupRemove (db : Database) (o : PatchOperation) : Database × Option String :=
  match parseMemberFilter o.path with
  | some memberID =>
    match env.parseUuid memberID with
    | none => (db, some ("invalid member ID in filter: " ++ memberID))
    | some userID => (db.removeUserGroup ⟨userID, id⟩, none)
  | none =>
    if o.path = "members" then
      match o.value with
      | .null => (clearMembers db id, none)
      | value =>
        match env.membersOf value with
        | .error message => (db, some message)
        | .ok members => (removeMembers env id members db, none)
    else (db, some ("unsupported remove path: " ++ o.path))

def applyGroupOperation (db : Database) (o : PatchOperation) : Database × Option String :=
  if o.op = "replace" ∨ o.op = "Replace" then applyGroupPatch env id db o
  else if o.op = "add" ∨ o.op = "Add" then applyGroupAdd env id db o
  else if o.op = "remove" ∨ o.op = "Remove" then applyGroupRemove env id db o
  else (db, some ("unsupported operation: " ++ o.op))

def applyGroupOperations : List PatchOperation → Database → Database × Option String
  | [], db => (db, none)
  | o :: rest, db =>
    match applyGroupOperation env id db o with
    | (db, some message) => (db, some message)
    | (db, none) => applyGroupOperations rest db

end Patch

def groupNotFound : HandlerError := ⟨404, "group not found"⟩

def nameRequired : HandlerError := ⟨400, "displayName is required"⟩

section Handlers

variable (env : GroupEnv) (db : Database) (id : Uuid)

def createGroup (req : GroupResource) : Database × Option HandlerError :=
  if req.displayName = "" then (db, some nameRequired)
  else if ∃ g ∈ db.groups, g.id = id ∨ g.name = req.displayName then
    (db, some ⟨409, "group already exists or invalid data"⟩)
  else (provisionMembers env id req.members (db.addGroup ⟨id, req.displayName, "", false⟩), none)

def replaceGroup (req : GroupResource) : Database × Option HandlerError :=
  if req.displayName = "" then (db, some nameRequired)
  else if ¬ ∃ g ∈ db.groups, g.id = id then (db, some groupNotFound)
  else match renameGroup db id req.displayName with
    | (db, some _) => (db, some groupNotFound)
    | (db, none) => (provisionMembers env id req.members (clearMembers db id), none)

def patchGroup (ops : List PatchOperation) : Database × Option HandlerError :=
  if ¬ ∃ g ∈ db.groups, g.id = id then (db, some groupNotFound)
  else match applyGroupOperations env id ops db with
    | (db, some message) => (db, some ⟨400, message⟩)
    | (db, none) => (db, if ∃ g ∈ db.groups, g.id = id then none else some groupNotFound)

def deleteGroup : Database × Option HandlerError :=
  if ∃ g ∈ db.groups, g.id = id then (db.deleteGroup id, none) else (db, some groupNotFound)

end Handlers

/-- The same groups, with the same flags and ACLs; names and members may differ. -/
structure KeepsGroups (db db' : Database) : Prop where
  groups : db'.groups.map (fun g => (g.id, g.isSystem)) = db.groups.map fun g => (g.id, g.isSystem)
  networkAcls : db'.networkAcls = db.networkAcls

variable {env : GroupEnv} {id : Uuid} {db db₁ db₂ : Database}

theorem KeepsGroups.refl : KeepsGroups db db := ⟨rfl, rfl⟩

theorem KeepsGroups.trans (h₁ : KeepsGroups db db₁) (h₂ : KeepsGroups db₁ db₂) :
    KeepsGroups db db₂ :=
  ⟨h₂.groups.trans h₁.groups, h₂.networkAcls.trans h₁.networkAcls⟩

theorem keepsGroups_updateGroup (db : Database) (id : Uuid) (name description : Option String) :
    KeepsGroups db (db.updateGroup id name description) := by
  refine ⟨?_, rfl⟩
  rw [Database.updateGroup, List.map_map]
  apply List.map_congr_left
  intro g _
  rw [Function.comp_apply]
  split <;> rfl

theorem keepsGroups_renameGroup (name : String) : KeepsGroups db (renameGroup db id name).1 := by
  unfold renameGroup
  split
  · split
    · exact .refl
    · exact keepsGroups_updateGroup db id _ _
  · exact .refl

theorem keepsGroups_insertMember (userID : Uuid) :
    KeepsGroups db (insertMember db id userID).1 := by
  unfold insertMember
  split
  · exact .refl
  · split
    · exact .refl
    · split
      · exact .refl
      · exact ⟨rfl, rfl⟩

theorem keepsGroups_foldl {α : Type} {f : Database → α → Database}
    (hf : ∀ db a, KeepsGroups db (f db a)) (l : List α) : KeepsGroups db (l.foldl f db) := by
  induction l generalizing db with
  | nil => exact .refl
  | cons a l ih => exact (hf db a).trans ih

theorem keepsGroups_provisionMembers (members : List String) :
    KeepsGroups db (provisionMembers env id members db) := by
  apply keepsGroups_foldl
  intro db value
  split
  · exact .refl
  · exact keepsGroups_insertMember _

theorem keepsGroups_removeMembers (members : List String) :
    KeepsGroups db (removeMembers env id members db) := by
  apply keepsGroups_foldl
  intro db value
  split
  · exact .refl
  · exact ⟨rfl, rfl⟩

theorem keepsGroups_addMembers (members : List String) :
    KeepsGroups db (addMembers env id members db).1 := by
  induction members generalizing db with
  | nil => exact .refl
  | cons value rest ih =>
    rw [addMembers]
    split
    · exact ih
    · rename_i userID _
      have hfirst : KeepsGroups db (insertMember db id userID).1 := keepsGroups_insertMember userID
      split
      · rename_i hres
        rw [hres] at hfirst
        exact hfirst
      · rename_i hres
        rw [hres] at hfirst
        exact hfirst.trans ih

theorem keepsGroups_applyGroupAttribute (clear : Bool) (path : String) (value : Json) :
    KeepsGroups db (applyGroupAttribute env id clear path value db).1 := by
  unfold applyGroupAttribute
  split
  · split
    · exact keepsGroups_renameGroup _
    · exact .refl
  · split
    · split
      · exact .refl
      · have hclear : KeepsGroups db (if clear then clearMembers db id else db) := by
          split
          · exact ⟨rfl, rfl⟩
          · exact .refl
        exact hclear.trans (keepsGroups_addMembers _)
    · split
      · exact .refl
      · exact .refl

mutual

theorem keepsGroups_applyGroupValue (clear : Bool) (value : Json) (path : String) (db : Database) :
    KeepsGroups db (applyGroupValue env id clear value path db).1 := by
  cases value with
  | object fields =>
    rw [applyGroupValue]
    split
    · exact keepsGroups_applyGroupFields clear fields db
    · exact keepsGroups_applyGroupAttribute clear path _
  | _ =>
    exact keepsGroups_applyGroupAttribute clear path _

theorem keepsGroups_applyGroupFields (clear : Bool) (fields : List (String × Json))
    (db : Database) : KeepsGroups db (applyGroupFields env id clear fields db).1 := by
  cases fields with
  | nil =>
    exact .refl
  | cons field rest =>
    obtain ⟨key, value⟩ := field
    have hfirst := keepsGroups_applyGroupValue clear value key db
    rw [applyGroupFields]
    split
    · rename_i hres
      rw [hres] at hfirst
      exact hfirst
    · rename_i db' hres
      rw [hres] at hfirst
      exact hfirst.trans (keepsGroups_applyGroupFields clear rest db')

end

theorem keepsGroups_applyGroupRemove (o : PatchOperation) :
    KeepsGroups db (applyGroupRemove env id db o).1 := by
  unfold applyGroupRemove
  split
  · split
    · exact .refl
    · exact ⟨rfl, rfl⟩
  · split
    · split
      · exact ⟨rfl, rfl⟩
      · split
        · exact .refl
        · exact keepsGroups_removeMembers _
    · exact .refl

theorem keepsGroups_applyGroupOperation (o : PatchOperation) :
    KeepsGroups db (applyGroupOperation env id db o).1 := by
  unfold applyGroupOperation
  split
  · exact keepsGroups_applyGroupValue true _ _ db
  · split
    · exact keepsGroups_applyGroupValue false _ _ db
    · split
      · exact keepsGroups_applyGroupRemove o
      · exact .refl

theorem keepsGroups_applyGroupOperations (ops : List PatchOperation) :
    KeepsGroups db (applyGroupOperations env id ops db).1 := by
  induction ops generalizing db with
  | nil => exact .refl
  | cons o rest ih =>
    have hfirst : KeepsGroups db (applyGroupOperation env id db o).1 :=
      keepsGroups_applyGroupOperation o
    rw [applyGroupOperations]
    split
    · rename_i hres
      rw [hres] at hfirst
      exact hfirst
    · rename_i hres
      rw [hres] at hfirst
      exact hfirst.trans ih

theorem keepsGroups_replaceGroup (req : GroupResource) :
    KeepsGroups db (replaceGroup env db id req).1 := by
  unfold replaceGroup
  split
  · exact .refl
  · split
    · exact .refl
    · have hname : KeepsGroups db (renameGroup db id req.displayName).1 :=
        keepsGroups_renameGroup req.displayName
      split
      · rename_i hres
        rw [hres] at hname
        exact hname
      · rename_i db' hres
        rw [hres] at hname
        have hclear : KeepsGroups db' (clearMembers db' id) := ⟨rfl, rfl⟩
        exact hname.trans (hclear.trans (keepsGroups_provisionMembers _))

theorem keepsGroups_patchGroup (ops : List PatchOperation) :
    KeepsGroups db (patchGroup env db id ops).1 := by
  have hops : KeepsGroups db (applyGroupOperations env id ops db).1 :=
    keepsGroups_applyGroupOperations ops
  unfold patchGroup
  split
  · exact .refl
  · split
    · rename_i hres
      rw [hres] at hops
      exact hops
    · rename_i hres
      rw [hres] at hops
      exact hops

end Outpost.Scim
