import Outpost.Shared.Statements
import Outpost.UserHandler

/-!
# SCIM requests on users

`replaceUser`, `patchUser` and `deleteUser`. A PATCH runs one statement for each
attribute and keeps what it has done when a later one fails. None of the handlers
tells a gateway.
-/

namespace Outpost.Scim

open Statements

/-- A decoded JSON value. The fields of an object stand in the order in which Go ranges over the
map. -/
inductive Json where
  | null
  | bool (value : Bool)
  | number (value : String)
  | text (value : String)
  | array (items : List Json)
  | object (fields : List (String × Json))

structure Email where
  value : String
  primary : Bool
deriving DecidableEq

structure Env where
  /-- `patchValueToEmails`, with the text of its error. -/
  emailsOf : Json → Except String (List Email)

structure PatchOperation where
  (op path : String)
  value : Json

structure UserResource where
  userName : String
  emails : List Email
  active : Option Bool
deriving DecidableEq

def primaryEmail (emails : List Email) : String :=
  emails.foldl (fun email e => if e.primary || email == "" then e.value else email) ""

def violation (constraint : String) : String :=
  "ERROR: duplicate key value violates unique constraint \"" ++ constraint ++ "\" (SQLSTATE 23505)"

section Statements

variable (db : Database) (id : Uuid)

/-- One `UPDATE`; it is no error that no row has the id. -/
def exec (f : UserFields) : Database × Option String :=
  match db.userByID id with
  | none => (db, none)
  | some _ =>
    match db.updateConflict id f with
    | some constraint => (db, some (violation constraint))
    | none => (db.updateUser id f, none)

def execText (name : String) (fields : String → UserFields) : Json → Database × Option String
  | .text value => exec db id (fields value)
  | _ => (db, some ("invalid value for " ++ name ++ ": expected string"))

def applyAttribute (env : Env) (path : String) (value : Json) : Database × Option String :=
  if path = "active" ∨ path = "Active" then
    match value with
    | .bool active => exec db id { isActive := some active }
    | _ => (db, some "invalid value for active: expected boolean")
  else if path = "userName" then execText db id "userName" (fun v => { username := some v }) value
  else if path = "name.givenName" then execText db id "name.givenName" (fun _ => {}) value
  else if path = "name.familyName" then execText db id "name.familyName" (fun _ => {}) value
  else if path = "emails" then
    match env.emailsOf value with
    | .error message => (db, some message)
    | .ok emails => exec db id { email := some (primaryEmail emails) }
  else if path = "externalId" then exec db id {}
  else if path = "" then (db, some "expected object value when path is empty")
  else (db, some ("unsupported patch path: " ++ path))

end Statements

section Patch

variable (env : Env) (id : Uuid)

mutual

def applyUserReplace : Json → String → Database → Database × Option String
  | .object fields, path, db =>
    if path = "" then applyFields fields db else applyAttribute db id env path (.object fields)
  | .null, path, db => applyAttribute db id env path .null
  | .bool value, path, db => applyAttribute db id env path (.bool value)
  | .number value, path, db => applyAttribute db id env path (.number value)
  | .text value, path, db => applyAttribute db id env path (.text value)
  | .array items, path, db => applyAttribute db id env path (.array items)

def applyFields : List (String × Json) → Database → Database × Option String
  | [], db => (db, none)
  | (key, value) :: rest, db =>
    match applyUserReplace value key db with
    | (db, some message) => (db, some message)
    | (db, none) => applyFields rest db

end

def applyOperation (db : Database) (o : PatchOperation) : Database × Option String :=
  if o.op = "replace" ∨ o.op = "Replace" ∨ o.op = "add" ∨ o.op = "Add" then
    applyUserReplace env id o.value o.path db
  else if o.op = "remove" ∨ o.op = "Remove" then applyUserReplace env id .null o.path db
  else (db, some ("unsupported operation: " ++ o.op))

def applyOperations : List PatchOperation → Database → Database × Option String
  | [], db => (db, none)
  | o :: rest, db =>
    match applyOperation env id db o with
    | (db, some message) => (db, some message)
    | (db, none) => applyOperations rest db

end Patch

/-! ## A PATCH as a sequence of statements

Other requests come between the statements of a PATCH, so what it does is also
given as the list of its parts, each with at most one statement. -/

inductive Part where
  | assign (path : String) (value : Json)
  | unsupported (op : String)

section Parts

variable (env : Env) (id : Uuid)

def Part.run (db : Database) : Part → Database × Option String
  | .assign path value => applyAttribute db id env path value
  | .unsupported op => (db, some ("unsupported operation: " ++ op))

mutual

def valueParts : Json → String → List Part
  | .object fields, path =>
    if path = "" then fieldParts fields else [.assign path (.object fields)]
  | .null, path => [.assign path .null]
  | .bool value, path => [.assign path (.bool value)]
  | .number value, path => [.assign path (.number value)]
  | .text value, path => [.assign path (.text value)]
  | .array items, path => [.assign path (.array items)]

def fieldParts : List (String × Json) → List Part
  | [] => []
  | (key, value) :: rest => valueParts value key ++ fieldParts rest

end

def PatchOperation.parts (o : PatchOperation) : List Part :=
  if o.op = "replace" ∨ o.op = "Replace" ∨ o.op = "add" ∨ o.op = "Add" then valueParts o.value o.path
  else if o.op = "remove" ∨ o.op = "Remove" then valueParts .null o.path
  else [.unsupported o.op]

def runParts : List Part → Database → Database × Option String
  | [], db => (db, none)
  | part :: rest, db =>
    match part.run env id db with
    | (db, some message) => (db, some message)
    | (db, none) => runParts rest db

variable {env id}

theorem runParts_eq_runAll (parts : List Part) (db : Database) :
    runParts env id parts db = runAll (fun part db => part.run env id db) parts db := by
  induction parts generalizing db with
  | nil => rfl
  | cons part rest ih =>
    rw [runParts, runAll]
    cases part.run env id db with
    | mk db' error =>
      cases error with
      | some message => rfl
      | none => exact ih db'

theorem runParts_append (ps qs : List Part) (db : Database) :
    runParts env id (ps ++ qs) db =
      match runParts env id ps db with
      | (db, some message) => (db, some message)
      | (db, none) => runParts env id qs db := by
  simp only [runParts_eq_runAll, runAll_append]
  cases runAll (fun part db => part.run env id db) ps db with
  | mk db' error => cases error <;> rfl

theorem runParts_single (part : Part) (db : Database) :
    runParts env id [part] db = part.run env id db := by
  rw [runParts_eq_runAll, runAll_single]

mutual

theorem runParts_valueParts (value : Json) (path : String) (db : Database) :
    runParts env id (valueParts value path) db = applyUserReplace env id value path db := by
  cases value with
  | object fields =>
    rw [valueParts, applyUserReplace]
    split
    · exact runParts_fieldParts fields db
    · exact runParts_single _ db
  | _ =>
    exact runParts_single _ db

theorem runParts_fieldParts (fields : List (String × Json)) (db : Database) :
    runParts env id (fieldParts fields) db = applyFields env id fields db := by
  cases fields with
  | nil =>
    rfl
  | cons field rest =>
    obtain ⟨key, value⟩ := field
    rw [fieldParts, applyFields, runParts_append, runParts_valueParts value key db]
    split
    · rfl
    · exact runParts_fieldParts rest _

end

theorem runParts_operation (o : PatchOperation) (db : Database) :
    runParts env id o.parts db = applyOperation env id db o := by
  unfold PatchOperation.parts applyOperation
  split
  · exact runParts_valueParts _ _ db
  · split
    · exact runParts_valueParts _ _ db
    · exact runParts_single _ db

theorem runParts_operations (ops : List PatchOperation) (db : Database) :
    runParts env id (ops.flatMap PatchOperation.parts) db = applyOperations env id ops db := by
  induction ops generalizing db with
  | nil => rfl
  | cons o rest ih =>
    rw [List.flatMap_cons, runParts_append, runParts_operation, applyOperations]
    split
    · rfl
    · exact ih _

end Parts

def Part.active : Part → Option Bool
  | .assign path (.bool active) => if path = "active" ∨ path = "Active" then some active else none
  | _ => none

structure Sets (id : Uuid) (active : Option Bool) (db : Database) (res : Database × Option String) :
    Prop where
  update : ∃ f : UserFields, f.isActive = active ∧ f.isAdmin = none ∧ res.1 = db.updateUser id f
  failed : res.2 ≠ none → res.1 = db

section Active

variable {env : Env} {id : Uuid} {db : Database}

theorem sets_failed {message : Option String} : Sets id none db (db, message) where
  update := ⟨{}, rfl, rfl, (db.updateUser_eq_self fun u _ => u.set_empty id).symm⟩
  failed := fun _ => rfl

theorem sets_exec {f : UserFields} (hadmin : f.isAdmin = none)
    (hconflict : db.updateConflict id f = none) : Sets id f.isActive db (exec db id f) := by
  unfold exec
  split
  · rename_i hnone
    -- an update of no row is an update
    have hsame : db.updateUser id f = db := by
      apply db.updateUser_eq_self
      intro u hu
      apply User.set_of_ne
      simpa using List.find?_eq_none.mp hnone u hu
    exact ⟨⟨f, rfl, hadmin, hsame.symm⟩, fun _ => rfl⟩
  · rw [hconflict]
    exact ⟨⟨f, rfl, hadmin, rfl⟩, fun h => absurd rfl h⟩

theorem sets_quiet {f : UserFields} (hactive : f.isActive = none) (hadmin : f.isAdmin = none) :
    Sets id none db (exec db id f) := by
  cases hconflict : db.updateConflict id f with
  | none =>
    rw [← hactive]
    exact sets_exec hadmin hconflict
  | some constraint =>
    unfold exec
    split
    · exact sets_failed
    · rw [hconflict]
      exact sets_failed

theorem sets_execText {name : String} {fields : String → UserFields} {value : Json}
    (h : ∀ v, (fields v).isActive = none ∧ (fields v).isAdmin = none) :
    Sets id none db (execText db id name fields value) := by
  cases value with
  | text v => exact sets_quiet (h v).1 (h v).2
  | _ => exact sets_failed

theorem sets_other {path : String} {value : Json} (h : ¬ (path = "active" ∨ path = "Active")) :
    Sets id none db (applyAttribute db id env path value) := by
  unfold applyAttribute
  rw [if_neg h]
  split
  · exact sets_execText fun _ => ⟨rfl, rfl⟩
  · split
    · exact sets_execText fun _ => ⟨rfl, rfl⟩
    · split
      · exact sets_execText fun _ => ⟨rfl, rfl⟩
      · split
        · split
          · exact sets_failed
          · exact sets_quiet rfl rfl
        · split
          · exact sets_quiet rfl rfl
          · split
            · exact sets_failed
            · exact sets_failed

theorem sets_run (part : Part) : Sets id part.active db (part.run env id db) := by
  cases part with
  | unsupported op => exact sets_failed
  | assign path value =>
    by_cases hpath : path = "active" ∨ path = "Active"
    · simp only [Part.run, applyAttribute, if_pos hpath]
      cases value with
      | bool active =>
        have hconflict : db.updateConflict id { isActive := some active } = none := by
          simp [Database.updateConflict]
        simp only [Part.active, if_pos hpath]
        exact sets_exec rfl hconflict
      | _ => exact sets_failed
    · have hother : Sets id none db (Part.run env id db (.assign path value)) := sets_other hpath
      cases value with
      | bool active =>
        simp only [Part.active, if_neg hpath]
        exact hother
      | _ => exact hother

end Active

def notFound : HandlerError := ⟨404, "user not found"⟩

def UserResource.fields (req : UserResource) : UserFields :=
  { username := some req.userName, email := some (primaryEmail req.emails),
    isActive := some (req.active.getD true) }

def replaceUser (db : Database) (id : Uuid) (req : UserResource) : Database × Option HandlerError :=
  match db.userByID id with
  | none => (db, some notFound)
  | some _ =>
    match db.updateConflict id req.fields with
    | some _ => (db, some notFound)
    | none => (db.updateUser id req.fields, none)

def patchUser (env : Env) (db : Database) (id : Uuid) (ops : List PatchOperation) :
    Database × Option HandlerError :=
  match applyOperations env id ops db with
  | (db, some message) => (db, some ⟨400, message⟩)
  | (db, none) => (db, if (db.userByID id).isNone then some notFound else none)

def deleteUser (db : Database) (id : Uuid) : Database × Option HandlerError :=
  match db.userByID id with
  | none => (db, some notFound)
  | some _ => (db.updateUser id { isActive := some false }, none)

inductive Request where
  | put (id : Uuid) (req : UserResource)
  | patch (id : Uuid) (ops : List PatchOperation)
  | delete (id : Uuid)

def handle (env : Env) (db : Database) : Request → Database × Option HandlerError
  | .put id req => replaceUser db id req
  | .patch id ops => patchUser env db id ops
  | .delete id => deleteUser db id

def Request.userID : Request → Uuid
  | .put id _ => id
  | .patch id _ => id
  | .delete id => id

def Updated (id : Uuid) (db db' : Database) : Prop :=
  ∃ updates : List UserFields, (∀ f ∈ updates, f.isAdmin = none) ∧
    db' = updates.foldl (fun db f => db.updateUser id f) db

variable {env : Env} {id : Uuid} {db db₁ db₂ : Database}

theorem Updated.refl : Updated id db db := ⟨[], by simp, rfl⟩

theorem Updated.single {f : UserFields} (h : f.isAdmin = none) : Updated id db (db.updateUser id f) :=
  ⟨[f], by simpa using h, rfl⟩

theorem Updated.trans (h₁ : Updated id db db₁) (h₂ : Updated id db₁ db₂) : Updated id db db₂ := by
  obtain ⟨fs, hfs, rfl⟩ := h₁
  obtain ⟨gs, hgs, rfl⟩ := h₂
  refine ⟨fs ++ gs, ?_, (List.foldl_append).symm⟩
  intro f hf
  rcases List.mem_append.mp hf with hf | hf
  · exact hfs f hf
  · exact hgs f hf

theorem updated_run (part : Part) (db : Database) : Updated id db (part.run env id db).1 := by
  have hsets : Sets id part.active db (part.run env id db) := sets_run part
  obtain ⟨f, _, hadmin, hdb⟩ := hsets.update
  rw [hdb]
  exact .single hadmin

theorem updated_runParts (parts : List Part) (db : Database) :
    Updated id db (runParts env id parts db).1 := by
  rw [runParts_eq_runAll]
  refine runAll_keeps (I := Updated id db) ?_ .refl
  intro part db' hdb'
  exact hdb'.trans (updated_run part db')

theorem updated_applyOperations (env : Env) (id : Uuid) (ops : List PatchOperation) (db : Database) :
    Updated id db (applyOperations env id ops db).1 := by
  rw [← runParts_operations]
  exact updated_runParts _ db

theorem updated_handle (r : Request) : Updated r.userID db (handle env db r).1 := by
  cases r with
  | put id req =>
    simp only [handle, replaceUser]
    split
    · exact .refl
    · split
      · exact .refl
      · exact .single rfl
  | patch id ops =>
    have hops := updated_applyOperations env id ops db
    simp only [handle, patchUser]
    split
    · rename_i hres
      rw [hres] at hops
      exact hops
    · rename_i hres
      rw [hres] at hops
      exact hops
  | delete id =>
    simp only [handle, deleteUser]
    split
    · exact .refl
    · exact .single rfl

end Outpost.Scim
