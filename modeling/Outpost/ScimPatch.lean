import Outpost.ScimGroups
import Outpost.Tokens

/-!
# What a SCIM PATCH leaves behind

A PATCH runs its statements one by one, each in its own transaction. The attributes of a value
without a path are set in the order in which Go ranges over the map.
-/

namespace Outpost.Scim

open Statements Function

structure UserColumns where
  (firstName lastName : String)
  scimExternalID : Option String
  updatedAt : Time
deriving DecidableEq

structure UserTables where
  db : Database
  columns : Uuid → UserColumns

inductive Setting where
  | active (value : Bool)
  | userName (value : String)
  | givenName (value : String)
  | familyName (value : String)
  | email (value : String)
  | externalID (value : Option String)
deriving DecidableEq

def Setting.fields : Setting → UserFields
  | .active value => { isActive := some value }
  | .userName value => { username := some value }
  | .email value => { email := some value }
  | _ => {}

def Setting.columns (c : UserColumns) : Setting → UserColumns
  | .givenName value => { c with firstName := value }
  | .familyName value => { c with lastName := value }
  | .externalID value => { c with scimExternalID := value }
  | _ => c

def Setting.name : Setting → String
  | .active _ => "active"
  | .userName _ => "userName"
  | .givenName _ => "name.givenName"
  | .familyName _ => "name.familyName"
  | .email _ => "emails"
  | .externalID _ => "externalId"

def textSetting (name : String) (f : String → Setting) : Json → Except String Setting
  | .text value => .ok (f value)
  | _ => .error ("invalid value for " ++ name ++ ": expected string")

/-- A value that is no text counts as the empty one, and `nilIfEmpty` makes that null. -/
def externalIDOf : Json → Option String
  | .text value => if value = "" then none else some value
  | _ => none

def setting (env : Env) (path : String) (value : Json) : Except String Setting :=
  if path = "active" ∨ path = "Active" then
    match value with
    | .bool active => .ok (.active active)
    | _ => .error "invalid value for active: expected boolean"
  else if path = "userName" then textSetting "userName" .userName value
  else if path = "name.givenName" then textSetting "name.givenName" .givenName value
  else if path = "name.familyName" then textSetting "name.familyName" .familyName value
  else if path = "emails" then (env.emailsOf value).map fun emails => .email (primaryEmail emails)
  else if path = "externalId" then .ok (.externalID (externalIDOf value))
  else if path = "" then .error "expected object value when path is empty"
  else .error ("unsupported patch path: " ++ path)

section Users

variable (env : Env) (now : Time) (id : Uuid)

def UserTables.set (t : UserTables) (x : Setting) : UserTables where
  db := t.db.updateUser id x.fields
  columns := update t.columns id { x.columns (t.columns id) with updatedAt := now }

/-- One `UPDATE`, which also sets `updated_at`. -/
def execSetting (x : Setting) (t : UserTables) : UserTables × Option String :=
  match t.db.userByID id with
  | none => (t, none)
  | some _ =>
    match t.db.updateConflict id x.fields with
    | some constraint => (t, some (violation constraint))
    | none => (t.set now id x, none)

def Part.apply (part : Part) (t : UserTables) : UserTables × Option String :=
  match part with
  | .assign path value =>
    match setting env path value with
    | .error message => (t, some message)
    | .ok x => execSetting now id x t
  | .unsupported op => (t, some ("unsupported operation: " ++ op))

def applyUserOperation (o : PatchOperation) (t : UserTables) : UserTables × Option String :=
  runAll (Part.apply env now id) o.parts t

def patchUserRow (ops : List PatchOperation) (t : UserTables) :
    UserTables × Option HandlerError :=
  match runAll (applyUserOperation env now id) ops t with
  | (t, some message) => (t, some ⟨400, message⟩)
  | (t, none) => (t, if (t.db.userByID id).isNone then some notFound else none)

variable {env now id}

theorem execSetting_db (x : Setting) (t : UserTables) :
    ((execSetting now id x t).1.db, (execSetting now id x t).2) = exec t.db id x.fields := by
  unfold execSetting exec
  cases t.db.userByID id with
  | none => rfl
  | some u => cases t.db.updateConflict id x.fields <;> rfl

theorem setting_run (path : String) (value : Json) (db : Database) :
    applyAttribute db id env path value =
      match setting env path value with
      | .error message => (db, some message)
      | .ok x => exec db id x.fields := by
  unfold applyAttribute setting
  by_cases hactive : path = "active" ∨ path = "Active"
  · rw [if_pos hactive, if_pos hactive]
    cases value <;> rfl
  rw [if_neg hactive, if_neg hactive]
  by_cases huser : path = "userName"
  · rw [if_pos huser, if_pos huser]
    cases value <;> rfl
  rw [if_neg huser, if_neg huser]
  by_cases hgiven : path = "name.givenName"
  · rw [if_pos hgiven, if_pos hgiven]
    cases value <;> rfl
  rw [if_neg hgiven, if_neg hgiven]
  by_cases hfamily : path = "name.familyName"
  · rw [if_pos hfamily, if_pos hfamily]
    cases value <;> rfl
  rw [if_neg hfamily, if_neg hfamily]
  by_cases hemails : path = "emails"
  · rw [if_pos hemails, if_pos hemails]
    cases env.emailsOf value <;> rfl
  rw [if_neg hemails]
  split
  · rfl
  · split <;> rfl

theorem apply_db (part : Part) (t : UserTables) :
    ((part.apply env now id t).1.db, (part.apply env now id t).2) = part.run env id t.db := by
  cases part with
  | unsupported op => rfl
  | assign path value =>
    simp only [Part.apply, Part.run, setting_run]
    split
    · rfl
    · exact execSetting_db _ t

theorem patchUserRow_db (ops : List PatchOperation) (t : UserTables) :
    ((patchUserRow env now id ops t).1.db, (patchUserRow env now id ops t).2) =
      patchUser env t.db id ops := by
  have hview : ((runAll (Part.apply env now id) (ops.flatMap PatchOperation.parts) t).1.db,
      (runAll (Part.apply env now id) (ops.flatMap PatchOperation.parts) t).2) =
        runAll (fun part db => part.run env id db) (ops.flatMap PatchOperation.parts) t.db :=
    runAll_view UserTables.db apply_db _ t
  rw [← runParts_eq_runAll, runParts_operations, runAll_flatMap] at hview
  change ((runAll (applyUserOperation env now id) ops t).1.db,
    (runAll (applyUserOperation env now id) ops t).2) = _ at hview
  unfold patchUserRow patchUser
  rw [← hview]
  cases runAll (applyUserOperation env now id) ops t with
  | mk t' error => cases error <;> rfl

variable {x : Setting} {t u : UserTables} {message : String} {part : Part}

end Users

/-- The fields of a value without a path in another order, and so for the object under its
empty key. -/
inductive Json.Reordered : Json → Json → Prop where
  | refl (value : Json) : Reordered value value
  | fields {fields fields' : List (String × Json)} : fields.Perm fields' →
      Reordered (.object fields) (.object fields')
  | nested {value value' : Json} {before after : List (String × Json)} : Reordered value value' →
      Reordered (.object (before ++ ("", value) :: after))
        (.object (before ++ ("", value') :: after))
  | trans {value value' value'' : Json} : Reordered value value' → Reordered value' value'' →
      Reordered value value''

namespace PatchOperation

def Reordered (o o' : PatchOperation) : Prop :=
  o' = o ∨ o.path = "" ∧ ∃ value, o.value.Reordered value ∧ o' = { o with value := value }

end PatchOperation

section UserOrders

variable {env : Env} {now : Time} {id : Uuid}
variable {value : Json} {x y : Setting} {t : UserTables}

end UserOrders

inductive GroupStatement where
  | rename (name : String)
  | clear
  | insert (value : String) (userID : Uuid)
  | delete (userID : Uuid)
  | refuse (message : String)

section Groups

variable (env : GroupEnv) (id : Uuid)

def GroupStatement.run : GroupStatement → Database → Database × Option String
  | .rename name, db => renameGroup db id name
  | .clear, db => (clearMembers db id, none)
  | .insert value userID, db => ((insertMember db id userID).1,
      (insertMember db id userID).2.map fun message =>
        "failed to add member " ++ value ++ ": " ++ message)
  | .delete userID, db => (db.removeUserGroup ⟨userID, id⟩, none)
  | .refuse message, db => (db, some message)

def memberStatements (f : String → Uuid → GroupStatement) (members : List String) :
    List GroupStatement :=
  members.filterMap fun value => (env.parseUuid value).map (f value)

def partStatements (clear : Bool) : Part → List GroupStatement
  | .assign path value =>
    if path = "displayName" then
      match value with
      | .text name => [.rename name]
      | _ => [.refuse "invalid value for displayName: expected string"]
    else if path = "members" then
      match env.membersOf value with
      | .error message => [.refuse message]
      | .ok members => (if clear then [.clear] else []) ++ memberStatements env .insert members
    else if path = "" then [.refuse "expected object value when path is empty"]
    else [.refuse ("unsupported patch path: " ++ path)]
  | .unsupported op => [.refuse ("unsupported operation: " ++ op)]

variable {env id}

theorem runAll_refuse (message : String) (db : Database) :
    runAll (GroupStatement.run id) [.refuse message] db = (db, some message) :=
  runAll_single

theorem runAll_inserts (members : List String) (db : Database) :
    runAll (GroupStatement.run id) (memberStatements env .insert members) db =
      addMembers env id members db := by
  induction members generalizing db with
  | nil => rfl
  | cons value rest ih =>
    unfold memberStatements at ih ⊢
    rw [List.filterMap_cons, addMembers]
    cases env.parseUuid value with
    | none => exact ih db
    | some userID =>
      cases hinsert : insertMember db id userID with
      | mk db' error =>
        have hrun : (GroupStatement.insert value userID).run id db =
            (db', error.map fun message =>
              "failed to add member " ++ value ++ ": " ++ message) := by
          simp only [GroupStatement.run, hinsert]
        dsimp only [Option.map_some]
        rw [hinsert]
        cases error with
        | some message => exact runAll_cons_of_failed hrun
        | none => exact (runAll_cons_of_ok hrun).trans (ih db')

theorem runAll_partStatements (clear : Bool) (path : String) (value : Json) (db : Database) :
    runAll (GroupStatement.run id) (partStatements env clear (.assign path value)) db =
      applyGroupAttribute env id clear path value db := by
  unfold partStatements applyGroupAttribute
  dsimp only
  split
  · cases value with
    | text name => exact runAll_single
    | _ => exact runAll_refuse _ db
  split
  · cases env.membersOf value with
    | error message => exact runAll_refuse _ db
    | ok members =>
      have hclear : GroupStatement.clear.run id db = (clearMembers db id, none) := rfl
      cases clear with
      | true => exact (runAll_cons_of_ok hclear).trans (runAll_inserts members _)
      | false => exact runAll_inserts members db
  split
  · exact runAll_refuse _ db
  · exact runAll_refuse _ db

mutual

theorem runAll_valueStatements (clear : Bool) (value : Json) (path : String) (db : Database) :
    runAll (GroupStatement.run id) ((valueParts value path).flatMap (partStatements env clear)) db =
      applyGroupValue env id clear value path db := by
  cases value with
  | object fields =>
    rw [valueParts, applyGroupValue]
    split
    · exact runAll_fieldStatements clear fields db
    · rw [List.flatMap_singleton]
      exact runAll_partStatements clear path _ db
  | _ =>
    rw [valueParts, applyGroupValue, List.flatMap_singleton]
    exact runAll_partStatements clear path _ db

theorem runAll_fieldStatements (clear : Bool) (fields : List (String × Json)) (db : Database) :
    runAll (GroupStatement.run id) ((fieldParts fields).flatMap (partStatements env clear)) db =
      applyGroupFields env id clear fields db := by
  cases fields with
  | nil =>
    rfl
  | cons field rest =>
    obtain ⟨key, value⟩ := field
    rw [fieldParts, applyGroupFields, List.flatMap_append, runAll_append,
      runAll_valueStatements clear value key db]
    cases applyGroupValue env id clear value key db with
    | mk db' error =>
      cases error with
      | some message => rfl
      | none => exact runAll_fieldStatements clear rest db'

end

end Groups

section GroupRows

variable {env : GroupEnv} {id : Uuid} {db : Database}

end GroupRows

section GroupOrders

variable {env : GroupEnv} {id : Uuid}

variable {a : GroupStatement} {clear : Bool} {db u : Database} {name : String}

end GroupOrders

def texts : Json → List String
  | .array items => items.filterMap fun
    | .text value => some value
    | _ => none
  | _ => []

def deactivate : List PatchOperation := [⟨"replace", "active", .text "no"⟩]

end Outpost.Scim
