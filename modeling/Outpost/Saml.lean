import Outpost.AuthHandler

/-!
# The SAML assertion consumer

`ProcessAssertion`, `upsertUser` and `handleACS`. That a response is signed by the
identity provider and within its conditions is the library's to check; the handler
takes the user out of the assertion and signs a session for them.
-/

namespace Outpost

namespace AuthTables

variable (t : AuthTables)

def userByEmail (email : String) : Option User := t.db.users.find? fun u => u.email = email

/-- `INSERT INTO users ... ON CONFLICT (email) DO UPDATE ... RETURNING id, is_admin`. -/
def upsertByEmail (id : Uuid) (username email : String) : AuthTables × Option (Uuid × Bool) :=
  match t.userByEmail email with
  | some u => (t, some (u.id, u.isAdmin))
  | none =>
    if fresh : t.db.HasUser id then (t, none)
    else
      if t.db.UsernameTaken id username then (t, none)
      else
        ({ t with
            db := t.db.addUser ⟨id, true, false, false, username, email⟩ fresh
            columns := fun userID =>
              if userID = id then ⟨none, false, 0, none⟩ else t.columns userID },
          some (id, false))

end AuthTables

namespace Saml

open Interleaving AuthHandler

structure Attribute where
  (name friendlyName : String)
  values : List String
deriving DecidableEq

structure Assertion where
  nameID : String
  attributeStatements : List (List Attribute)
deriving DecidableEq

structure AttributeMap where
  email : String := "urn:oid:0.9.2342.19200300.100.1.3"
  firstName : String := "givenName"
  lastName : String := "sn"
  username : String := "uid"
  groups : String := "memberOf"
deriving DecidableEq

structure SamlUser where
  email : String := ""
  firstName : String := ""
  lastName : String := ""
  username : String := ""
  groups : List String := []
  nameID : String
deriving DecidableEq

structure Config where
  initialized : Bool
  attributeMap : AttributeMap
  parseResponse : String → Time → Option Assertion
  baseURL : String
  queryEscape : String → String

def matchesAttr (attr : Attribute) (configured fallback : String) : Bool :=
  if configured ≠ "" then attr.name = configured || attr.friendlyName = configured
  else attr.name = fallback || attr.friendlyName = fallback

def SamlUser.fill (m : AttributeMap) (user : SamlUser) (attr : Attribute) : SamlUser :=
  match attr.values.filter fun v => v ≠ "" with
  | [] => user
  | value :: values =>
    if matchesAttr attr m.email "email" then { user with email := value }
    else if matchesAttr attr m.firstName "givenName" then { user with firstName := value }
    else if matchesAttr attr m.lastName "sn" then { user with lastName := value }
    else if matchesAttr attr m.username "uid" then { user with username := value }
    else if matchesAttr attr m.groups "memberOf" then { user with groups := value :: values }
    else user

/-- What stands before the `@`, unless that is nothing. -/
def localPart (email : String) : String :=
  let name := email.toList.takeWhile fun c => c ≠ '@'
  if '@' ∈ email.toList ∧ name ≠ [] then String.ofList name else email

def processAssertion (m : AttributeMap) (a : Assertion) : Option SamlUser :=
  let user := a.attributeStatements.flatten.foldl (SamlUser.fill m) { nameID := a.nameID }
  let user := if user.email = "" then { user with email := user.nameID } else user
  let user := if user.username = "" then { user with username := localPart user.email } else user
  if user.email = "" then none else some user

def upsertUser (newID : Uuid) (user : SamlUser) : Prog World (Option (Uuid × Bool)) := do
  match ← query fun t => t.userByEmail user.email with
  | some u => return some (u.id, u.isAdmin)
  | none => exec fun t => t.upsertByEmail newID user.username user.email

def handleACS (env : AuthEnv) (cfg : Config) (newID : Uuid) (response : String) :
    Prog World (Except HandlerError String) := do
  if cfg.initialized = false then return .error ⟨500, "SAML not configured"⟩
  if response = "" then return .error ⟨400, "missing SAMLResponse"⟩
  match (cfg.parseResponse response (← timeNow)).bind (processAssertion cfg.attributeMap) with
  | none => return .error ⟨401, "authentication failed"⟩
  | some user =>
    match ← upsertUser newID user with
    | none => return .error ⟨500, "failed to create user account"⟩
    | some (userID, isAdmin) =>
      let expiresAt := (← timeNow) + 24 * Time.hour
      let issuedAt ← timeNow
      let token ← generateToken env
        { userID := userID, username := user.username, email := user.email, isAdmin := isAdmin,
          expiresAt := some (Time.numericDate expiresAt),
          issuedAt := some (Time.numericDate issuedAt) }
      return .ok (cfg.baseURL ++ "/login?token=" ++ cfg.queryEscape token ++ "&expires_at=" ++
        toString (expiresAt / Time.second))

end Saml

end Outpost
