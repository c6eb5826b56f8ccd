import Outpost.AuthHandler
import Outpost.Shared.KeyedRows

/-!
# Managing second factors

Queries succeed unless they violate a constraint. The cryptography of the factors is a parameter,
and so is what the server draws at random.
-/

namespace Outpost

open Function

/-- A row of `mfa_totp`; the login reads it without `verified`. -/
structure MfaTotp where
  userId : Uuid
  secret : String
  verified : Bool
deriving DecidableEq

structure WebAuthnCredential where
  (id userId : Uuid)
  (credentialID publicKey : List UInt8)
  signCount : Int
  name : String
  createdAt : Time
deriving DecidableEq

structure MfaTables where
  db : Database
  totp : List MfaTotp
  webauthn : List WebAuthnCredential
  totp_user_unique : (totp.map MfaTotp.userId).Nodup
  totp_owner : ∀ row ∈ totp, db.HasUser row.userId
  webauthn_id_unique : (webauthn.map WebAuthnCredential.id).Nodup
  credential_id_unique : (webauthn.map WebAuthnCredential.credentialID).Nodup
  webauthn_owner : ∀ c ∈ webauthn, db.HasUser c.userId

def User.setMFAEnabled (id : Uuid) (enabled : Bool) (u : User) : User :=
  if u.id = id then { u with mfaEnabled := enabled } else u

@[simp] theorem User.setMFAEnabled_id (id : Uuid) (enabled : Bool) (u : User) :
    (u.setMFAEnabled id enabled).id = u.id := by
  unfold setMFAEnabled
  split <;> rfl

namespace Database

variable (db : Database) (id : Uuid) (enabled : Bool)

/-- `UPDATE users SET mfa_enabled = $1 WHERE id = $2`. -/
def setMFAEnabled : Database :=
  { db with
    users := db.users.map (User.setMFAEnabled id enabled)
    user_id_unique := KeyedRows.nodup_map db.user_id_unique (User.setMFAEnabled_id id enabled)
    device_owner := by
      intro d hd
      obtain ⟨u, hu, huser⟩ := db.device_owner d hd
      exact ⟨_, List.mem_map_of_mem hu, by simpa using huser⟩ }

variable {db id enabled}

theorem mem_setMFAEnabled {u : User} :
    u ∈ (db.setMFAEnabled id enabled).users ↔ ∃ w ∈ db.users, w.setMFAEnabled id enabled = u :=
  List.mem_map

theorem hasUser_setMFAEnabled {userID : Uuid} :
    (db.setMFAEnabled id enabled).HasUser userID ↔ db.HasUser userID := by
  constructor
  · rintro ⟨u, hu, rfl⟩
    obtain ⟨w, hw, rfl⟩ := mem_setMFAEnabled.mp hu
    exact ⟨w, hw, (w.setMFAEnabled_id id enabled).symm⟩
  · rintro ⟨w, hw, rfl⟩
    exact ⟨_, mem_setMFAEnabled.mpr ⟨w, hw, rfl⟩, w.setMFAEnabled_id id enabled⟩

end Database

namespace MfaTables

variable (t : MfaTables)

def totpOf (userID : Uuid) : Option MfaTotp := t.totp.find? fun row => row.userId = userID

/-- `ON CONFLICT (user_id) DO UPDATE`, with the columns of the new row. -/
def upsertTotp (row : MfaTotp) (owner : t.db.HasUser row.userId) : MfaTables :=
  { t with
    totp := KeyedRows.upsert MfaTotp.userId row
      (fun old => { old with secret := row.secret, verified := row.verified }) t.totp
    totp_user_unique := KeyedRows.nodup_upsert t.totp_user_unique fun _ => rfl
    totp_owner := by
      intro r hr
      rcases KeyedRows.mem_upsert.mp hr with ⟨hr, _⟩ | ⟨old, hold, _, rfl⟩ | ⟨_, rfl⟩
      · exact t.totp_owner r hr
      · exact t.totp_owner old hold
      · exact owner }

/-- `UPDATE mfa_totp SET verified = true WHERE user_id = $1`. -/
def verifyTotp (userID : Uuid) : MfaTables :=
  { t with
    totp := t.totp.map fun row => if row.userId = userID then { row with verified := true } else row
    totp_user_unique := by
      apply KeyedRows.nodup_map t.totp_user_unique
      intro row
      split <;> rfl
    totp_owner := by
      intro r hr
      obtain ⟨row, hrow, rfl⟩ := List.mem_map.mp hr
      have howner := t.totp_owner row hrow
      split
      · exact howner
      · exact howner }

def deleteTotp (userID : Uuid) : MfaTables :=
  { t with
    totp := t.totp.filter fun row => row.userId ≠ userID
    totp_user_unique := t.totp_user_unique.sublist (List.filter_sublist.map _)
    totp_owner := fun row hrow => t.totp_owner row (List.mem_filter.mp hrow).1 }

def setMFAEnabled (userID : Uuid) (enabled : Bool) : MfaTables :=
  { t with
    db := t.db.setMFAEnabled userID enabled
    totp_owner := fun row hrow => Database.hasUser_setMFAEnabled.mpr (t.totp_owner row hrow)
    webauthn_owner := fun c hc => Database.hasUser_setMFAEnabled.mpr (t.webauthn_owner c hc) }

/-- Whether the row violates none of the constraints of `mfa_webauthn`. -/
def CanRegister (c : WebAuthnCredential) : Prop :=
  (∀ c' ∈ t.webauthn, c'.id ≠ c.id) ∧ (∀ c' ∈ t.webauthn, c'.credentialID ≠ c.credentialID) ∧
    t.db.HasUser c.userId

instance (c : WebAuthnCredential) : Decidable (t.CanRegister c) := by
  unfold CanRegister
  infer_instance

def insertWebAuthn (c : WebAuthnCredential) (h : t.CanRegister c) : MfaTables :=
  { t with
    webauthn := t.webauthn ++ [c]
    webauthn_id_unique := KeyedRows.nodup_append t.webauthn_id_unique h.1
    credential_id_unique := KeyedRows.nodup_append t.credential_id_unique h.2.1
    webauthn_owner := by
      intro c' hc'
      rcases List.mem_append.mp hc' with hc' | hc'
      · exact t.webauthn_owner c' hc'
      · rw [List.mem_singleton.mp hc']
        exact h.2.2 }

def deleteWebAuthn (id userID : Uuid) : MfaTables :=
  { t with
    webauthn := t.webauthn.filter fun c => ¬ (c.id = id ∧ c.userId = userID)
    webauthn_id_unique := t.webauthn_id_unique.sublist (List.filter_sublist.map _)
    credential_id_unique := t.credential_id_unique.sublist (List.filter_sublist.map _)
    webauthn_owner := fun c hc => t.webauthn_owner c (List.mem_filter.mp hc).1 }

end MfaTables

namespace MfaHandler

structure Credential where
  (id publicKey : List UInt8)
  signCount : UInt32
deriving DecidableEq

/-- `WebAuthnCeremony`: the library, and whether there is a Redis for its sessions. -/
structure Ceremony where
  hasRedis : Bool
  /-- `BeginRegistration` with a challenge, a user id, a name and the user's keys: the options and
  the session, or an error. -/
  beginRegistration : String → Uuid → String → List Credential → Except String (String × String)
  /-- `FinishRegistration` with the session and the body of the request. -/
  finishRegistration : Uuid → String → List Credential → String → String → Except String Credential

structure Env where
  auth : AuthEnv
  /-- `GenerateSecret` with the random bytes, the issuer and the account. -/
  generateSecret : String → String → String → Option (String × String × String)
  ceremony : Option Ceremony
  webauthnRows : RangeOrder WebAuthnCredential

structure Store where
  tables : MfaTables
  sessions : Uuid → Option (String × Time)

section Manager

variable (env : Env) (t : MfaTables)

structure SetupTOTPResponse where
  (secret qrURL qrImage : String)
deriving DecidableEq

def enableTOTP (random : String) (userID : Uuid) (issuer : String) :
    Option (MfaTables × SetupTOTPResponse) :=
  match env.generateSecret random issuer userID with
  | none => none
  | some (secret, qrURL, qrImage) =>
    if owner : t.db.HasUser userID then
      some (t.upsertTotp ⟨userID, secret, false⟩ owner, ⟨secret, qrURL, qrImage⟩)
    else none

def verifyTOTP (now : Time) (userID : Uuid) (code : String) : Option (MfaTables × Bool) :=
  match t.totpOf userID with
  | none => none
  | some row =>
    if env.auth.totpValidate code row.secret now = false then some (t, false)
    else if row.verified then some (t, true)
    else some (t.verifyTotp userID, true)

def registerCredential (c : WebAuthnCredential) : Option MfaTables :=
  if h : t.CanRegister c then some (t.insertWebAuthn c h) else none

def getCredentials (userID : Uuid) : List WebAuthnCredential :=
  (env.webauthnRows.visit (t.webauthn.filter fun c => c.userId = userID)).mergeSort fun c c' =>
    c.createdAt ≤ c'.createdAt

def buildCredentials (userID : Uuid) : List Credential :=
  (getCredentials env t userID).map fun c => ⟨c.credentialID, c.publicKey, UInt32.ofInt c.signCount⟩

def deleteCredentialForUser (id userID : Uuid) : Option MfaTables :=
  if ∃ c ∈ t.webauthn, c.id = id ∧ c.userId = userID then some (t.deleteWebAuthn id userID)
  else none

end Manager

section Sessions

variable (s : Store)

def challengeTTL : Time := 5 * Time.minute

def saveSession (c : Ceremony) (now : Time) (userID : Uuid) (session : String) : Store :=
  if c.hasRedis then
    { s with sessions := update s.sessions userID (some (session, now + challengeTTL)) }
  else s

def loadSession (c : Ceremony) (now : Time) (userID : Uuid) : Store × Option String :=
  if c.hasRedis then
    match s.sessions userID with
    | some (session, vanishes) =>
      if now < vanishes then
        ({ s with sessions := update s.sessions userID none }, some session)
      else (s, none)
    | none => (s, none)
  else (s, none)

end Sessions

inductive Reply where
  | setup (res : SetupTOTPResponse)
  | valid (valid : Bool)
  | noContent
  | created
  | options (options : String)
  | registered (name : String)
deriving DecidableEq

structure RegisterWebAuthnRequest where
  (credentialID publicKey : List UInt8)
  name : String
deriving DecidableEq

def unauthenticated : HandlerError := ⟨401, "unauthenticated"⟩

def invalidBody : HandlerError := ⟨400, "invalid request body"⟩

section Endpoints

variable (env : Env) (now : Time) (claims : Option TokenClaims) (s : Store)

/-- A body that does not decode is `none`. -/
def setupTOTP (random : String) (issuer : Option String) : Store × Except HandlerError Reply :=
  match claims with
  | none => (s, .error unauthenticated)
  | some claims =>
    match issuer with
    | none => (s, .error invalidBody)
    | some issuer =>
      match enableTOTP env s.tables random claims.userID
          (if issuer = "" then "Outpost VPN" else issuer) with
      | none => (s, .error ⟨500, "failed to setup TOTP"⟩)
      | some (tables, res) => ({ s with tables := tables }, .ok (.setup res))

def verifyTOTPCode (code : Option String) : Store × Except HandlerError Reply :=
  match claims with
  | none => (s, .error unauthenticated)
  | some claims =>
    match code with
    | none => (s, .error invalidBody)
    | some code =>
      if code = "" then (s, .error ⟨400, "code is required"⟩)
      else
        match verifyTOTP env s.tables now claims.userID code with
        | none => (s, .error ⟨500, "TOTP verification failed"⟩)
        | some (tables, false) => ({ s with tables := tables }, .ok (.valid false))
        | some (tables, true) =>
          ({ s with tables := tables.setMFAEnabled claims.userID true }, .ok (.valid true))

def disableTOTP : Store × Except HandlerError Reply :=
  match claims with
  | none => (s, .error unauthenticated)
  | some claims => ({ s with tables := s.tables.deleteTotp claims.userID }, .ok .noContent)

def registerWebAuthnCredential (id : Uuid) (req : Option RegisterWebAuthnRequest) :
    Store × Except HandlerError Reply :=
  match claims with
  | none => (s, .error unauthenticated)
  | some claims =>
    match req with
    | none => (s, .error invalidBody)
    | some req =>
      if req.credentialID.length = 0 ∨ req.publicKey.length = 0 then
        (s, .error ⟨400, "credential_id and public_key are required"⟩)
      else
        match registerCredential s.tables
            ⟨id, claims.userID, req.credentialID, req.publicKey, 0, req.name, now⟩ with
        | none => (s, .error ⟨500, "failed to register credential"⟩)
        | some tables => ({ s with tables := tables }, .ok .created)

def deleteWebAuthnCredential (credID : Uuid) : Store × Except HandlerError Reply :=
  match claims with
  | none => (s, .error unauthenticated)
  | some claims =>
    if credID = "" then (s, .error ⟨400, "credential id is required"⟩)
    else
      match deleteCredentialForUser s.tables credID claims.userID with
      | none => (s, .error ⟨404, "credential not found"⟩)
      | some tables => ({ s with tables := tables }, .ok .noContent)

def beginWebAuthnRegistration (challenge : String) : Store × Except HandlerError Reply :=
  match env.ceremony with
  | none => (s, .error ⟨503, "WebAuthn not configured"⟩)
  | some c =>
    match claims with
    | none => (s, .error unauthenticated)
    | some claims =>
      match c.beginRegistration challenge claims.userID claims.username
          (buildCredentials env s.tables claims.userID) with
      | .error e => (s, .error ⟨500, "failed to begin registration: begin registration: " ++ e⟩)
      | .ok (options, session) =>
          (saveSession s c now claims.userID session, .ok (.options options))

def finishWebAuthnRegistration (id : Uuid) (name body : String) :
    Store × Except HandlerError Reply :=
  match env.ceremony with
  | none => (s, .error ⟨503, "WebAuthn not configured"⟩)
  | some c =>
    match claims with
    | none => (s, .error unauthenticated)
    | some claims =>
      let credName := if name = "" then "Security Key" else name
      match loadSession s c now claims.userID with
      | (s, none) => (s, .error ⟨400, "no pending registration or session expired"⟩)
      | (s, some session) =>
        match c.finishRegistration claims.userID claims.username
            (buildCredentials env s.tables claims.userID) session body with
        | .error e => (s, .error ⟨400, "registration verification failed: " ++ e⟩)
        | .ok credential =>
          match registerCredential s.tables ⟨id, claims.userID, credential.id, credential.publicKey,
              credential.signCount.toNat, credName, now⟩ with
          | none => (s, .error ⟨500, "failed to store credential"⟩)
          | some tables =>
            ({ s with tables := tables.setMFAEnabled claims.userID true },
              .ok (.registered credName))

end Endpoints

section Specs

variable (env : Env) (now : Time) (claims : Option TokenClaims) (s : Store)

theorem setupTOTP_spec (random : String) (issuer : Option String) :
    (∃ e, setupTOTP env claims s random issuer = (s, .error e)) ∨
      ∃ (c : TokenClaims) (secret : String) (owner : s.tables.db.HasUser c.userID)
        (res : SetupTOTPResponse), claims = some c ∧ setupTOTP env claims s random issuer =
          ({ s with tables := s.tables.upsertTotp ⟨c.userID, secret, false⟩ owner },
            .ok (.setup res)) := by
  unfold setupTOTP
  split
  · exact .inl ⟨_, rfl⟩
  · rename_i c
    split
    · exact .inl ⟨_, rfl⟩
    · split
      · exact .inl ⟨_, rfl⟩
      · rename_i tables res henable
        unfold enableTOTP at henable
        split at henable
        · cases henable
        · split at henable
          · rename_i owner
            cases henable
            exact .inr ⟨c, _, owner, _, rfl, rfl⟩
          · cases henable

theorem verifyTOTPCode_spec (code : Option String) :
    (∃ e, verifyTOTPCode env now claims s code = (s, .error e)) ∨
      verifyTOTPCode env now claims s code = (s, .ok (.valid false)) ∨
      ∃ (c : TokenClaims) (row : MfaTotp) (text : String), claims = some c ∧ code = some text ∧
        s.tables.totpOf c.userID = some row ∧
        env.auth.totpValidate text row.secret now = true ∧
        verifyTOTPCode env now claims s code =
          ({ s with tables := (if row.verified then s.tables
              else s.tables.verifyTotp c.userID).setMFAEnabled c.userID true },
            .ok (.valid true)) := by
  unfold verifyTOTPCode
  split
  · exact .inl ⟨_, rfl⟩
  · rename_i c
    split
    · exact .inl ⟨_, rfl⟩
    · rename_i text
      split
      · exact .inl ⟨_, rfl⟩
      · unfold verifyTOTP
        cases hrow : s.tables.totpOf c.userID with
        | none => exact .inl ⟨_, rfl⟩
        | some row =>
          cases hvalid : env.auth.totpValidate text row.secret now with
          | false =>
            simp [hvalid]
          | true =>
            refine .inr (.inr ⟨c, row, text, rfl, rfl, hrow, hvalid, ?_⟩)
            cases hverified : row.verified with
            | _ => simp [hvalid, hverified]

theorem disableTOTP_spec :
    (∃ e, disableTOTP claims s = (s, .error e)) ∨ ∃ c : TokenClaims, claims = some c ∧
      disableTOTP claims s =
        ({ s with tables := s.tables.deleteTotp c.userID }, .ok .noContent) := by
  unfold disableTOTP
  split
  · exact .inl ⟨_, rfl⟩
  · exact .inr ⟨_, rfl, rfl⟩

theorem loadSession_tables (c : Ceremony) (userID : Uuid) :
    (loadSession s c now userID).1.tables = s.tables := by
  unfold loadSession
  split
  · split
    · split <;> rfl
    · rfl
  · rfl

theorem saveSession_tables (c : Ceremony) (userID : Uuid) (session : String) :
    (saveSession s c now userID session).tables = s.tables := by
  unfold saveSession
  split <;> rfl

theorem registerCredential_spec {t t' : MfaTables} {c : WebAuthnCredential}
    (h : registerCredential t c = some t') : ∃ h : t.CanRegister c, t' = t.insertWebAuthn c h := by
  unfold registerCredential at h
  split at h
  · rename_i hcan
    exact ⟨hcan, (Option.some.inj h).symm⟩
  · cases h

theorem registerWebAuthnCredential_spec (id : Uuid) (req : Option RegisterWebAuthnRequest) :
    (registerWebAuthnCredential now claims s id req).1.tables.db = s.tables.db ∧
      (registerWebAuthnCredential now claims s id req).1.tables.totp = s.tables.totp := by
  unfold registerWebAuthnCredential
  split
  · exact ⟨rfl, rfl⟩
  · split
    · exact ⟨rfl, rfl⟩
    · split
      · exact ⟨rfl, rfl⟩
      · split
        · exact ⟨rfl, rfl⟩
        · rename_i tables hregister
          obtain ⟨h, rfl⟩ := registerCredential_spec hregister
          exact ⟨rfl, rfl⟩

theorem deleteWebAuthnCredential_spec (credID : Uuid) :
    (deleteWebAuthnCredential claims s credID).1.tables.db = s.tables.db ∧
      (deleteWebAuthnCredential claims s credID).1.tables.totp = s.tables.totp := by
  unfold deleteWebAuthnCredential deleteCredentialForUser
  split
  · exact ⟨rfl, rfl⟩
  · split
    · exact ⟨rfl, rfl⟩
    · split
      · exact ⟨rfl, rfl⟩
      · rename_i tables hdelete
        split at hdelete
        · cases hdelete
          exact ⟨rfl, rfl⟩
        · cases hdelete

theorem beginWebAuthnRegistration_spec (challenge : String) :
    (beginWebAuthnRegistration env now claims s challenge).1.tables = s.tables := by
  unfold beginWebAuthnRegistration
  split
  · rfl
  · split
    · rfl
    · split
      · rfl
      · exact saveSession_tables now s _ _ _

theorem finishWebAuthnRegistration_spec (id : Uuid) (name body : String) :
    (∃ s' e, s'.tables = s.tables ∧
      finishWebAuthnRegistration env now claims s id name body = (s', .error e)) ∨
      ∃ (c : TokenClaims) (key : WebAuthnCredential) (h : s.tables.CanRegister key) (s' : Store)
        (credName : String), claims = some c ∧ key.userId = c.userID ∧
        s'.tables = (s.tables.insertWebAuthn key h).setMFAEnabled c.userID true ∧
        finishWebAuthnRegistration env now claims s id name body =
          (s', .ok (.registered credName)) := by
  unfold finishWebAuthnRegistration
  split
  · exact .inl ⟨_, _, rfl, rfl⟩
  · rename_i ceremony _
    split
    · exact .inl ⟨_, _, rfl, rfl⟩
    · rename_i c
      have htables := loadSession_tables now s ceremony c.userID
      dsimp only
      split
      · rename_i hload
        rw [hload] at htables
        exact .inl ⟨_, _, htables, rfl⟩
      · rename_i s' session hload
        rw [hload] at htables
        split
        · exact .inl ⟨_, _, htables, rfl⟩
        · rw [htables]
          split
          · exact .inl ⟨_, _, htables, rfl⟩
          · rename_i tables hregister
            obtain ⟨h, rfl⟩ := registerCredential_spec hregister
            exact .inr ⟨c, _, h, _, _, rfl, rfl, rfl, rfl⟩

end Specs

inductive Request where
  | setupTOTP (random : String) (issuer : Option String)
  | verifyTOTP (code : Option String)
  | disableTOTP
  | registerWebAuthn (id : Uuid) (req : Option RegisterWebAuthnRequest)
  | deleteWebAuthn (credID : Uuid)
  | beginWebAuthn (challenge : String)
  | finishWebAuthn (id : Uuid) (name body : String)

def handle (env : Env) (now : Time) (claims : Option TokenClaims) (s : Store) :
    Request → Store × Except HandlerError Reply
  | .setupTOTP random issuer => setupTOTP env claims s random issuer
  | .verifyTOTP code => verifyTOTPCode env now claims s code
  | .disableTOTP => disableTOTP claims s
  | .registerWebAuthn id req => registerWebAuthnCredential now claims s id req
  | .deleteWebAuthn credID => deleteWebAuthnCredential claims s credID
  | .beginWebAuthn challenge => beginWebAuthnRegistration env now claims s challenge
  | .finishWebAuthn id name body => finishWebAuthnRegistration env now claims s id name body

end MfaHandler

end Outpost
