import Outpost.Shared.Interleaving
import Outpost.Tokens
import Outpost.UserHandler

/-!
# Logging in

`login`, `verifyMFA`, `refreshToken`, `logout` and `JWTMiddleware` as programs: each
SQL statement, each reading of the clock and each signature is an action, and other
requests run between them. Queries succeed and the router's blacklist is set.
-/

namespace Outpost

open Interleaving

structure LoginColumns where
  passwordHash : Option String
  passwordMustChange : Bool
  failedLoginAttempts : Int
  lockedUntil : Option Time
deriving DecidableEq

structure TotpRow where
  userId : Uuid
  secret : String
deriving DecidableEq

structure BackupCode where
  (id userId : Uuid)
  codeHash : String
  used : Bool
deriving DecidableEq

structure BlacklistRow where
  tokenHash : String
  expiresAt : Time
deriving DecidableEq

structure AuthTables where
  db : Database
  columns : Uuid → LoginColumns
  totp : List TotpRow
  backupCodes : List BackupCode
  blacklist : List BlacklistRow

/-- What requests share; `signed` records all that was signed. -/
structure World where
  tables : AuthTables
  now : Time
  signed : List TokenClaims

structure AuthEnv where
  jwt : Jwt
  jwtSecret : String
  bcrypt : Passwords.Bcrypt
  totpValidate : String → String → Time → Bool
  hashToken : String → String
  durationText : Int → String

namespace AuthTables

variable (t : AuthTables)

/-- The row that `login` scans; a null hash is an error like a missing row. -/
def loginRow (username : String) : Option (User × String) := do
  let u ← t.db.users.find? fun u => u.username = username
  let passwordHash ← (t.columns u.id).passwordHash
  return (u, passwordHash)

def setColumns (id : Uuid) (f : LoginColumns → LoginColumns) : AuthTables :=
  { t with columns := fun userID => if userID = id then f (t.columns userID) else t.columns userID }

/-- `WHERE id = $1 AND used = false`, with whether a row was affected. -/
def spendBackupCode (id : Uuid) : AuthTables × Bool :=
  ({ t with
      backupCodes := t.backupCodes.map fun c =>
        if c.id = id ∧ c.used = false then { c with used := true } else c },
    t.backupCodes.any fun c => c.id = id && !c.used)

def isBlacklisted (tokenHash : String) : Bool :=
  t.blacklist.any fun row => row.tokenHash = tokenHash

/-- `ON CONFLICT (token_hash) DO NOTHING`. -/
def addBlacklist (row : BlacklistRow) : AuthTables :=
  if t.isBlacklisted row.tokenHash then t else { t with blacklist := t.blacklist ++ [row] }

/-- `DELETE FROM token_blacklist WHERE expires_at < now()`. -/
def cleanupBlacklist (now : Time) : AuthTables :=
  { t with blacklist := t.blacklist.filter fun row => ¬ row.expiresAt < now }

end AuthTables

namespace AuthHandler

def timeNow : Prog World Time := .read World.now

def query {α : Type} (f : AuthTables → α) : Prog World α := .read fun w => f w.tables

def exec {α : Type} (f : AuthTables → AuthTables × α) : Prog World α :=
  .modify fun w => ({ w with tables := (f w.tables).1 }, (f w.tables).2)

def record (claims : TokenClaims) : Prog World Unit :=
  .modify fun w => ({ w with signed := claims :: w.signed }, ())

def timeOr (given : Option Nat) (f : Time → Nat) : Prog World Nat :=
  match given with
  | some t => return t
  | none => return f (← timeNow)

section Handlers

variable (env : AuthEnv)

def generateToken (claims : TokenClaims) : Prog World String := do
  let expiresAt ← timeOr claims.expiresAt fun t => Time.numericDate (t + 24 * Time.hour)
  let issuedAt ← timeOr claims.issuedAt Time.numericDate
  let signed := { claims with expiresAt := some expiresAt, issuedAt := some issuedAt }
  record signed
  return env.jwt.sign env.jwtSecret signed

def validate (raw : String) : Prog World (Option TokenClaims) :=
  return validateToken env.jwt env.jwtSecret raw (← timeNow)

structure LoginRequest where
  (username password : String)
deriving DecidableEq

structure LoginResponse where
  token : String := ""
  expiresAt : Nat := 0
  mfaRequired : Bool := false
  mfaToken : String := ""
  passwordMustChange : Bool := false
deriving DecidableEq

def lockRemaining : Option Time → Prog World (Option Int)
  | none => return none
  | some lockedUntil => do
    if (← timeNow) < lockedUntil then
      let now ← timeNow
      return some (((lockedUntil : Int) - now).tdiv Time.second * Time.second)
    else return none

def countFailure (userID : Uuid) (failedAttempts : Int) : Prog World Unit := do
  let newAttempts := failedAttempts + 1
  if newAttempts ≥ 5 then
    let lockUntil := (← timeNow) + 15 * Time.minute
    exec fun t => (t.setColumns userID fun row =>
      { row with failedLoginAttempts := newAttempts, lockedUntil := some lockUntil }, ())
  else
    exec fun t => (t.setColumns userID fun row => { row with failedLoginAttempts := newAttempts }, ())

def resetFailures (userID : Uuid) (row : LoginColumns) : Prog World Unit :=
  if 0 < row.failedLoginAttempts ∨ row.lockedUntil.isSome then
    exec fun t => (t.setColumns userID fun row =>
      { row with failedLoginAttempts := 0, lockedUntil := none }, ())
  else return ()

def issueMFAToken (u : User) : Prog World LoginResponse := do
  let expiresAt := Time.numericDate ((← timeNow) + 10 * Time.minute)
  let mfaToken ← generateToken env
    { userID := u.id, username := u.username, email := u.email, isAdmin := false,
      tokenType := "mfa", expiresAt := some expiresAt }
  return { mfaRequired := true, mfaToken := mfaToken }

def issueSession (userID : Uuid) (username email : String) (isAdmin passwordMustChange : Bool) :
    Prog World LoginResponse := do
  let expiresAt := (← timeNow) + 24 * Time.hour
  let token ← generateToken env
    { userID := userID, username := username, email := email, isAdmin := isAdmin }
  return { token := token, expiresAt := expiresAt / Time.second,
           passwordMustChange := passwordMustChange }

def login (req : LoginRequest) : Prog World (Except HandlerError LoginResponse) := do
  if req.username = "" ∨ req.password = "" then
    return .error ⟨400, "username and password are required"⟩
  match ← query fun t => (t.loginRow req.username).map fun r => (r.1, r.2, t.columns r.1.id) with
  | none => return .error ⟨401, "invalid credentials"⟩
  | some (u, passwordHash, row) =>
    if u.isActive = false then return .error ⟨403, "account is disabled"⟩
    match ← lockRemaining row.lockedUntil with
    | some remaining =>
      return .error ⟨403, "account is locked, try again after " ++ env.durationText remaining⟩
    | none =>
      if Passwords.checkPassword env.bcrypt passwordHash req.password = false then
        countFailure u.id row.failedLoginAttempts
        return .error ⟨401, "invalid credentials"⟩
      resetFailures u.id row
      if u.mfaEnabled then
        return .ok (← issueMFAToken env u)
      return .ok (← issueSession env u.id u.username u.email u.isAdmin row.passwordMustChange)

structure MFAVerifyRequest where
  (mfaToken code method : String)
deriving DecidableEq

def tryCodes (code : String) : List BackupCode → Prog World Bool
  | [] => return false
  | row :: rest => do
    if Passwords.checkPassword env.bcrypt row.codeHash code then
      if ← exec fun t => t.spendBackupCode row.id then return true
      else tryCodes code rest
    else tryCodes code rest

def tryBackupCode (userID : Uuid) (code : String) : Prog World Bool := do
  let rows ← query fun t => t.backupCodes.filter fun c => c.userId = userID ∧ c.used = false
  tryCodes env code rows

def codeValid (req : MFAVerifyRequest) (userID : Uuid) (totpSecret : String) : Prog World Bool := do
  if env.totpValidate req.code totpSecret (← timeNow) then return true
  if req.method = "backup" ∨ req.code.utf8ByteSize = 8 then tryBackupCode env userID req.code
  else return false

def verifyMFA (req : MFAVerifyRequest) : Prog World (Except HandlerError LoginResponse) := do
  if req.mfaToken = "" ∨ req.code = "" then
    return .error ⟨400, "mfa_token and code are required"⟩
  match ← validate env req.mfaToken with
  | none => return .error ⟨401, "invalid or expired mfa token"⟩
  | some claims =>
    if claims.tokenType ≠ "mfa" then return .error ⟨401, "invalid mfa token type"⟩
    match ← query fun t => t.totp.find? fun row => row.userId = claims.userID with
    | none => return .error ⟨500, "mfa not configured"⟩
    | some totp =>
      if (← codeValid env req claims.userID totp.secret) = false then
        return .error ⟨401, "invalid mfa code"⟩
      match ← query fun t => (t.db.userByID claims.userID).map fun u =>
          (u.isAdmin, (t.columns u.id).passwordMustChange) with
      | none => return .error ⟨500, "failed to read user info"⟩
      | some (isAdmin, passwordMustChange) =>
        return .ok (← issueSession env claims.userID claims.username claims.email isAdmin
          passwordMustChange)

def blacklist (raw : String) : Option Nat → Prog World Unit
  | none => return ()
  | some expiresAt =>
    exec fun t => (t.addBlacklist ⟨env.hashToken raw, expiresAt * Time.second⟩, ())

def refreshToken (authorization : String) : Prog World (Except HandlerError LoginResponse) := do
  match (bearer authorization).filter fun raw => raw ≠ "" with
  | none => return .error ⟨401, "missing authorization header"⟩
  | some raw =>
    match ← validate env raw with
    | none => return .error ⟨401, "invalid or expired token"⟩
    | some claims =>
      if ← query fun t => t.isBlacklisted (env.hashToken raw) then
        return .error ⟨401, "token has been revoked"⟩
      if claims.tokenType = "mfa" then return .error ⟨401, "mfa verification required"⟩
      match ← query fun t => t.db.userByID claims.userID with
      | none => return .error ⟨500, "failed to verify account status"⟩
      | some u =>
        if u.isActive = false then return .error ⟨403, "account is disabled"⟩
        let res ← issueSession env claims.userID claims.username claims.email u.isAdmin false
        blacklist env raw claims.expiresAt
        return .ok res

def logout (authorization : String) : Prog World (Except HandlerError String) := do
  match (bearer authorization).filter fun raw => raw ≠ "" with
  | none => return .ok "ok"
  | some raw =>
    match ← validate env raw with
    | none => return .ok "ok"
    | some claims =>
      blacklist env raw claims.expiresAt
      return .ok "ok"

def cleanup : Prog World Unit :=
  .modify fun w => ({ w with tables := w.tables.cleanupBlacklist w.now }, ())

def jwtMiddleware (authorization : String) : Prog World (Except HandlerError TokenClaims) := do
  if authorization = "" then return .error ⟨401, "missing authorization header"⟩
  match bearer authorization with
  | none => return .error ⟨401, "invalid authorization header format"⟩
  | some raw =>
    match ← validate env raw with
    | none => return .error ⟨401, "invalid token"⟩
    | some claims =>
      if claims.tokenType = "mfa" then return .error ⟨401, "mfa verification required"⟩
      if ← query fun t => t.isBlacklisted (env.hashToken raw) then
        return .error ⟨401, "token has been revoked"⟩
      return .ok claims

end Handlers

/-! ## What the programs do

An action signs at most one token, for which there is evidence in what the request
has found before, and lists at most one token as revoked. -/

def Signs (evidence : List World → TokenClaims → Prop) (seen : List World) (w w' : World) : Prop :=
  w'.signed = w.signed ∨ ∃ c, evidence seen c ∧ w'.signed = c :: w.signed

def Lists (adds : BlacklistRow → Prop) (w w' : World) : Prop :=
  w'.tables.blacklist = w.tables.blacklist ∨
    ∃ row, adds row ∧ w'.tables.blacklist = (w.tables.addBlacklist row).blacklist

structure Does (evidence : List World → TokenClaims → Prop) (adds : BlacklistRow → Prop)
    (seen : List World) (w w' : World) : Prop where
  signs : Signs evidence seen w w'
  lists : Lists adds w w'
  now : w'.now = w.now

def Revokes (env : AuthEnv) (authorization : String) (row : BlacklistRow) : Prop :=
  ∃ raw c e, bearer authorization = some raw ∧ env.jwt.verify env.jwtSecret raw = some c ∧
    c.expiresAt = some e ∧ row = ⟨env.hashToken raw, e * Time.second⟩

open Prog

variable {env : AuthEnv} {evidence : List World → TokenClaims → Prop}
  {adds : BlacklistRow → Prop} {seen : List World}

theorem Does.quiet (w : World) {w' : World} (hsigned : w'.signed = w.signed)
    (hlisted : w'.tables.blacklist = w.tables.blacklist) (hnow : w'.now = w.now) :
    Does evidence adds seen w w' :=
  ⟨.inl hsigned, .inl hlisted, hnow⟩

theorem keeps_timeNow : Keeps (Does evidence adds)
    (fun later t => ∃ w, later = seen ++ [w] ∧ t = w.now) seen timeNow :=
  keeps_read (fun w => .quiet w rfl rfl rfl) fun w => ⟨w, rfl, rfl⟩

variable {α : Type} {claims c : TokenClaims} {userID : Uuid} {authorization raw secret : String}
  {w : World} {req : MFAVerifyRequest}

theorem keeps_query (f : AuthTables → α) : Keeps (Does evidence adds)
    (fun later a => ∃ w, later = seen ++ [w] ∧ a = f w.tables) seen (query f) :=
  keeps_read (fun w => .quiet w rfl rfl rfl) fun w => ⟨w, rfl, rfl⟩

theorem keeps_exec {f : AuthTables → AuthTables × α} (h : ∀ t, (f t).1.blacklist = t.blacklist) :
    Keeps (Does evidence adds)
    (fun later a => ∃ w, later = seen ++ [w] ∧ a = (f w.tables).2) seen (exec f) :=
  keeps_modify (fun w => .quiet w rfl (h w.tables) rfl) fun w => ⟨w, rfl, rfl⟩

theorem keeps_timeOr (given : Option Nat) (f : Time → Nat) :
    Keeps (Does evidence adds) (fun _ _ => True) seen (timeOr given f) := by
  cases given with
  | some t => exact keeps_pure trivial
  | none => exact keeps_bind keeps_timeNow fun _ _ _ _ => keeps_pure trivial

theorem keeps_record (h : evidence seen claims) :
    Keeps (Does evidence adds) (fun _ _ => True) seen (record claims) :=
  keeps_modify (fun _ => ⟨.inr ⟨claims, h, rfl⟩, .inl rfl, rfl⟩) fun _ => trivial

theorem keeps_generateToken
    (h : ∀ later, seen <+: later → ∀ expiresAt issuedAt, evidence later { claims with expiresAt := some expiresAt, issuedAt := some issuedAt })
    :
    Keeps (Does evidence adds) (fun _ _ => True) seen (generateToken env claims) := by
  apply keeps_bind (keeps_timeOr _ _)
  intro later₁ expiresAt hlater₁ _
  apply keeps_bind (keeps_timeOr _ _)
  intro later₂ issuedAt hlater₂ _
  apply keeps_bind (keeps_record (h later₂ (hlater₁.trans hlater₂) expiresAt issuedAt))
  exact fun _ _ _ _ => keeps_pure trivial

theorem keeps_validate (raw : String) :
    Keeps (Does evidence adds) (fun later res => ∃ w, later = seen ++ [w] ∧
      res = validateToken env.jwt env.jwtSecret raw w.now) seen (validate env raw) := by
  apply keeps_bind keeps_timeNow
  intro later t _ ⟨w, hlater, ht⟩
  exact keeps_pure ⟨w, hlater, by rw [ht]⟩

theorem keeps_lockRemaining (lockedUntil : Option Time) :
    Keeps (Does evidence adds) (fun _ _ => True) seen (lockRemaining lockedUntil) := by
  cases lockedUntil with
  | none => exact keeps_pure trivial
  | some t =>
    apply keeps_bind keeps_timeNow
    intro _ now _ _
    split
    · exact keeps_bind keeps_timeNow fun _ _ _ _ => keeps_pure trivial
    · exact keeps_pure trivial

theorem keeps_setColumns (userID : Uuid) (f : LoginColumns → LoginColumns) :
    Keeps (Does evidence adds) (fun _ _ => True) seen
      (exec fun t => (t.setColumns userID f, ())) :=
  keeps_mono (keeps_exec fun _ => rfl) fun _ _ _ _ => trivial

theorem keeps_countFailure (userID : Uuid) (failedAttempts : Int) :
    Keeps (Does evidence adds) (fun _ _ => True) seen (countFailure userID failedAttempts) := by
  simp only [countFailure]
  split
  · apply keeps_bind keeps_timeNow
    intro _ _ _ _
    exact keeps_setColumns _ _
  · exact keeps_setColumns _ _

theorem keeps_resetFailures (userID : Uuid) (row : LoginColumns) :
    Keeps (Does evidence adds) (fun _ _ => True) seen (resetFailures userID row) := by
  unfold resetFailures
  split
  · exact keeps_setColumns _ _
  · exact keeps_pure trivial

theorem keeps_issueMFAToken {u : User}
    (h : ∀ later, seen <+: later → ∀ c : TokenClaims, c.userID = u.id → c.tokenType = "mfa" →
      evidence later c) :
    Keeps (Does evidence adds) (fun _ _ => True) seen (issueMFAToken env u) := by
  apply keeps_bind keeps_timeNow
  intro later₁ _ hlater₁ _
  apply keeps_bind
  · apply keeps_generateToken
    intro later₂ hlater₂ _ _
    exact h later₂ (hlater₁.trans hlater₂) _ rfl rfl
  · exact fun _ _ _ _ => keeps_pure trivial

theorem keeps_issueSession {username email : String} {isAdmin passwordMustChange : Bool}
    (h : ∀ later, seen <+: later → ∀ c : TokenClaims, c.userID = userID → c.tokenType = "" → evidence later c)
    :
    Keeps (Does evidence adds) (fun _ _ => True) seen
      (issueSession env userID username email isAdmin passwordMustChange) := by
  apply keeps_bind keeps_timeNow
  intro later₁ _ hlater₁ _
  apply keeps_bind
  · apply keeps_generateToken
    intro later₂ hlater₂ _ _
    exact h later₂ (hlater₁.trans hlater₂) _ rfl rfl
  · exact fun _ _ _ _ => keeps_pure trivial

theorem keeps_blacklist {now : Time} (hbearer : bearer authorization = some raw)
    (hvalid : validateToken env.jwt env.jwtSecret raw now = some c) :
    Keeps (Does evidence (Revokes env authorization)) (fun _ _ => True) seen
      (blacklist env raw c.expiresAt) := by
  cases he : c.expiresAt with
  | none => exact keeps_pure trivial
  | some e =>
    refine keeps_modify (fun w => ⟨.inl rfl, .inr ?_, rfl⟩) fun _ => trivial
    exact ⟨_, ⟨raw, c, e, hbearer, (validateToken_eq_some.mp hvalid).1, he, rfl⟩, rfl⟩

def LoginFound (env : AuthEnv) (req : LoginRequest) (seen : List World) (c : TokenClaims) : Prop :=
  ∃ w later u passwordHash, seen = w :: later ∧
    w.tables.loginRow req.username = some (u, passwordHash) ∧ u.isActive = true ∧
    Passwords.checkPassword env.bcrypt passwordHash req.password = true ∧ c.userID = u.id ∧
    (u.mfaEnabled = true ∧ c.tokenType = "mfa" ∨ u.mfaEnabled = false ∧ c.tokenType = "")

theorem keeps_login (req : LoginRequest) :
    Keeps (Does (LoginFound env req) adds) (fun _ _ => True) [] (login env req) := by
  unfold login
  split
  · exact keeps_pure trivial
  apply keeps_bind (keeps_query _)
  intro seen row _ ⟨w, hseen, hrow⟩
  split
  · exact keeps_pure trivial
  rename_i u passwordHash columns
  split
  · exact keeps_pure trivial
  rename_i hactive
  apply keeps_bind (keeps_lockRemaining _)
  intro seen₁ remaining hseen₁ _
  split
  · exact keeps_pure trivial
  split
  · exact keeps_bind (keeps_countFailure _ _) fun _ _ _ _ => keeps_pure trivial
  rename_i hcheck
  obtain ⟨r, hr, heq⟩ := Option.map_eq_some_iff.mp hrow.symm
  obtain ⟨rfl, rfl, -⟩ : r.1 = u ∧ r.2 = passwordHash ∧ _ := by simpa using heq
  have hfound : ∀ later, seen₁ <+: later → ∀ c : TokenClaims, c.userID = r.1.id →
      (r.1.mfaEnabled = true ∧ c.tokenType = "mfa" ∨
        r.1.mfaEnabled = false ∧ c.tokenType = "") → LoginFound env req later c := by
    intro later hlater c huser hkind
    obtain ⟨rest, rfl⟩ := hseen ▸ hseen₁.trans hlater
    exact ⟨w, rest, r.1, r.2, rfl, hr, by simpa using hactive, by simpa using hcheck, huser, hkind⟩
  apply keeps_bind (keeps_resetFailures _ _)
  intro seen₂ _ hseen₂ _
  split
  · rename_i hmfa
    apply keeps_bind
    · apply keeps_issueMFAToken
      intro later hlater c huser htype
      exact hfound later (hseen₂.trans hlater) c huser (.inl ⟨hmfa, htype⟩)
    · exact fun _ _ _ _ => keeps_pure trivial
  · rename_i hmfa
    apply keeps_bind
    · apply keeps_issueSession
      intro later hlater c huser htype
      exact hfound later (hseen₂.trans hlater) c huser (.inr ⟨by simpa using hmfa, htype⟩)
    · exact fun _ _ _ _ => keeps_pure trivial

/-- The token was good and not listed, and its user active, each when it was read. -/
structure RefreshFound (env : AuthEnv) (authorization raw : String) (c : TokenClaims) (u : User)
    (w₀ w₁ w₂ : World) : Prop where
  bearer : (bearer authorization).filter (fun raw => raw ≠ "") = some raw
  valid : validateToken env.jwt env.jwtSecret raw w₀.now = some c
  unlisted : w₁.tables.isBlacklisted (env.hashToken raw) = false
  session : c.tokenType ≠ "mfa"
  row : w₂.tables.db.userByID c.userID = some u
  active : u.isActive = true

def Refreshed (env : AuthEnv) (authorization : String) (seen : List World) (userID : Uuid) : Prop :=
  ∃ raw c u w₀ w₁ w₂ later, seen = w₀ :: w₁ :: w₂ :: later ∧
    RefreshFound env authorization raw c u w₀ w₁ w₂ ∧ userID = c.userID

theorem keeps_refreshToken (authorization : String) :
    Keeps (Does (fun seen c => c.tokenType = "" ∧ Refreshed env authorization seen c.userID)
        (Revokes env authorization))
      (fun seen res => ∀ answer, res = .ok answer → ∃ userID, Refreshed env authorization seen userID)
      [] (refreshToken env authorization) := by
  unfold refreshToken
  split
  · exact keeps_pure nofun
  rename_i raw hraw
  have hbearer : bearer authorization = some raw := (Option.filter_eq_some_iff.mp hraw).1
  apply keeps_bind (keeps_validate _)
  intro seen res _ ⟨w₀, hseen, hres⟩
  split
  · exact keeps_pure nofun
  rename_i claims
  apply keeps_bind (keeps_query _)
  intro seen₁ revoked _ ⟨w₁, hseen₁, hrevoked⟩
  split
  · exact keeps_pure nofun
  rename_i hunlisted
  split
  · exact keeps_pure nofun
  rename_i htype
  apply keeps_bind (keeps_query _)
  intro seen₂ user _ ⟨w₂, hseen₂, huser⟩
  split
  · exact keeps_pure nofun
  rename_i u
  split
  · exact keeps_pure nofun
  rename_i hactive
  have hfound : ∀ later, seen₂ <+: later → Refreshed env authorization later claims.userID := by
    intro later hlater
    obtain ⟨rest, rfl⟩ := hlater
    refine ⟨raw, claims, u, w₀, w₁, w₂, rest, ?_, ?_, rfl⟩
    · rw [hseen₂, hseen₁, hseen]
      rfl
    · exact ⟨hraw, hres.symm, by simpa [hrevoked] using hunlisted, htype, huser.symm,
        by simpa using hactive⟩
  apply keeps_bind
  · apply keeps_issueSession
    intro later hlater c hc hsession
    refine ⟨hsession, ?_⟩
    rw [hc]
    exact hfound later hlater
  intro seen₃ _ hseen₃ _
  apply keeps_bind (keeps_blacklist hbearer hres.symm)
  intro seen₄ _ hseen₄ _ _ _
  exact ⟨claims.userID, hfound seen₄ (hseen₃.trans hseen₄)⟩

theorem keeps_logout (authorization : String) :
    Keeps (Does evidence (Revokes env authorization)) (fun _ _ => True) []
      (logout env authorization) := by
  unfold logout
  split
  · exact keeps_pure trivial
  rename_i raw hraw
  have hbearer : bearer authorization = some raw := (Option.filter_eq_some_iff.mp hraw).1
  apply keeps_bind (keeps_validate _)
  intro seen res _ ⟨w, hseen, hres⟩
  split
  · exact keeps_pure trivial
  apply keeps_bind (keeps_blacklist hbearer hres.symm)
  exact fun _ _ _ _ => keeps_pure trivial

theorem keeps_jwtMiddleware (authorization : String) :
    Keeps (Does evidence adds)
      (fun seen res => ∀ c, res = .ok c → ∃ raw w₀ w₁, seen = [w₀, w₁] ∧
        bearer authorization = some raw ∧
        validateToken env.jwt env.jwtSecret raw w₀.now = some c ∧ c.tokenType ≠ "mfa" ∧
        w₁.tables.isBlacklisted (env.hashToken raw) = false)
      [] (jwtMiddleware env authorization) := by
  unfold jwtMiddleware
  split
  · exact keeps_pure nofun
  split
  · exact keeps_pure nofun
  rename_i raw hbearer
  apply keeps_bind (keeps_validate _)
  intro seen res _ ⟨w₀, hseen, hres⟩
  split
  · exact keeps_pure nofun
  split
  · exact keeps_pure nofun
  rename_i htype
  apply keeps_bind (keeps_query _)
  intro seen₁ revoked _ ⟨w₁, hseen₁, hrevoked⟩
  split
  · exact keeps_pure nofun
  rename_i hunlisted
  intro c hc
  cases hc
  refine ⟨raw, w₀, w₁, ?_, hbearer, hres.symm, htype, by simpa [hrevoked] using hunlisted⟩
  rw [hseen₁, hseen]
  rfl

theorem bearer_ne_empty (raw : String) : "Bearer " ++ raw ≠ "" := by simp

theorem bearer_filter (hheader : authorization = "Bearer " ++ raw) (h : raw ≠ "") :
    (bearer authorization).filter (fun raw => raw ≠ "") = some raw := by
  simp [hheader, bearer_append, h]

theorem jwtMiddleware_alone (hvalid : validateToken env.jwt env.jwtSecret raw w.now = some c)
    (htype : c.tokenType ≠ "mfa") (hlisted : w.tables.isBlacklisted (env.hashToken raw) = false) :
    (jwtMiddleware env ("Bearer " ++ raw)).alone w = (w, .ok c) := by
  simp [jwtMiddleware, bearer_append, validate, timeNow, query, hvalid, htype, hlisted]

theorem codeValid_alone (h : env.totpValidate req.code secret w.now = true) :
    (codeValid env req userID secret).alone w = (w, true) := by
  simp [codeValid, timeNow, h]

theorem codeValid_alone_of_not (h : ¬ env.totpValidate req.code secret w.now = true)
    (hbackup : ¬ ((tryBackupCode env userID req.code).alone w).2 = true) :
    ∃ w', (codeValid env req userID secret).alone w = (w', false) := by
  rw [Bool.not_eq_true] at h hbackup
  unfold codeValid
  simp only [timeNow, alone_bind, alone_read, h, Bool.false_eq_true, if_false]
  split
  · exact ⟨_, Prod.ext rfl hbackup⟩
  · exact ⟨w, rfl⟩

section SecondFactor

variable {w w' : World} {req : MFAVerifyRequest} {claims : TokenClaims} {totp : TotpRow}

variable (hpresent : req.mfaToken ≠ "" ∧ req.code ≠ "")
  (hvalid : validateToken env.jwt env.jwtSecret req.mfaToken w.now = some claims)
  (hmfa : claims.tokenType = "mfa")
  (htotp : (w.tables.totp.find? fun row => row.userId = claims.userID) = some totp)

include hpresent hvalid hmfa htotp

theorem verifyMFA_alone_invalid
    (hcode : (codeValid env req claims.userID totp.secret).alone w = (w', false)) :
    (verifyMFA env req).alone w = (w', .error ⟨401, "invalid mfa code"⟩) := by
  simp [verifyMFA, validate, timeNow, query, hpresent, hvalid, hmfa, htotp, hcode]

theorem verifyMFA_alone_valid {u : User}
    (hcode : (codeValid env req claims.userID totp.secret).alone w = (w', true))
    (huser : w'.tables.db.userByID claims.userID = some u) :
    ∃ w'' res, (verifyMFA env req).alone w = (w'', .ok res) := by
  simp [verifyMFA, validate, timeNow, query, hpresent, hvalid, hmfa, htotp, hcode, huser]

end SecondFactor

theorem advance_validate_bind (raw : String) (g : Option TokenClaims → Prog World α) (k : Nat)
    (w : World) : (validate env raw >>= g).advance (k + 1) w =
      (g (validateToken env.jwt env.jwtSecret raw w.now)).advance k w := rfl

theorem jwtMiddleware_advance (hvalid : validateToken env.jwt env.jwtSecret raw w.now = some c)
    (htype : c.tokenType ≠ "mfa") :
    (jwtMiddleware env ("Bearer " ++ raw)).advance 1 w =
      (.act id fun w =>
        if w.tables.isBlacklisted (env.hashToken raw) then
          .ret (.error ⟨401, "token has been revoked"⟩)
        else .ret (.ok c), w) := by
  unfold jwtMiddleware
  rw [if_neg (bearer_ne_empty raw), bearer_append]
  rw [advance_validate_bind, hvalid]
  simp only [htype, advance]
  rfl

theorem logout_alone {e : Nat} (hraw : raw ≠ "")
    (hvalid : validateToken env.jwt env.jwtSecret raw w.now = some c) (he : c.expiresAt = some e) :
    (logout env ("Bearer " ++ raw)).alone w =
      ({ w with tables := w.tables.addBlacklist ⟨env.hashToken raw, e * Time.second⟩ },
        .ok "ok") := by
  unfold logout
  rw [bearer_filter rfl hraw]
  simp [validate, timeNow, hvalid, blacklist, exec, he]

end AuthHandler

end Outpost
