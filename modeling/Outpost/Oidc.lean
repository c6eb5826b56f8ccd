import Outpost.Shared.Interleaving
import Outpost.Shared.KeyedRows
import Outpost.Tokens
import Outpost.UserHandler

/-!
# The OpenID Connect provider

`authorize` and `token` as programs. Queries succeed unless they violate a constraint; URLs, hashes
and signatures are parameters.
-/

namespace Outpost.Oidc

open Interleaving

structure Client where
  (id secretHash : String)
  (redirectURIs scopes : List String)
deriving DecidableEq

structure AuthCode where
  (code clientID : String)
  userID : Uuid
  scopes : List String
  (nonce redirectURI codeChallenge codeChallengeMethod : String)
  (expiresAt createdAt : Time)
deriving DecidableEq

/-- A code expires once the clock has passed `expires_at`. -/
def AuthCode.Expired (ac : AuthCode) (now : Time) : Prop := ac.expiresAt < now

instance AuthCode.decidableExpired (ac : AuthCode) (now : Time) : Decidable (ac.Expired now) := by
  unfold AuthCode.Expired
  infer_instance

structure Profile where
  emailVerified : Bool
  fullName : String
deriving DecidableEq

structure Tables where
  db : Database
  profiles : Uuid → Profile
  clients : List Client
  codes : List AuthCode
  client_unique : (clients.map Client.id).Nodup
  code_unique : (codes.map AuthCode.code).Nodup
  code_client : ∀ ac ∈ codes, ∃ c ∈ clients, c.id = ac.clientID
  code_user : ∀ ac ∈ codes, db.HasUser ac.userID

structure World where
  tables : Tables
  now : Time

structure UserInfo where
  userID : Uuid
  email : String
  emailVerified : Bool
  (name username : String)
  groups : List String
deriving DecidableEq

structure IDTokenClaims where
  (nonce email : String)
  emailVerified : Bool
  (name preferredUsername : String)
  groups : List String
  (issuer subject : String)
  audience : List String
  (expiresAt issuedAt notBefore : Nat)
deriving DecidableEq

structure AccessTokenClaims where
  (scope clientID issuer subject : String)
  audience : List String
  (expiresAt issuedAt : Nat)
deriving DecidableEq

structure Env where
  issuer : String
  bcrypt : Passwords.Bcrypt
  signIDToken : IDTokenClaims → String
  signAccessToken : AccessTokenClaims → String
  s256 : String → String
  withQuery : String → List (String × String) → Option String
  groupRows : RangeOrder String

namespace Tables

variable (t : Tables)

def getClient (clientID : String) : Option Client := t.clients.find? fun c => c.id = clientID

def codeOf (code : String) : Option AuthCode := t.codes.find? fun ac => ac.code = code

/-- Whether the row violates none of the constraints of `oidc_auth_codes`. -/
def CanCreate (ac : AuthCode) : Prop :=
  (∀ ac' ∈ t.codes, ac'.code ≠ ac.code) ∧ (∃ c ∈ t.clients, c.id = ac.clientID) ∧
    t.db.HasUser ac.userID

instance decidableCanCreate (ac : AuthCode) : Decidable (t.CanCreate ac) := by
  unfold CanCreate
  infer_instance

def insertCode (ac : AuthCode) (h : t.CanCreate ac) : Tables :=
  { t with
    codes := t.codes ++ [ac]
    code_unique := KeyedRows.nodup_append t.code_unique h.1
    code_client := by
      intro ac' hac'
      rcases List.mem_append.mp hac' with hac' | hac'
      · exact t.code_client ac' hac'
      · rw [List.mem_singleton.mp hac']
        exact h.2.1
    code_user := by
      intro ac' hac'
      rcases List.mem_append.mp hac' with hac' | hac'
      · exact t.code_user ac' hac'
      · rw [List.mem_singleton.mp hac']
        exact h.2.2 }

def deleteCode (code : String) : Tables :=
  { t with
    codes := t.codes.filter fun ac => ac.code ≠ code
    code_unique := t.code_unique.sublist (List.filter_sublist.map _)
    code_client := fun ac hac => t.code_client ac (List.mem_filter.mp hac).1
    code_user := fun ac hac => t.code_user ac (List.mem_filter.mp hac).1 }

def getUserInfo (userID : Uuid) : Option UserInfo :=
  (t.db.userByID userID).map fun u =>
    ⟨u.id, u.email, (t.profiles u.id).emailVerified, (t.profiles u.id).fullName, u.username, []⟩

def groupNames (userID : Uuid) : List String :=
  t.db.groups.flatMap fun g =>
    (t.db.userGroups.filter fun ug => ug.groupId = g.id ∧ ug.userId = userID).map fun _ => g.name

theorem mem_codeOf {code : String} {ac : AuthCode} (h : t.codeOf code = some ac) :
    ac ∈ t.codes ∧ ac.code = code :=
  (KeyedRows.find?_eq_some t.code_unique).mp h

end Tables

def timeNow : Prog World Time := .read World.now

def query {α : Type} (f : Tables → α) : Prog World α := .read fun w => f w.tables

def createAuthCode (ac : AuthCode) : Prog World Bool :=
  .modify fun w =>
    if h : w.tables.CanCreate ac then ({ w with tables := w.tables.insertCode ac h }, true)
    else (w, false)

/-- `DELETE ... RETURNING`. -/
def consumeAuthCode (code : String) : Prog World (Option AuthCode) :=
  .modify fun w => ({ w with tables := w.tables.deleteCode code }, w.tables.codeOf code)

inductive Error where
  | api (status : Nat) (message : String)
  | token (status : Nat) (error description : String)
deriving DecidableEq

structure TokenResponse where
  (accessToken tokenType : String)
  expiresIn : Nat
  (idToken scope : String)
deriving DecidableEq

inductive Reply where
  | redirect (location : String)
  | tokens (res : TokenResponse)
deriving DecidableEq

structure AuthorizeParams where
  (clientID redirectURI responseType scope state nonce codeChallenge codeChallengeMethod : String)
deriving DecidableEq

structure TokenForm where
  (grantType code redirectURI codeVerifier clientID clientSecret : String)
deriving DecidableEq

def authCodeLifetime : Time := 10 * Time.minute

def accessTokenLifetime : Time := Time.hour

def idTokenLifetime : Time := Time.hour

def validateRedirectURI (client : Client) (uri : String) : Bool :=
  client.redirectURIs.any fun allowed => allowed = uri

section Handlers

variable (env : Env)

def stateParam (state : String) : List (String × String) :=
  if state = "" then [] else [("state", state)]

def errorRedirect (params : AuthorizeParams) (error description : String) : Except Error Reply :=
  if params.redirectURI = "" then .error (.api 400 description)
  else
    match env.withQuery params.redirectURI
        ([("error", error), ("error_description", description)] ++ stateParam params.state) with
    | none => .error (.api 400 description)
    | some location => .ok (.redirect location)

def AuthorizeParams.authCode (params : AuthorizeParams) (client : Client) (userID : Uuid)
    (code : String) (now : Time) : AuthCode where
  code := code
  clientID := params.clientID
  userID := userID
  scopes := if params.scope = "" then client.scopes else params.scope.splitOn " "
  nonce := params.nonce
  redirectURI := params.redirectURI
  codeChallenge := params.codeChallenge
  codeChallengeMethod := params.codeChallengeMethod
  expiresAt := now + authCodeLifetime
  createdAt := now

def authorize (params : AuthorizeParams) (claims : Option TokenClaims) (code : String) :
    Prog World (Except Error Reply) :=
  match claims with
  | none => return .error (.api 401 "authentication required")
  | some claims => do
    match ← query fun t => t.getClient params.clientID with
    | none => return .error (.api 400 "invalid client_id")
    | some client =>
      if validateRedirectURI client params.redirectURI = false then
        return .error (.api 400 "invalid redirect_uri")
      else if params.responseType ≠ "code" then
        return errorRedirect env params "unsupported_response_type"
          "only response_type=code is supported"
      else if params.codeChallengeMethod ≠ "" ∧ params.codeChallengeMethod ≠ "S256" then
        return errorRedirect env params "invalid_request"
          "only S256 code_challenge_method is supported"
      else
        let now ← timeNow
        if ← createAuthCode (params.authCode client claims.userID code now) then
          match env.withQuery params.redirectURI ([("code", code)] ++ stateParam params.state) with
          | none => return .error (.api 400 "malformed redirect_uri")
          | some location => return .ok (.redirect location)
        else return .error (.api 500 "internal error")

def checkCode (ac : AuthCode) (form : TokenForm) (now : Time) : Option Error :=
  if ac.Expired now then some (.token 400 "invalid_grant" "authorization code expired")
  else if form.clientID = "" then some (.token 400 "invalid_request" "client_id is required")
  else if form.clientID ≠ ac.clientID then some (.token 400 "invalid_grant" "client_id mismatch")
  else if form.redirectURI ≠ ac.redirectURI then
    some (.token 400 "invalid_grant" "redirect_uri mismatch")
  else none

def checkSecret (client : Client) (form : TokenForm) : Option Error :=
  if client.secretHash = "" then none
  else if form.clientSecret = "" then
    some (.token 401 "invalid_client" "client_secret is required for confidential clients")
  else if Passwords.checkPassword env.bcrypt client.secretHash form.clientSecret then none
  else some (.token 401 "invalid_client" "invalid client credentials")

def verifyPKCE (challenge method verifier : String) : Bool :=
  if method = "" ∨ method = "S256" then env.s256 verifier = challenge else false

def checkPKCE (ac : AuthCode) (form : TokenForm) : Option Error :=
  if ac.codeChallenge = "" then none
  else if form.codeVerifier = "" then some (.token 400 "invalid_grant" "code_verifier required")
  else if verifyPKCE env ac.codeChallenge ac.codeChallengeMethod form.codeVerifier then none
  else some (.token 400 "invalid_grant" "PKCE verification failed")

def buildIDTokenClaims (user : UserInfo) (clientID nonce : String) (now : Time) :
    IDTokenClaims where
  nonce := nonce
  email := user.email
  emailVerified := user.emailVerified
  name := user.name
  preferredUsername := user.username
  groups := user.groups
  issuer := env.issuer
  subject := user.userID
  audience := [clientID]
  expiresAt := Time.numericDate (now + idTokenLifetime)
  issuedAt := Time.numericDate now
  notBefore := Time.numericDate now

def accessClaims (ac : AuthCode) (now : Time) : AccessTokenClaims where
  scope := " ".intercalate ac.scopes
  clientID := ac.clientID
  issuer := env.issuer
  subject := ac.userID
  audience := [ac.clientID]
  expiresAt := Time.numericDate (now + accessTokenLifetime)
  issuedAt := Time.numericDate now

/-- The part of `token` after the checks. Signing does not fail. -/
def issueTokens (ac : AuthCode) : Prog World (Except Error Reply) := do
  match ← query fun t => t.getUserInfo ac.userID with
  | none => return .error (.token 500 "server_error" "failed to retrieve user")
  | some user =>
    let groups ← query fun t => env.groupRows.visit (t.groupNames ac.userID)
    let idToken := env.signIDToken
      (buildIDTokenClaims env { user with groups := groups } ac.clientID ac.nonce (← timeNow))
    let accessToken := env.signAccessToken (accessClaims env ac (← timeNow))
    return .ok (.tokens
      { accessToken := accessToken
        tokenType := "Bearer"
        expiresIn := 3600
        idToken := idToken
        scope := " ".intercalate ac.scopes })

/-- The code is consumed before anything is compared with it. -/
def token (form : Option TokenForm) : Prog World (Except Error Reply) :=
  match form with
  | none => return .error (.token 400 "invalid_request" "malformed form body")
  | some form => do
    if form.grantType ≠ "authorization_code" then
      return .error (.token 400 "unsupported_grant_type" "only authorization_code is supported")
    else
      match ← consumeAuthCode form.code with
      | none =>
        return .error (.token 400 "invalid_grant" "invalid or expired authorization code")
      | some ac =>
        match checkCode ac form (← timeNow) with
        | some e => return .error e
        | none =>
          match ← query fun t => t.getClient ac.clientID with
          | none => return .error (.token 401 "invalid_client" "unknown client")
          | some client =>
            match (checkSecret env client form).or (checkPKCE env ac form) with
            | some e => return .error e
            | none => issueTokens env ac

end Handlers

inductive Request where
  | authorize (params : AuthorizeParams) (claims : Option TokenClaims) (code : String)
  | token (form : Option TokenForm)

def handle (env : Env) : Request → Prog World (Except Error Reply)
  | .authorize params claims code => authorize env params claims code
  | .token form => token env form

end Outpost.Oidc
