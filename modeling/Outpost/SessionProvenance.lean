import Mathlib.Logic.Equiv.List
import Outpost.Saml
import Outpost.Shared.Schedules

/-!
# Where sessions come from

The requests that sign tokens and those that present them, in any interleaving, while everyone else
does what they like to the tables. No one but the server signs with its secret.
-/

namespace Outpost.SessionProvenance

open Interleaving AuthHandler Runs Function

inductive Request where
  | login (req : LoginRequest)
  | verifyMFA (req : MFAVerifyRequest)
  | refresh (authorization : String)
  | samlACS (newID : Uuid) (response : String)
  | api (authorization : String)

inductive Reply where
  | session (res : LoginResponse)
  | redirect (location : String)
  | passed (claims : TokenClaims)

section System

variable (env : AuthEnv) (cfg : Saml.Config)

def handle : Request → Prog World (Except HandlerError Reply)
  | .login req => return (← login env req).map .session
  | .verifyMFA req => return (← verifyMFA env req).map .session
  | .refresh authorization => return (← refreshToken env authorization).map .session
  | .samlACS newID response => return (← Saml.handleACS env cfg newID response).map .redirect
  | .api authorization => return (← jwtMiddleware env authorization).map .passed

def Other (w w' : World) : Prop := w'.signed = w.signed ∧ w.now ≤ w'.now

abbrev Server := Pool World Request (Except HandlerError Reply)

abbrev Happening := Event World Request (Except HandlerError Reply)

def Request.tokens : Request → List String
  | .verifyMFA req => [req.mfaToken]
  | .refresh authorization => (bearer authorization).toList
  | .api authorization => (bearer authorization).toList
  | _ => []

def NoForgery (p : Server) : Happening → Prop
  | .start _ r => ∀ raw ∈ r.tokens, Unforged env.jwt env.jwtSecret p.shared.signed raw
  | _ => True

end System

section Evidence

variable (env : AuthEnv) (cfg : Saml.Config)

def PasswordChecked (req : LoginRequest) (seen : List World) (u : User) : Prop :=
  ∃ w ∈ seen, ∃ passwordHash, w.tables.loginRow req.username = some (u, passwordHash) ∧
    Passwords.checkPassword env.bcrypt passwordHash req.password = true

def Validated (raw : String) (seen : List World) (c : TokenClaims) : Prop :=
  ∃ w ∈ seen, validateToken env.jwt env.jwtSecret raw w.now = some c

def TotpChecked (code : String) (seen : List World) (userID : Uuid) : Prop :=
  ∃ w ∈ seen, ∃ row ∈ w.tables.totp, row.userId = userID ∧
    ∃ w' ∈ seen, env.totpValidate code row.secret w'.now = true

def BackupCodeSpent (code : String) (seen : List World) (userID : Uuid) : Prop :=
  ∃ w ∈ seen, ∃ row ∈ w.tables.backupCodes, row.userId = userID ∧ row.used = false ∧
    Passwords.checkPassword env.bcrypt row.codeHash code = true ∧
    ∃ w' ∈ seen, ∃ row' ∈ w'.tables.backupCodes, row'.id = row.id ∧ row'.used = false

/-- The row with the address of an accepted assertion, or the new row for it. -/
def Asserted (newID : Uuid) (response : String) (seen : List World) (userID : Uuid) : Prop :=
  ∃ w ∈ seen, ∃ a user, cfg.parseResponse response w.now = some a ∧
    Saml.processAssertion cfg.attributeMap a = some user ∧
    ∃ w' ∈ seen, (∃ u, w'.tables.userByEmail user.email = some u ∧ u.id = userID) ∨
      ∃ isAdmin, (w'.tables.upsertByEmail newID user.username user.email).2 = some (userID, isAdmin)

def Evidence : Request → List World → TokenClaims → Prop
  | .login req, seen, c =>
    ∃ u, PasswordChecked env req seen u ∧ c.userID = u.id ∧
      (u.mfaEnabled = true ∧ c.tokenType = "mfa" ∨ u.mfaEnabled = false ∧ c.tokenType = "")
  | .verifyMFA req, seen, c =>
    c.tokenType = "" ∧ ∃ p, Validated env req.mfaToken seen p ∧ p.tokenType = "mfa" ∧
      c.userID = p.userID ∧
      (TotpChecked env req.code seen p.userID ∨ BackupCodeSpent env req.code seen p.userID)
  | .refresh authorization, seen, c =>
    c.tokenType = "" ∧ ∃ raw p, bearer authorization = some raw ∧ Validated env raw seen p ∧
      p.tokenType ≠ "mfa" ∧ c.userID = p.userID
  | .samlACS newID response, seen, c =>
    c.tokenType = "" ∧ Asserted cfg newID response seen c.userID
  | .api _, _, _ => False

def Accepts : Request → List World → Except HandlerError Reply → Prop
  | .api authorization, seen, .ok reply =>
    ∃ c, reply = .passed c ∧
      ∃ raw, bearer authorization = some raw ∧ Validated env raw seen c ∧ c.tokenType ≠ "mfa"
  | .refresh authorization, seen, .ok _ =>
    ∃ raw c, bearer authorization = some raw ∧ Validated env raw seen c ∧ c.tokenType ≠ "mfa"
  | _, _, _ => True

variable {env cfg}
variable {seen later : List World} {code : String} {userID : Uuid}

theorem PasswordChecked.mono {req : LoginRequest} {u : User} (h : PasswordChecked env req seen u)
    (hsub : seen ⊆ later) : PasswordChecked env req later u := by
  obtain ⟨w, hw, hrow⟩ := h
  exact ⟨w, hsub hw, hrow⟩

theorem Validated.mono {raw : String} {c : TokenClaims} (h : Validated env raw seen c)
    (hsub : seen ⊆ later) : Validated env raw later c := by
  obtain ⟨w, hw, hvalid⟩ := h
  exact ⟨w, hsub hw, hvalid⟩

theorem TotpChecked.mono (h : TotpChecked env code seen userID) (hsub : seen ⊆ later) :
    TotpChecked env code later userID := by
  obtain ⟨w, hw, row, hrow, huser, w', hw', hvalid⟩ := h
  exact ⟨w, hsub hw, row, hrow, huser, w', hsub hw', hvalid⟩

theorem BackupCodeSpent.mono (h : BackupCodeSpent env code seen userID) (hsub : seen ⊆ later) :
    BackupCodeSpent env code later userID := by
  obtain ⟨w, hw, row, hrow, huser, hunused, hcheck, w', hw', hspent⟩ := h
  exact ⟨w, hsub hw, row, hrow, huser, hunused, hcheck, w', hsub hw', hspent⟩

theorem Asserted.mono {newID : Uuid} {response : String}
    (h : Asserted cfg newID response seen userID) (hsub : seen ⊆ later) :
    Asserted cfg newID response later userID := by
  obtain ⟨w, hw, a, user, hparse, hprocess, w', hw', hrow⟩ := h
  exact ⟨w, hsub hw, a, user, hparse, hprocess, w', hsub hw', hrow⟩

end Evidence

section Programs

open Prog

variable {env : AuthEnv} {cfg : Saml.Config}

def Found (env : AuthEnv) (cfg : Saml.Config) : Request → List World → TokenClaims → Prop
  | .login req => LoginFound env req
  | .refresh authorization => fun seen c =>
    c.tokenType = "" ∧ Refreshed env authorization seen c.userID
  | r => Evidence env cfg r

def Adds (env : AuthEnv) : Request → BlacklistRow → Prop
  | .refresh authorization => Revokes env authorization
  | _ => fun _ => False

/-- The token that was accepted was good, and not listed when the list was read. -/
def Checked (env : AuthEnv) : Request → List World → Except HandlerError Reply → Prop
  | .api authorization, seen, .ok reply =>
    ∃ c, reply = .passed c ∧ ∃ raw w₀ w₁, seen = [w₀, w₁] ∧ bearer authorization = some raw ∧
      validateToken env.jwt env.jwtSecret raw w₀.now = some c ∧ c.tokenType ≠ "mfa" ∧
      w₁.tables.isBlacklisted (env.hashToken raw) = false
  | .refresh authorization, seen, .ok _ => ∃ userID, Refreshed env authorization seen userID
  | _, _, _ => True

section Factors

variable {evidence : List World → TokenClaims → Prop} {adds : BlacklistRow → Prop}
  {seen : List World}

theorem keeps_tryCodes (code : String) (rows : List BackupCode) :
    Keeps (Does evidence adds)
      (fun later accepted => accepted = true → ∃ row ∈ rows,
        Passwords.checkPassword env.bcrypt row.codeHash code = true ∧
        ∃ w ∈ later, ∃ row' ∈ w.tables.backupCodes, row'.id = row.id ∧ row'.used = false)
      seen (tryCodes env code rows) := by
  induction rows generalizing seen with
  | nil => exact keeps_pure nofun
  | cons row rest ih =>
    have hrest : ∀ later, Keeps (Does evidence adds) (fun later accepted => accepted = true →
        ∃ row' ∈ row :: rest, Passwords.checkPassword env.bcrypt row'.codeHash code = true ∧
          ∃ w ∈ later, ∃ row'' ∈ w.tables.backupCodes, row''.id = row'.id ∧ row''.used = false)
        later (tryCodes env code rest) := by
      intro later
      refine keeps_mono ih ?_
      intro _ _ _ h haccepted
      obtain ⟨row', hrow', h⟩ := h haccepted
      exact ⟨row', List.mem_cons_of_mem row hrow', h⟩
    rw [tryCodes]
    split
    · rename_i hcheck
      apply keeps_bind (keeps_exec fun _ => rfl)
      intro later spent _ ⟨w, hlater, hspent⟩
      have hw : w ∈ later := hlater ▸ List.mem_append_right _ List.mem_cons_self
      split
      · rename_i htrue
        intro _
        rw [htrue] at hspent
        obtain ⟨row', hrow', hid⟩ := List.any_eq_true.mp hspent.symm
        simp only [Bool.and_eq_true, decide_eq_true_eq, Bool.not_eq_true'] at hid
        exact ⟨row, .head _, hcheck, w, hw, row', hrow', hid.1, hid.2⟩
      · exact hrest later
    · exact hrest seen

theorem keeps_codeValid (req : MFAVerifyRequest) {userID : Uuid} {row : TotpRow}
    (hrow : ∃ w ∈ seen, row ∈ w.tables.totp ∧ row.userId = userID) :
    Keeps (Does evidence adds)
      (fun later valid => valid = true →
        TotpChecked env req.code later userID ∨ BackupCodeSpent env req.code later userID)
      seen (codeValid env req userID row.secret) := by
  apply keeps_bind keeps_timeNow
  intro seen₁ now hseen₁ ⟨w', hlast, hnow⟩
  have hw' : w' ∈ seen₁ := hlast ▸ List.mem_append_right _ List.mem_cons_self
  split
  · rename_i hvalid
    intro _
    obtain ⟨w, hw, hin, huser⟩ := hrow
    exact .inl ⟨w, hseen₁.subset hw, row, hin, huser, w', hw', hnow ▸ hvalid⟩
  · split
    · apply keeps_bind (keeps_query _)
      intro seen₂ rows hseen₂ ⟨w₂, hlast₂, hrows⟩
      have hw₂ : w₂ ∈ seen₂ := hlast₂ ▸ List.mem_append_right _ List.mem_cons_self
      refine keeps_mono (keeps_tryCodes req.code rows) ?_
      intro later accepted hlater h haccepted
      obtain ⟨code, hcode, hcheck, w₃, hw₃, hspent⟩ := h haccepted
      rw [hrows] at hcode
      obtain ⟨hin, hunused⟩ := List.mem_filter.mp hcode
      obtain ⟨huser, hunused⟩ := of_decide_eq_true hunused
      exact .inr ⟨w₂, hlater.subset hw₂, code, hin, huser, hunused, hcheck, w₃, hw₃, hspent⟩
    · exact keeps_pure nofun

theorem keeps_verifyMFA (cfg : Saml.Config) (req : MFAVerifyRequest) :
    Keeps (Does (Evidence env cfg (.verifyMFA req)) adds) (fun _ _ => True) []
      (verifyMFA env req) := by
  unfold verifyMFA
  split
  · exact keeps_pure trivial
  apply keeps_bind (keeps_validate _)
  intro seen res _ ⟨w, hlast, hres⟩
  split
  · exact keeps_pure trivial
  rename_i claims
  split
  · exact keeps_pure trivial
  rename_i htype
  have hvalid : Validated env req.mfaToken seen claims :=
    ⟨w, hlast ▸ List.mem_append_right _ List.mem_cons_self, hres.symm⟩
  apply keeps_bind (keeps_query _)
  intro seen₁ totp hseen₁ ⟨w₁, hlast₁, htotp⟩
  split
  · exact keeps_pure trivial
  rename_i row
  have hrow : ∃ w ∈ seen₁, row ∈ w.tables.totp ∧ row.userId = claims.userID :=
    ⟨w₁, hlast₁ ▸ List.mem_append_right _ List.mem_cons_self,
      List.mem_of_find?_eq_some htotp.symm, by simpa using List.find?_some htotp.symm⟩
  apply keeps_bind (keeps_codeValid req hrow)
  intro seen₂ valid hseen₂ hfactor
  split
  · exact keeps_pure trivial
  rename_i hcode
  apply keeps_bind (keeps_query _)
  intro seen₃ info hseen₃ _
  split
  · exact keeps_pure trivial
  apply keeps_bind
  · apply keeps_issueSession
    intro later hlater c huser hsession
    have hsub : seen₂ ⊆ later := (hseen₃.trans hlater).subset
    have hvalid₃ := hvalid.mono (hseen₁.trans (hseen₂.trans (hseen₃.trans hlater))).subset
    refine ⟨hsession, claims, hvalid₃, not_not.mp htype, huser, ?_⟩
    rcases hfactor (by simpa using hcode) with htotp | hbackup
    · exact .inl (htotp.mono hsub)
    · exact .inr (hbackup.mono hsub)
  · exact fun _ _ _ _ => keeps_pure trivial

theorem blacklist_upsertByEmail (t : AuthTables) (id : Uuid) (username email : String) :
    (t.upsertByEmail id username email).1.blacklist = t.blacklist := by
  unfold AuthTables.upsertByEmail
  split
  · rfl
  · split
    · rfl
    · split <;> rfl

theorem keeps_upsertUser (newID : Uuid) (user : Saml.SamlUser) :
    Keeps (Does evidence adds)
      (fun later res => ∀ userID isAdmin, res = some (userID, isAdmin) → ∃ w ∈ later,
        (∃ u, w.tables.userByEmail user.email = some u ∧ u.id = userID) ∨
          ∃ isAdmin, (w.tables.upsertByEmail newID user.username user.email).2 =
            some (userID, isAdmin))
      seen (Saml.upsertUser newID user) := by
  apply keeps_bind (keeps_query _)
  intro later found _ ⟨w, hlast, hfound⟩
  split
  · rename_i u
    intro userID isAdmin hres
    cases hres
    exact ⟨w, hlast ▸ List.mem_append_right _ List.mem_cons_self, Or.inl ⟨u, hfound.symm, rfl⟩⟩
  · refine keeps_mono (keeps_exec fun t => blacklist_upsertByEmail t _ _ _) ?_
    intro later' res _ ⟨w', hlast', hres⟩ userID isAdmin hsome
    exact ⟨w', hlast' ▸ List.mem_append_right _ List.mem_cons_self,
      .inr ⟨isAdmin, hres.symm.trans hsome⟩⟩

theorem keeps_handleACS (newID : Uuid) (response : String) :
    Keeps (Does (Evidence env cfg (.samlACS newID response)) adds) (fun _ _ => True) []
      (Saml.handleACS env cfg newID response) := by
  unfold Saml.handleACS
  split
  · exact keeps_pure trivial
  split
  · exact keeps_pure trivial
  apply keeps_bind keeps_timeNow
  intro seen now _ ⟨w, hlast, hnow⟩
  have hw : w ∈ seen := hlast ▸ List.mem_append_right _ List.mem_cons_self
  split
  · exact keeps_pure trivial
  rename_i user huser
  obtain ⟨a, hparse, hprocess⟩ := Option.bind_eq_some_iff.mp huser
  apply keeps_bind (keeps_upsertUser _ _)
  intro seen₁ found hseen₁ hfound
  split
  · exact keeps_pure trivial
  rename_i userID isAdmin
  obtain ⟨w₁, hw₁, hrow⟩ := hfound userID isAdmin rfl
  have hasserted : Asserted cfg newID response seen₁ userID :=
    ⟨w, hseen₁.subset hw, a, user, hnow ▸ hparse, hprocess, w₁, hw₁, hrow⟩
  apply keeps_bind keeps_timeNow
  intro seen₂ _ hseen₂ _
  apply keeps_bind keeps_timeNow
  intro seen₃ _ hseen₃ _
  apply keeps_bind
  · apply keeps_generateToken
    intro later hlater _ _
    exact ⟨rfl, hasserted.mono (hseen₂.trans (hseen₃.trans hlater)).subset⟩
  · exact fun _ _ _ _ => keeps_pure trivial

end Factors

theorem keeps_handle (r : Request) :
    Keeps (Does (Found env cfg r) (Adds env r)) (Checked env r) [] (handle env cfg r) := by
  cases r with
  | login req => exact keeps_bind (keeps_login req) fun _ _ _ _ => keeps_pure trivial
  | verifyMFA req => exact keeps_bind (keeps_verifyMFA cfg req) fun _ _ _ _ => keeps_pure trivial
  | refresh authorization =>
    apply keeps_bind (keeps_refreshToken authorization)
    intro seen res _ hres
    cases res with
    | error e => exact keeps_pure trivial
    | ok answer => exact keeps_pure (hres answer rfl)
  | samlACS newID response =>
    exact keeps_bind (keeps_handleACS newID response) fun _ _ _ _ => keeps_pure trivial
  | api authorization =>
    apply keeps_bind (keeps_jwtMiddleware authorization)
    intro seen res _ hres
    cases res with
    | error e => exact keeps_pure trivial
    | ok claims => exact keeps_pure ⟨claims, rfl, hres claims rfl⟩

variable {seen : List World} {r : Request}

theorem validated_of_refreshed {authorization : String} {userID : Uuid}
    (h : Refreshed env authorization seen userID) : ∃ raw c, bearer authorization = some raw ∧
      Validated env raw seen c ∧ c.tokenType ≠ "mfa" ∧ userID = c.userID := by
  obtain ⟨raw, c, u, w₀, w₁, w₂, later, rfl, hfound, huser⟩ := h
  exact ⟨raw, c, (Option.filter_eq_some_iff.mp hfound.bearer).1,
    ⟨w₀, .head _, hfound.valid⟩, hfound.session, huser⟩

theorem Found.evidence {c : TokenClaims} (h : Found env cfg r seen c) :
    Evidence env cfg r seen c := by
  cases r with
  | login req =>
    obtain ⟨w, later, u, passwordHash, rfl, hrow, _, hcheck, huser, hkind⟩ := h
    exact ⟨u, ⟨w, .head _, passwordHash, hrow, hcheck⟩, huser, hkind⟩
  | refresh authorization =>
    obtain ⟨raw, p, hbearer, hvalid, hmfa, huser⟩ := validated_of_refreshed h.2
    exact ⟨h.1, raw, p, hbearer, hvalid, hmfa, huser⟩
  | _ => exact h

theorem Checked.accepts {answer : Except HandlerError Reply} (h : Checked env r seen answer) :
    Accepts env r seen answer := by
  cases answer with
  | error e => cases r <;> trivial
  | ok reply =>
    cases r with
    | api authorization =>
      obtain ⟨c, rfl, raw, w₀, w₁, rfl, hbearer, hvalid, hmfa, _⟩ := h
      exact ⟨c, rfl, raw, hbearer, ⟨w₀, .head _, hvalid⟩, hmfa⟩
    | refresh authorization =>
      obtain ⟨userID, hrefreshed⟩ := h
      obtain ⟨raw, c, hbearer, hvalid, hmfa, _⟩ := validated_of_refreshed hrefreshed
      exact ⟨raw, c, hbearer, hvalid, hmfa⟩
    | _ => trivial

theorem keeps_evidence (r : Request) :
    Keeps (Signs (Evidence env cfg r)) (Accepts env r) [] (handle env cfg r) := by
  refine keeps_imp (keeps_mono (keeps_handle r) fun _ _ _ h => h.accepts) ?_
  intro seen w w' hdoes
  rcases hdoes.signs with hsame | ⟨c, hfound, hsigned⟩
  · exact .inl hsame
  · exact .inr ⟨c, hfound.evidence, hsigned⟩

end Programs

section Provenance

variable (env : AuthEnv) (cfg : Saml.Config)

structure Pending (past : List Happening) (c : TokenClaims) : Prop where
  mfa : c.tokenType = "mfa"
  login : ∃ n req u, .start n (.login req) ∈ past ∧ PasswordChecked env req (seen n past) u ∧
    u.mfaEnabled = true ∧ c.userID = u.id

inductive Session (past : List Happening) : TokenClaims → Prop where
  | login {n : Nat} {req : LoginRequest} {u : User} {c : TokenClaims} :
      .start n (.login req) ∈ past → PasswordChecked env req (seen n past) u →
      u.mfaEnabled = false → c.userID = u.id → Session past c
  | verifyMFA {n : Nat} {req : MFAVerifyRequest} {p c : TokenClaims} :
      .start n (.verifyMFA req) ∈ past → Pending env past p →
      Validated env req.mfaToken (seen n past) p →
      TotpChecked env req.code (seen n past) p.userID ∨
        BackupCodeSpent env req.code (seen n past) p.userID →
      c.userID = p.userID → Session past c
  | refresh {n : Nat} {authorization raw : String} {p c : TokenClaims} :
      .start n (.refresh authorization) ∈ past → bearer authorization = some raw →
      Validated env raw (seen n past) p → Session past p → c.userID = p.userID → Session past c
  | samlACS {n : Nat} {newID : Uuid} {response : String} {c : TokenClaims} :
      .start n (.samlACS newID response) ∈ past →
      Asserted cfg newID response (seen n past) c.userID → Session past c

def Origin (past : List Happening) (c : TokenClaims) : Prop :=
  Pending env past c ∨ c.tokenType ≠ "mfa" ∧ Session env cfg past c

end Provenance

section Invariant

variable {env : AuthEnv} {cfg : Saml.Config} {past later : List Happening} {c : TokenClaims}

theorem seen_subset (h : past ⊆ later) (n : Nat) : seen n past ⊆ seen n later := by
  intro w hw
  exact mem_seen.mpr (h (mem_seen.mp hw))

theorem Pending.mono (h : Pending env past c) (hsub : past ⊆ later) : Pending env later c := by
  obtain ⟨hmfa, n, req, u, hstart, hchecked, hrest⟩ := h
  exact ⟨hmfa, n, req, u, hsub hstart, hchecked.mono (seen_subset hsub n), hrest⟩

theorem Session.mono (h : Session env cfg past c) (hsub : past ⊆ later) :
    Session env cfg later c := by
  induction h with
  | login hstart hchecked hmfa huser =>
    exact .login (hsub hstart) (hchecked.mono (seen_subset hsub _)) hmfa huser
  | verifyMFA hstart hpending hvalid hfactor huser =>
    refine .verifyMFA (hsub hstart) (hpending.mono hsub) (hvalid.mono (seen_subset hsub _)) ?_ huser
    rcases hfactor with htotp | hbackup
    · exact .inl (htotp.mono (seen_subset hsub _))
    · exact .inr (hbackup.mono (seen_subset hsub _))
  | refresh hstart hbearer hvalid _ huser ih =>
    exact .refresh (hsub hstart) hbearer (hvalid.mono (seen_subset hsub _)) ih huser
  | samlACS hstart hasserted =>
    exact .samlACS (hsub hstart) (hasserted.mono (seen_subset hsub _))

theorem Origin.mono (h : Origin env cfg past c) (hsub : past ⊆ later) : Origin env cfg later c := by
  rcases h with hpending | ⟨htype, hsession⟩
  · exact .inl (hpending.mono hsub)
  · exact .inr ⟨htype, hsession.mono hsub⟩

structure Inv (env : AuthEnv) (cfg : Saml.Config) (past : List Happening) (p : Server) : Prop where
  threads : ∀ n, Accounted (fun r => Signs (Evidence env cfg r)) (Accepts env) past n (p.threads n)
  signed : ∀ c ∈ p.shared.signed, Origin env cfg past c
  presented : ∀ n r, .start n r ∈ past → ∀ raw ∈ r.tokens, ∀ c,
    env.jwt.verify env.jwtSecret raw = some c → Origin env cfg past c

theorem Validated.verify {raw : String} {seen : List World} (h : Validated env raw seen c) :
    env.jwt.verify env.jwtSecret raw = some c := by
  obtain ⟨w, _, hvalid⟩ := h
  exact (validateToken_eq_some.mp hvalid).1

theorem origin_of_evidence {p : Server} {n : Nat} {r : Request} (h : Inv env cfg past p)
    (hstart : .start n r ∈ past) (he : Evidence env cfg r (seen n past) c) :
    Origin env cfg past c := by
  cases r with
  | login req =>
    obtain ⟨u, hchecked, huser, hkind⟩ := he
    rcases hkind with ⟨hmfa, htype⟩ | ⟨hmfa, htype⟩
    · exact .inl ⟨htype, n, req, u, hstart, hchecked, hmfa, huser⟩
    · exact .inr ⟨by rw [htype]; decide, .login hstart hchecked hmfa huser⟩
  | verifyMFA req =>
    obtain ⟨htype, q, hvalid, hmfa, huser, hfactor⟩ := he
    refine .inr ⟨by rw [htype]; decide, ?_⟩
    rcases h.presented n _ hstart req.mfaToken (by simp [Request.tokens]) q hvalid.verify with
      hpending | ⟨hother, _⟩
    · exact .verifyMFA hstart hpending hvalid hfactor huser
    · exact absurd hmfa hother
  | refresh authorization =>
    obtain ⟨htype, raw, q, hbearer, hvalid, hmfa, huser⟩ := he
    refine .inr ⟨by rw [htype]; decide, ?_⟩
    rcases h.presented n _ hstart raw (by simp [Request.tokens, hbearer]) q hvalid.verify with
      hpending | ⟨_, hsession⟩
    · exact absurd hpending.mfa hmfa
    · exact .refresh hstart hbearer hvalid hsession huser
  | samlACS newID response =>
    obtain ⟨htype, hasserted⟩ := he
    exact .inr ⟨by rw [htype]; decide, .samlACS hstart hasserted⟩
  | api authorization => exact he.elim

theorem inv_step {p q : Server} {e : Happening} (hstep : Step (handle env cfg) Other p e q)
    (hforge : NoForgery env p e) (h : Inv env cfg past p) : Inv env cfg (past ++ [e]) q where
  threads := accounted_step keeps_evidence hstep h.threads
  signed := by
    have hsub : past ⊆ past ++ [e] := List.subset_append_left past [e]
    have hold : ∀ c ∈ p.shared.signed, Origin env cfg (past ++ [e]) c :=
      fun c hc => (h.signed c hc).mono hsub
    rcases shared_step hstep h.threads with hsame | hother | ⟨n, r, hstart, hsigns⟩
    · rw [hsame]
      exact hold
    · rw [hother.1]
      exact hold
    · rcases hsigns with hsame | ⟨c, he, hnew⟩
      · rw [hsame]
        exact hold
      · rw [hnew]
        intro c' hc'
        rcases List.mem_cons.mp hc' with rfl | hc'
        · exact (origin_of_evidence h hstart he).mono hsub
        · exact hold c' hc'
  presented := by
    have hsub : past ⊆ past ++ [e] := List.subset_append_left past [e]
    intro n r hstart raw hraw c hverify
    rcases List.mem_append.mp hstart with hstart | hstart
    · exact (h.presented n r hstart raw hraw c hverify).mono hsub
    · obtain rfl := List.mem_singleton.mp hstart
      exact (h.signed c ((hforge raw hraw).mem hverify)).mono hsub

end Invariant

instance encodableString : Encodable String :=
  Encodable.ofLeftInverse (fun text => text.toList.map Char.toNat)
    (fun codes => String.ofList (codes.map Char.ofNat)) (by
      intro text
      simp [comp_def])

def unary (n : Nat) : String := String.ofList (List.replicate n 'x')

theorem length_unary (n : Nat) : (unary n).length = n := by simp [unary]

def claimsCode (c : TokenClaims) : Nat :=
  Encodable.encode (c.userID, c.username, c.email, c.isAdmin, c.roles, c.tokenType, c.expiresAt,
    c.notBefore, c.issuedAt)

def claimsOfCode (n : Nat) : Option TokenClaims :=
  (Encodable.decode (α := String × String × String × Bool × List String × String × Option Nat ×
    Option Nat × Option Nat) n).map fun (userID, username, email, isAdmin, roles, tokenType,
      expiresAt, notBefore, issuedAt) =>
    ⟨userID, username, email, isAdmin, roles, tokenType, expiresAt, notBefore, issuedAt⟩

def sampleJwt : Jwt where
  encode c := unary (claimsCode c)
  decode text := (claimsOfCode text.length).map fun c => (.hmac .sha256, c)
  mac _ secret text := (secret ++ text).toUTF8.data.toList
  join text signature := unary (Encodable.encode (text, signature.map UInt8.toNat))
  split raw := (Encodable.decode (α := String × List Nat) raw.length).map fun (text, signature) =>
    (text, signature.map UInt8.ofNat)
  decode_encode := by
    intro c
    simp [length_unary, claimsCode, claimsOfCode]
  split_join := by
    intro text signature
    simp [length_unary, comp_def]

theorem sign_ne_empty (c : TokenClaims) : sampleJwt.sign "secret" c ≠ "" := by
  intro h
  have hlength : (sampleJwt.sign "secret" c).length = 0 := by
    rw [h]
    rfl
  unfold Jwt.sign sampleJwt at hlength
  dsimp only at hlength
  rw [length_unary, Encodable.encode_prod_val] at hlength
  cases hbytes : ("secret" ++ unary (claimsCode c)).toUTF8.data.toList with
  | nil =>
    have hsize := congrArg List.length hbytes
    simp at hsize
  | cons byte rest =>
    have hle := Nat.right_le_pair (Encodable.encode (unary (claimsCode c)))
      (Encodable.encode ((byte :: rest).map UInt8.toNat))
    rw [hbytes] at hlength
    rw [hlength] at hle
    simp at hle

def sampleEnv : AuthEnv where
  jwt := sampleJwt
  jwtSecret := "secret"
  bcrypt := ⟨fun _ password => password, fun hash password => hash == password⟩
  totpValidate := fun _ _ _ => false
  hashToken := fun raw => raw
  durationText := fun _ => ""

def noSaml : Saml.Config := ⟨false, {}, fun _ _ => none, "", fun text => text⟩

def carol : User := ⟨"c", true, false, false, "carol", "carol@example.com"⟩

def carolTables : AuthTables where
  db :=
    { Database.empty with
      users := [carol]
      user_id_unique := by decide
      device_owner := by simp [Database.empty] }
  columns := fun _ => ⟨some "open sesame", false, 0, none⟩
  totp := []
  backupCodes := []
  blacklist := []

def carolLogin : LoginRequest := ⟨"carol", "open sesame"⟩

def carolClaims : TokenClaims :=
  { userID := "c", username := "carol", email := "carol@example.com", isAdmin := false,
    expiresAt := some 86400, issuedAt := some 0 }

def carolHeader : String := "Bearer " ++ sampleJwt.sign "secret" carolClaims

def sampleServer : Server := ⟨⟨carolTables, 0, []⟩, fun _ => .unused⟩

end Outpost.SessionProvenance
