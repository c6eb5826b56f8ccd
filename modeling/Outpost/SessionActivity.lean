import Outpost.SessionProvenance

/-!
# Sessions of inactive users

A login and a refresh read `is_active` before they sign; `verifyMFA` and the SAML
assertion consumer never look at it.
-/

namespace Outpost

open Interleaving AuthHandler Runs

theorem User.set_active (id : Uuid) (active : Bool) (u : User) :
    u.set id { isActive := some active } =
      { u with isActive := if u.id = id then active else u.isActive } := by
  unfold User.set
  split <;> rfl

namespace World

variable (w : World) (id : Uuid) (active : Bool)

def setActive : World :=
  { w with tables := { w.tables with db := w.tables.db.updateUser id { isActive := some active } } }

def Active : Prop := ∃ u ∈ w.tables.db.users, u.id = id ∧ u.isActive = true

def VaryActive (w w' : World) : Prop := ∃ active, w' = w.setActive id active

variable {id active}

theorem find_setActive {test : User → Bool}
    (h : ∀ u : User, test (u.set id { isActive := some active }) = test u) :
    (w.setActive id active).tables.db.users.find? test =
      (w.tables.db.users.find? test).map (User.set id { isActive := some active }) := by
  show (w.tables.db.users.map _).find? test = _
  rw [List.find?_map]
  congr 2
  funext u
  exact h u

theorem userByEmail_setActive (email : String) :
    (w.setActive id active).tables.userByEmail email =
      (w.tables.userByEmail email).map (User.set id { isActive := some active }) :=
  w.find_setActive fun u => by rw [User.set_active]

theorem userByID_setActive (userID : Uuid) :
    (w.setActive id active).tables.db.userByID userID =
      (w.tables.db.userByID userID).map (User.set id { isActive := some active }) :=
  w.find_setActive fun u => by rw [User.set_active]

theorem upsertByEmail_setActive (newID : Uuid) (username email : String) :
    ((w.setActive id active).tables.upsertByEmail newID username email).2 =
      (w.tables.upsertByEmail newID username email).2 := by
  have hhas : (w.setActive id active).tables.db.HasUser newID ↔ w.tables.db.HasUser newID := by
    simp [setActive, Database.HasUser, Database.updateUser]
  have htaken : (w.setActive id active).tables.db.UsernameTaken newID username ↔
      w.tables.db.UsernameTaken newID username := by
    simp [setActive, Database.UsernameTaken, Database.updateUser, User.set_active]
  unfold AuthTables.upsertByEmail
  rw [userByEmail_setActive]
  cases w.tables.userByEmail email with
  | some u => simp only [Option.map_some, User.set_active]
  | none =>
    simp only [Option.map_none, hhas, htaken]
    split
    · rfl
    · split <;> rfl

end World

namespace SessionActivity

open SessionProvenance Prog World

variable {env : AuthEnv} {cfg : Saml.Config} {id : Uuid}

theorem ignores_timeNow : timeNow.Ignores (VaryActive id) := by
  apply ignores_read
  rintro w _ ⟨active, rfl⟩
  rfl

theorem ignores_exec (f : AuthTables → AuthTables × Unit) : (exec f).Ignores (VaryActive id) :=
  ignores_modify fun _ _ _ => rfl

theorem ignores_timeOr (given : Option Nat) (f : Time → Nat) :
    (timeOr given f).Ignores (VaryActive id) := by
  cases given with
  | some t => exact ignores_pure t
  | none => exact ignores_bind ignores_timeNow fun _ => ignores_pure _

theorem ignores_generateToken (claims : TokenClaims) :
    (generateToken env claims).Ignores (VaryActive id) := by
  apply ignores_bind (ignores_timeOr _ _)
  intro _
  apply ignores_bind (ignores_timeOr _ _)
  intro _
  apply ignores_bind (ignores_modify fun _ _ _ => rfl)
  exact fun _ => ignores_pure _

theorem ignores_validate (raw : String) : (validate env raw).Ignores (VaryActive id) :=
  ignores_bind ignores_timeNow fun _ => ignores_pure _

theorem ignores_issueSession (userID : Uuid) (username email : String)
    (isAdmin passwordMustChange : Bool) :
    (issueSession env userID username email isAdmin passwordMustChange).Ignores
      (VaryActive id) := by
  apply ignores_bind ignores_timeNow
  intro _
  exact ignores_bind (ignores_generateToken _) fun _ => ignores_pure _

theorem ignores_issueMFAToken (u : User) : (issueMFAToken env u).Ignores (VaryActive id) := by
  apply ignores_bind ignores_timeNow
  intro _
  exact ignores_bind (ignores_generateToken _) fun _ => ignores_pure _

theorem ignores_lockRemaining (lockedUntil : Option Time) :
    (lockRemaining lockedUntil).Ignores (VaryActive id) := by
  cases lockedUntil with
  | none => exact ignores_pure _
  | some t =>
    apply ignores_bind ignores_timeNow
    intro _
    split
    · exact ignores_bind ignores_timeNow fun _ => ignores_pure _
    · exact ignores_pure _

theorem ignores_countFailure (userID : Uuid) (failedAttempts : Int) :
    (countFailure userID failedAttempts).Ignores (VaryActive id) := by
  simp only [countFailure]
  split
  · exact ignores_bind ignores_timeNow fun _ => ignores_exec _
  · exact ignores_exec _

theorem ignores_resetFailures (userID : Uuid) (row : LoginColumns) :
    (resetFailures userID row).Ignores (VaryActive id) := by
  unfold resetFailures
  split
  · exact ignores_exec _
  · exact ignores_pure _

theorem ignores_blacklist (raw : String) (expiresAt : Option Nat) :
    (blacklist env raw expiresAt).Ignores (VaryActive id) := by
  cases expiresAt with
  | none => exact ignores_pure _
  | some e => exact ignores_exec fun t => (t.addBlacklist _, ())

theorem ignores_tryCodes (code : String) (rows : List BackupCode) :
    (tryCodes env code rows).Ignores (VaryActive id) := by
  induction rows with
  | nil => exact ignores_pure _
  | cons row rest ih =>
    rw [tryCodes]
    split
    · apply ignores_bind
      · apply ignores_modify
        rintro w _ ⟨active, rfl⟩
        rfl
      · intro spent
        split
        · exact ignores_pure _
        · exact ih
    · exact ih

theorem ignores_codeValid (req : MFAVerifyRequest) (userID : Uuid) (totpSecret : String) :
    (codeValid env req userID totpSecret).Ignores (VaryActive id) := by
  apply ignores_bind ignores_timeNow
  intro _
  split
  · exact ignores_pure _
  split
  · refine ignores_bind (ignores_read ?_) fun rows => ignores_tryCodes _ rows
    rintro w _ ⟨active, rfl⟩
    rfl
  · exact ignores_pure _

theorem ignores_verifyMFA (req : MFAVerifyRequest) :
    (verifyMFA env req).Ignores (VaryActive id) := by
  unfold verifyMFA
  split
  · exact ignores_pure _
  apply ignores_bind (ignores_validate _)
  intro valid
  split
  · exact ignores_pure _
  split
  · exact ignores_pure _
  apply ignores_bind
  · apply ignores_read
    rintro w _ ⟨active, rfl⟩
    rfl
  intro totp
  split
  · exact ignores_pure _
  apply ignores_bind (ignores_codeValid _ _ _)
  intro valid
  split
  · exact ignores_pure _
  apply ignores_bind
  · apply ignores_read
    rintro w _ ⟨active, rfl⟩
    dsimp only
    rw [userByID_setActive, Option.map_map]
    congr 1
    funext u
    simp only [Function.comp_apply, User.set_active]
    rfl
  intro info
  split
  · exact ignores_pure _
  exact ignores_bind (ignores_issueSession _ _ _ _ _) fun _ => ignores_pure _

theorem ignores_upsertUser (newID : Uuid) (user : Saml.SamlUser) :
    (Saml.upsertUser newID user).Ignores (VaryActive id) := by
  apply ignores_read_bind
  · rintro w _ ⟨active, rfl⟩
    dsimp only
    rw [userByEmail_setActive]
    cases w.tables.userByEmail user.email with
    | none => rfl
    | some u => simp [User.set_active]
  · intro w
    split
    · exact ignores_pure _
    · apply ignores_modify
      rintro w _ ⟨active, rfl⟩
      exact (upsertByEmail_setActive w newID user.username user.email).symm

theorem ignores_handleACS (newID : Uuid) (response : String) :
    (Saml.handleACS env cfg newID response).Ignores (VaryActive id) := by
  unfold Saml.handleACS
  split
  · exact ignores_pure _
  split
  · exact ignores_pure _
  apply ignores_bind ignores_timeNow
  intro now
  split
  · exact ignores_pure _
  apply ignores_bind (ignores_upsertUser _ _)
  intro found
  split
  · exact ignores_pure _
  apply ignores_bind ignores_timeNow
  intro _
  apply ignores_bind ignores_timeNow
  intro _
  exact ignores_bind (ignores_generateToken _) fun _ => ignores_pure _

variable {α : Type} {req : LoginRequest} {w : World} {passwordHash : String} {found : List World}
  {c : TokenClaims} {acting : Prog World (Except HandlerError Reply)} {r : Request}

theorem after_query_bind {β : Type} (f : AuthTables → β) (g : β → Prog World α) (w : World)
    (found : List World) : (query f >>= g).after (w :: found) = (g (f w.tables)).after found := rfl

theorem after_validate_bind (raw : String) (g : Option TokenClaims → Prog World α) (w : World)
    (found : List World) : (validate env raw >>= g).after (w :: found) =
      (g (validateToken env.jwt env.jwtSecret raw w.now)).after found := rfl

theorem ignores_login_after {rest : Prog World (Except HandlerError LoginResponse)}
    (h : (login env req).after [w] = some rest) : rest.Ignores (VaryActive id) := by
  unfold login at h
  split at h
  · cases h
  rw [after_query_bind, after_nil, Option.some.injEq] at h
  subst h
  split
  · exact ignores_pure _
  split
  · exact ignores_pure _
  apply ignores_bind (ignores_lockRemaining _)
  intro remaining
  split
  · exact ignores_pure _
  split
  · exact ignores_bind (ignores_countFailure _ _) fun _ => ignores_pure _
  apply ignores_bind (ignores_resetFailures _ _)
  intro _
  split
  · exact ignores_bind (ignores_issueMFAToken _) fun _ => ignores_pure _
  · exact ignores_bind (ignores_issueSession _ _ _ _ _) fun _ => ignores_pure _

theorem login_after_inactive {u : User} (hgiven : ¬ (req.username = "" ∨ req.password = ""))
    (hrow : w.tables.loginRow req.username = some (u, passwordHash)) (h : u.isActive = false) :
    (login env req).after [w] = some (ret (.error ⟨403, "account is disabled"⟩)) := by
  unfold login
  rw [if_neg hgiven, after_query_bind, hrow]
  simp only [Option.map_some, h]
  rfl

theorem loginRow_setActive {username : String} {u : User} (active : Bool)
    (h : w.tables.loginRow username = some (u, passwordHash)) :
    (w.setActive id active).tables.loginRow username =
      some (u.set id { isActive := some active }, passwordHash) := by
  obtain ⟨v, hv, hrest⟩ := Option.bind_eq_some_iff.mp h
  obtain ⟨found, hfound, heq⟩ := Option.bind_eq_some_iff.mp hrest
  cases heq
  unfold AuthTables.loginRow
  rw [w.find_setActive fun u => by rw [User.set_active], hv]
  show ((w.tables.columns (u.set id _).id).passwordHash.bind fun passwordHash => _) = _
  rw [User.set_id, hfound]
  rfl

theorem lastRead_login (hfound : LoginFound env req found c)
    (hafter : (handle env cfg (.login req)).after found = some acting)
    (hgoes : ∀ value, acting ≠ ret value) :
    ∃ w, (handle env cfg (.login req)).LastRead (VaryActive c.userID) found w ∧
      w.Active c.userID := by
  obtain ⟨w, later, u, passwordHash, rfl, hrow, hactive, _, huser, _⟩ := hfound
  rw [huser]
  have hgiven : ¬ (req.username = "" ∨ req.password = "") := by
    intro hempty
    have hlogin : login env req = ret (.error ⟨400, "username and password are required"⟩) := by
      unfold login
      rw [if_pos hempty]
      rfl
    rw [handle, hlogin] at hafter
    cases hafter
  refine ⟨w, ?_, u, ?_, rfl, hactive⟩
  · have hstops : (login env req).after [w.setActive u.id false] = _ :=
      login_after_inactive hgiven (loginRow_setActive false hrow)
        (by rw [User.set_active, if_pos rfl])
    obtain ⟨rest, hrest⟩ : ∃ rest, (login env req).after [w] = some rest := by
      unfold login
      rw [if_neg hgiven, after_query_bind, after_nil]
      exact ⟨_, rfl⟩
    exact lastRead_of_ends [] ⟨false, rfl⟩ (after_bind hstops _) (after_bind hrest _)
      (ignores_bind (ignores_login_after hrest) fun _ => ignores_pure _) hafter hgoes
  · obtain ⟨v, hv, hrest⟩ := Option.bind_eq_some_iff.mp hrow
    obtain ⟨_, _, heq⟩ := Option.bind_eq_some_iff.mp hrest
    cases heq
    exact List.mem_of_find?_eq_some hv

section Refresh

variable {authorization raw : String} {claims : TokenClaims} {u : User} {w₀ w₁ w₂ : World}

theorem refreshToken_after (h : RefreshFound env authorization raw claims u w₀ w₁ w₂) (w : World) :
    (refreshToken env authorization).after [w₀, w₁, w] =
      some (match w.tables.db.userByID claims.userID with
        | none => return .error ⟨500, "failed to verify account status"⟩
        | some u =>
          if u.isActive = false then return .error ⟨403, "account is disabled"⟩
          else do
            let res ← issueSession env claims.userID claims.username claims.email u.isAdmin false
            blacklist env raw claims.expiresAt
            return .ok res) := by
  unfold refreshToken
  rw [h.bearer]
  rw [after_validate_bind, h.valid]
  rw [after_query_bind, h.unlisted]
  simp only [Bool.false_eq_true, if_false, h.session]
  exact after_nil _

theorem lastRead_refresh {later : List World} {acting : Prog World (Except HandlerError Reply)}
    (h : RefreshFound env authorization raw claims u w₀ w₁ w₂)
    (hafter : (handle env cfg (.refresh authorization)).after (w₀ :: w₁ :: w₂ :: later) =
      some acting) (hgoes : ∀ value, acting ≠ ret value) :
    (handle env cfg (.refresh authorization)).LastRead (VaryActive claims.userID)
      (w₀ :: w₁ :: w₂ :: later) w₂ := by
  have hrest := refreshToken_after h w₂
  have hstops := refreshToken_after h (w₂.setActive claims.userID false)
  rw [userByID_setActive, h.row, Option.map_some] at hstops
  have huser : u.id = claims.userID := (Database.userByID_eq_some _ h.row).2
  simp only [User.set_active, huser] at hstops
  refine lastRead_of_ends [w₀, w₁] ⟨false, rfl⟩ (after_bind hstops _)
    (after_bind hrest _) (ignores_bind ?_ fun _ => ignores_pure _) hafter hgoes
  rw [h.row]
  dsimp only
  split
  · exact ignores_pure _
  apply ignores_bind (ignores_issueSession _ _ _ _ _)
  intro _
  exact ignores_bind (ignores_blacklist _ _) fun _ => ignores_pure _

end Refresh

def ReadActive (env : AuthEnv) (cfg : Saml.Config) (r : Request) (found : List World)
    (userID : Uuid) : Prop :=
  ∃ w, (handle env cfg r).LastRead (VaryActive userID) found w ∧ w.Active userID

theorem not_readActive_of_ignores {userID : Uuid}
    (h : (handle env cfg r).Ignores (VaryActive userID)) : ¬ ReadActive env cfg r found userID := by
  intro ⟨w, hlast, _⟩
  exact h.not_lastRead found w hlast

theorem not_readActive_verifyMFA (req : MFAVerifyRequest) (found : List World) (userID : Uuid) :
    ¬ ReadActive env cfg (.verifyMFA req) found userID :=
  not_readActive_of_ignores (ignores_bind (ignores_verifyMFA req) fun _ => ignores_pure _)

theorem not_readActive_samlACS (newID : Uuid) (response : String) (found : List World)
    (userID : Uuid) : ¬ ReadActive env cfg (.samlACS newID response) found userID :=
  not_readActive_of_ignores
    (ignores_bind (ignores_handleACS newID response) fun _ => ignores_pure _)

theorem readActive_iff (hfound : Found env cfg r found c)
    (hafter : (handle env cfg r).after found = some acting) (hgoes : ∀ value, acting ≠ ret value) :
    ReadActive env cfg r found c.userID ↔
      (∃ req, r = .login req) ∨ ∃ authorization, r = .refresh authorization := by
  cases r with
  | login req => exact iff_of_true (lastRead_login hfound hafter hgoes) (.inl ⟨req, rfl⟩)
  | refresh authorization =>
    refine iff_of_true ?_ (.inr ⟨authorization, rfl⟩)
    obtain ⟨_, raw, claims, u, w₀, w₁, w₂, later, rfl, hrefresh, huser⟩ := hfound
    rw [huser]
    obtain ⟨hmem, hid⟩ := Database.userByID_eq_some _ hrefresh.row
    exact ⟨w₂, lastRead_refresh hrefresh hafter hgoes, u, hmem, hid, hrefresh.active⟩
  | verifyMFA req => exact iff_of_false (not_readActive_verifyMFA req _ _) (by simp)
  | samlACS newID response =>
    exact iff_of_false (not_readActive_samlACS newID response _ _) (by simp)
  | api authorization => exact hfound.elim

/-- Of the actions that sign, those of logins and refreshes go back to a reading that found the flag
set, and no others do. -/
theorem session_reads_active_iff (env : AuthEnv) (cfg : Saml.Config) {p q s : Server}
    {past : List Happening} {n : Nat} {c : TokenClaims} (hunused : ∀ n, p.threads n = .unused)
    (hrun : Run (Step (handle env cfg) Other) p past q)
    (hstep : Step (handle env cfg) Other q (.act n q.shared) s)
    (hsigned : s.shared.signed = c :: q.shared.signed) :
    ∃ r, .start n r ∈ past ∧ (ReadActive env cfg r (seen n past) c.userID ↔
      (∃ req, r = .login req) ∨ ∃ authorization, r = .refresh authorization) := by
  have hfollows := follows_run hunused hrun n
  have hacc := accounted_run keeps_handle hunused hrun n
  cases hstep with
  | @act _ r update next hrunning =>
    rw [hrunning] at hfollows hacc
    obtain ⟨hdoes, _⟩ := hacc.2 q.shared
    rcases hdoes.signs with hsame | ⟨c', hfound, hnew⟩
    · have hlength := congrArg List.length (hsigned.symm.trans hsame)
      simp at hlength
    · obtain rfl : c = c' := (List.cons.inj (hsigned.symm.trans hnew)).1
      exact ⟨r, hfollows.1, readActive_iff hfound hfollows.2 nofun⟩

/-- The first four actions of a login, and the one that signs. -/
theorem carol_session_reads_active :
    ∃ past q s c, Run (Step (handle sampleEnv noSaml) Other) sampleServer past q ∧
      Step (handle sampleEnv noSaml) Other q (.act 0 q.shared) s ∧
      s.shared.signed = c :: q.shared.signed ∧ ∃ r, .start 0 r ∈ past ∧
        (ReadActive sampleEnv noSaml r (seen 0 past) c.userID ↔
          (∃ req, r = .login req) ∨ ∃ authorization, r = .refresh authorization) := by
  have hrun : Run (Step (handle sampleEnv noSaml) Other) sampleServer _ _ :=
    Pool.run_play_step [.start 0 (.login carolLogin), .act 0 4] sampleServer
      ⟨trivial, trivial, trivial⟩
  exact ⟨_, _, _, carolClaims, hrun, .act rfl, rfl,
    session_reads_active_iff sampleEnv noSaml (fun _ => rfl) hrun (.act rfl) rfl⟩

def dave : User := ⟨"d", true, false, true, "dave", "dave@example.com"⟩

def daveEnv : AuthEnv := { sampleEnv with totpValidate := fun code _ _ => code == "123456" }

def daveTables : AuthTables where
  db :=
    { Database.empty with
      users := [dave]
      user_id_unique := by decide
      device_owner := by simp [Database.empty] }
  columns := fun _ => ⟨some "open sesame", false, 0, none⟩
  totp := [⟨"d", "JBSWY3DP"⟩]
  backupCodes := []
  blacklist := []

def daveServer : Server := ⟨⟨daveTables, 0, []⟩, fun _ => .unused⟩

def davePending : TokenClaims :=
  { userID := "d", username := "dave", email := "dave@example.com", isAdmin := false,
    tokenType := "mfa", expiresAt := some 600, issuedAt := some 0 }

def daveVerify : MFAVerifyRequest := ⟨sampleJwt.sign "secret" davePending, "123456", "totp"⟩

def daveClaims : TokenClaims :=
  { userID := "d", username := "dave", email := "dave@example.com", isAdmin := false,
    expiresAt := some 86400, issuedAt := some 0 }

def daveInactive : World := World.setActive ⟨daveTables, 0, [davePending]⟩ "d" false

theorem dave_valid : validateToken daveEnv.jwt daveEnv.jwtSecret daveVerify.mfaToken
    daveInactive.now = some davePending := by
  have hverify : sampleJwt.verify "secret" (sampleJwt.sign "secret" davePending) =
      some davePending := verify_sign
  exact validateToken_eq_some.mpr ⟨hverify, by decide⟩

theorem dave_advance : ∃ next, (verifyMFA daveEnv daveVerify).advance 7 daveInactive =
    (.act (fun w => { w with signed := daveClaims :: w.signed }) next, daveInactive) := by
  have hgiven : ¬ (daveVerify.mfaToken = "" ∨ daveVerify.code = "") := by
    rintro (htoken | hcode)
    · exact sign_ne_empty davePending htoken
    · exact absurd hcode (by decide)
  unfold verifyMFA
  rw [if_neg hgiven, advance_validate_bind, dave_valid]
  exact ⟨_, rfl⟩

/-- The account is deactivated between the two steps of a login, and the second signs all the same.
-/
theorem inactive_user_gets_session :
    ∃ first mid past q s, Run (Step (handle daveEnv noSaml) Other) daveServer first mid ∧
      mid.threads 1 = .unused ∧ ¬ mid.shared.Active "d" ∧
      Run (Step (handle daveEnv noSaml) Other) mid past q ∧
      .start 1 (.verifyMFA daveVerify) ∈ past ∧ ¬ q.shared.Active "d" ∧
      Step (handle daveEnv noSaml) Other q (.act 1 q.shared) s ∧
      s.shared.signed = daveClaims :: q.shared.signed ∧ daveClaims.tokenType ≠ "mfa" ∧
      daveClaims.userID = "d" ∧
      ¬ ReadActive daveEnv noSaml (.verifyMFA daveVerify) (seen 1 (first ++ past)) "d" := by
  have hinactive : ¬ daveInactive.Active "d" := by
    rintro ⟨u, hu, _, hactive⟩
    obtain rfl := List.mem_singleton.mp hu
    exact absurd hactive (by decide)
  obtain ⟨first, mid, hfirst, hunused, hmid⟩ : ∃ first mid,
      Run (Step (handle daveEnv noSaml) Other) daveServer first mid ∧
      mid.threads 1 = .unused ∧ mid.shared = daveInactive :=
    ⟨_, _, Pool.run_play_step
      [.start 0 (.login ⟨"dave", "open sesame"⟩), .finish 0, .other daveInactive] daveServer
      ⟨trivial, trivial, ⟨⟨rfl, le_rfl⟩, trivial⟩, trivial⟩, rfl, rfl⟩
  obtain ⟨next, hadvance⟩ := dave_advance
  have hacts := advance_bind hadvance fun res => pure (res.map Reply.session)
  obtain ⟨past, q, hpast, hstart, hshared, rest, hq⟩ : ∃ past q,
      Run (Step (handle daveEnv noSaml) Other) mid past q ∧
      .start 1 (.verifyMFA daveVerify) ∈ past ∧ q.shared = daveInactive ∧
      ∃ next, q.threads 1 = .running (.verifyMFA daveVerify)
        (.act (fun w => { w with signed := daveClaims :: w.signed }) next) := by
    have hrun : Run (Step (handle daveEnv noSaml) Other) mid _ _ :=
      Pool.run_play_step [.start 1 (.verifyMFA daveVerify), .act 1 7] mid
        ⟨trivial, trivial, trivial⟩
    rw [Pool.play_start_act hunused, hmid, handle, hacts] at hrun
    refine ⟨_, _, hrun, .head _, rfl, ?_⟩
    exact ⟨_, rfl⟩
  have hsign : Step (handle daveEnv noSaml) Other q (.act 1 q.shared) _ := .act hq
  rw [← hmid] at hinactive
  have hinactive' : ¬ q.shared.Active "d" := by
    rw [hshared, ← hmid]
    exact hinactive
  refine ⟨first, mid, past, q, _, hfirst, hunused, hinactive, hpast, hstart, hinactive', hsign,
    rfl, by decide, rfl, ?_⟩
  exact not_readActive_verifyMFA _ _ _

end SessionActivity

end Outpost
