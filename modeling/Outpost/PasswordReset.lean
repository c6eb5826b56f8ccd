import Outpost.AuthHandler

/-!
# Forgotten passwords

`forgotPassword` stores the hash of a random token, and `resetPassword` spends it: one statement
marks the token as used and tells whose it is, and only then is the new password hashed and
written.
-/

namespace Outpost.PasswordReset

open Interleaving Prog

structure ResetToken where
  userId : Uuid
  tokenHash : String
  expiresAt : Time
  used : Bool
deriving DecidableEq

/-- `token_hash = $1 AND used = false AND expires_at > now()` -/
def ResetToken.Valid (r : ResetToken) (tokenHash : String) (now : Time) : Prop :=
  r.tokenHash = tokenHash ∧ r.used = false ∧ now < r.expiresAt

instance ResetToken.decidableValid (r : ResetToken) (tokenHash : String) (now : Time) :
    Decidable (r.Valid tokenHash now) := by
  unfold ResetToken.Valid
  infer_instance

structure World where
  tables : AuthTables
  resetTokens : List ResetToken
  now : Time

structure Env where
  hashToken : String → String
  unicode : Passwords.Unicode
  bcrypt : Passwords.Bcrypt

namespace World

variable (w : World)

def activeByEmail (email : String) : Option User :=
  w.tables.db.users.find? fun u => u.email = email ∧ u.isActive = true

def insertToken (r : ResetToken) : World :=
  if w.tables.db.HasUser r.userId then { w with resetTokens := w.resetTokens ++ [r] } else w

def validToken (tokenHash : String) : Option ResetToken :=
  w.resetTokens.find? fun r => r.Valid tokenHash w.now

def spend (tokenHash : String) : World :=
  { w with
    resetTokens := w.resetTokens.map fun r =>
      if r.Valid tokenHash w.now then { r with used := true } else r }

def setPassword (userID : Uuid) (hash : String) : World :=
  if w.tables.db.HasUser userID then
    { w with
      tables := w.tables.setColumns userID fun row =>
        { row with passwordHash := some hash, passwordMustChange := false } }
  else w

end World

def consumeToken (tokenHash : String) (fails : Bool) : Prog World (Except HandlerError Uuid) :=
  .modify fun w =>
    if fails then (w, .error ⟨500, "failed to validate token"⟩)
    else match w.validToken tokenHash with
      | none => (w, .error ⟨400, "invalid or expired reset token"⟩)
      | some r => (w.spend tokenHash, .ok r.userId)

def updatePassword (userID : Uuid) (hash : String) (fails : Bool) : Prog World Bool :=
  .modify fun w => if fails then (w, false) else (w.setPassword userID hash, true)

def sent : String := "if the email exists, a reset link has been sent"

/-- With the random token, if there is one, and whether the `INSERT` fails. The answer is always the
same. -/
def forgotPassword (env : Env) (email : String) (drawn : Option String) (fails : Bool) :
    Prog World (Except HandlerError String) :=
  if email = "" then return .error ⟨400, "email is required"⟩
  else do
    match ← .read fun w => w.activeByEmail email with
    | none => return .ok sent
    | some u =>
      match drawn with
      | none => return .ok sent
      | some plainToken =>
        let now ← Prog.read World.now
        .modify fun w =>
          (if fails then w
            else w.insertToken ⟨u.id, env.hashToken plainToken, now + Time.hour, false⟩, ())
        return .ok sent

structure ResetRequest where
  (token newPassword : String)
deriving DecidableEq

structure Faults where
  (consume update : Bool)
deriving DecidableEq

def noFaults : Faults := ⟨false, false⟩

def checkReset (env : Env) (req : ResetRequest) : Option HandlerError :=
  if req.token = "" ∨ req.newPassword = "" then some ⟨400, "token and new_password are required"⟩
  else (Passwords.validatePasswordPolicy env.unicode req.newPassword).map fun message =>
    ⟨400, message⟩

def resetPassword (env : Env) (req : ResetRequest) (salt : String) (faults : Faults) :
    Prog World (Except HandlerError String) :=
  match checkReset env req with
  | some e => return .error e
  | none => do
    match ← consumeToken (env.hashToken req.token) faults.consume with
    | .error e => return .error e
    | .ok userID =>
      match Passwords.hashPassword env.bcrypt salt req.newPassword with
      | none => return .error ⟨500, "failed to hash password"⟩
      | some hash =>
        if ← updatePassword userID hash faults.update then return .ok "password has been reset"
        else return .error ⟨500, "failed to update password"⟩

section Alone

variable {env : Env} {w : World} {req : ResetRequest} {salt : String} {faults : Faults}

variable {r : ResetToken} {tokenHash : String}

theorem mem_spend (hvalid : r.Valid tokenHash w.now) :
    r ∉ (w.spend tokenHash).resetTokens := by
  intro hin
  obtain ⟨r', _, heq⟩ := List.mem_map.mp hin
  split at heq
  · rw [← heq] at hvalid
    cases hvalid.2.1
  · rename_i hinvalid
    exact hinvalid (heq ▸ hvalid)

theorem validToken_eq_none_iff : w.validToken tokenHash = none ↔
    ∀ r ∈ w.resetTokens, ¬ r.Valid tokenHash w.now := by
  simp [World.validToken]

theorem validToken_eq_some (h : w.validToken tokenHash = some r) :
    r ∈ w.resetTokens ∧ r.Valid tokenHash w.now := by
  exact ⟨List.mem_of_find?_eq_some h, by simpa using List.find?_some h⟩

structure Consumes (env : Env) (w : World) (req : ResetRequest) (faults : Faults)
    (r : ResetToken) : Prop where
  checked : checkReset env req = none
  statement : faults.consume = false
  token : w.validToken (env.hashToken req.token) = some r

theorem alone_of_not_consumes (salt : String) (h : ∀ r, ¬ Consumes env w req faults r) :
    ∃ e, (resetPassword env req salt faults).alone w = (w, .error e) := by
  unfold resetPassword
  cases hcheck : checkReset env req with
  | some e => exact ⟨e, rfl⟩
  | none =>
    cases hfails : faults.consume with
    | true => exact ⟨⟨500, "failed to validate token"⟩, by simp [consumeToken]⟩
    | false =>
      cases htoken : w.validToken (env.hashToken req.token) with
      | none => exact ⟨⟨400, "invalid or expired reset token"⟩, by simp [consumeToken, htoken]⟩
      | some r => exact absurd ⟨hcheck, hfails, htoken⟩ (h r)

theorem alone_of_consumes (h : Consumes env w req faults r) :
    (resetPassword env req salt faults).alone w =
      match Passwords.hashPassword env.bcrypt salt req.newPassword with
      | none => (w.spend (env.hashToken req.token), .error ⟨500, "failed to hash password"⟩)
      | some hash =>
        if faults.update then
          (w.spend (env.hashToken req.token), .error ⟨500, "failed to update password"⟩)
        else ((w.spend (env.hashToken req.token)).setPassword r.userId hash,
          .ok "password has been reset") := by
  unfold resetPassword
  rw [h.checked]
  cases Passwords.hashPassword env.bcrypt salt req.newPassword with
  | none => simp [consumeToken, h.statement, h.token]
  | some hash =>
    cases hfails : faults.update with
    | _ => simp [consumeToken, h.statement, h.token, updatePassword]

end Alone

structure Acceptable (env : Env) (req : ResetRequest) : Prop where
  checked : checkReset env req = none
  length : req.newPassword.utf8ByteSize ≤ 72

/-- The passwords are what they were, and a valid token is still good for an acceptable request. -/
structure Unharmed (env : Env) (token : String) (w w' : World) : Prop where
  passwords : ∀ u, (w'.tables.columns u).passwordHash = (w.tables.columns u).passwordHash
  unused : ∀ r ∈ w.resetTokens, r.Valid (env.hashToken token) w.now → r ∈ w'.resetTokens
  usable : ∀ r ∈ w.resetTokens, r.Valid (env.hashToken token) w.now →
    ∀ later, later < r.expiresAt → ∀ req salt, req.token = token → Acceptable env req →
      ∃ message,
        ((resetPassword env req salt noFaults).alone { w' with now := later }).2 = .ok message

section Failed

variable {env : Env} {w : World} {req : ResetRequest} {salt : String} {faults : Faults}

theorem accepted_of_valid {r : ResetToken} (hreq : Acceptable env req) (hr : r ∈ w.resetTokens)
    (hvalid : r.Valid (env.hashToken req.token) w.now) :
    ∃ message, ((resetPassword env req salt noFaults).alone w).2 = .ok message := by
  cases htoken : w.validToken (env.hashToken req.token) with
  | none => exact absurd hvalid (validToken_eq_none_iff.mp htoken r hr)
  | some r' =>
    have hconsumes : Consumes env w req noFaults r' := ⟨hreq.checked, rfl, htoken⟩
    have hhash : Passwords.hashPassword env.bcrypt salt req.newPassword =
        some (env.bcrypt.generate salt req.newPassword) := if_pos hreq.length
    rw [alone_of_consumes hconsumes, hhash]
    exact ⟨_, rfl⟩

theorem unharmed_refl (token : String) : Unharmed env token w w where
  passwords := fun _ => rfl
  unused := fun _ hr _ => hr
  usable := by
    intro r hr hvalid later hlater req salt hreq hacceptable
    subst hreq
    exact accepted_of_valid hacceptable hr ⟨hvalid.1, hvalid.2.1, hlater⟩

/-- A failed reset changes nothing exactly if nothing fails once the token is spent. -/
theorem failed_reset_changes_nothing_iff (env : Env) (w : World) (req : ResetRequest)
    (salt : String) (faults : Faults) :
    (∀ e w', (resetPassword env req salt faults).alone w = (w', .error e) →
        Unharmed env req.token w w') ↔
      (checkReset env req = none → faults.consume = false →
        (∃ r ∈ w.resetTokens, r.Valid (env.hashToken req.token) w.now) →
          req.newPassword.utf8ByteSize ≤ 72 ∧ faults.update = false) := by
  constructor
  · intro h hchecked hstatement hvalid
    obtain ⟨r₀, hr₀, hvalid₀⟩ := hvalid
    cases htoken : w.validToken (env.hashToken req.token) with
    | none => exact absurd hvalid₀ (validToken_eq_none_iff.mp htoken r₀ hr₀)
    | some r =>
      have hconsumes : Consumes env w req faults r := ⟨hchecked, hstatement, htoken⟩
      obtain ⟨hr, hvalid⟩ := validToken_eq_some htoken
      have hspent : ∀ e, (resetPassword env req salt faults).alone w ≠
          (w.spend (env.hashToken req.token), .error e) :=
        fun e heq => mem_spend hvalid ((h e _ heq).unused r hr hvalid)
      rw [alone_of_consumes hconsumes] at hspent
      by_cases hlength : req.newPassword.utf8ByteSize ≤ 72
      · refine ⟨hlength, ?_⟩
        rw [Passwords.hashPassword, if_pos hlength] at hspent
        cases hfails : faults.update with
        | false => rfl
        | true =>
          rw [hfails] at hspent
          exact absurd rfl (hspent _)
      · rw [Passwords.hashPassword, if_neg hlength] at hspent
        exact absurd rfl (hspent _)
  · intro h e w' halone
    by_cases hconsumes : ∃ r, Consumes env w req faults r
    · obtain ⟨r, hconsumes⟩ := hconsumes
      obtain ⟨hlength, hupdate⟩ := h hconsumes.checked hconsumes.statement
        ⟨r, validToken_eq_some hconsumes.token⟩
      rw [alone_of_consumes hconsumes, Passwords.hashPassword, if_pos hlength, hupdate] at halone
      cases halone
    · push Not at hconsumes
      obtain ⟨e', hsame⟩ := alone_of_not_consumes salt hconsumes
      rw [hsame] at halone
      cases halone
      exact unharmed_refl req.token

end Failed

def erinWorld : World where
  tables :=
    { db :=
        { Database.empty with
          users := [⟨"e", true, false, false, "erin", "erin@example.com"⟩]
          user_id_unique := List.nodup_singleton _
          device_owner := fun _ hd => absurd hd List.not_mem_nil }
      columns := fun _ => ⟨some "open sesame", false, 0, none⟩
      totp := []
      backupCodes := []
      blacklist := [] }
  resetTokens := [⟨"e", "tok", Time.hour, false⟩]
  now := 0

def erinEnv : Env where
  hashToken := id
  unicode := ⟨Char.isUpper, Char.isLower, Char.isDigit⟩
  bcrypt := ⟨fun _ password => password, fun hash password => hash == password⟩

def longPassword : String :=
  "Correct horse battery staple, and 1 paper clip: long enough, as was asked"

def shortPassword : String := "Correct-horse-1"

/-- The long password is refused once the token is spent, and the short one then for the token. -/
theorem long_password_spends_token :
    ((resetPassword erinEnv ⟨"tok", longPassword⟩ "" noFaults).alone erinWorld).2 =
        .error ⟨500, "failed to hash password"⟩ ∧
      ((resetPassword erinEnv ⟨"tok", longPassword⟩ "" noFaults).alone erinWorld).1.resetTokens =
        [⟨"e", "tok", Time.hour, true⟩] ∧
      ((resetPassword erinEnv ⟨"tok", shortPassword⟩ "" noFaults).alone
        ((resetPassword erinEnv ⟨"tok", longPassword⟩ "" noFaults).alone erinWorld).1).2 =
          .error ⟨400, "invalid or expired reset token"⟩ ∧
      ((resetPassword erinEnv ⟨"tok", shortPassword⟩ "" noFaults).alone erinWorld).2 =
        .ok "password has been reset" := by
  refine ⟨?_, ?_, ?_, ?_⟩ <;> rfl

end Outpost.PasswordReset
