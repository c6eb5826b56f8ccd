import Outpost.MfaHandler
import Outpost.SessionProvenance

/-!
# Who is asked for a second factor has one

The login asks for a second factor when `mfa_enabled` is set, and `verifyMFA` then wants a TOTP
secret. The flag is set by a confirmed secret and by a WebAuthn key, and nothing takes it back.
-/

namespace Outpost

namespace MfaTables

variable (t : MfaTables) (u : Uuid)

def Enabled : Prop := ∃ x ∈ t.db.users, x.id = u ∧ x.mfaEnabled = true

def Verified : Prop := ∃ row ∈ t.totp, row.userId = u ∧ row.verified = true

structure NoFactors : Prop where
  disabled : ¬ t.Enabled u
  totp : ∀ row ∈ t.totp, row.userId ≠ u
  webauthn : ∀ c ∈ t.webauthn, c.userId ≠ u

instance decidableEnabled : Decidable (t.Enabled u) := by
  unfold Enabled
  infer_instance

instance decidableVerified : Decidable (t.Verified u) := by
  unfold Verified
  infer_instance

variable {t u} {v : Uuid}

theorem enabled_setMFAEnabled :
    (t.setMFAEnabled v true).Enabled u ↔ t.Enabled u ∨ u = v ∧ t.db.HasUser v := by
  constructor
  · rintro ⟨x, hx, rfl, henabled⟩
    obtain ⟨w, hw, rfl⟩ := Database.mem_setMFAEnabled.mp hx
    by_cases hid : w.id = v
    · refine .inr ⟨?_, w, hw, hid⟩
      rw [User.setMFAEnabled_id, hid]
    · rw [User.setMFAEnabled, if_neg hid] at henabled ⊢
      exact .inl ⟨w, hw, rfl, henabled⟩
  · rintro (⟨w, hw, rfl, henabled⟩ | ⟨rfl, w, hw, rfl⟩)
    · refine ⟨_, Database.mem_setMFAEnabled.mpr ⟨w, hw, rfl⟩, w.setMFAEnabled_id v true, ?_⟩
      unfold User.setMFAEnabled
      split
      · rfl
      · exact henabled
    · refine ⟨_, Database.mem_setMFAEnabled.mpr ⟨w, hw, rfl⟩, w.setMFAEnabled_id _ true, ?_⟩
      rw [User.setMFAEnabled, if_pos rfl]

variable {row : MfaTotp} {secret : String}

theorem mem_upsertTotp (owner : t.db.HasUser v) :
    row ∈ (t.upsertTotp ⟨v, secret, false⟩ owner).totp ↔
      row ∈ t.totp ∧ row.userId ≠ v ∨ row = ⟨v, secret, false⟩ := by
  unfold upsertTotp
  rw [KeyedRows.mem_upsert]
  constructor
  · rintro (h | ⟨old, _, rfl, rfl⟩ | ⟨_, rfl⟩)
    · exact .inl h
    · exact .inr rfl
    · exact .inr rfl
  · rintro (h | rfl)
    · exact .inl h
    · by_cases hold : ∃ old ∈ t.totp, old.userId = v
      · obtain ⟨old, hold, rfl⟩ := hold
        exact .inr (.inl ⟨old, hold, rfl, rfl⟩)
      · push Not at hold
        exact .inr (.inr ⟨hold, rfl⟩)

theorem verified_upsertTotp (owner : t.db.HasUser v) :
    (t.upsertTotp ⟨v, secret, false⟩ owner).Verified u ↔ t.Verified u ∧ u ≠ v := by
  constructor
  · rintro ⟨row, hrow, rfl, hverified⟩
    rcases (mem_upsertTotp owner).mp hrow with ⟨hrow, hne⟩ | rfl
    · exact ⟨⟨row, hrow, rfl, hverified⟩, hne⟩
    · cases hverified
  · rintro ⟨⟨row, hrow, rfl, hverified⟩, hne⟩
    exact ⟨row, (mem_upsertTotp owner).mpr (.inl ⟨hrow, hne⟩), rfl, hverified⟩

theorem verified_deleteTotp : (t.deleteTotp v).Verified u ↔ t.Verified u ∧ u ≠ v := by
  constructor
  · rintro ⟨row, hrow, rfl, hverified⟩
    obtain ⟨hrow, hne⟩ := List.mem_filter.mp hrow
    exact ⟨⟨row, hrow, rfl, hverified⟩, of_decide_eq_true hne⟩
  · rintro ⟨⟨row, hrow, rfl, hverified⟩, hne⟩
    exact ⟨row, List.mem_filter.mpr ⟨hrow, decide_eq_true hne⟩, rfl, hverified⟩

theorem totpOf_eq_some : t.totpOf u = some row ↔ row ∈ t.totp ∧ row.userId = u :=
  KeyedRows.find?_eq_some t.totp_user_unique

theorem mem_confirm {r : MfaTotp} (hrow : t.totpOf v = some row) :
    r ∈ (if row.verified then t else t.verifyTotp v).totp ↔
      r ∈ t.totp ∧ r.userId ≠ v ∨ r = { row with verified := true } := by
  have honly : ∀ old ∈ t.totp, old.userId = v → old = row := by
    intro old hold hid
    exact Option.some.inj ((totpOf_eq_some.mpr ⟨hold, hid⟩).symm.trans hrow)
  obtain ⟨hmem, hid⟩ := totpOf_eq_some.mp hrow
  split
  · rename_i hverified
    have hsame : { row with verified := true } = row := by
      rw [← hverified]
    rw [hsame]
    constructor
    · intro hr
      by_cases hrv : r.userId = v
      · exact .inr (honly r hr hrv)
      · exact .inl ⟨hr, hrv⟩
    · rintro (⟨hr, _⟩ | rfl)
      · exact hr
      · exact hmem
  · unfold verifyTotp
    rw [List.mem_map]
    constructor
    · rintro ⟨old, hold, rfl⟩
      split
      · rename_i hov
        rw [honly old hold hov]
        exact .inr rfl
      · rename_i hov
        exact .inl ⟨hold, hov⟩
    · rintro (⟨hr, hne⟩ | rfl)
      · exact ⟨r, hr, if_neg hne⟩
      · exact ⟨row, hmem, if_pos hid⟩

theorem verified_confirm (hrow : t.totpOf v = some row) :
    (if row.verified then t else t.verifyTotp v).Verified u ↔ t.Verified u ∨ u = v := by
  obtain ⟨_, hid⟩ := totpOf_eq_some.mp hrow
  constructor
  · rintro ⟨r, hr, rfl, hverified⟩
    rcases (mem_confirm hrow).mp hr with ⟨hr, _⟩ | rfl
    · exact .inl ⟨r, hr, rfl, hverified⟩
    · exact .inr hid
  · intro h
    by_cases huv : u = v
    · exact ⟨_, (mem_confirm hrow).mpr (.inr rfl), hid.trans huv.symm, rfl⟩
    · obtain ⟨r, hr, rfl, hverified⟩ := h.resolve_right huv
      exact ⟨r, (mem_confirm hrow).mpr (.inl ⟨hr, huv⟩), rfl, hverified⟩

end MfaTables

namespace MfaLockout

open Runs MfaHandler

structure Label where
  now : Time
  claims : Option TokenClaims
  request : Request
  reply : Except HandlerError Reply

def Label.By (a : Label) (u : Uuid) : Prop := ∃ claims, a.claims = some claims ∧ claims.userID = u

inductive Step (env : Env) : Store → Label → Store → Prop where
  | mk (now : Time) (claims : Option TokenClaims) (request : Request) (s : Store) :
      Step env s ⟨now, claims, request, (handle env now claims s request).2⟩
        (handle env now claims s request).1

namespace Label

variable (a : Label) (u : Uuid)

def Confirms : Prop :=
  match a.request, a.reply with
  | .verifyTOTP _, .ok (.valid true) => a.By u
  | _, _ => False

def Unverifies : Prop :=
  match a.request, a.reply with
  | .setupTOTP _ _, .ok _ => a.By u
  | .disableTOTP, .ok _ => a.By u
  | _, _ => False

def Keys : Prop :=
  match a.request, a.reply with
  | .finishWebAuthn _ _ _, .ok _ => a.By u
  | _, _ => False

variable {a u}

theorem not_unverifies_of_confirms (h : a.Confirms u) : ¬ a.Unverifies u := by
  unfold Confirms at h
  unfold Unverifies
  split at h
  · rename_i hrequest _
    rw [hrequest]
    exact id
  · exact h.elim

theorem not_unverifies_of_keys (h : a.Keys u) : ¬ a.Unverifies u ∧ ¬ a.Confirms u := by
  unfold Keys at h
  unfold Unverifies Confirms
  split at h
  · rename_i hrequest _
    rw [hrequest]
    exact ⟨id, id⟩
  · exact h.elim

end Label

structure Effect (env : Env) (a : Label) (t t' : MfaTables) : Prop where
  enabled : ∀ u, t'.Enabled u ↔ t.Enabled u ∨ a.Confirms u ∨ a.Keys u
  verified : ∀ u, t'.Verified u ↔ t.Verified u ∧ ¬ a.Unverifies u ∨ a.Confirms u
  confirmed : ∀ row ∈ t'.totp, row.verified = true → row ∈ t.totp ∨ a.Confirms row.userId ∧
    ∃ code, a.request = .verifyTOTP (some code) ∧
      env.auth.totpValidate code row.secret a.now = true

section Steps

variable {env : Env} {now : Time} {s : Store} {a : Label} {t t' : MfaTables}

theorem effect_nothing (hdb : t'.db = t.db) (htotp : t'.totp = t.totp)
    (hconfirms : ∀ u, ¬ a.Confirms u) (hunverifies : ∀ u, ¬ a.Unverifies u)
    (hkeys : ∀ u, ¬ a.Keys u) : Effect env a t t' where
  enabled := by
    simp [MfaTables.Enabled, hdb, hconfirms, hkeys]
  verified := by
    simp [MfaTables.Verified, htotp, hconfirms, hunverifies]
  confirmed := fun row hrow _ => .inl (htotp ▸ hrow)

variable {request : Request}

theorem effect_refused {claims : Option TokenClaims} {e : HandlerError} (hdb : t'.db = t.db)
    (htotp : t'.totp = t.totp) :
    Effect env ⟨now, claims, request, .error e⟩ t t' := by
  refine effect_nothing hdb htotp ?_ ?_ ?_
  · intro u h
    cases request <;> exact h
  · intro u h
    cases request <;> exact h
  · intro u h
    cases request <;> exact h

variable {c : TokenClaims}

theorem by_iff {reply : Except HandlerError Reply} {u : Uuid} :
    Label.By ⟨now, some c, request, reply⟩ u ↔ u = c.userID := by
  constructor
  · rintro ⟨c', hc', rfl⟩
    rw [Option.some.inj hc']
  · intro h
    exact ⟨c, rfl, h.symm⟩

theorem effect_unverify {request : Request} {reply : Reply}
    (hrequest : request = .disableTOTP ∨ ∃ random issuer, request = .setupTOTP random issuer)
    (hdb : t'.db = t.db) (hverified : ∀ u, t'.Verified u ↔ t.Verified u ∧ u ≠ c.userID)
    (hrows : ∀ row ∈ t'.totp, row.verified = true → row ∈ t.totp) :
    Effect env ⟨now, some c, request, .ok reply⟩ t t' := by
  have hunverifies : ∀ u, Label.Unverifies ⟨now, some c, request, .ok reply⟩ u ↔ u = c.userID := by
    intro u
    rw [← by_iff]
    rcases hrequest with rfl | ⟨_, _, rfl⟩ <;> exact Iff.rfl
  have hconfirms : ∀ u, ¬ Label.Confirms ⟨now, some c, request, .ok reply⟩ u := by
    intro u
    rcases hrequest with rfl | ⟨_, _, rfl⟩ <;> exact id
  have hkeys : ∀ u, ¬ Label.Keys ⟨now, some c, request, .ok reply⟩ u := by
    intro u
    rcases hrequest with rfl | ⟨_, _, rfl⟩ <;> exact id
  constructor
  · intro u
    simp [MfaTables.Enabled, hdb, hconfirms, hkeys]
  · intro u
    rw [hverified, hunverifies, or_iff_left (hconfirms u)]
  · exact fun row hrow h => .inl (hrows row hrow h)

theorem effect_confirm {row : MfaTotp} {code : String} (hrow : t.totpOf c.userID = some row)
    (hvalid : env.auth.totpValidate code row.secret now = true) :
    Effect env ⟨now, some c, .verifyTOTP (some code), .ok (.valid true)⟩ t
      ((if row.verified then t else t.verifyTotp c.userID).setMFAEnabled c.userID true) := by
  obtain ⟨hmem, howner⟩ := MfaTables.totpOf_eq_some.mp hrow
  have hconfirms : ∀ u, Label.Confirms ⟨now, some c, .verifyTOTP (some code), .ok (.valid true)⟩ u ↔
      u = c.userID := fun u => by_iff
  have hdb : (if row.verified then t else t.verifyTotp c.userID).db = t.db := by
    split <;> rfl
  constructor
  · intro u
    rw [MfaTables.enabled_setMFAEnabled, hconfirms]
    have huser : t.db.HasUser c.userID := howner ▸ t.totp_owner row hmem
    simp only [MfaTables.Enabled, hdb, huser, and_true]
    exact ⟨Or.imp_right .inl, fun h => h.imp_right fun h => h.elim id False.elim⟩
  · intro u
    rw [hconfirms]
    refine (MfaTables.verified_confirm hrow).trans ?_
    exact or_congr_left (and_iff_left fun h => h).symm
  · intro r hr _
    rcases (MfaTables.mem_confirm hrow).mp hr with ⟨hr, _⟩ | rfl
    · exact .inl hr
    · exact .inr ⟨(hconfirms _).mpr howner, code, rfl, hvalid⟩

variable {claims : Option TokenClaims}

theorem effect_setupTOTP (random : String) (issuer : Option String) :
    Effect env ⟨now, claims, .setupTOTP random issuer, (setupTOTP env claims s random issuer).2⟩
      s.tables (setupTOTP env claims s random issuer).1.tables := by
  rcases setupTOTP_spec env claims s random issuer with
    ⟨e, heq⟩ | ⟨c, secret, owner, res, rfl, heq⟩
  · rw [heq]
    exact effect_refused rfl rfl
  · rw [heq]
    refine effect_unverify (.inr ⟨random, issuer, rfl⟩) rfl
      (fun u => MfaTables.verified_upsertTotp owner) ?_
    intro row hrow hverified
    rcases (MfaTables.mem_upsertTotp owner).mp hrow with ⟨hrow, _⟩ | rfl
    · exact hrow
    · cases hverified

theorem effect_disableTOTP :
    Effect env ⟨now, claims, .disableTOTP, (disableTOTP claims s).2⟩ s.tables
      (disableTOTP claims s).1.tables := by
  rcases disableTOTP_spec claims s with ⟨e, heq⟩ | ⟨c, rfl, heq⟩
  · rw [heq]
    exact effect_refused rfl rfl
  · exact effect_unverify (.inl rfl) rfl (fun u => MfaTables.verified_deleteTotp)
      fun row hrow _ => (List.mem_filter.mp hrow).1

theorem effect_verifyTOTP (code : Option String) :
    Effect env ⟨now, claims, .verifyTOTP code, (verifyTOTPCode env now claims s code).2⟩ s.tables
      (verifyTOTPCode env now claims s code).1.tables := by
  rcases verifyTOTPCode_spec env now claims s code with
    ⟨e, heq⟩ | heq | ⟨c, row, text, rfl, rfl, hrow, hvalid, heq⟩
  · rw [heq]
    exact effect_refused rfl rfl
  · rw [heq]
    exact effect_nothing rfl rfl (fun _ => id) (fun _ => id) fun _ => id
  · rw [heq]
    exact effect_confirm hrow hvalid

theorem effect_finishWebAuthn (id : Uuid) (name body : String) :
    Effect env ⟨now, claims, .finishWebAuthn id name body,
        (finishWebAuthnRegistration env now claims s id name body).2⟩ s.tables
      (finishWebAuthnRegistration env now claims s id name body).1.tables := by
  rcases finishWebAuthnRegistration_spec env now claims s id name body with
    ⟨s', e, htables, heq⟩ | ⟨c, key, h, s', credName, rfl, howner, htables, heq⟩
  · rw [heq]
    exact effect_refused (congrArg MfaTables.db htables) (congrArg MfaTables.totp htables)
  · rw [heq]
    rw [htables]
    have hkeys : ∀ u, Label.Keys ⟨now, some c, .finishWebAuthn id name body,
        .ok (.registered credName)⟩ u ↔ u = c.userID := fun u => by_iff
    constructor
    · intro u
      rw [MfaTables.enabled_setMFAEnabled, hkeys]
      have huser : s.tables.db.HasUser c.userID := howner ▸ h.2.2
      have hdb : (s.tables.insertWebAuthn key h).db = s.tables.db := rfl
      simp only [hdb, huser, and_true]
      exact ⟨Or.imp_right .inr, fun h => h.imp_right fun h => h.elim False.elim fun h => h⟩
    · intro u
      exact ⟨fun h => .inl ⟨h, fun h => h⟩, fun h => h.elim And.left False.elim⟩
    · exact fun row hrow _ => .inl hrow

theorem effect_of_step {s' : Store} (h : Step env s a s') : Effect env a s.tables s'.tables := by
  cases h with
  | mk now claims request =>
    cases request with
    | setupTOTP random issuer => exact effect_setupTOTP random issuer
    | verifyTOTP code => exact effect_verifyTOTP code
    | disableTOTP => exact effect_disableTOTP
    | registerWebAuthn id req =>
      obtain ⟨hdb, htotp⟩ := registerWebAuthnCredential_spec now claims s id req
      exact effect_nothing hdb htotp (fun _ h => h) (fun _ h => h) fun _ h => h
    | deleteWebAuthn credID =>
      obtain ⟨hdb, htotp⟩ := deleteWebAuthnCredential_spec claims s credID
      exact effect_nothing hdb htotp (fun _ h => h) (fun _ h => h) fun _ h => h
    | beginWebAuthn challenge =>
      have htables := beginWebAuthnRegistration_spec env now claims s challenge
      exact effect_nothing (congrArg MfaTables.db htables) (congrArg MfaTables.totp htables)
        (fun _ h => h) (fun _ h => h) fun _ h => h
    | finishWebAuthn id name body => exact effect_finishWebAuthn id name body

end Steps

def Sound (u : Uuid) (s : Store) : Prop := s.tables.Enabled u → s.tables.Verified u

/-- The request does not take the secret from under the flag, nor set the flag without one. -/
def Spares (u : Uuid) (s : Store) (a : Label) : Prop :=
  (a.Unverifies u → ¬ s.tables.Enabled u) ∧ (a.Keys u → s.tables.Verified u)

variable {u : Uuid} {env : Env} {s t : Store}

theorem sound_iff_spares {s' : Store} {a : Label} (h : Step env s a s') (hs : Sound u s) :
    Sound u s' ↔ Spares u s a := by
  have heffect := effect_of_step h
  unfold Sound Spares
  rw [heffect.enabled, heffect.verified]
  constructor
  · intro hsound
    constructor
    · intro hunverifies henabled
      rcases hsound (.inl henabled) with ⟨_, hnot⟩ | hconfirms
      · exact hnot hunverifies
      · exact Label.not_unverifies_of_confirms hconfirms hunverifies
    · intro hkeys
      rcases hsound (.inr (.inr hkeys)) with ⟨hverified, _⟩ | hconfirms
      · exact hverified
      · exact absurd hconfirms (Label.not_unverifies_of_keys hkeys).2
  · rintro ⟨hunverifies, hkeys⟩ (henabled | hconfirms | hkey)
    · exact .inl ⟨hs henabled, fun h => hunverifies h henabled⟩
    · exact .inr hconfirms
    · exact .inl ⟨hkeys hkey, (Label.not_unverifies_of_keys hkey).1⟩

def Confirmed (env : Env) (past : List Label) (u : Uuid) (secret : String) : Prop :=
  ∃ a ∈ past, a.Confirms u ∧ ∃ code, a.request = .verifyTOTP (some code) ∧
    env.auth.totpValidate code secret a.now = true

theorem confirmed_run {as : List Label} (hs : s.tables.NoFactors u) (hrun : Run (Step env) s as t)
    {row : MfaTotp} (hrow : row ∈ t.tables.totp) (huser : row.userId = u)
    (hverified : row.verified = true) :
    Confirmed env as u row.secret := by
  have hall : ∀ row ∈ t.tables.totp, row.userId = u → row.verified = true →
      Confirmed env as u row.secret := by
    refine hrun.history (I := fun past s => ∀ row ∈ s.tables.totp, row.userId = u →
      row.verified = true → Confirmed env past u row.secret) ?_ ?_
    · intro past s a s' hstep h row hrow huser hverified
      rcases (effect_of_step hstep).confirmed row hrow hverified with hold | ⟨hconfirms, hcode⟩
      · obtain ⟨b, hb, hconfirmed⟩ := h row hold huser hverified
        exact ⟨b, List.mem_append_left _ hb, hconfirmed⟩
      · exact ⟨a, List.mem_append_right _ List.mem_cons_self, huser ▸ hconfirms, hcode⟩
    · intro row hrow huser
      exact absurd huser (hs.totp row hrow)
  exact hall row hrow huser hverified

def toLogin (row : MfaTotp) : TotpRow := ⟨row.userId, row.secret⟩

structure Serves (w : World) (t : MfaTables) : Prop where
  db : w.tables.db = t.db
  totp : w.tables.totp = t.totp.map toLogin

structure Asked (env : AuthEnv) (w : World) (u : Uuid) (req : AuthHandler.MFAVerifyRequest) :
    Prop where
  token : ∃ claims, validateToken env.jwt env.jwtSecret req.mfaToken w.now = some claims ∧
    claims.tokenType = "mfa" ∧ claims.userID = u
  present : req.mfaToken ≠ "" ∧ req.code ≠ ""

section Login

open AuthHandler

variable {env : AuthEnv} {w : World} {t : MfaTables} {u : Uuid} {row : MfaTotp}
variable {req : MFAVerifyRequest}

theorem totp_find (hw : Serves w t) (hrow : t.totpOf u = some row) :
    (w.tables.totp.find? fun r => r.userId = u) = some (toLogin row) := by
  have hfind : (t.totp.find? fun r => r.userId = u) = some row := hrow
  rw [hw.totp, List.find?_map]
  show Option.map toLogin (t.totp.find? fun r => r.userId = u) = _
  rw [hfind]
  rfl

theorem verifyMFA_of_code (hw : Serves w t) (hrow : t.totpOf u = some row)
    (hasked : Asked env w u req) (hcode : env.totpValidate req.code row.secret w.now = true) :
    ∃ w' res, (verifyMFA env req).alone w = (w', .ok res) := by
  obtain ⟨claims, hvalid, hmfa, rfl⟩ := hasked.token
  obtain ⟨hmem, hid⟩ := MfaTables.totpOf_eq_some.mp hrow
  obtain ⟨x, hx⟩ := t.db.exists_userByID (t.totp_owner row hmem)
  rw [hid, ← hw.db] at hx
  exact verifyMFA_alone_valid hasked.present hvalid hmfa (totp_find hw hrow)
    (codeValid_alone hcode) hx

theorem code_of_verifyMFA (hw : Serves w t) (hrow : t.totpOf u = some row)
    (hasked : Asked env w u req) {w' : World} {res : LoginResponse}
    (h : (verifyMFA env req).alone w = (w', .ok res)) :
    env.totpValidate req.code row.secret w.now = true ∨
      ((tryBackupCode env u req.code).alone w).2 = true := by
  obtain ⟨claims, hvalid, hmfa, rfl⟩ := hasked.token
  by_contra hneither
  obtain ⟨hcode, hbackup⟩ := not_or.mp hneither
  obtain ⟨w'', hinvalid⟩ := codeValid_alone_of_not hcode hbackup
  have herror := verifyMFA_alone_invalid hasked.present hvalid hmfa (totp_find hw hrow) hinvalid
  cases herror.symm.trans h

end Login

/-- The user has a confirmed secret, `verifyMFA` gives a session for its codes, and without one of
them for a backup code at most. -/
def Completable (env : Env) (past : List Label) (u : Uuid) (t : MfaTables) : Prop :=
  ∃ row ∈ t.totp, row.userId = u ∧ row.verified = true ∧ Confirmed env past u row.secret ∧
    ∀ w req, Serves w t → Asked env.auth w u req →
      (env.auth.totpValidate req.code row.secret w.now = true →
        ∃ w' res, (AuthHandler.verifyMFA env.auth req).alone w = (w', .ok res)) ∧
      ∀ w' res, (AuthHandler.verifyMFA env.auth req).alone w = (w', .ok res) →
        env.auth.totpValidate req.code row.secret w.now = true ∨
          ((AuthHandler.tryBackupCode env.auth u req.code).alone w).2 = true

theorem completable_of_sound {as : List Label} (hs : s.tables.NoFactors u)
    (hrun : Run (Step env) s as t) (hsound : Sound u t) (henabled : t.tables.Enabled u) :
    Completable env as u t.tables := by
  obtain ⟨row, hrow, huser, hverified⟩ := hsound henabled
  have hfind := MfaTables.totpOf_eq_some.mpr ⟨hrow, huser⟩
  refine ⟨row, hrow, huser, hverified, confirmed_run hs hrun hrow huser hverified, ?_⟩
  intro w req hw hasked
  exact ⟨verifyMFA_of_code hw hfind hasked, fun _ _ => code_of_verifyMFA hw hfind hasked⟩

/-- A user who starts without factors has a confirmed secret whenever the flag is set exactly when
no request takes the secret away under the flag or sets the flag without one. The login can then be
completed. -/
theorem mfa_never_locks_out_iff (env : Env) {u : Uuid} {s t : Store} {as : List Label}
    (hs : s.tables.NoFactors u) :
    (Run (Through (Step env) (Sound u)) s as t ↔ Run (Guarded (Step env) (Spares u)) s as t) ∧
      (Run (Guarded (Step env) (Spares u)) s as t → t.tables.Enabled u →
        Completable env as u t.tables) := by
  have hstart : Sound u s := fun henabled => absurd henabled hs.disabled
  refine ⟨Run.through_iff_guarded (fun _ _ _ => sound_iff_spares) hstart, ?_⟩
  intro hrun henabled
  have hsound : Sound u t := by
    refine hrun.invariant (I := Sound u) ?_ hstart
    intro s a s' hstep hsound
    exact (sound_iff_spares hstep.1 hsound).mpr hstep.2
  exact completable_of_sound hs hrun.of_guarded hsound henabled

def sampleEnv : Env where
  auth := { SessionProvenance.sampleEnv with totpValidate := fun code secret _ => code == secret }
  generateSecret := fun random issuer account => some (random, issuer ++ account, "")
  ceremony := some ⟨true, fun _ _ _ _ => .ok ("", ""), fun _ _ _ _ _ => .ok ⟨[1], [2], 0⟩⟩
  webauthnRows := .asListed

def sampleStore : Store where
  tables :=
    { db := SessionProvenance.carolTables.db
      totp := []
      webauthn := []
      totp_user_unique := List.nodup_nil
      totp_owner := nofun
      webauthn_id_unique := List.nodup_nil
      credential_id_unique := List.nodup_nil
      webauthn_owner := nofun }
  sessions := fun _ => none

theorem sampleStore_noFactors : sampleStore.tables.NoFactors "c" where
  disabled := by
    rintro ⟨x, hx, _, henabled⟩
    obtain rfl := List.mem_singleton.mp hx
    cases henabled
  totp := nofun
  webauthn := nofun

def serve (env : Env) (claims : TokenClaims) (s : Store) : List Request → List Label × Store
  | [] => ([], s)
  | request :: rest =>
    let res := handle env 0 (some claims) s request
    let later := serve env claims res.1 rest
    (⟨0, some claims, request, res.2⟩ :: later.1, later.2)

theorem run_serve (env : Env) (claims : TokenClaims) (s : Store) (requests : List Request) :
    Run (Step env) s (serve env claims s requests).1 (serve env claims s requests).2 := by
  induction requests generalizing s with
  | nil => exact .nil s
  | cons request rest ih => exact .cons (.mk 0 (some claims) request s) (ih _)

open SessionProvenance (carolClaims)

def setupAndVerify : List Request := [.setupTOTP "secret" (some ""), .verifyTOTP (some "secret")]

def waysOut : List (List Request) :=
  [setupAndVerify ++ [.disableTOTP],
    setupAndVerify ++ [.setupTOTP "another" (some "")],
    [.beginWebAuthn "", .finishWebAuthn "k" "" ""]]

theorem carol_locked_out : sampleStore.tables.NoFactors "c" ∧ ∀ requests ∈ waysOut, ∃ labels t,
    Run (Step sampleEnv) sampleStore labels t ∧ labels.map Label.request = requests ∧
      t.tables.Enabled "c" ∧ ¬ t.tables.Verified "c" := by
  refine ⟨sampleStore_noFactors, ?_⟩
  intro requests hrequests
  refine ⟨_, _, run_serve sampleEnv carolClaims sampleStore requests, ?_⟩
  simp only [waysOut, List.mem_cons, List.not_mem_nil, or_false] at hrequests
  rcases hrequests with rfl | rfl | rfl
  · exact ⟨rfl, by decide, by decide⟩
  · exact ⟨rfl, by decide, by decide⟩
  · exact ⟨rfl, by decide, by decide⟩

theorem carol_confirms : ∃ labels t,
    Run (Guarded (Step sampleEnv) (Spares "c")) sampleStore labels t ∧
    t.tables.Enabled "c" ∧ Completable sampleEnv labels "c" t.tables := by
  have hrun : Run (Guarded (Step sampleEnv) (Spares "c")) sampleStore
      (serve sampleEnv carolClaims sampleStore setupAndVerify).1
      (serve sampleEnv carolClaims sampleStore setupAndVerify).2 := by
    refine .cons ⟨.mk 0 (some carolClaims) _ sampleStore, ?_, nofun⟩
      (.single ⟨.mk 0 (some carolClaims) _ _, nofun, nofun⟩)
    exact fun _ => sampleStore_noFactors.disabled
  have henabled :
      (serve sampleEnv carolClaims sampleStore setupAndVerify).2.tables.Enabled "c" := by decide
  exact ⟨_, _, hrun, henabled,
    (mfa_never_locks_out_iff sampleEnv sampleStore_noFactors).2 hrun henabled⟩

end MfaLockout

end Outpost
