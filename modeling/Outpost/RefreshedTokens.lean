import Outpost.Shared.Disturbance
import Outpost.TokenRevocation

/-!
# Refreshed tokens

A refresh signs a new token and then revokes the old one, by the hash of its text. Claims
hold whole seconds, so a token that is refreshed in the second in which it was issued may be
the new token itself.
-/

namespace Outpost.RefreshedTokens

open Interleaving Prog AuthHandler

def Ticks (w w' : World) : Prop :=
  w'.tables = w.tables ∧ w'.signed = w.signed ∧ w.now ≤ w'.now

def renewed (c : TokenClaims) (isAdmin : Bool) (expiresAt issuedAt : Nat) : TokenClaims :=
  { userID := c.userID, username := c.username, email := c.email, isAdmin := isAdmin,
    expiresAt := some expiresAt, issuedAt := some issuedAt }

def issued (c : TokenClaims) (isAdmin : Bool) (first second : Time) : TokenClaims :=
  renewed c isAdmin (Time.numericDate (first + 24 * Time.hour)) (Time.numericDate second)

section Programs

variable {env : AuthEnv} {t : AuthTables} {start : Time}

def At (t : AuthTables) (start : Time) (w : World) : Prop := w.tables = t ∧ start ≤ w.now

theorem stable_at : Stable Ticks (At t start) := by
  intro w w' hticks hw
  exact ⟨hticks.1.trans hw.1, hw.2.trans hticks.2.2⟩

theorem ensures_timeNow : Ensures Ticks (At t start) timeNow
    (fun now w => start ≤ now ∧ At t now w) :=
  ensures_read stable_at (fun w hw => ⟨hw.2, hw.1, Nat.le_refl w.now⟩) fun _ =>
    stable_given stable_at

theorem ensures_query {α : Type} (f : AuthTables → α) : Ensures Ticks (At t start) (query f)
    (fun answer w => answer = f t ∧ At t start w) :=
  ensures_read stable_at (fun _ hw => ⟨congrArg f hw.1, hw⟩) fun _ => stable_given stable_at

theorem ensures_validate (raw : String) : Ensures Ticks (At t start) (validate env raw)
    (fun res w => (∃ now, validateToken env.jwt env.jwtSecret raw now = res) ∧ At t start w) := by
  refine ensures_bind ensures_timeNow ?_
  intro now
  refine ensures_pure (stable_given stable_at) ?_
  intro w hw
  exact ⟨⟨now, rfl⟩, hw.2.1, hw.1.trans hw.2.2⟩

def Signed (env : AuthEnv) (c : TokenClaims) (isAdmin : Bool) (t : AuthTables) (start : Time)
    (token : String) (w : World) : Prop :=
  ∃ first second, start ≤ first ∧ first ≤ second ∧
    token = env.jwt.sign env.jwtSecret (issued c isAdmin first second) ∧ At t second w

theorem stable_signed {c : TokenClaims} {isAdmin : Bool} {token : String} :
    Stable Ticks (Signed env c isAdmin t start token) := by
  intro w w' hticks hw
  obtain ⟨first, second, hfirst, hsecond, htoken, hat⟩ := hw
  exact ⟨first, second, hfirst, hsecond, htoken, stable_at w w' hticks hat⟩

theorem ensures_record {I : World → Prop} (claims : TokenClaims) (stable : Stable Ticks I)
    (h : ∀ w, I w → I { w with signed := claims :: w.signed }) :
    Ensures Ticks I (record claims) fun _ => I :=
  ensures_modify stable h fun _ => stable

theorem ensures_timeOr (f : Time → Nat) : Ensures Ticks (At t start) (timeOr none f)
    (fun value w => ∃ now, start ≤ now ∧ value = f now ∧ At t now w) := by
  refine ensures_bind ensures_timeNow ?_
  intro now
  exact ensures_pure (stable_given stable_at) fun _ hw => ⟨now, hw.1, rfl, hw.2⟩

theorem ensures_generateToken (c : TokenClaims) (isAdmin : Bool) :
    Ensures Ticks (At t start)
      (generateToken env
        { userID := c.userID, username := c.username, email := c.email, isAdmin := isAdmin })
      (Signed env c isAdmin t start) := by
  refine ensures_bind (ensures_timeOr _) ?_
  intro expiresAt w token w' hw hrun
  obtain ⟨first, hfirst, rfl, hat⟩ := hw
  refine ensures_bind (ensures_timeOr _) ?_ w token w' hat hrun
  intro issuedAt w token w' hw hrun
  obtain ⟨second, hsecond, rfl, hat⟩ := hw
  refine ensures_bind (ensures_record _ stable_at fun w hw => hw) ?_ w token w' hat hrun
  intro _
  exact ensures_pure stable_at fun _ hw => ⟨first, second, hfirst, hsecond, rfl, hw⟩

theorem ensures_issueSession (c : TokenClaims) (isAdmin passwordMustChange : Bool) :
    Ensures Ticks (At t start)
      (issueSession env c.userID c.username c.email isAdmin passwordMustChange)
      fun res => Signed env c isAdmin t start res.token := by
  refine ensures_bind ensures_timeNow ?_
  intro now
  have hlater : ∀ w, start ≤ now ∧ At t now w → At t start w :=
    fun _ hw => ⟨hw.2.1, hw.1.trans hw.2.2⟩
  refine ensures_bind ((ensures_generateToken c isAdmin).mono hlater fun _ _ hw => hw) ?_
  intro token
  exact ensures_pure stable_signed fun _ hw => hw

def revoked (env : AuthEnv) (t : AuthTables) (raw : String) : Option Nat → AuthTables
  | none => t
  | some expiresAt => t.addBlacklist ⟨env.hashToken raw, expiresAt * Time.second⟩

structure Refreshed (env : AuthEnv) (t : AuthTables) (start : Time) (raw : String)
    (c : TokenClaims) (u : User) (first second : Time) (res : LoginResponse) (w : World) :
    Prop where
  verified : env.jwt.verify env.jwtSecret raw = some c
  unlisted : t.isBlacklisted (env.hashToken raw) = false
  row : t.db.userByID c.userID = some u
  first_le : start ≤ first
  second_le : first ≤ second
  token : res.token = env.jwt.sign env.jwtSecret (issued c u.isAdmin first second)
  tables : At (revoked env t raw c.expiresAt) second w

theorem ensures_blacklist {start : Time} (raw : String) (expiresAt : Option Nat) :
    Ensures Ticks (At t start) (blacklist env raw expiresAt)
      fun _ => At (revoked env t raw expiresAt) start := by
  cases expiresAt with
  | none => exact ensures_pure stable_at fun _ hw => hw
  | some e =>
    refine ensures_modify stable_at ?_ fun _ => stable_at
    intro w hw
    refine ⟨?_, hw.2⟩
    rw [hw.1]
    rfl

def Answers (env : AuthEnv) (authorization : String) (t : AuthTables) (start : Time)
    (res : Except HandlerError LoginResponse) (w : World) : Prop :=
  ∀ answer, res = .ok answer → ∃ raw c u first second, bearer authorization = some raw ∧
    Refreshed env t start raw c u first second answer w

theorem ensures_refreshToken (authorization : String) :
    Ensures Ticks (At t start) (refreshToken env authorization)
      (Answers env authorization t start) := by
  unfold refreshToken
  have herror : ∀ e, Ensures Ticks (At t start) (pure (.error e))
      (Answers env authorization t start) :=
    fun _ => ensures_pure stable_at fun _ _ => nofun
  split
  · exact herror _
  rename_i raw hraw
  refine ensures_bind (ensures_validate raw) fun res => ensures_given fun hvalid => ?_
  cases res with
  | none => exact herror _
  | some c =>
    obtain ⟨now, hvalid⟩ := hvalid
    refine ensures_bind (ensures_query _) fun listed => ensures_given fun hlisted => ?_
    split
    · exact herror _
    rename_i hunlisted
    split
    · exact herror _
    refine ensures_bind (ensures_query _) fun user => ensures_given fun huser => ?_
    cases user with
    | none => exact herror _
    | some u =>
      dsimp only
      split
      · exact herror _
      refine ensures_bind (ensures_issueSession c u.isAdmin false) ?_
      intro answer w res w' hw hrun
      obtain ⟨first, second, hfirst, hsecond, htoken, hat⟩ := hw
      have hanswer : Ensures Ticks (At (revoked env t raw c.expiresAt) second)
          (pure (.ok answer)) (Answers env authorization t start) := by
        refine ensures_pure stable_at ?_
        intro w hw answer' hok
        cases hok
        refine ⟨raw, c, u, first, second, (Option.filter_eq_some_iff.mp hraw).1, ?_⟩
        exact ⟨(validateToken_eq_some.mp hvalid).1,
          hlisted ▸ Bool.eq_false_of_not_eq_true hunlisted, huser.symm, hfirst, hsecond, htoken, hw⟩
      exact ensures_bind (ensures_blacklist raw c.expiresAt) (fun _ => hanswer) w res w' hat hrun

end Programs

section Accepted

variable {env : AuthEnv} {t : AuthTables} {raw : String} {expiresAt : Option Nat}

theorem isBlacklisted_revoked {tokenHash : String} :
    (revoked env t raw expiresAt).isBlacklisted tokenHash = true ↔
      t.isBlacklisted tokenHash = true ∨
        expiresAt ≠ none ∧ tokenHash = env.hashToken raw := by
  cases expiresAt with
  | none => simp [revoked]
  | some e =>
    simp only [AuthTables.isBlacklisted_eq_true]
    constructor
    · intro h
      obtain ⟨row, hrow, rfl⟩ := h
      rcases AuthTables.mem_addBlacklist hrow with hold | rfl
      · exact .inl ⟨row, hold, rfl⟩
      · exact .inr ⟨nofun, rfl⟩
    · intro h
      rcases h with ⟨row, hrow, hhash⟩ | ⟨_, rfl⟩
      · exact ⟨row, AuthTables.subset_addBlacklist hrow, hhash⟩
      · exact AuthTables.exists_mem_addBlacklist t _

theorem sign_injective (env : AuthEnv) : Function.Injective (env.jwt.sign env.jwtSecret) := by
  intro c c' h
  have hverify : env.jwt.verify env.jwtSecret (env.jwt.sign env.jwtSecret c') = some c :=
    h ▸ verify_sign
  exact Option.some.inj (hverify.symm.trans verify_sign)

variable {c : TokenClaims}

variable {w : World}

theorem refreshToken_alone {raw : String} {u : User} (hraw : raw ≠ "")
    (hvalid : validateToken env.jwt env.jwtSecret raw w.now = some c)
    (hlisted : w.tables.isBlacklisted (env.hashToken raw) = false) (htype : c.tokenType ≠ "mfa")
    (huser : w.tables.db.userByID c.userID = some u) (hactive : u.isActive = true) :
    (refreshToken env ("Bearer " ++ raw)).alone w =
      ({ w with
          tables := revoked env w.tables raw c.expiresAt
          signed := issued c u.isAdmin w.now w.now :: w.signed },
        .ok { token := env.jwt.sign env.jwtSecret (issued c u.isAdmin w.now w.now),
              expiresAt := (w.now + 24 * Time.hour) / Time.second }) := by
  unfold refreshToken
  rw [bearer_filter rfl hraw]
  cases hexpires : c.expiresAt with
  | none =>
    simp [validate, timeNow, query, hvalid, hlisted, htype, huser, hactive, issueSession,
      generateToken, timeOr, record, blacklist, hexpires, revoked, issued, renewed]
  | some e =>
    simp [validate, timeNow, query, hvalid, hlisted, htype, huser, hactive, issueSession,
      generateToken, timeOr, record, blacklist, exec, hexpires, revoked, issued, renewed]

theorem jwtMiddleware_alone_listed {raw : String}
    (hvalid : validateToken env.jwt env.jwtSecret raw w.now = some c) (htype : c.tokenType ≠ "mfa")
    (hlisted : w.tables.isBlacklisted (env.hashToken raw) = true) :
    (jwtMiddleware env ("Bearer " ++ raw)).alone w =
      (w, .error ⟨401, "token has been revoked"⟩) := by
  simp [jwtMiddleware, bearer_append, validate, timeNow, query, hvalid, htype, hlisted]

theorem jwtMiddleware_passes_iff {raw : String}
    (hvalid : validateToken env.jwt env.jwtSecret raw w.now = some c)
    (htype : c.tokenType ≠ "mfa") :
    (∃ c', (jwtMiddleware env ("Bearer " ++ raw)).alone w = (w, .ok c')) ↔
      ¬ w.tables.isBlacklisted (env.hashToken raw) = true := by
  cases hlisted : w.tables.isBlacklisted (env.hashToken raw) with
  | true =>
    rw [jwtMiddleware_alone_listed hvalid htype hlisted]
    simp
  | false =>
    simp only [Bool.false_eq_true, not_false_eq_true, iff_true]
    exact ⟨c, jwtMiddleware_alone hvalid htype hlisted⟩

theorem timely_issued {isAdmin : Bool} {start now first second : Time}
    (hfirst : start ≤ first) (hsoon : now + Time.second ≤ start + 24 * Time.hour) :
    (issued c isAdmin first second).Timely now := by
  refine ⟨?_, nofun⟩
  intro e he
  cases he
  have hpositive : 0 < Time.second := by decide
  have hfloor := Nat.lt_div_mul_add hpositive (a := first + 24 * Time.hour)
  have hlate : start + 24 * Time.hour ≤ first + 24 * Time.hour := Nat.add_le_add_right hfirst _
  exact Nat.lt_of_add_lt_add_right ((hsoon.trans hlate).trans_lt hfloor)

end Accepted

/-- The new token passes exactly when it was not listed before and is not the old one, which is
listed now if it has an expiry. It is the old one exactly when nothing in the claims has changed,
the seconds of issue and expiry included. -/
theorem refreshed_token_accepted_iff (env : AuthEnv) {authorization : String} {w w' : World}
    {res : LoginResponse} (hrun : Disturbed Ticks (refreshToken env authorization) w (.ok res) w')
    (hsoon : w'.now + Time.second ≤ w.now + 24 * Time.hour) :
    ∃ raw c u first second, bearer authorization = some raw ∧
      Refreshed env w.tables w.now raw c u first second res w' ∧
      ((∃ c', (jwtMiddleware env ("Bearer " ++ res.token)).alone w' = (w', .ok c')) ↔
        ¬ w.Lists (env.hashToken res.token) ∧
          (c.expiresAt ≠ none → env.hashToken res.token ≠ env.hashToken raw)) ∧
      (Function.Injective env.hashToken → raw = env.jwt.sign env.jwtSecret c →
        (env.hashToken res.token = env.hashToken raw ↔ issued c u.isAdmin first second = c)) := by
  obtain ⟨raw, c, u, first, second, hbearer, h⟩ :=
    ensures_refreshToken authorization w _ w' ⟨rfl, Nat.le_refl w.now⟩ hrun res rfl
  refine ⟨raw, c, u, first, second, hbearer, h, ?_, ?_⟩
  · have hvalid : validateToken env.jwt env.jwtSecret res.token w'.now =
        some (issued c u.isAdmin first second) := by
      rw [h.token]
      exact validateToken_eq_some.mpr ⟨verify_sign, timely_issued h.first_le hsoon⟩
    rw [jwtMiddleware_passes_iff hvalid (by simp [issued, renewed]), h.tables.1,
      isBlacklisted_revoked, AuthTables.isBlacklisted_eq_true, not_or, not_and]
    rfl
  · intro hinjective hraw
    rw [hinjective.eq_iff, h.token]
    conv_lhs => rw [hraw]
    exact (sign_injective env).eq_iff

open SessionProvenance TokenRevocation

def carolAt (now : Time) : World := { carolWorld with now := now }

theorem carol_valid_at {now : Time} (h : now < carolExpiry) :
    validateToken sampleEnv.jwt sampleEnv.jwtSecret carolToken now = some carolClaims := by
  refine validateToken_eq_some.mpr ⟨verify_sign, ?_, nofun⟩
  intro e he
  cases he
  exact h

theorem carol_refreshes {now : Time} (h : now < carolExpiry) :
    (refreshToken sampleEnv carolHeader).alone (carolAt now) =
      ({ carolAt now with
          tables := revoked sampleEnv carolTables carolToken (some 86400)
          signed := [issued carolClaims false now now, carolClaims] },
        .ok { token := sampleJwt.sign "secret" (issued carolClaims false now now),
              expiresAt := (now + 24 * Time.hour) / Time.second }) := by
  exact refreshToken_alone (u := carol) carolToken_ne_empty (carol_valid_at h) rfl (by decide) rfl
    rfl

/-- In the same second the new token is the old one. -/
theorem refreshed_token_revoked :
    ((refreshToken sampleEnv carolHeader).alone (carolAt 0)).2 =
        .ok { token := carolToken, expiresAt := 86400 } ∧
      ((jwtMiddleware sampleEnv ("Bearer " ++ carolToken)).alone
        ((refreshToken sampleEnv carolHeader).alone (carolAt 0)).1).2 =
          .error ⟨401, "token has been revoked"⟩ := by
  have hsame : issued carolClaims false 0 0 = carolClaims := by decide
  rw [carol_refreshes (by decide), hsame]
  refine ⟨rfl, ?_⟩
  generalize hw : ({ carolAt 0 with
    tables := revoked sampleEnv carolTables carolToken (some 86400)
    signed := [carolClaims, carolClaims] } : World) = w
  have hvalid : validateToken sampleEnv.jwt sampleEnv.jwtSecret carolToken w.now =
      some carolClaims := hw ▸ carol_valid
  have hlisted : w.tables.isBlacklisted (sampleEnv.hashToken carolToken) = true := by
    rw [← hw]
    exact isBlacklisted_revoked.mpr (.inr ⟨nofun, rfl⟩)
  rw [jwtMiddleware_alone_listed hvalid (by decide) hlisted]

/-- The request of a second later. -/
theorem refreshed_token_of_later_second : ∃ res w',
    Disturbed Ticks (refreshToken sampleEnv carolHeader) (carolAt Time.second) (.ok res) w' ∧
      w'.now + Time.second ≤ (carolAt Time.second).now + 24 * Time.hour ∧
      ∃ raw c u first second, bearer carolHeader = some raw ∧
        Refreshed sampleEnv (carolAt Time.second).tables (carolAt Time.second).now raw c u first
          second res w' ∧
        ((∃ c', (jwtMiddleware sampleEnv ("Bearer " ++ res.token)).alone w' = (w', .ok c')) ↔
          ¬ (carolAt Time.second).Lists (sampleEnv.hashToken res.token) ∧
            (c.expiresAt ≠ none → sampleEnv.hashToken res.token ≠ sampleEnv.hashToken raw)) ∧
        (Function.Injective sampleEnv.hashToken →
          raw = sampleEnv.jwt.sign sampleEnv.jwtSecret c →
          (sampleEnv.hashToken res.token = sampleEnv.hashToken raw ↔
            issued c u.isAdmin first second = c)) := by
  have hrun : Disturbed Ticks (refreshToken sampleEnv carolHeader) (carolAt Time.second) _ _ :=
    disturbed_alone _ _
  rw [carol_refreshes (by decide)] at hrun
  have hsoon : Time.second + Time.second ≤ Time.second + 24 * Time.hour := by decide
  exact ⟨_, _, hrun, hsoon, refreshed_token_accepted_iff sampleEnv hrun hsoon⟩

end Outpost.RefreshedTokens
