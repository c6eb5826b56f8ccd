import Outpost.SessionProvenance

/-!
# Revoked tokens

Logout and refresh write the hash of a token to the blacklist, with the expiry of the
token, and the cleanup deletes rows whose expiry has passed. A token is checked by two
actions, one that reads the clock and one that reads the list.
-/

namespace Outpost

open Interleaving AuthHandler Runs Function

def World.Lists (w : World) (tokenHash : String) : Prop :=
  ∃ row ∈ w.tables.blacklist, row.tokenHash = tokenHash

namespace AuthTables

variable {t : AuthTables} {row : BlacklistRow}

theorem isBlacklisted_eq_true {tokenHash : String} :
    t.isBlacklisted tokenHash = true ↔ ∃ row ∈ t.blacklist, row.tokenHash = tokenHash := by
  simp [isBlacklisted]

theorem mem_addBlacklist {row' : BlacklistRow} (h : row' ∈ (t.addBlacklist row).blacklist) :
    row' ∈ t.blacklist ∨ row' = row := by
  unfold addBlacklist at h
  split at h
  · exact .inl h
  · simpa using h

theorem subset_addBlacklist : t.blacklist ⊆ (t.addBlacklist row).blacklist := by
  unfold addBlacklist
  split
  · exact List.Subset.refl _
  · exact List.subset_append_left _ _

theorem exists_mem_addBlacklist (t : AuthTables) (row : BlacklistRow) :
    ∃ row' ∈ (t.addBlacklist row).blacklist, row'.tokenHash = row.tokenHash := by
  unfold addBlacklist
  split
  · rename_i hlisted
    exact isBlacklisted_eq_true.mp hlisted
  · exact ⟨row, by simp, rfl⟩

theorem db_addBlacklist (t : AuthTables) (row : BlacklistRow) : (t.addBlacklist row).db = t.db := by
  unfold addBlacklist
  split <;> rfl

theorem mem_cleanupBlacklist {now : Time} :
    row ∈ (t.cleanupBlacklist now).blacklist ↔ row ∈ t.blacklist ∧ now ≤ row.expiresAt := by
  simp [cleanupBlacklist]

end AuthTables

namespace TokenRevocation

inductive Request where
  | serve (r : SessionProvenance.Request)
  | logout (authorization : String)
  | cleanup

inductive Reply where
  | served (reply : SessionProvenance.Reply)
  | status (text : String)
  | cleaned

abbrev Server := Pool World Request (Except HandlerError Reply)

abbrev Happening := Event World Request (Except HandlerError Reply)

def Request.tokens : Request → List String
  | .serve r => r.tokens
  | .logout authorization => (bearer authorization).toList
  | .cleanup => []

section System

variable (env : AuthEnv) (cfg : Saml.Config)

def handle : Request → Prog World (Except HandlerError Reply)
  | .serve r => return (← SessionProvenance.handle env cfg r).map .served
  | .logout authorization => return (← logout env authorization).map .status
  | .cleanup => do
    cleanup
    return .ok .cleaned

def Other (w w' : World) : Prop := w'.tables.blacklist = w.tables.blacklist ∧ w.now ≤ w'.now

/-- A string that is presented and has the hash of `raw` is `raw`. -/
def NoCollision (raw : String) (_ : Server) : Happening → Prop
  | .start _ r => ∀ raw' ∈ r.tokens, env.hashToken raw' = env.hashToken raw → raw' = raw
  | _ => True

def Expires (raw : String) (expiry : Time) : Prop :=
  ∃ c e, env.jwt.verify env.jwtSecret raw = some c ∧ c.expiresAt = some e ∧
    expiry = e * Time.second

def Accepted (raw : String) : Thread World Request (Except HandlerError Reply) → Prop
  | .answered (.serve (.api authorization)) (.ok _) => bearer authorization = some raw
  | .answered (.serve (.refresh authorization)) (.ok _) => bearer authorization = some raw
  | _ => False

inductive Touches (r : Request) (w w' : World) : Prop where
  | kept : w'.tables.blacklist = w.tables.blacklist → w'.now = w.now → Touches r w w'
  | listed {raw : String} {expiry : Time} : raw ∈ r.tokens → Expires env raw expiry →
      w'.tables.blacklist = (w.tables.addBlacklist ⟨env.hashToken raw, expiry⟩).blacklist →
      w'.now = w.now → Touches r w w'
  | cleaned : w'.tables.blacklist = (w.tables.cleanupBlacklist w.now).blacklist →
      w'.now = w.now → Touches r w w'

def Checked : Request → List World → Except HandlerError Reply → Prop
  | .serve r, seen, res =>
    ∃ served, res = served.map .served ∧ SessionProvenance.Checked env r seen served
  | _, _, _ => True

end System

section Programs

open Prog

variable {env : AuthEnv} {cfg : Saml.Config}

theorem Touches.of_lists {r : Request} {authorization : String} {w w' : World}
    (htokens : ∀ raw, bearer authorization = some raw → raw ∈ r.tokens)
    (h : Lists (Revokes env authorization) w w') (hnow : w'.now = w.now) : Touches env r w w' := by
  rcases h with hsame | ⟨row, ⟨raw, c, e, hbearer, hverify, he, rfl⟩, hlist⟩
  · exact .kept hsame hnow
  · exact .listed (htokens raw hbearer) ⟨c, e, hverify, he, rfl⟩ hlist hnow

theorem touches_of_adds {r : SessionProvenance.Request} {w w' : World}
    (h : Lists (SessionProvenance.Adds env r) w w') (hnow : w'.now = w.now) :
    Touches env (.serve r) w w' := by
  cases r with
  | refresh authorization =>
    refine .of_lists ?_ h hnow
    intro raw hbearer
    simp [Request.tokens, SessionProvenance.Request.tokens, hbearer]
  | _ =>
    rcases h with hsame | ⟨_, hadds, _⟩
    · exact .kept hsame hnow
    · exact hadds.elim

theorem keeps_handle (r : Request) :
    Keeps (fun _ => Touches env r) (Checked env r) [] (handle env cfg r) := by
  cases r with
  | serve r =>
    apply keeps_bind
    · refine keeps_imp (SessionProvenance.keeps_handle r) ?_
      intro seen w w' hdoes
      exact touches_of_adds hdoes.lists hdoes.now
    · exact fun seen res _ hres => keeps_pure ⟨res, rfl, hres⟩
  | logout authorization =>
    apply keeps_bind
    · have hlogout : Keeps (Does (fun _ _ => False) _) _ _ (logout env authorization) :=
        keeps_logout authorization
      refine keeps_imp hlogout ?_
      intro seen w w' hdoes
      refine .of_lists ?_ hdoes.lists hdoes.now
      intro raw hbearer
      simp [Request.tokens, hbearer]
    · exact fun _ _ _ _ => keeps_pure trivial
  | cleanup =>
    have hclean : Keeps (fun _ => Touches env .cleanup) (fun _ _ => True) [] AuthHandler.cleanup :=
      keeps_modify (fun w => .cleaned rfl rfl) fun _ => trivial
    exact keeps_bind hclean fun _ _ _ _ => keeps_pure trivial

end Programs

section Listed

variable {env : AuthEnv} {cfg : Saml.Config} {raw : String} {w w' : World} {r : Request}

def Honest (env : AuthEnv) (raw : String) (w : World) : Prop :=
  ∀ row ∈ w.tables.blacklist, row.tokenHash = env.hashToken raw → Expires env raw row.expiresAt

def Spent (env : AuthEnv) (raw : String) (w : World) : Prop :=
  w.Lists (env.hashToken raw) ∨ ∃ expiry, Expires env raw expiry ∧ expiry < w.now

theorem Touches.now (h : Touches env r w w') : w'.now = w.now := by
  cases h with
  | kept _ hnow => exact hnow
  | listed _ _ _ hnow => exact hnow
  | cleaned _ hnow => exact hnow

theorem now_of_seen_alone {n : Nat} {s : World}
    (hw : w ∈ seen n (.start n r :: aloneEvents n (handle env cfg r) s)) : w.now = s.now := by
  have hclock : (handle env cfg r).Keeps (fun _ w w' => w.now = s.now → w'.now = s.now)
      (Checked env r) [] :=
    Prog.keeps_imp (keeps_handle r) fun _ _ _ htouches hnow => htouches.now.trans hnow
  rcases List.mem_cons.mp (mem_seen.mp hw) with hw | hw
  · cases hw
  · exact found_alone (P := fun w : World => w.now = s.now) hclock rfl hw

theorem honest_of_touches (hraw : ∀ raw' ∈ r.tokens, env.hashToken raw' = env.hashToken raw →
    raw' = raw) (htouches : Touches env r w w') (h : Honest env raw w) : Honest env raw w' := by
  intro row hrow hhash
  cases htouches with
  | kept hsame _ => exact h row (hsame ▸ hrow) hhash
  | @listed raw' expiry htoken hexpires hlist _ =>
    rw [hlist] at hrow
    rcases AuthTables.mem_addBlacklist hrow with hold | rfl
    · exact h row hold hhash
    · exact hraw raw' htoken hhash ▸ hexpires
  | cleaned hlist _ =>
    rw [hlist] at hrow
    exact h row (AuthTables.mem_cleanupBlacklist.mp hrow).1 hhash

theorem spent_of_touches (htouches : Touches env r w w') (hhonest : Honest env raw w)
    (h : Spent env raw w) : Spent env raw w' := by
  rcases h with ⟨row, hrow, hhash⟩ | ⟨expiry, hexpires, hpast⟩
  · cases htouches with
    | kept hsame _ => exact .inl ⟨row, hsame ▸ hrow, hhash⟩
    | listed _ _ hlist _ =>
      exact .inl ⟨row, hlist ▸ AuthTables.subset_addBlacklist hrow, hhash⟩
    | cleaned hlist hnow =>
      by_cases hpast : row.expiresAt < w.now
      · exact .inr ⟨row.expiresAt, hhonest row hrow hhash, hnow ▸ hpast⟩
      · refine .inl ⟨row, ?_, hhash⟩
        rw [hlist]
        exact AuthTables.mem_cleanupBlacklist.mpr ⟨hrow, not_lt.mp hpast⟩
  · exact .inr ⟨expiry, hexpires, htouches.now ▸ hpast⟩

theorem honest_of_other (hother : Other w w') (h : Honest env raw w) : Honest env raw w' := by
  intro row hrow
  rw [hother.1] at hrow
  exact h row hrow

theorem spent_of_other (hother : Other w w') (h : Spent env raw w) : Spent env raw w' := by
  rcases h with ⟨row, hrow, hhash⟩ | ⟨expiry, hexpires, hpast⟩
  · exact .inl ⟨row, hother.1 ▸ hrow, hhash⟩
  · exact .inr ⟨expiry, hexpires, lt_of_lt_of_le hpast hother.2⟩

structure Inv (env : AuthEnv) (raw : String) (past : List Happening) (p : Server) : Prop where
  threads : ∀ n, Accounted (fun r _ => Touches env r) (Checked env) past n (p.threads n)
  presented : ∀ n r, .start n r ∈ past → ∀ raw' ∈ r.tokens,
    env.hashToken raw' = env.hashToken raw → raw' = raw
  honest : Honest env raw p.shared

variable {past : List Happening} {p q : Server} {e : Happening}

theorem inv_step (hstep : Step (handle env cfg) Other p e q) (hguard : NoCollision env raw p e)
    (h : Inv env raw past p) : Inv env raw (past ++ [e]) q where
  threads := accounted_step keeps_handle hstep h.threads
  presented := by
    intro n r hstart
    rcases List.mem_append.mp hstart with hstart | hstart
    · exact h.presented n r hstart
    · obtain rfl := List.mem_singleton.mp hstart
      exact hguard
  honest := by
    rcases shared_step hstep h.threads with hsame | hother | ⟨n, r, hstart, htouches⟩
    · exact hsame ▸ h.honest
    · exact honest_of_other hother h.honest
    · exact honest_of_touches (h.presented n r hstart) htouches h.honest

theorem spent_step (hstep : Step (handle env cfg) Other p e q) (h : Inv env raw past p)
    (hspent : Spent env raw p.shared) : Spent env raw q.shared := by
  rcases shared_step hstep h.threads with hsame | hother | ⟨n, r, hstart, htouches⟩
  · exact hsame ▸ hspent
  · exact spent_of_other hother hspent
  · exact spent_of_touches htouches h.honest hspent

theorem accepted_found {n : Nat} {t : Thread World Request (Except HandlerError Reply)}
    (h : Accounted (fun r _ => Touches env r) (Checked env) past n t) (haccepted : Accepted raw t) :
    ∃ w₀ w₁ later, seen n past = w₀ :: w₁ :: later ∧
      (∃ c, validateToken env.jwt env.jwtSecret raw w₀.now = some c) ∧
      ¬ w₁.Lists (env.hashToken raw) := by
  have hunlisted : ∀ w : World, w.tables.isBlacklisted (env.hashToken raw) = false →
      ¬ w.Lists (env.hashToken raw) := by
    intro w hfalse hlists
    rw [AuthTables.isBlacklisted_eq_true.mpr hlists] at hfalse
    cases hfalse
  unfold Accepted at haccepted
  split at haccepted
  · obtain ⟨_, served, hserved, hchecked⟩ := h
    cases served with
    | error e => cases hserved
    | ok reply =>
      obtain ⟨c, _, raw', w₀, w₁, hseen, hbearer, hvalid, _, hlist⟩ := hchecked
      obtain rfl := Option.some.inj (haccepted.symm.trans hbearer)
      exact ⟨w₀, w₁, [], hseen, ⟨c, hvalid⟩, hunlisted w₁ hlist⟩
  · obtain ⟨_, served, hserved, hchecked⟩ := h
    cases served with
    | error e => cases hserved
    | ok reply =>
      obtain ⟨_, raw', c, u, w₀, w₁, w₂, later, hseen, hfound, _⟩ := hchecked
      obtain rfl := Option.some.inj
        (haccepted.symm.trans (Option.filter_eq_some_iff.mp hfound.bearer).1)
      exact ⟨w₀, w₁, w₂ :: later, hseen, ⟨c, hfound.valid⟩, hunlisted w₁ hfound.unlisted⟩
  · exact haccepted.elim

theorem spent_run {before after : List Happening} {mid : Server} (h : Inv env raw before mid)
    (hspent : Spent env raw mid.shared)
    (hrun : Run (Guarded (Step (handle env cfg) Other) (NoCollision env raw)) mid after q) :
    Inv env raw (before ++ after) q ∧ ∀ n, ∀ w ∈ seen n after, Spent env raw w := by
  have hall : Inv env raw (before ++ after) q ∧ Spent env raw q.shared ∧
      ∀ n w, .act n w ∈ after → Spent env raw w := by
    refine hrun.history (I := fun past s => Inv env raw (before ++ past) s ∧
      Spent env raw s.shared ∧ ∀ n w, .act n w ∈ past → Spent env raw w) ?_ ?_
    · intro past s e t ⟨hstep, hguard⟩ ⟨hinv, hnow, hfound⟩
      refine ⟨List.append_assoc before past [e] ▸ inv_step hstep hguard hinv,
        spent_step hstep hinv hnow, ?_⟩
      intro n w hw
      rcases List.mem_append.mp hw with hw | hw
      · exact hfound n w hw
      · obtain rfl := List.mem_singleton.mp hw
        cases hstep with
        | act _ => exact hnow
    · exact ⟨by rwa [List.append_nil], hspent, fun n w hw => absurd hw List.not_mem_nil⟩
  exact ⟨hall.1, fun n w hw => hall.2.2 n w (mem_seen.mp hw)⟩

end Listed

/-- Once a token is listed, a later request that does not read the clock before its expiry and
something else after it is never let through with it. -/
theorem listed_token_rejected (env : AuthEnv) (cfg : Saml.Config) {raw : String}
    {p mid q : Server} {before after : List Happening} {n : Nat} {r : Request}
    (hunused : ∀ n, p.threads n = .unused) (hclean : ¬ p.shared.Lists (env.hashToken raw))
    (hbefore : Run (Guarded (Step (handle env cfg) Other) (NoCollision env raw)) p before mid)
    (hlisted : mid.shared.Lists (env.hashToken raw))
    (hafter : Run (Guarded (Step (handle env cfg) Other) (NoCollision env raw)) mid after q)
    (hstart : .start n r ∈ after)
    (hclock : ∀ expiry, Expires env raw expiry → ∀ w ∈ seen n after, ∀ w' ∈ seen n after,
      w.now < expiry → w'.now ≤ expiry) :
    ¬ Accepted raw (q.threads n) := by
  have hinv : Inv env raw before mid := by
    refine hbefore.history (fun past s e t hstep h => inv_step hstep.1 hstep.2 h) ⟨?_, nofun, ?_⟩
    · intro n
      rw [hunused n]
      rfl
    · exact fun row hrow hhash => absurd ⟨row, hrow, hhash⟩ hclean
  obtain ⟨hinv', hspent⟩ := spent_run hinv (.inl hlisted) hafter
  intro haccepted
  obtain ⟨w₀, w₁, later, hseen, ⟨c, hvalid⟩, hunlisted⟩ :=
    accepted_found (hinv'.threads n) haccepted
  -- the request started after the listing, so these are states of the second run
  have hnone : seen n before = [] := by
    have hthread := hinv.threads n
    rw [unused_of_start hafter.of_guarded hstart] at hthread
    exact hthread
  rw [seen_append, hnone, List.nil_append] at hseen
  have hw₀ : w₀ ∈ seen n after := hseen ▸ .head _
  have hw₁ : w₁ ∈ seen n after := hseen ▸ List.mem_cons_of_mem _ List.mem_cons_self
  rcases hspent n w₁ hw₁ with hlists | ⟨expiry, hexpires, hpast⟩
  · exact hunlisted hlists
  · obtain ⟨hverify, htimely⟩ := validateToken_eq_some.mp hvalid
    obtain ⟨c', e, hverify', he, rfl⟩ := id hexpires
    obtain rfl := Option.some.inj (hverify.symm.trans hverify')
    exact absurd (hclock _ hexpires w₀ hw₀ w₁ hw₁ (htimely.1 e he)) (not_le.mpr hpast)

open SessionProvenance (sampleEnv noSaml sampleJwt carolTables carolClaims carolHeader)

def carolToken : String := sampleJwt.sign "secret" carolClaims

theorem carolHeader_eq : carolHeader = "Bearer " ++ carolToken := by
  unfold carolHeader carolToken
  with_reducible rfl

theorem carolToken_ne_empty : carolToken ≠ "" := by
  exact SessionProvenance.sign_ne_empty carolClaims

def carolExpiry : Time := 86400 * Time.second

def carolWorld : World := ⟨carolTables, 0, [carolClaims]⟩

def carolServer : Server := ⟨carolWorld, fun _ => .unused⟩

def listedWorld : World :=
  { carolWorld with tables := { carolTables with blacklist := [⟨carolToken, carolExpiry⟩] } }

def lateWorld : World := { listedWorld with now := carolExpiry + 1 }

theorem carol_valid : validateToken sampleEnv.jwt sampleEnv.jwtSecret carolToken 0 =
    some carolClaims := by
  have hverify : sampleJwt.verify "secret" (sampleJwt.sign "secret" carolClaims) =
      some carolClaims := verify_sign
  exact validateToken_eq_some.mpr ⟨hverify, by decide⟩

theorem carol_expires : Expires sampleEnv carolToken carolExpiry :=
  ⟨carolClaims, 86400, verify_sign, rfl, rfl⟩

theorem logout_carol : (handle sampleEnv noSaml (.logout carolHeader)).alone carolWorld =
    (listedWorld, .ok (.status "ok")) := by
  have hlogout : (logout sampleEnv carolHeader).alone carolWorld = (listedWorld, .ok "ok") :=
    logout_alone (SessionProvenance.sign_ne_empty carolClaims) carol_valid rfl
  simp only [handle, Prog.alone_bind, hlogout]
  rfl

theorem carol_logs_out : ∃ past mid,
    Run (Guarded (Step (handle sampleEnv noSaml) Other) (NoCollision sampleEnv carolToken))
      carolServer past mid ∧
    mid.shared = listedWorld ∧ mid.threads 1 = .unused ∧ mid.threads 2 = .unused := by
  refine ⟨_, _, Pool.run_play (fun _ _ _ => trivial) (fun _ _ _ => trivial)
    [.start 0 (.logout carolHeader), .finish 0] carolServer ⟨fun _ _ h => h, trivial, trivial⟩, ?_,
      ?_, ?_⟩
  · simp [Pool.play, Pool.move, carolServer, logout_carol]
  · simp [Pool.play, Pool.move, carolServer]
  · simp [Pool.play, Pool.move, carolServer]

theorem listedWorld_lists : listedWorld.Lists (sampleEnv.hashToken carolToken) :=
  ⟨_, List.mem_singleton.mpr rfl, rfl⟩

/-- The request is turned away while the row is there. -/
theorem carol_stays_out :
    ∃ before mid after q,
      Run (Guarded (Step (handle sampleEnv noSaml) Other) (NoCollision sampleEnv carolToken))
        carolServer before mid ∧
      mid.shared.Lists (sampleEnv.hashToken carolToken) ∧
      Run (Guarded (Step (handle sampleEnv noSaml) Other) (NoCollision sampleEnv carolToken))
        mid after q ∧
      (∃ res, q.threads 1 = .answered (.serve (.api carolHeader)) res) ∧
      ¬ Accepted carolToken (q.threads 1) := by
  obtain ⟨before, mid, hbefore, hshared, hunused, _⟩ := carol_logs_out
  have hlists := hshared ▸ listedWorld_lists
  have hafter : Run (Guarded (Step (handle sampleEnv noSaml) Other)
      (NoCollision sampleEnv carolToken)) mid (.start 1 (.serve (.api carolHeader)) :: _) _ :=
    run_request (fun _ _ _ => trivial) (fun _ _ _ => trivial) hunused (fun _ _ h => h)
  refine ⟨before, mid, _, _, hbefore, hlists, hafter,
    ⟨_, by simp; rfl⟩, ?_⟩
  refine listed_token_rejected sampleEnv noSaml (fun _ => rfl) ?_ hbefore hlists hafter
    List.mem_cons_self ?_
  · rintro ⟨row, hrow, _⟩
    cases hrow
  · -- the clock stands still
    intro expiry _ w _ w' hw' _
    rw [now_of_seen_alone hw', hshared]
    exact Nat.zero_le expiry

/-- The request reads the clock just before the expiry and the list after the row was
cleaned up. -/
theorem carol_comes_back :
    ∃ before mid after q,
      Run (Guarded (Step (handle sampleEnv noSaml) Other) (NoCollision sampleEnv carolToken))
        carolServer before mid ∧
      mid.shared.Lists (sampleEnv.hashToken carolToken) ∧
      Run (Guarded (Step (handle sampleEnv noSaml) Other) (NoCollision sampleEnv carolToken))
        mid after q ∧
      .start 1 (.serve (.api carolHeader)) ∈ after ∧ Accepted carolToken (q.threads 1) := by
  obtain ⟨before, mid, hbefore, hshared, hunused, hunused'⟩ := carol_logs_out
  have hfirst : (jwtMiddleware sampleEnv carolHeader).advance 1 listedWorld = _ :=
    jwtMiddleware_advance carol_valid (by decide)
  have hadvance : (handle sampleEnv noSaml (.serve (.api carolHeader))).advance 1 listedWorld = _ :=
    Prog.advance_bind (Prog.advance_bind hfirst _) _
  refine ⟨before, mid, _, _, hbefore, hshared ▸ listedWorld_lists, Pool.run_play
    (fun _ _ _ => trivial) (fun _ _ _ => trivial) [.start 1 (.serve (.api carolHeader)), .act 1 1,
      .other lateWorld, .start 2 .cleanup, .finish 2, .finish 1] mid ?_, ?_, ?_⟩
  · simp only [Pool.Playable, Pool.move, hunused, hshared, hadvance, update_self]
    refine ⟨fun _ _ h => h, trivial, ⟨⟨rfl, Nat.zero_le _⟩, trivial⟩, ?_, trivial, trivial, trivial⟩
    intro _ hnone
    cases hnone
  · simp only [Pool.play, Pool.move, hunused]
    exact List.mem_append_left _ List.mem_cons_self
  · have h21 : (2 : Nat) ≠ 1 := by decide
    simp only [Pool.play, Pool.move, hunused, hunused', hshared, hadvance, update_self, update_of_ne h21]
    exact bearer_append carolToken

end TokenRevocation

end Outpost
