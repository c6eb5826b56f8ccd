import Outpost.Oidc
import Outpost.Shared.Schedules

/-!
# The exchange of authorization codes

A code is stored by one authorize request, as its third action, and removed by the first action of
the token request that finds it.
-/

namespace Outpost.Oidc

open Interleaving Runs

/-- The row is what the authorize request could store: the redirect URI was registered for the
client. -/
structure Granted (params : AuthorizeParams) (claims : TokenClaims) (seen : List World)
    (ac : AuthCode) : Prop where
  clientID : ac.clientID = params.clientID
  userID : ac.userID = claims.userID
  redirectURI : ac.redirectURI = params.redirectURI
  codeChallenge : ac.codeChallenge = params.codeChallenge
  registered : ∃ w ∈ seen, ∃ client, w.tables.getClient params.clientID = some client ∧
    params.redirectURI ∈ client.redirectURIs
  lifetime : ∃ w ∈ seen, ac.createdAt = w.now ∧ ac.expiresAt = w.now + authCodeLifetime

def Names (env : Env) (ac : AuthCode) (res : TokenResponse) : Prop :=
  ∃ idClaims access, res.idToken = env.signIDToken idClaims ∧
    idClaims.subject = ac.userID ∧ idClaims.audience = [ac.clientID] ∧
    res.accessToken = env.signAccessToken access ∧ access.subject = ac.userID ∧
    access.clientID = ac.clientID

structure Accepted (env : Env) (form : TokenForm) (seen : List World) (ac : AuthCode)
    (res : TokenResponse) : Prop where
  code : ac.code = form.code
  taken : ∃ w rest, seen = w :: rest ∧ ac ∈ w.tables.codes
  inTime : ∃ w ∈ seen, ¬ ac.Expired w.now
  clientID : form.clientID = ac.clientID
  redirectURI : form.redirectURI = ac.redirectURI
  secret : ∃ w ∈ seen, ∃ client, w.tables.getClient form.clientID = some client ∧
    (client.secretHash ≠ "" →
      Passwords.checkPassword env.bcrypt client.secretHash form.clientSecret = true)
  verifier : ac.codeChallenge ≠ "" → env.s256 form.codeVerifier = ac.codeChallenge
  names : Names env ac res

/-- An authorize request may add its code as its third action, a token request removes a code as its
first. -/
def Does : Request → List World → World → World → Prop
  | .authorize params claims code, seen, w, w' => w'.tables.codes = w.tables.codes ∨
      seen.length = 2 ∧ ∃ c ac, claims = some c ∧ ac.code = code ∧ Granted params c seen ac ∧
        w'.tables.codes = w.tables.codes ++ [ac]
  | .token form, seen, w, w' => w'.tables.codes = w.tables.codes ∧ seen ≠ [] ∨
      ∃ f, form = some f ∧ w'.tables.codes = w.tables.codes.filter fun ac => ac.code ≠ f.code

def Answers (env : Env) : Request → List World → Except Error Reply → Prop
  | .authorize _ _ _, _, _ => True
  | .token form, seen, res => ∀ tokens, res = .ok (.tokens tokens) →
      ∃ f ac, form = some f ∧ Accepted env f seen ac tokens

section Programs

open Prog

variable {env : Env}

def Stores (params : AuthorizeParams) (claims : Option TokenClaims) (code : String)
    (seen : List World) (ac : AuthCode) : Prop :=
  ∃ c client w₀ w₁, claims = some c ∧ seen = [w₀, w₁] ∧
    w₀.tables.getClient params.clientID = some client ∧
    validateRedirectURI client params.redirectURI = true ∧
    ac = params.authCode client c.userID code w₁.now

variable {seen : List World} {ac : AuthCode} {form : TokenForm}

theorem Stores.granted {params : AuthorizeParams} {claims : Option TokenClaims} {code : String}
    (h : Stores params claims code seen ac) :
    seen.length = 2 ∧ ac.code = code ∧ ∃ c, claims = some c ∧ Granted params c seen ac := by
  obtain ⟨c, client, w₀, w₁, rfl, rfl, hclient, hvalid, rfl⟩ := h
  refine ⟨rfl, rfl, c, rfl, ?_⟩
  constructor
  · rfl
  · rfl
  · rfl
  · rfl
  · obtain ⟨uri, huri, heq⟩ := List.any_eq_true.mp hvalid
    exact ⟨w₀, .head _, client, hclient, of_decide_eq_true heq ▸ huri⟩
  · exact ⟨w₁, List.mem_cons_of_mem _ List.mem_cons_self, rfl, rfl⟩

theorem keeps_authorize_row (params : AuthorizeParams) (claims : Option TokenClaims)
    (code : String) : Keeps (fun seen w w' => w'.tables.codes = w.tables.codes ∨
        ∃ ac, Stores params claims code seen ac ∧ w'.tables.codes = w.tables.codes ++ [ac])
      (fun _ _ => True) [] (authorize env params claims code) := by
  cases claims with
  | none => exact keeps_pure trivial
  | some c =>
    refine keeps_bind (keeps_read_found fun _ => .inl rfl) ?_
    intro later client _ hclient
    obtain ⟨w₀, rfl, hclient⟩ := hclient
    cases client with
    | none => exact keeps_pure trivial
    | some client =>
      dsimp only
      split
      · exact keeps_pure trivial
      · rename_i hvalid
        split
        · exact keeps_pure trivial
        · split
          · exact keeps_pure trivial
          · refine keeps_bind (keeps_read_found fun _ => .inl rfl) ?_
            intro later now _ hnow
            obtain ⟨w₁, rfl, rfl⟩ := hnow
            refine keeps_seq (keeps_modify (fun w => ?_) fun _ => trivial) ?_
            · split
              · exact .inr ⟨_, ⟨c, client, w₀, w₁, rfl, rfl, hclient,
                  Bool.eq_true_of_not_eq_false hvalid, rfl⟩, rfl⟩
              · exact .inl rfl
            intro later created _
            split
            · split
              · exact keeps_pure trivial
              · exact keeps_pure trivial
            · exact keeps_pure trivial

theorem keeps_authorize (params : AuthorizeParams) (claims : Option TokenClaims) (code : String) :
    Keeps (Does (.authorize params claims code)) (fun _ _ => True) []
      (authorize env params claims code) := by
  refine keeps_imp (keeps_authorize_row params claims code) ?_
  intro seen w w' hadds
  rcases hadds with hsame | ⟨ac, hstores, hadds⟩
  · exact .inl hsame
  · obtain ⟨hlength, hcode, c, hclaims, hgranted⟩ := hstores.granted
    exact .inr ⟨hlength, c, ac, hclaims, hcode, hgranted, hadds⟩

theorem checkPassword_of_checkSecret {client : Client} (h : checkSecret env client form = none)
    (hsecret : client.secretHash ≠ "") :
    Passwords.checkPassword env.bcrypt client.secretHash form.clientSecret = true := by
  unfold checkSecret at h
  rw [if_neg hsecret] at h
  split at h
  · cases h
  · split at h
    · assumption
    · cases h

theorem s256_of_checkPKCE (h : checkPKCE env ac form = none) (hchallenge : ac.codeChallenge ≠ "") :
    env.s256 form.codeVerifier = ac.codeChallenge := by
  unfold checkPKCE at h
  rw [if_neg hchallenge] at h
  split at h
  · cases h
  · split at h
    · rename_i hverify
      unfold verifyPKCE at hverify
      split at hverify
      · exact of_decide_eq_true hverify
      · cases hverify
    · cases h

theorem of_checkCode {now : Time} (h : checkCode ac form now = none) :
    ¬ ac.Expired now ∧ form.clientID = ac.clientID ∧ form.redirectURI = ac.redirectURI := by
  unfold checkCode at h
  split at h
  · cases h
  · rename_i hexpired
    split at h
    · cases h
    · split at h
      · cases h
      · rename_i hclient
        split at h
        · cases h
        · rename_i hredirect
          exact ⟨hexpired, not_not.mp hclient, not_not.mp hredirect⟩

theorem keeps_reads {α : Type} (form : Option TokenForm) (f : World → α) (hseen : seen ≠ []) :
    Keeps (Does (.token form))
      (fun later value => ∃ w, later = seen ++ [w] ∧ f w = value) seen (.read f) :=
  keeps_read_found fun _ => .inl ⟨rfl, hseen⟩

/-- The tokens are signed for the row, with what two actions have found about the user. -/
def Issued (env : Env) (seen : List World) (ac : AuthCode) (res : TokenResponse) : Prop :=
  ∃ w ∈ seen, ∃ w' ∈ seen, ∃ user now now', w.tables.getUserInfo ac.userID = some user ∧
    res.idToken = env.signIDToken (buildIDTokenClaims env
      { user with groups := env.groupRows.visit (w'.tables.groupNames ac.userID) }
      ac.clientID ac.nonce now) ∧
    res.accessToken = env.signAccessToken (accessClaims env ac now') ∧
    res.scope = " ".intercalate ac.scopes

theorem Issued.names {res : TokenResponse} (h : Issued env seen ac res) : Names env ac res := by
  obtain ⟨w, _, _, _, user, _, _, huser, hid, haccess, _⟩ := h
  have hsubject : user.userID = ac.userID := by
    obtain ⟨u, hu, rfl⟩ := Option.map_eq_some_iff.mp huser
    exact (w.tables.db.userByID_eq_some hu).2
  exact ⟨_, _, hid, hsubject, rfl, haccess, rfl, rfl⟩

theorem keeps_issueTokens (form : Option TokenForm) (ac : AuthCode) (hseen : seen ≠ []) :
    Keeps (Does (.token form))
      (fun later res => ∀ tokens, res = .ok (.tokens tokens) → Issued env later ac tokens) seen
      (issueTokens env ac) := by
  refine keeps_bind (keeps_reads form (fun w => w.tables.getUserInfo ac.userID) hseen) ?_
  intro later user _ huser
  obtain ⟨w₀, rfl, huser⟩ := huser
  cases user with
  | none => exact keeps_pure nofun
  | some user =>
    have hne : ∀ {later : List World} {w : World}, later ++ [w] ≠ [] :=
      fun h => List.cons_ne_nil _ _ (List.append_eq_nil_iff.mp h).2
    refine keeps_bind (keeps_reads form _ hne) ?_
    intro later groups _ hgroups
    obtain ⟨w₁, rfl, rfl⟩ := hgroups
    refine keeps_bind (keeps_reads form World.now hne) ?_
    intro later now _ hnow
    obtain ⟨w₂, rfl, rfl⟩ := hnow
    refine keeps_bind (keeps_reads form World.now hne) ?_
    intro later now' _ hnow'
    obtain ⟨w₃, rfl, rfl⟩ := hnow'
    intro tokens htokens
    cases htokens
    exact ⟨w₀, by simp, w₁, by simp, user, w₂.now, w₃.now, huser, rfl, rfl, rfl⟩

def AnswersIssued (env : Env) (form : Option TokenForm) (seen : List World)
    (res : Except Error Reply) : Prop :=
  ∀ tokens, res = .ok (.tokens tokens) →
    ∃ f ac, form = some f ∧ Accepted env f seen ac tokens ∧ Issued env seen ac tokens

theorem keeps_token_issued (form : Option TokenForm) :
    Keeps (Does (.token form)) (AnswersIssued env form) [] (token env form) := by
  cases form with
  | none => exact keeps_pure nofun
  | some form =>
    unfold token
    dsimp only
    split
    · exact keeps_pure nofun
    · have hconsume : Keeps (Does (.token (some form)))
          (fun later value => ∃ w, later = [w] ∧ w.tables.codeOf form.code = value) []
          (consumeAuthCode form.code) :=
        keeps_modify (fun w => .inr ⟨form, rfl, rfl⟩) fun w => ⟨w, rfl, rfl⟩
      refine keeps_bind hconsume ?_
      intro later found _ hfound
      obtain ⟨w₀, rfl, hfound⟩ := hfound
      cases found with
      | none => exact keeps_pure nofun
      | some ac =>
        obtain ⟨hin, hcode⟩ := w₀.tables.mem_codeOf hfound
        refine keeps_bind (keeps_reads (some form) World.now (List.cons_ne_nil _ _)) ?_
        intro later now _ hnow
        obtain ⟨w₁, rfl, rfl⟩ := hnow
        split
        · exact keeps_pure nofun
        · rename_i hcheck
          obtain ⟨hintime, hclientID, hredirect⟩ := of_checkCode hcheck
          refine keeps_bind (keeps_reads (some form)
            (fun w => w.tables.getClient ac.clientID) (List.cons_ne_nil _ _)) ?_
          intro later client _ hclient
          obtain ⟨w₂, rfl, hclient⟩ := hclient
          cases client with
          | none => exact keeps_pure nofun
          | some client =>
            dsimp only
            split
            · exact keeps_pure nofun
            · rename_i hpassed
              obtain ⟨hsecret, hpkce⟩ := Option.or_eq_none_iff.mp hpassed
              refine keeps_mono (keeps_issueTokens (some form) ac (List.cons_ne_nil _ _)) ?_
              intro later res hlater hissued tokens htokens
              obtain ⟨rest, rfl⟩ := hlater
              refine ⟨form, ac, rfl, ?_, hissued tokens htokens⟩
              constructor
              · exact hcode
              · exact ⟨w₀, _, rfl, hin⟩
              · exact ⟨w₁, by simp, hintime⟩
              · exact hclientID
              · exact hredirect
              · exact ⟨w₂, by simp, client, hclientID ▸ hclient,
                  checkPassword_of_checkSecret hsecret⟩
              · exact s256_of_checkPKCE hpkce
              · exact (hissued tokens htokens).names

theorem keeps_token (form : Option TokenForm) :
    Keeps (Does (.token form)) (Answers env (.token form)) [] (token env form) := by
  refine keeps_mono (keeps_token_issued form) ?_
  intro later res _ hanswers tokens htokens
  obtain ⟨f, ac, hform, haccepted, _⟩ := hanswers tokens htokens
  exact ⟨f, ac, hform, haccepted⟩

theorem keeps_handle (r : Request) : Keeps (Does r) (Answers env r) [] (handle env r) := by
  cases r with
  | authorize params claims code => exact keeps_authorize params claims code
  | token form => exact keeps_token form

end Programs

abbrev Server := Pool World Request (Except Error Reply)

abbrev Happening := Event World Request (Except Error Reply)

def Other (w w' : World) : Prop := w'.tables.codes ⊆ w.tables.codes

def CodesUnique (events : List Happening) : Prop :=
  ∀ n n' params params' claims claims' code, .start n (.authorize params claims code) ∈ events →
    .start n' (.authorize params' claims' code) ∈ events → n = n'

def Made (past : List Happening) (ac : AuthCode) : Prop :=
  ∃ n params claims, .start n (.authorize params (some claims) ac.code) ∈ past ∧
    Granted params claims (seen n past) ac ∧ 3 ≤ (seen n past).length

def Ever (past : List Happening) (p : Server) (ac : AuthCode) : Prop :=
  ac ∈ p.shared.tables.codes ∨ ∃ m w, .act m w ∈ past ∧ ac ∈ w.tables.codes

def Takes (past : List Happening) (p : Server) (m : Nat) (code : String) : Prop :=
  (∃ form, (p.threads m).request = some (.token (some form)) ∧ form.code = code) ∧
    ∃ w rest ac, seen m past = w :: rest ∧ ac ∈ w.tables.codes ∧ ac.code = code

section Runs

variable {env : Env} {past : List Happening} {p q : Server} {e : Happening}

theorem Granted.mono {params : AuthorizeParams} {claims : TokenClaims} {seen later : List World}
    {ac : AuthCode} (h : Granted params claims seen ac) (hsub : seen ⊆ later) :
    Granted params claims later ac :=
  { h with
    registered := by
      obtain ⟨w, hw, hregistered⟩ := h.registered
      exact ⟨w, hsub hw, hregistered⟩
    lifetime := by
      obtain ⟨w, hw, hlifetime⟩ := h.lifetime
      exact ⟨w, hsub hw, hlifetime⟩ }

theorem Made.mono {ac : AuthCode} (h : Made past ac) (later : List Happening) :
    Made (past ++ later) ac := by
  obtain ⟨n, params, claims, hstart, hgranted, hlength⟩ := h
  refine ⟨n, params, claims, List.mem_append_left _ hstart, ?_, ?_⟩
  · rw [seen_append]
    exact hgranted.mono (List.subset_append_left _ _)
  · rw [seen_append, List.length_append]
    exact Nat.le_add_right_of_le hlength

theorem CodesUnique.of_append {later : List Happening} (h : CodesUnique (past ++ later)) :
    CodesUnique past := by
  intro n n' params params' claims claims' code hn hn'
  exact h n n' params params' claims claims' code (List.mem_append_left _ hn)
    (List.mem_append_left _ hn')

structure Inv (env : Env) (past : List Happening) (p : Server) : Prop where
  threads : ∀ n, Accounted Does (Answers env) past n (p.threads n)
  made : ∀ ac, Ever past p ac → Made past ac
  gone : ∀ m code, Takes past p m code → ∀ ac ∈ p.shared.tables.codes, ac.code ≠ code
  once : ∀ m m' code, Takes past p m code → Takes past p m' code → m = m'

theorem codes_of_step (hstep : Step (handle env) Other p e q)
    (h : ∀ n, Accounted Does (Answers env) past n (p.threads n)) :
    q.shared.tables.codes ⊆ p.shared.tables.codes ∨ ∃ n params c ac, e = .act n p.shared ∧
      .start n (.authorize params (some c) ac.code) ∈ past ∧ (seen n past).length = 2 ∧
      Granted params c (seen n past) ac ∧
      q.shared.tables.codes = p.shared.tables.codes ++ [ac] := by
  cases hstep with
  | @act n request update next hrunning =>
    have hn := h n
    rw [hrunning] at hn
    obtain ⟨hstart, hkeeps⟩ := hn
    have hdoes := (hkeeps p.shared).1
    cases request with
    | authorize params claims code =>
      rcases hdoes with hsame | ⟨hlength, c, ac, rfl, rfl, hgranted, hadds⟩
      · exact .inl fun _ hin => hsame ▸ hin
      · exact .inr ⟨n, params, c, ac, rfl, hstart, hlength, hgranted, hadds⟩
    | token form =>
      rcases hdoes with ⟨hsame, _⟩ | ⟨f, _, hfilter⟩
      · exact .inl fun _ hin => hsame ▸ hin
      · refine .inl ?_
        rw [hfilter]
        exact List.filter_subset_self _
  | other hother => exact .inl hother
  | _ => exact .inl (List.Subset.refl _)

theorem takes_of_step {m : Nat} {code : String} (hstep : Step (handle env) Other p e q)
    (h : ∀ n, Accounted Does (Answers env) past n (p.threads n))
    (ht : Takes (past ++ [e]) q m code) :
    Takes past p m code ∨ e = .act m p.shared ∧ (∃ ac ∈ p.shared.tables.codes, ac.code = code) ∧
      ∀ ac ∈ q.shared.tables.codes, ac.code ≠ code := by
  obtain ⟨⟨form, hrequest, rfl⟩, w, rest, ac, hseen, hac, hcode⟩ := ht
  have hm := h m
  have hunused : p.threads m = .unused → seen m past = [] := by
    intro hunused
    rw [hunused] at hm
    exact hm
  rcases first_of_step hstep hunused hrequest hseen with
    ⟨hbefore, rest', hpast⟩ | ⟨update, next, he, hrunning, hpast, rfl, hshared⟩
  · exact .inl ⟨⟨form, hbefore, rfl⟩, w, rest', ac, hpast, hac, hcode⟩
  · refine .inr ⟨he, ⟨ac, hac, hcode⟩, ?_⟩
    rw [hrunning] at hm
    have hdoes := (hm.2 p.shared).1
    rw [hpast] at hdoes
    rw [hshared]
    rcases hdoes with ⟨_, hne⟩ | ⟨f, hf, hfilter⟩
    · exact absurd rfl hne
    · obtain rfl := Option.some.inj hf
      intro ac' hac'
      rw [hfilter] at hac'
      exact of_decide_eq_true (List.mem_filter.mp hac').2

theorem made_step (hstep : Step (handle env) Other p e q) (h : Inv env past p) (ac : AuthCode)
    (hever : Ever (past ++ [e]) q ac) : Made (past ++ [e]) ac := by
  have hbefore : ac ∈ p.shared.tables.codes → Made (past ++ [e]) ac :=
    fun hin => (h.made ac (.inl hin)).mono [e]
  rcases hever with hin | ⟨m, w, hact, hin⟩
  · rcases codes_of_step hstep h.threads with hsub |
      ⟨n, params, c, ac', rfl, hstart, hlength, hgranted, hadds⟩
    · exact hbefore (hsub hin)
    · rw [hadds] at hin
      rcases List.mem_append.mp hin with hin | hin
      · exact hbefore hin
      · obtain rfl := List.mem_singleton.mp hin
        refine ⟨n, params, c, List.mem_append_left _ hstart, ?_, ?_⟩
        · rw [seen_append]
          exact hgranted.mono (List.subset_append_left _ _)
        · rw [seen_append_act, List.length_append, hlength, List.length_singleton]
  · rcases List.mem_append.mp hact with hact | hact
    · exact (h.made ac (.inr ⟨m, w, hact, hin⟩)).mono [e]
    · obtain rfl := List.mem_singleton.mp hact
      cases hstep with
      | act _ => exact hbefore hin

theorem gone_step (hunique : CodesUnique past) (hstep : Step (handle env) Other p e q)
    (h : Inv env past p) {m : Nat} {code : String} (ht : Takes past p m code) :
    ∀ ac ∈ q.shared.tables.codes, ac.code ≠ code := by
  intro ac hin
  rcases codes_of_step hstep h.threads with hsub | ⟨n, params, c, ac', _, hstart, hlength, _, hadds⟩
  · exact h.gone m code ht ac (hsub hin)
  · rw [hadds] at hin
    rcases List.mem_append.mp hin with hin | hin
    · exact h.gone m code ht ac hin
    · obtain rfl := List.mem_singleton.mp hin
      intro hcode
      obtain ⟨_, w, rest, ac₀, hseen, hac₀, hcode₀⟩ := ht
      have hw : .act m w ∈ past := mem_seen.mp (hseen ▸ List.mem_cons_self)
      obtain ⟨n', params', c', hstart', _, hlength'⟩ := h.made ac₀ (.inr ⟨m, w, hw, hac₀⟩)
      rw [hcode₀, ← hcode] at hstart'
      obtain rfl := hunique _ _ _ _ _ _ _ hstart hstart'
      omega

theorem inv_step (hunique : CodesUnique past) (hstep : Step (handle env) Other p e q)
    (h : Inv env past p) : Inv env (past ++ [e]) q where
  threads := accounted_step keeps_handle hstep h.threads
  made := made_step hstep h
  gone := by
    intro m code ht
    rcases takes_of_step hstep h.threads ht with hold | ⟨_, _, hnone⟩
    · exact gone_step hunique hstep h hold
    · exact hnone
  once := by
    intro m m' code ht ht'
    rcases takes_of_step hstep h.threads ht with hold | ⟨he, ⟨ac, hac, hcode⟩, _⟩
    · rcases takes_of_step hstep h.threads ht' with hold' | ⟨_, ⟨ac, hac, hcode⟩, _⟩
      · exact h.once m m' code hold hold'
      · exact absurd hcode (h.gone m code hold ac hac)
    · rcases takes_of_step hstep h.threads ht' with hold' | ⟨he', _, _⟩
      · exact absurd hcode (h.gone m' code hold' ac hac)
      · cases he.symm.trans he'
        rfl

theorem inv_run {events : List Happening} (hunused : ∀ n, p.threads n = .unused)
    (hempty : p.shared.tables.codes = []) (hunique : CodesUnique events)
    (hrun : Run (Step (handle env) Other) p events q) : Inv env events q := by
  refine hrun.history (I := fun past s => CodesUnique past → Inv env past s) ?_ ?_ hunique
  · intro past s e t hstep h hunique
    exact inv_step hunique.of_append hstep (h hunique.of_append)
  · intro _
    constructor
    · intro n
      rw [hunused n]
      rfl
    · intro ac hever
      rcases hever with hin | ⟨m, w, hact, _⟩
      · rw [hempty] at hin
        cases hin
      · cases hact
    · intro m code ht
      obtain ⟨⟨form, hrequest, _⟩, _⟩ := ht
      rw [hunused m] at hrequest
      cases hrequest
    · intro m m' code ht
      obtain ⟨⟨form, hrequest, _⟩, _⟩ := ht
      rw [hunused m] at hrequest
      cases hrequest

end Runs

/-- Every token response is the only one for its code, which an authorize request stored before,
with all that the two must have in common. -/
theorem code_exchange_bound (env : Env) {p q : Server} {events : List Happening}
    (hunused : ∀ n, p.threads n = .unused) (hempty : p.shared.tables.codes = [])
    (hunique : CodesUnique events) (hrun : Run (Step (handle env) Other) p events q)
    {m : Nat} {form : TokenForm} {res : TokenResponse}
    (hm : q.threads m = .answered (.token (some form)) (.ok (.tokens res))) :
    (∀ m' form' res', q.threads m' = .answered (.token (some form')) (.ok (.tokens res')) →
      form'.code = form.code → m' = m) ∧
    ∃ past w later n params claims ac, events = past ++ .act m w :: later ∧
      .start n (.authorize params (some claims) form.code) ∈ past ∧
      Granted params claims (seen n past) ac ∧ Accepted env form (seen m events) ac res := by
  have hinv := inv_run hunused hempty hunique hrun
  have haccepted : ∀ m' form' res',
      q.threads m' = .answered (.token (some form')) (.ok (.tokens res')) →
      ∃ ac, Accepted env form' (seen m' events) ac res' := by
    intro m' form' res' hm'
    have hthread := hinv.threads m'
    rw [hm'] at hthread
    obtain ⟨f, ac, hf, haccepted⟩ := hthread.2 res' rfl
    obtain rfl := Option.some.inj hf
    exact ⟨ac, haccepted⟩
  have htakes : ∀ m' form' res',
      q.threads m' = .answered (.token (some form')) (.ok (.tokens res')) →
      Takes events q m' form'.code := by
    intro m' form' res' hm'
    obtain ⟨ac, h⟩ := haccepted m' form' res' hm'
    obtain ⟨w, rest, hseen, hin⟩ := h.taken
    refine ⟨⟨form', ?_, rfl⟩, w, rest, ac, hseen, hin, h.code⟩
    rw [hm']
    rfl
  constructor
  · intro m' form' res' hm' hcode
    exact hinv.once m' m form.code (hcode ▸ htakes m' form' res' hm') (htakes m form res hm)
  · obtain ⟨ac, h⟩ := haccepted m form res hm
    obtain ⟨w, rest, hseen, hin⟩ := h.taken
    have hact : .act m w ∈ events := mem_seen.mp (hseen ▸ List.mem_cons_self)
    obtain ⟨past, later, rfl⟩ := List.append_of_mem hact
    obtain ⟨s, hpast, hlater⟩ := hrun.of_append
    cases hlater with
    | cons hstep _ =>
      cases hstep with
      | act _ =>
        have hbefore := inv_run hunused hempty hunique.of_append hpast
        obtain ⟨n, params, claims, hstart, hgranted, _⟩ := hbefore.made ac (.inl hin)
        exact ⟨past, _, later, n, params, claims, ac, rfl, h.code ▸ hstart, hgranted, h⟩

def sampleEnv : Env where
  issuer := "https://vpn.example.com"
  bcrypt := ⟨fun _ password => password, fun hash password => hash == password⟩
  signIDToken := fun c => c.subject
  signAccessToken := fun c => c.subject
  s256 := fun verifier => verifier ++ "#"
  withQuery := fun uri _ => some uri
  groupRows := .asListed

def sampleWorld : World where
  tables :=
    { db := { Database.empty with
        users := [⟨"c", true, false, false, "carol", "carol@example.com"⟩]
        user_id_unique := by decide
        device_owner := by simp [Database.empty] }
      profiles := fun _ => ⟨true, "Carol"⟩
      clients := [⟨"wiki", "hush", ["https://wiki.example.com/callback"], ["openid"]⟩]
      codes := []
      client_unique := by decide
      code_unique := List.nodup_nil
      code_client := nofun
      code_user := nofun }
  now := 0

def sampleAuthorize : Request :=
  .authorize ⟨"wiki", "https://wiki.example.com/callback", "code", "", "", "", "verifier#", "S256"⟩
    (some { userID := "c", username := "carol", email := "carol@example.com", isAdmin := false })
    "k"

def sampleForm : TokenForm :=
  ⟨"authorization_code", "k", "https://wiki.example.com/callback", "verifier", "wiki", "hush"⟩

def sampleMoves : List (Move World Request) :=
  [.start 0 sampleAuthorize, .finish 0, .start 1 (.token (some sampleForm)), .finish 1,
    .start 2 (.token (some sampleForm)), .finish 2]

def sampleServer : Server := ⟨sampleWorld, fun _ => .unused⟩

/-- The second token request with the same code fails. -/
theorem carol_logs_in_to_wiki : ∃ events q res e,
    Run (Step (handle sampleEnv) Other) sampleServer events q ∧
    q.threads 1 = .answered (.token (some sampleForm)) (.ok (.tokens res)) ∧
    q.threads 2 = .answered (.token (some sampleForm)) (.error e) ∧
    ∃ past w later n params claims ac, events = past ++ .act 1 w :: later ∧
      .start n (.authorize params (some claims) "k") ∈ past ∧
      Granted params claims (seen n past) ac ∧
      Accepted sampleEnv sampleForm (seen 1 events) ac res := by
  have hrun : Run (Step (handle sampleEnv) Other) sampleServer _ _ :=
    Pool.run_play_step sampleMoves sampleServer
      ⟨trivial, trivial, trivial, trivial, trivial, trivial, trivial⟩
  have hunique : CodesUnique (sampleServer.play (handle sampleEnv) sampleMoves).2 := by
    have honly : ∀ n params claims code, .start n (.authorize params claims code) ∈
        (sampleServer.play (handle sampleEnv) sampleMoves).2 → n = 0 := by
      intro n params claims code h
      have hmoves := Pool.start_mem_of_play h
      simp [sampleMoves] at hmoves
      exact hmoves.1
    intro n n' params params' claims claims' code hn hn'
    rw [honly n params claims code hn, honly n' params' claims' code hn']
  have htokens : (sampleServer.play (handle sampleEnv) sampleMoves).1.threads 1 =
      .answered (.token (some sampleForm))
        (.ok (.tokens ⟨"c", "Bearer", 3600, "c", "openid"⟩)) := rfl
  refine ⟨_, _, _, _, hrun, htokens, rfl, ?_⟩
  exact (code_exchange_bound sampleEnv (fun _ => rfl) rfl hunique hrun htokens).2

end Outpost.Oidc
