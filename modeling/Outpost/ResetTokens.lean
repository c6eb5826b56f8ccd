import Outpost.PasswordReset
import Outpost.Shared.Schedules

/-!
# Reset tokens are spent once

A token is stored by the third action of the request that drew it and marked as used by the
first action of the request that presents it, which changes a password with its second.
-/

namespace Outpost.PasswordReset

open Interleaving Runs

inductive Request where
  | forgot (email : String) (drawn : Option String) (fails : Bool)
  | reset (req : ResetRequest) (salt : String) (faults : Faults)

def handle (env : Env) : Request → Prog World (Except HandlerError String)
  | .forgot email drawn fails => forgotPassword env email drawn fails
  | .reset req salt faults => resetPassword env req salt faults

def World.passwordHash (w : World) (userID : Uuid) : Option String :=
  (w.tables.columns userID).passwordHash

def Stores (env : Env) (email : String) (drawn : Option String) (seen : List World)
    (r : ResetToken) : Prop :=
  ∃ w₀ w₁ u plainToken, seen = [w₀, w₁] ∧ w₀.activeByEmail email = some u ∧
    drawn = some plainToken ∧ r = ⟨u.id, env.hashToken plainToken, w₁.now + Time.hour, false⟩

def Spent (env : Env) (req : ResetRequest) (faults : Faults) (w : World) (r : ResetToken) : Prop :=
  faults.consume = false ∧ w.validToken (env.hashToken req.token) = some r

/-- A forgot request may add its row. A reset request marks rows with its first action, and
with its second changes the password of the user whose row it has spent. -/
def Does (env : Env) : Request → List World → World → World → Prop
  | .forgot email drawn _, seen, w, w' => w'.tables = w.tables ∧
      (w'.resetTokens = w.resetTokens ∨
        ∃ r, Stores env email drawn seen r ∧ w'.resetTokens = w.resetTokens ++ [r])
  | .reset req _ faults, seen, w, w' =>
      seen = [] ∧ w'.tables = w.tables ∧
          (w'.resetTokens = w.resetTokens ∧ (∀ r, ¬ Spent env req faults w r) ∨
            w'.resetTokens = (w.spend (env.hashToken req.token)).resetTokens) ∨
        ∃ w₀ r, seen = [w₀] ∧ Spent env req faults w₀ r ∧ w'.resetTokens = w.resetTokens ∧
          ∀ userID, userID ≠ r.userId → w'.passwordHash userID = w.passwordHash userID

section Programs

open Prog

variable {env : Env}

theorem insertToken_adds (w : World) (r : ResetToken) : (w.insertToken r).tables = w.tables ∧
    ((w.insertToken r).resetTokens = w.resetTokens ∨
      (w.insertToken r).resetTokens = w.resetTokens ++ [r]) := by
  unfold World.insertToken
  split
  · exact ⟨rfl, .inr rfl⟩
  · exact ⟨rfl, .inl rfl⟩

theorem keeps_forgotPassword (email : String) (drawn : Option String) (fails : Bool) :
    Keeps (Does env (.forgot email drawn fails)) (fun _ _ => True) []
      (forgotPassword env email drawn fails) := by
  unfold forgotPassword
  split
  · exact keeps_pure trivial
  · refine keeps_bind (keeps_read_found fun _ => ⟨rfl, .inl rfl⟩) ?_
    intro later user _ huser
    obtain ⟨w₀, rfl, huser⟩ := huser
    cases user with
    | none => exact keeps_pure trivial
    | some u =>
      cases drawn with
      | none => exact keeps_pure trivial
      | some plainToken =>
        refine keeps_bind (keeps_read_found fun _ => ⟨rfl, .inl rfl⟩) ?_
        intro later now _ hnow
        obtain ⟨w₁, rfl, rfl⟩ := hnow
        refine keeps_seq (keeps_modify (fun w => ?_) fun _ => trivial) fun _ _ _ =>
          keeps_pure trivial
        cases fails with
        | true => exact ⟨rfl, .inl rfl⟩
        | false =>
          obtain ⟨htables, hsame | hadds⟩ := insertToken_adds w
            ⟨u.id, env.hashToken plainToken, w₁.now + Time.hour, false⟩
          · exact ⟨htables, .inl hsame⟩
          · exact ⟨htables, .inr ⟨_, ⟨w₀, w₁, u, plainToken, rfl, huser, rfl, rfl⟩, hadds⟩⟩

theorem keeps_consumeToken (req : ResetRequest) (salt : String) (faults : Faults) :
    Keeps (Does env (.reset req salt faults))
      (fun later res => ∃ w, later = [w] ∧ ∀ userID, res = .ok userID →
        ∃ r, Spent env req faults w r ∧ r.userId = userID) []
      (consumeToken (env.hashToken req.token) faults.consume) := by
  refine keeps_modify ?_ ?_
  · intro w
    refine .inl ⟨rfl, ?_⟩
    split
    · rename_i hfails
      refine ⟨rfl, .inl ⟨rfl, ?_⟩⟩
      intro r hspent
      rw [hspent.1] at hfails
      cases hfails
    · split
      · rename_i hnone
        refine ⟨rfl, .inl ⟨rfl, ?_⟩⟩
        intro r hspent
        cases hnone.symm.trans hspent.2
      · exact ⟨rfl, .inr rfl⟩
  · intro w
    refine ⟨w, rfl, ?_⟩
    intro userID hok
    split at hok
    · cases hok
    · rename_i hfails
      split at hok
      · cases hok
      · rename_i r hsome
        cases hok
        exact ⟨r, ⟨Bool.eq_false_of_not_eq_true hfails, hsome⟩, rfl⟩

theorem passwordHash_setPassword (w : World) {userID other : Uuid} (hash : String)
    (h : other ≠ userID) :
    (w.setPassword userID hash).passwordHash other = w.passwordHash other := by
  unfold World.setPassword
  split
  · simp [World.passwordHash, AuthTables.setColumns, h]
  · rfl

theorem resetTokens_setPassword (w : World) (userID : Uuid) (hash : String) :
    (w.setPassword userID hash).resetTokens = w.resetTokens := by
  unfold World.setPassword
  split <;> rfl

theorem keeps_resetPassword (req : ResetRequest) (salt : String) (faults : Faults) :
    Keeps (Does env (.reset req salt faults)) (fun _ _ => True) []
      (resetPassword env req salt faults) := by
  unfold resetPassword
  split
  · exact keeps_pure trivial
  · refine keeps_bind (keeps_consumeToken req salt faults) ?_
    intro later res _ hres
    obtain ⟨w₀, rfl, hres⟩ := hres
    cases res with
    | error e => exact keeps_pure trivial
    | ok userID =>
      obtain ⟨r, hspent, rfl⟩ := hres userID rfl
      dsimp only
      split
      · exact keeps_pure trivial
      · refine keeps_seq (keeps_modify (fun w => ?_) fun _ => trivial) ?_
        · refine .inr ⟨w₀, r, rfl, hspent, ?_⟩
          split
          · exact ⟨rfl, fun _ _ => rfl⟩
          · exact ⟨resetTokens_setPassword w r.userId _,
              fun other hother => passwordHash_setPassword w _ hother⟩
        · intro later updated _
          split
          · exact keeps_pure trivial
          · exact keeps_pure trivial

theorem keeps_handle (request : Request) :
    Keeps (Does env request) (fun _ _ => True) [] (handle env request) := by
  cases request with
  | forgot email drawn fails => exact keeps_forgotPassword email drawn fails
  | reset req salt faults => exact keeps_resetPassword req salt faults

end Programs

abbrev Server := Pool World Request (Except HandlerError String)

abbrev Happening := Event World Request (Except HandlerError String)

def Other (w w' : World) : Prop := w'.resetTokens ⊆ w.resetTokens

def CollisionFree (env : Env) (events : List Happening) : Prop :=
  ∀ n n' email email' plainToken plainToken' fails fails',
    .start n (.forgot email (some plainToken) fails) ∈ events →
    .start n' (.forgot email' (some plainToken') fails') ∈ events →
    env.hashToken plainToken = env.hashToken plainToken' → n = n'

/-- The request was for an active user of the address, and the token expires an hour after the time
it read. -/
def Issued (env : Env) (past : List Happening) (n : Nat) (tokenHash : String)
    (userID : Uuid) (expiresAt : Time) : Prop :=
  ∃ email plainToken fails w₀ w₁ w₂ rest u,
    .start n (.forgot email (some plainToken) fails) ∈ past ∧
    seen n past = w₀ :: w₁ :: w₂ :: rest ∧ w₀.activeByEmail email = some u ∧ u.id = userID ∧
    env.hashToken plainToken = tokenHash ∧ expiresAt = w₁.now + Time.hour

def Spends (env : Env) (past : List Happening) (p : Server) (m : Nat) (r : ResetToken) : Prop :=
  ∃ req salt faults w rest, (p.threads m).request = some (.reset req salt faults) ∧
    seen m past = w :: rest ∧ Spent env req faults w r

section Runs

variable {env : Env} {past : List Happening} {p q : Server} {e : Happening}
variable {tokenHash : String} {userID : Uuid} {expiresAt : Time} {r r' : ResetToken}

theorem Issued.mono {n : Nat} (h : Issued env past n tokenHash userID expiresAt)
    (later : List Happening) : Issued env (past ++ later) n tokenHash userID expiresAt := by
  obtain ⟨email, plainToken, fails, w₀, w₁, w₂, rest, u, hstart, hseen, hissued⟩ := h
  refine ⟨email, plainToken, fails, w₀, w₁, w₂, rest ++ seen n later, u,
    List.mem_append_left _ hstart, ?_, hissued⟩
  rw [seen_append, hseen]
  rfl

theorem Spent.valid {req : ResetRequest} {faults : Faults} {w : World}
    (h : Spent env req faults w r) :
    r ∈ w.resetTokens ∧ r.Valid (env.hashToken req.token) w.now :=
  validToken_eq_some h.2

theorem CollisionFree.of_append {later : List Happening} (h : CollisionFree env (past ++ later)) :
    CollisionFree env past := by
  intro n n' email email' plainToken plainToken' fails fails' hn hn'
  exact h n n' email email' plainToken plainToken' fails fails' (List.mem_append_left _ hn)
    (List.mem_append_left _ hn')

theorem Issued.unique {n n' : Nat} {userID' : Uuid} {expiresAt' : Time}
    (hfree : CollisionFree env past) (h : Issued env past n tokenHash userID expiresAt)
    (h' : Issued env past n' tokenHash userID' expiresAt') : n = n' ∧ expiresAt = expiresAt' := by
  obtain ⟨_, _, _, w₀, w₁, w₂, rest, _, hstart, hseen, _, _, hhash, hexpires⟩ := h
  obtain ⟨_, _, _, w₀', w₁', w₂', rest', _, hstart', hseen', _, _, hhash', hexpires'⟩ := h'
  obtain rfl := hfree _ _ _ _ _ _ _ _ hstart hstart' (hhash.trans hhash'.symm)
  rw [hseen] at hseen'
  obtain ⟨_, rfl, _⟩ := hseen'
  exact ⟨rfl, hexpires.trans hexpires'.symm⟩

structure Inv (env : Env) (past : List Happening) (p : Server) : Prop where
  threads : ∀ n, Accounted (Does env) (fun _ _ _ => True) past n (p.threads n)
  made : ∀ r ∈ p.shared.resetTokens, ∃ n, Issued env past n r.tokenHash r.userId r.expiresAt
  issued : ∀ m r, Spends env past p m r →
    ∃ n, Issued env past n r.tokenHash r.userId r.expiresAt
  gone : ∀ m r, Spends env past p m r → ∀ r' ∈ p.shared.resetTokens,
    r'.tokenHash = r.tokenHash → r'.used = true
  once : ∀ m m' r r', Spends env past p m r → Spends env past p m' r' →
    r.tokenHash = r'.tokenHash → m = m'

theorem row_of_step (hstep : Step (handle env) Other p e q)
    (h : ∀ n, Accounted (Does env) (fun _ _ _ => True) past n (p.threads n))
    (hr : r ∈ q.shared.resetTokens) :
    r ∈ p.shared.resetTokens ∨
      (∃ r' ∈ p.shared.resetTokens, r = { r' with used := true }) ∨
      ∃ n, (seen n past).length = 2 ∧
        Issued env (past ++ [e]) n r.tokenHash r.userId r.expiresAt := by
  cases hstep with
  | @act n request update next hrunning =>
    have hn := h n
    rw [hrunning] at hn
    obtain ⟨hstart, hkeeps⟩ := hn
    have hdoes := (hkeeps p.shared).1
    cases request with
    | forgot email drawn fails =>
      obtain ⟨_, hsame | ⟨r', hstores, hadds⟩⟩ := hdoes
      · exact .inl (hsame ▸ hr)
      · rw [hadds] at hr
        rcases List.mem_append.mp hr with hr | hr
        · exact .inl hr
        · obtain rfl := List.mem_singleton.mp hr
          obtain ⟨w₀, w₁, u, plainToken, hseen, huser, rfl, rfl⟩ := hstores
          refine .inr (.inr ⟨n, by rw [hseen]; rfl, ?_⟩)
          refine ⟨email, plainToken, fails, w₀, w₁, p.shared, [], u,
            List.mem_append_left _ hstart, ?_, huser, rfl, rfl, rfl⟩
          rw [seen_append_act, hseen]
          rfl
    | reset req salt faults =>
      rcases hdoes with ⟨_, _, ⟨hsame, _⟩ | hspend⟩ | ⟨_, _, _, _, hsame, _⟩
      · exact .inl (hsame ▸ hr)
      · rw [hspend] at hr
        obtain ⟨r', hr', rfl⟩ := List.mem_map.mp hr
        split
        · exact .inr (.inl ⟨r', hr', rfl⟩)
        · exact .inl hr'
      · exact .inl (hsame ▸ hr)
  | other hother => exact .inl (hother hr)
  | _ => exact .inl hr

theorem made_step (hstep : Step (handle env) Other p e q) (h : Inv env past p)
    (hr : r ∈ q.shared.resetTokens) :
    ∃ n, Issued env (past ++ [e]) n r.tokenHash r.userId r.expiresAt := by
  rcases row_of_step hstep h.threads hr with hr | ⟨r', hr', rfl⟩ | ⟨n, _, hissued⟩
  · obtain ⟨n, hissued⟩ := h.made r hr
    exact ⟨n, hissued.mono [e]⟩
  · obtain ⟨n, hissued⟩ := h.made r' hr'
    exact ⟨n, hissued.mono [e]⟩
  · exact ⟨n, hissued⟩

theorem spends_of_step {m : Nat} (hstep : Step (handle env) Other p e q)
    (h : ∀ n, Accounted (Does env) (fun _ _ _ => True) past n (p.threads n))
    (hspends : Spends env (past ++ [e]) q m r) :
    Spends env past p m r ∨ e = .act m p.shared ∧ r ∈ p.shared.resetTokens ∧
      r.Valid r.tokenHash p.shared.now ∧
      q.shared.resetTokens = (p.shared.spend r.tokenHash).resetTokens := by
  obtain ⟨req, salt, faults, w, rest, hrequest, hseen, hspent⟩ := hspends
  have hm := h m
  have hunused : p.threads m = .unused → seen m past = [] := by
    intro hunused
    rw [hunused] at hm
    exact hm
  rcases first_of_step hstep hunused hrequest hseen with
    ⟨hbefore, rest', hpast⟩ | ⟨update, next, he, hrunning, hpast, rfl, hshared⟩
  · exact .inl ⟨req, salt, faults, w, rest', hbefore, hpast, hspent⟩
  · obtain ⟨hr, hvalid⟩ := hspent.valid
    rw [← hvalid.1] at hvalid
    refine .inr ⟨he, hr, hvalid, ?_⟩
    rw [hrunning] at hm
    have hdoes := (hm.2 p.shared).1
    rw [hpast, ← hshared] at hdoes
    rcases hdoes with ⟨_, _, ⟨_, hnone⟩ | hspend⟩ | ⟨_, _, hnil, _⟩
    · exact absurd hspent (hnone r)
    · rw [hspend, hspent.valid.2.1]
    · cases hnil

theorem gone_step (hfree : CollisionFree env (past ++ [e])) (hstep : Step (handle env) Other p e q)
    (h : Inv env past p) {m : Nat} (hspends : Spends env past p m r)
    (hr' : r' ∈ q.shared.resetTokens) (hhash : r'.tokenHash = r.tokenHash) : r'.used = true := by
  rcases row_of_step hstep h.threads hr' with hr' | ⟨_, _, rfl⟩ | ⟨n, hlength, hissued⟩
  · exact h.gone m r hspends r' hr' hhash
  · rfl
  · obtain ⟨n', hissued'⟩ := h.issued m r hspends
    rw [hhash] at hissued
    obtain ⟨rfl, _⟩ := hissued.unique hfree (hissued'.mono [e])
    obtain ⟨_, _, _, _, _, _, _, _, _, hseen, _⟩ := hissued'
    rw [hseen] at hlength
    simp at hlength

theorem used_of_spend (hfree : CollisionFree env past) (h : Inv env past p)
    (hr : r ∈ p.shared.resetTokens) (hvalid : r.Valid r.tokenHash p.shared.now)
    (hr' : r' ∈ (p.shared.spend r.tokenHash).resetTokens) (hhash : r'.tokenHash = r.tokenHash) :
    r'.used = true := by
  obtain ⟨r₀, hr₀, rfl⟩ := List.mem_map.mp hr'
  split
  · rfl
  · rename_i hinvalid
    rw [if_neg hinvalid] at hhash
    obtain ⟨n, hissued⟩ := h.made r hr
    obtain ⟨n₀, hissued₀⟩ := h.made r₀ hr₀
    rw [hhash] at hissued₀
    obtain ⟨_, hexpires⟩ := hissued.unique hfree hissued₀
    cases hused : r₀.used with
    | true => rfl
    | false => exact absurd ⟨hhash, hused, hexpires ▸ hvalid.2.2⟩ hinvalid

theorem inv_step (hfree : CollisionFree env (past ++ [e]))
    (hstep : Step (handle env) Other p e q) (h : Inv env past p) : Inv env (past ++ [e]) q where
  threads := accounted_step keeps_handle hstep h.threads
  made := fun _ hr => made_step hstep h hr
  issued := by
    intro m r hspends
    rcases spends_of_step hstep h.threads hspends with hold | ⟨_, hr, _, _⟩
    · obtain ⟨n, hissued⟩ := h.issued m r hold
      exact ⟨n, hissued.mono [e]⟩
    · obtain ⟨n, hissued⟩ := h.made r hr
      exact ⟨n, hissued.mono [e]⟩
  gone := by
    intro m r hspends r' hr' hhash
    rcases spends_of_step hstep h.threads hspends with hold | ⟨_, hr, hvalid, hspend⟩
    · exact gone_step hfree hstep h hold hr' hhash
    · exact used_of_spend hfree.of_append h hr hvalid (hspend ▸ hr') hhash
  once := by
    have hnew : ∀ m r r', Spends env past p m r → r' ∈ p.shared.resetTokens →
        r'.Valid r'.tokenHash p.shared.now → r'.tokenHash ≠ r.tokenHash := by
      intro m r r' hold hr' hvalid hhash
      have hused := h.gone m r hold r' hr' hhash
      rw [hvalid.2.1] at hused
      cases hused
    intro m m' r r' hspends hspends' hhash
    rcases spends_of_step hstep h.threads hspends with hold | ⟨he, hr, hvalid, _⟩
    · rcases spends_of_step hstep h.threads hspends' with hold' | ⟨_, hr', hvalid', _⟩
      · exact h.once m m' r r' hold hold' hhash
      · exact absurd hhash.symm (hnew m r r' hold hr' hvalid')
    · rcases spends_of_step hstep h.threads hspends' with hold' | ⟨he', _, _, _⟩
      · exact absurd hhash (hnew m' r' r hold' hr hvalid)
      · cases he.symm.trans he'
        rfl

theorem inv_run {events : List Happening} (hunused : ∀ n, p.threads n = .unused)
    (hempty : p.shared.resetTokens = []) (hfree : CollisionFree env events)
    (hrun : Run (Step (handle env) Other) p events q) : Inv env events q := by
  refine hrun.history (I := fun past s => CollisionFree env past → Inv env past s) ?_ ?_ hfree
  · intro past s e t hstep h hfree
    exact inv_step hfree hstep (h hfree.of_append)
  · intro _
    have hnone : ∀ m r, ¬ Spends env [] p m r := by
      intro m r hspends
      obtain ⟨_, _, _, _, _, hrequest, _⟩ := hspends
      rw [hunused m] at hrequest
      cases hrequest
    constructor
    · intro n
      rw [hunused n]
      rfl
    · intro r hr
      rw [hempty] at hr
      cases hr
    · exact fun m r hspends => absurd hspends (hnone m r)
    · exact fun m r hspends => absurd hspends (hnone m r)
    · exact fun m _ r _ hspends => absurd hspends (hnone m r)

end Runs

def Changes (env : Env) (p q : Server) (events past : List Happening) (m : Nat)
    (userID : Uuid) : Prop :=
  ∃ s t later, Run (Step (handle env) Other) p past s ∧
    Step (handle env) Other s (.act m s.shared) t ∧ Run (Step (handle env) Other) t later q ∧
    events = past ++ .act m s.shared :: later ∧
    t.shared.passwordHash userID ≠ s.shared.passwordHash userID

section Once

variable {env : Env} {p q : Server} {events past : List Happening} {m : Nat} {userID : Uuid}

theorem spent_of_changes (hunused : ∀ n, p.threads n = .unused)
    (hempty : p.shared.resetTokens = []) (hfree : CollisionFree env events)
    (h : Changes env p q events past m userID) : ∃ req salt faults w r n,
      .start m (.reset req salt faults) ∈ past ∧ seen m past = [w] ∧ Spent env req faults w r ∧
      r.userId = userID ∧ Issued env past n r.tokenHash r.userId r.expiresAt := by
  obtain ⟨s, t, later, hpast, hstep, _, rfl, hne⟩ := h
  have hinv := inv_run hunused hempty hfree.of_append hpast
  cases hstep with
  | @act _ request update next hrunning =>
    have hm := hinv.threads m
    rw [hrunning] at hm
    obtain ⟨hstart, hkeeps⟩ := hm
    have hdoes := (hkeeps s.shared).1
    cases request with
    | forgot email drawn fails =>
      exact absurd (congrArg (fun t => (t.columns userID).passwordHash) hdoes.1) hne
    | reset req salt faults =>
      rcases hdoes with ⟨_, htables, _⟩ | ⟨w, r, hseen, hspent, _, hothers⟩
      · exact absurd (congrArg (fun t => (t.columns userID).passwordHash) htables) hne
      · have huser : r.userId = userID := by
          by_contra hother
          exact hne (hothers userID (Ne.symm hother))
        obtain ⟨n, hissued⟩ := hinv.issued m r
          ⟨req, salt, faults, w, [], by rw [hrunning]; rfl, hseen, hspent⟩
        exact ⟨req, salt, faults, w, r, n, hstart, hseen, hspent, huser, hissued⟩

theorem Changes.run (h : Changes env p q events past m userID) :
    Run (Step (handle env) Other) p events q := by
  obtain ⟨s, t, later, hpast, hstep, hlater, rfl, _⟩ := h
  exact hpast.trans (.cons hstep hlater)

theorem spends_of_changes (hunused : ∀ n, p.threads n = .unused)
    (hempty : p.shared.resetTokens = []) (hfree : CollisionFree env events) {req : ResetRequest}
    {salt : String} {faults : Faults} (h : Changes env p q events past m userID)
    (hstart : .start m (.reset req salt faults) ∈ past) : ∃ w r, seen m past = [w] ∧
      Spent env req faults w r ∧ r.userId = userID ∧ r.tokenHash = env.hashToken req.token ∧
      Spends env events q m r := by
  obtain ⟨req', salt', faults', w, r, _, hstart', hseen, hspent, huser, _⟩ :=
    spent_of_changes hunused hempty hfree h
  have hrun := h.run
  obtain ⟨s, _, later, hpast, _, _, rfl, _⟩ := h
  have hsame := (request_of_start hpast hstart).symm.trans (request_of_start hpast hstart')
  cases hsame
  refine ⟨w, r, hseen, hspent, huser, hspent.valid.2.1, req, salt, faults, w,
    seen m (.act m s.shared :: later), ?_, ?_, hspent⟩
  · exact request_of_start hrun (List.mem_append_left _ hstart)
  · rw [seen_append, hseen]
    rfl

end Once

/-- Every change of a password is that of one issued token: of its user, by a request that spent it
before its expiry, and the only one. -/
theorem reset_tokens_spent_once (env : Env) {p q : Server} {events : List Happening}
    (hunused : ∀ n, p.threads n = .unused) (hempty : p.shared.resetTokens = [])
    (hfree : CollisionFree env events) :
    (∀ past m userID, Changes env p q events past m userID →
      ∃ req salt faults n w expiresAt, .start m (.reset req salt faults) ∈ past ∧
        Issued env past n (env.hashToken req.token) userID expiresAt ∧
        seen m past = [w] ∧ w.now < expiresAt) ∧
    ∀ past past' m m' userID userID' req req' salt salt' faults faults',
      Changes env p q events past m userID → .start m (.reset req salt faults) ∈ past →
      Changes env p q events past' m' userID' → .start m' (.reset req' salt' faults') ∈ past' →
      env.hashToken req.token = env.hashToken req'.token →
      past = past' ∧ m = m' ∧ userID = userID' := by
  constructor
  · intro past m userID hchanges
    obtain ⟨req, salt, faults, w, r, n, hstart, hseen, hspent, rfl, hissued⟩ :=
      spent_of_changes hunused hempty hfree hchanges
    rw [hspent.valid.2.1] at hissued
    exact ⟨req, salt, faults, n, w, r.expiresAt, hstart, hissued, hseen, hspent.valid.2.2.2⟩
  · intro past past' m m' userID userID' req req' salt salt' faults faults' hchanges hstart
      hchanges' hstart' hhash
    obtain ⟨w, r, hseen, hspent, huser, htoken, hspends⟩ :=
      spends_of_changes hunused hempty hfree hchanges hstart
    obtain ⟨w', r', hseen', hspent', huser', htoken', hspends'⟩ :=
      spends_of_changes hunused hempty hfree hchanges' hstart'
    have hinv := inv_run hunused hempty hfree hchanges.run
    obtain rfl : m = m' :=
      hinv.once m m' r r' hspends hspends' ((htoken.trans hhash).trans htoken'.symm)
    obtain rfl : past = past' := by
      obtain ⟨_, _, _, _, _, _, hevents, _⟩ := hchanges
      obtain ⟨_, _, _, _, _, _, hevents', _⟩ := hchanges'
      refine past_eq_of_seen (hevents.symm.trans hevents') ?_
      rw [hseen, hseen']
      rfl
    -- both have found the same state, and in it the same row
    rw [hseen] at hseen'
    cases hseen'
    have hrow := hspent'.2
    rw [← hhash, hspent.2] at hrow
    cases hrow
    exact ⟨rfl, rfl, huser.symm.trans huser'⟩

def erinMoves : List (Move World Request) :=
  [.start 0 (.forgot "erin@example.com" (some "tok") false), .finish 0,
    .start 1 (.reset ⟨"tok", "Other-horse-2"⟩ "" noFaults),
    .start 2 (.reset ⟨"tok", shortPassword⟩ "" noFaults), .act 2 1, .finish 1]

def erinStart : Server := ⟨{ erinWorld with resetTokens := [] }, fun _ => .unused⟩

def erinRaced : Server := (erinStart.play (handle erinEnv) erinMoves).1

def erinPast : List Happening := (erinStart.play (handle erinEnv) erinMoves).2

def erinEnd : Server := (erinRaced.play (handle erinEnv) [.act 2 1]).1

def erinEvents : List Happening := erinPast ++ [.act 2 erinRaced.shared]

theorem erin_collisionFree : CollisionFree erinEnv erinEvents := by
  have honly : ∀ n email plainToken fails,
      .start n (.forgot email (some plainToken) fails) ∈ erinEvents → n = 0 := by
    intro n email plainToken fails h
    rcases List.mem_append.mp h with h | h
    · have hmoves := Pool.start_mem_of_play h
      simp [erinMoves] at hmoves
      exact hmoves.1
    · cases List.mem_singleton.mp h
  intro n n' email email' plainToken plainToken' fails fails' hn hn' _
  rw [honly n email plainToken fails hn, honly n' email' plainToken' fails' hn']

theorem erin_changes : Changes erinEnv erinStart erinEnd erinEvents erinPast 2 "e" := by
  have hpast : Run (Step (handle erinEnv) Other) erinStart erinPast erinRaced :=
    Pool.run_play_step erinMoves erinStart
      ⟨trivial, trivial, trivial, trivial, trivial, trivial, trivial⟩
  have hlast : Run (Step (handle erinEnv) Other) erinRaced [.act 2 erinRaced.shared] erinEnd :=
    Pool.run_play_step [.act 2 1] erinRaced ⟨trivial, trivial⟩
  cases hlast with
  | cons hstep hend =>
    refine ⟨erinRaced, _, [], hpast, hstep, hend, rfl, ?_⟩
    cases hend
    decide

/-- The other request is told that the token is not valid. -/
theorem erin_changes_once :
    erinEnd.threads 1 = .answered (.reset ⟨"tok", "Other-horse-2"⟩ "" noFaults)
        (.error ⟨400, "invalid or expired reset token"⟩) ∧
      Changes erinEnv erinStart erinEnd erinEvents erinPast 2 "e" ∧
      ∃ req salt faults n w expiresAt, .start 2 (.reset req salt faults) ∈ erinPast ∧
        Issued erinEnv erinPast n (erinEnv.hashToken req.token) "e" expiresAt ∧
        seen 2 erinPast = [w] ∧ w.now < expiresAt :=
  ⟨rfl, erin_changes,
    (reset_tokens_spent_once erinEnv (fun _ => rfl) rfl erin_collisionFree).1 _ _ _ erin_changes⟩

end Outpost.PasswordReset
