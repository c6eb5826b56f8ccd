import Outpost.TokenRevocation

/-!
# Refreshing once

A refresh reads the list, and only after it has signed does it write to it. Two
refreshes of one token that overlap may both read before either has written.
-/

namespace Outpost.RefreshOnce

open Interleaving AuthHandler Runs SessionProvenance Function
open TokenRevocation (Expires)

def Refreshes (raw : String) : Request → Prop
  | .refresh authorization => bearer authorization = some raw
  | _ => False

def KeepsList (w w' : World) : Prop := ∀ tokenHash, w.Lists tokenHash → w'.Lists tokenHash

def Busy (raw : String) : Thread World Request (Except HandlerError Reply) → Prop
  | .running r _ => Refreshes raw r
  | _ => False

def OneAtATime (raw : String) (p : Server) : Happening → Prop
  | .start _ r => Refreshes raw r → ∀ m, ¬ Busy raw (p.threads m)
  | _ => True

def Left (env : AuthEnv) (raw : String) (r : Request) (w : World)
    (res : Except HandlerError Reply) : Prop :=
  Refreshes raw r → ∀ reply, res = .ok reply → w.Lists (env.hashToken raw)

section Programs

open Prog

variable {env : AuthEnv} {cfg : Saml.Config} {raw : String}

theorem keepsList_of_lists {adds : BlacklistRow → Prop} {w w' : World} (h : Lists adds w w') :
    KeepsList w w' := by
  rintro tokenHash ⟨row, hrow, hhash⟩
  rcases h with hsame | ⟨_, _, hlist⟩
  · exact ⟨row, hsame ▸ hrow, hhash⟩
  · exact ⟨row, hlist ▸ AuthTables.subset_addBlacklist hrow, hhash⟩

theorem leaves_validate {α : Type} {post : World → α → Prop} {f : Option TokenClaims → Prog World α}
    {w : World} (h : ∀ w, (f (validateToken env.jwt env.jwtSecret raw w.now)).Leaves post w) :
    (validate env raw >>= f).Leaves post w := h

theorem leaves_refreshToken {authorization : String} {expiry : Time}
    (hbearer : bearer authorization = some raw) (hexpires : Expires env raw expiry) (w : World) :
    (refreshToken env authorization).Leaves
      (fun w res => ∀ answer, res = .ok answer → w.Lists (env.hashToken raw)) w := by
  obtain ⟨c, e, hverify, he, rfl⟩ := hexpires
  unfold refreshToken
  split
  · exact leaves_pure nofun
  rename_i raw' hraw
  obtain rfl := Option.some.inj (hbearer.symm.trans (Option.filter_eq_some_iff.mp hraw).1)
  apply leaves_validate
  intro w₀
  split
  · exact leaves_pure nofun
  rename_i claims hvalid
  obtain rfl := Option.some.inj (hverify.symm.trans (validateToken_eq_some.mp hvalid).1)
  refine leaves_bind (leaves_of_forall _ fun w revoked => ?_)
  split
  · exact leaves_pure nofun
  split
  · exact leaves_pure nofun
  refine leaves_bind (leaves_of_forall _ fun w user => ?_)
  split
  · exact leaves_pure nofun
  split
  · exact leaves_pure nofun
  refine leaves_bind (leaves_of_forall _ fun w res => ?_)
  rw [he]
  refine leaves_bind (leaves_modify fun w => ?_)
  exact leaves_pure fun _ _ => AuthTables.exists_mem_addBlacklist _ _

theorem leaves_handle {expiry : Time} (hexpires : Expires env raw expiry) (r : Request)
    (w : World) :
    (handle env cfg r).Leaves (Left env raw r) w := by
  cases r with
  | refresh authorization =>
    by_cases hbearer : bearer authorization = some raw
    · refine leaves_bind (leaves_mono (leaves_refreshToken hbearer hexpires w) ?_)
      intro w res hres _ reply hok
      cases res with
      | error e => cases hok
      | ok answer => exact hres answer rfl
    · exact leaves_of_forall _ fun _ _ hrefreshes => absurd hrefreshes hbearer
  | _ => exact leaves_of_forall _ fun _ _ hrefreshes => hrefreshes.elim

end Programs

section Once

variable {env : AuthEnv} {cfg : Saml.Config} {raw : String}

def Won (raw : String) : Thread World Request (Except HandlerError Reply) → Prop
  | .answered r (.ok _) => Refreshes raw r
  | _ => False

def Lost (env : AuthEnv) (raw : String) (past : List Happening) (n : Nat) :
    Thread World Request (Except HandlerError Reply) → Prop
  | .unused => True
  | .running r _ => Refreshes raw r → ∀ w ∈ seen n past, w.Lists (env.hashToken raw)
  | .answered r res => Refreshes raw r → ∀ reply, res ≠ .ok reply

structure Inv (env : AuthEnv) (cfg : Saml.Config) (raw : String) (past : List Happening)
    (p : Server) : Prop where
  threads : ∀ n, Accounted (fun r => Does (Found env cfg r) (Adds env r)) (Checked env) past n
    (p.threads n)
  settled : Settled (Left env raw) p
  single : ∀ n m, Busy raw (p.threads n) → Busy raw (p.threads m) → n = m
  lost : ∀ n m, n ≠ m → Won raw (p.threads n) → Lost env raw past m (p.threads m)

variable {past : List Happening} {p q : Server} {e : Happening}

variable {n m : Nat} {r : Request} {reply : Reply}

theorem not_lost_of_ok (hrefreshes : Refreshes raw r)
    (hchecked : Checked env r (seen n past) (.ok reply))
    (hlost : ∀ w ∈ seen n past, w.Lists (env.hashToken raw)) : False := by
  cases r with
  | refresh authorization =>
    obtain ⟨_, raw', c, u, w₀, w₁, w₂, later, hseen, hfound, _⟩ := hchecked
    obtain rfl := Option.some.inj
      (hrefreshes.symm.trans (Option.filter_eq_some_iff.mp hfound.bearer).1)
    have hw₁ : w₁ ∈ seen n past := by simp [hseen]
    have hlisted := AuthTables.isBlacklisted_eq_true.mpr (hlost w₁ hw₁)
    rw [hfound.unlisted] at hlisted
    cases hlisted
  | _ => exact hrefreshes.elim

theorem keepsList_step (hstep : Step (handle env cfg) KeepsList p e q)
    (h : Inv env cfg raw past p) : KeepsList p.shared q.shared := by
  rcases shared_step hstep h.threads with hsame | hother | ⟨n, r, _, hdoes⟩
  · rw [hsame]
    exact fun _ hlists => hlists
  · exact hother
  · exact keepsList_of_lists hdoes.lists

theorem busy_of_step (hstep : Step (handle env cfg) KeepsList p e q) (h : Busy raw (q.threads n)) :
    Busy raw (p.threads n) ∨ ∃ r, e = .start n r ∧ Refreshes raw r := by
  cases moves_of_step [] hstep n with
  | stays hn _ => exact .inl (hn ▸ h)
  | @starts r he _ hn _ _ =>
    rw [hn] at h
    exact .inr ⟨r, he, h⟩
  | acts _ hrunning hn _ _ =>
    rw [hn] at h
    rw [hrunning]
    exact .inl h
  | answers _ _ hn _ _ =>
    rw [hn] at h
    exact h.elim

theorem single_step (hstep : Step (handle env cfg) KeepsList p e q) (hguard : OneAtATime raw p e)
    (h : Inv env cfg raw past p) (hn : Busy raw (q.threads n)) (hm : Busy raw (q.threads m)) :
    n = m := by
  rcases busy_of_step hstep hn with hn | ⟨r, rfl, hr⟩
  · rcases busy_of_step hstep hm with hm | ⟨r, rfl, hr⟩
    · exact h.single n m hn hm
    · exact absurd hn (hguard hr n)
  · rcases busy_of_step hstep hm with hm | ⟨r', hr', _⟩
    · exact absurd hm (hguard hr m)
    · cases hr'
      rfl

theorem won_of_step (hstep : Step (handle env cfg) KeepsList p e q) (h : Won raw (q.threads n)) :
    Won raw (p.threads n) ∨
      ∃ r reply, p.threads n = .running r (.ret (.ok reply)) ∧ Refreshes raw r := by
  cases moves_of_step [] hstep n with
  | stays hn _ => exact .inl (hn ▸ h)
  | starts _ _ hn _ _ =>
    rw [hn] at h
    exact h.elim
  | acts _ _ hn _ _ =>
    rw [hn] at h
    exact h.elim
  | @answers r res _ hrunning hn _ _ =>
    rw [hn] at h
    cases res with
    | error e => exact h.elim
    | ok reply => exact .inr ⟨r, reply, hrunning, h⟩

theorem lost_of_lists (hstep : Step (handle env cfg) KeepsList p e q) (h : Inv env cfg raw past p)
    (hlists : p.shared.Lists (env.hashToken raw)) (hlost : Lost env raw past m (p.threads m)) :
    Lost env raw (past ++ [e]) m (q.threads m) := by
  have haccounted := h.threads m
  cases moves_of_step past hstep m with
  | stays hm hseen =>
    rw [hm]
    cases hp : p.threads m with
    | unused => trivial
    | running r rest =>
      rw [hp] at hlost
      exact fun hr w hw => hlost hr w (hseen ▸ hw)
    | answered r res =>
      rw [hp] at hlost
      exact hlost
  | starts _ hunused hm _ hseen =>
    rw [hunused] at haccounted
    rw [hm]
    intro _ w hw
    rw [hseen, show seen m past = [] from haccounted] at hw
    cases hw
  | acts _ hrunning hm _ hseen =>
    rw [hrunning] at hlost
    rw [hm]
    intro hr w hw
    rw [hseen] at hw
    rcases List.mem_append.mp hw with hw | hw
    · exact hlost hr w hw
    · exact List.mem_singleton.mp hw ▸ hlists
  | answers _ hrunning hm _ _ =>
    rw [hrunning] at hlost haccounted
    rw [hm]
    rintro hr reply rfl
    exact not_lost_of_ok hr haccounted.2 (hlost hr)

theorem lost_of_win (h : Inv env cfg raw past p) (hnm : n ≠ m)
    (hn : p.threads n = .running r (.ret (.ok reply))) (hr : Refreshes raw r) :
    Lost env raw past m (p.threads m) := by
  have hbusy : Busy raw (p.threads n) := by
    rw [hn]
    exact hr
  cases hp : p.threads m with
  | unused => trivial
  | running r' rest =>
    intro hr'
    refine absurd (h.single n m hbusy ?_) hnm
    rw [hp]
    exact hr'
  | answered r' res =>
    rintro hr' reply' rfl
    have hlost := h.lost m n hnm.symm (by rw [hp]; exact hr')
    have haccounted := h.threads n
    rw [hn] at hlost haccounted
    exact not_lost_of_ok hr haccounted.2 (hlost hr)

theorem lists_of_won (h : Inv env cfg raw past p) (hwon : Won raw (p.threads n)) :
    p.shared.Lists (env.hashToken raw) := by
  have hleft := h.settled n
  cases hp : p.threads n with
  | answered r res =>
    rw [hp] at hwon hleft
    cases res with
    | error e => exact hwon.elim
    | ok reply => exact hleft hwon reply rfl
  | _ => rw [hp] at hwon; exact hwon.elim

theorem inv_step {expiry : Time} (hexpires : Expires env raw expiry)
    (hstep : Step (handle env cfg) KeepsList p e q) (hguard : OneAtATime raw p e)
    (h : Inv env cfg raw past p) : Inv env cfg raw (past ++ [e]) q where
  threads := accounted_step keeps_handle hstep h.threads
  settled := by
    refine settled_step (leaves_handle hexpires) ?_ hstep h.settled
    intro r res hleft hr reply hok
    exact keepsList_step hstep h _ (hleft hr reply hok)
  single := fun n m => single_step hstep hguard h
  lost := by
    intro n m hnm hwon
    rcases won_of_step hstep hwon with hwon | ⟨r, reply, hn, hr⟩
    · exact lost_of_lists hstep h (lists_of_won h hwon) (h.lost n m hnm hwon)
    · have hleft := h.settled n
      rw [hn] at hleft
      exact lost_of_lists hstep h (hleft hr reply rfl) (lost_of_win h hnm hn hr)

end Once

/-- If refreshes of a token with an expiry do not overlap, only one of them answers
with a new token. -/
theorem token_refreshed_once (env : AuthEnv) (cfg : Saml.Config) {raw : String} {expiry : Time}
    {p q : Server} {events : List Happening} (hexpires : Expires env raw expiry)
    (hunused : ∀ n, p.threads n = .unused)
    (hrun : Run (Guarded (Step (handle env cfg) KeepsList) (OneAtATime raw)) p events q)
    {n m : Nat} (hn : Won raw (q.threads n)) (hm : Won raw (q.threads m)) : n = m := by
  have hinv : Inv env cfg raw events q := by
    refine hrun.history (fun past s e t hstep h => inv_step hexpires hstep.1 hstep.2 h)
      ⟨?_, ?_, ?_, ?_⟩
    · intro n
      rw [hunused n]
      rfl
    · exact settled_unused hunused
    · intro n m hbusy
      rw [hunused n] at hbusy
      exact hbusy.elim
    · intro n m _ hwon
      rw [hunused n] at hwon
      exact hwon.elim
  by_contra hnm
  have hlost := hinv.lost n m hnm hn
  cases hq : q.threads m with
  | answered r res =>
    rw [hq] at hm hlost
    cases res with
    | error e => exact hm.elim
    | ok reply => exact hlost hm reply rfl
  | _ => rw [hq] at hm; exact hm.elim

open TokenRevocation (carolToken carolExpiry carolWorld carolHeader_eq carolToken_ne_empty
  carol_valid carol_expires)

variable {authorization : String}

theorem carol_refresh
    (hbearer : (bearer authorization).filter (fun raw => raw ≠ "") = some carolToken) : ∃ next,
    (refreshToken sampleEnv authorization).advance 2 carolWorld = (.act id next, carolWorld) ∧
    ∀ w : World, w.tables.db = carolTables.db →
      ∃ s res, (next w).alone w = (s, .ok res) ∧ s.tables.db = carolTables.db := by
  have hvalid : validateToken sampleEnv.jwt sampleEnv.jwtSecret carolToken carolWorld.now =
      some carolClaims := carol_valid
  unfold refreshToken
  rw [hbearer]
  rw [advance_validate_bind, hvalid]
  refine ⟨_, rfl, ?_⟩
  intro w hdb
  dsimp only
  rw [hdb]
  exact ⟨_, _, rfl, (AuthTables.db_addBlacklist _ _).trans hdb⟩

def carolServer : Server := ⟨carolWorld, fun _ => .unused⟩

theorem carol_bears : ∃ authorization,
    (bearer authorization).filter (fun raw => raw ≠ "") = some carolToken :=
  ⟨carolHeader, bearer_filter carolHeader_eq carolToken_ne_empty⟩

theorem carol_refresh_alone
    (hbearer : (bearer authorization).filter (fun raw => raw ≠ "") = some carolToken) :
    ∃ w res, (handle sampleEnv noSaml (.refresh authorization)).alone carolWorld =
      (w, .ok (.session res)) ∧ w.tables.db = carolTables.db := by
  obtain ⟨next, hadvance, hnext⟩ := carol_refresh hbearer
  obtain ⟨w, res, halone, hdb⟩ := hnext carolWorld rfl
  refine ⟨w, res, ?_, hdb⟩
  have hrefresh : (refreshToken sampleEnv authorization).alone carolWorld = (w, .ok res) := by
    rw [Prog.alone_advance _ 2, hadvance]
    exact halone
  rw [handle, Prog.alone_bind, hrefresh]
  rfl

/-- Both refreshes read the list before either has written to it. -/
theorem carol_refreshes_twice : ∃ events q,
    Run (Step (handle sampleEnv noSaml) KeepsList) carolServer events q ∧
      Won carolToken (q.threads 0) ∧ Won carolToken (q.threads 1) := by
  obtain ⟨authorization, hbearer⟩ := carol_bears
  obtain ⟨next, hadvance, hnext⟩ := carol_refresh hbearer
  obtain ⟨w₁, res₁, hwhole, hdb⟩ := carol_refresh_alone hbearer
  obtain ⟨w₂, res₂, hfirst, _⟩ := hnext w₁ hdb
  have hread : (handle sampleEnv noSaml (.refresh authorization)).advance 2 carolWorld = _ :=
    Prog.advance_bind hadvance _
  have hrest : (next w₁ >>= fun res => pure (res.map Reply.session)).alone w₁ =
      (w₂, .ok (.session res₂)) := by
    rw [Prog.alone_bind, hfirst]
    rfl
  have hwon : Refreshes carolToken (.refresh authorization) :=
    (Option.filter_eq_some_iff.mp hbearer).1
  have h10 : (1 : Nat) ≠ 0 := by decide
  refine ⟨_, _, Pool.run_play_step [.start 0 (.refresh authorization), .act 0 2,
    .start 1 (.refresh authorization), .finish 1, .finish 0] carolServer
    ⟨trivial, trivial, trivial, trivial, trivial, trivial⟩, ?_, ?_⟩
  · simp only [Pool.play, Pool.move, carolServer, hread, hwhole, update_self,
      update_of_ne h10]
    show Won carolToken (.answered _ ((next w₁ >>= _).alone w₁).2)
    rw [hrest]
    exact hwon
  · simp only [Pool.play, Pool.move, carolServer, hread, hwhole, update_self,
      update_of_ne h10]
    exact hwon

/-- One after the other: the second finds the token listed. -/
theorem carol_refreshes_once : ∃ events q,
    Run (Guarded (Step (handle sampleEnv noSaml) KeepsList) (OneAtATime carolToken)) carolServer
      events q ∧
    Won carolToken (q.threads 0) ∧
    (∃ r res, q.threads 1 = .answered r res ∧ Refreshes carolToken r) ∧
    ∀ n, Won carolToken (q.threads n) → n = 0 := by
  obtain ⟨authorization, hbearer⟩ := carol_bears
  obtain ⟨w, res, hwhole, _⟩ := carol_refresh_alone hbearer
  have hwon : Refreshes carolToken (.refresh authorization) :=
    (Option.filter_eq_some_iff.mp hbearer).1
  have hplayable : carolServer.Playable (handle sampleEnv noSaml) KeepsList (OneAtATime carolToken)
      [.start 0 (.refresh authorization), .finish 0, .start 1 (.refresh authorization),
        .finish 1] := by
    refine ⟨fun _ m hbusy => hbusy, trivial, ?_, trivial, trivial⟩
    intro _ m hbusy
    simp only [Pool.move, carolServer, update_self] at hbusy
    by_cases hm : m = 0
    · rw [hm] at hbusy
      exact hbusy
    · rw [update_of_ne hm, update_of_ne hm] at hbusy
      exact hbusy
  have hrun := Pool.run_play (fun _ _ _ => trivial) (fun _ _ _ => trivial) _ _ hplayable
  have hfirst : Won carolToken ((carolServer.play (handle sampleEnv noSaml)
      [.start 0 (.refresh authorization), .finish 0, .start 1 (.refresh authorization),
        .finish 1]).1.threads 0) := by
    simp only [Pool.play, Pool.move, carolServer, hwhole, update_self]
    exact hwon
  refine ⟨_, _, hrun, hfirst, ?_, ?_⟩
  · exact ⟨_, _, rfl, hwon⟩
  · intro n hn
    exact token_refreshed_once sampleEnv noSaml carol_expires (fun _ => rfl) hrun hn hfirst

end Outpost.RefreshOnce
