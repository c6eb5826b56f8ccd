import Outpost.SessionProvenance

/-!
# Backup codes

The login spends a code with an update that also asks for `used = false`, and looks
at whether it changed a row. The manager marks the code that it has found and does not
look. Both read the unused codes before.
-/

namespace Outpost

open Interleaving AuthHandler Runs Function

def World.Unused (w : World) (id : Uuid) : Prop :=
  ∃ c ∈ w.tables.backupCodes, c.id = id ∧ c.used = false

namespace AuthTables

variable (t : AuthTables)

/-- `UPDATE mfa_backup_codes SET used = true WHERE id = $1`. -/
def markBackupCode (id : Uuid) : AuthTables :=
  { t with
    backupCodes := t.backupCodes.map fun c => if c.id = id then { c with used := true } else c }

theorem markBackupCode_eq (id : Uuid) : t.markBackupCode id = (t.spendBackupCode id).1 := by
  unfold markBackupCode spendBackupCode
  congr 1
  apply List.map_congr_left
  rintro ⟨cid, userId, codeHash, used⟩ _
  by_cases hid : cid = id
  · cases used <;> simp [hid]
  · simp [hid]

theorem spendBackupCode_snd (id : Uuid) :
    (t.spendBackupCode id).2 = true ↔ ∃ c ∈ t.backupCodes, c.id = id ∧ c.used = false := by
  simp [spendBackupCode]

theorem unused_spendBackupCode {id id' : Uuid} :
    (∃ c ∈ (t.spendBackupCode id).1.backupCodes, c.id = id' ∧ c.used = false) ↔
      (∃ c ∈ t.backupCodes, c.id = id' ∧ c.used = false) ∧ id' ≠ id := by
  constructor
  · rintro ⟨c, hc, rfl, hunused⟩
    obtain ⟨d, hd, rfl⟩ := List.mem_map.mp hc
    by_cases hspent : d.id = id ∧ d.used = false
    · rw [if_pos hspent] at hunused
      cases hunused
    · rw [if_neg hspent] at hunused ⊢
      exact ⟨⟨d, hd, rfl, hunused⟩, fun hid => hspent ⟨hid, hunused⟩⟩
  · rintro ⟨⟨c, hc, rfl, hunused⟩, hne⟩
    have hspent : ¬ (c.id = id ∧ c.used = false) := fun h => hne h.1
    exact ⟨c, List.mem_map.mpr ⟨c, hc, if_neg hspent⟩, rfl, hunused⟩

end AuthTables

namespace BackupCodes

section Handlers

variable (env : AuthEnv)

/-- `ValidateBackupCode` of the manager. The first code that matches is accepted. -/
def validateBackupCode (userID : Uuid) (code : String) : Prog World Bool := do
  let rows ← query fun t => t.backupCodes.filter fun c => c.userId = userID ∧ c.used = false
  match rows.find? fun row => env.bcrypt.compare row.codeHash code with
  | some row =>
    exec fun t => (t.markBackupCode row.id, ())
    return true
  | none => return false

def trySpend (code : String) : List BackupCode → Prog World (Option Uuid)
  | [] => return none
  | row :: rest => do
    if Passwords.checkPassword env.bcrypt row.codeHash code then
      if ← exec fun t => t.spendBackupCode row.id then return some row.id
      else trySpend code rest
    else trySpend code rest

inductive Check where
  | login (userID : Uuid) (code : String)
  | manager (userID : Uuid) (code : String)

def check : Check → Prog World (Option Uuid)
  | .login userID code => do
    let rows ← query fun t => t.backupCodes.filter fun c => c.userId = userID ∧ c.used = false
    trySpend env code rows
  | .manager userID code => do
    let rows ← query fun t => t.backupCodes.filter fun c => c.userId = userID ∧ c.used = false
    match rows.find? fun row => env.bcrypt.compare row.codeHash code with
    | some row =>
      exec fun t => (t.markBackupCode row.id, ())
      return some row.id
    | none => return none

variable {env}

theorem tryCodes_eq (code : String) (rows : List BackupCode) :
    tryCodes env code rows = Option.isSome <$> trySpend env code rows := by
  induction rows with
  | nil => rfl
  | cons row rest ih =>
    rw [tryCodes, trySpend]
    split
    · rw [map_bind]
      congr 1
      funext spent
      cases spent with
      | true => rfl
      | false => exact ih
    · exact ih

theorem tryBackupCode_eq (userID : Uuid) (code : String) :
    tryBackupCode env userID code = Option.isSome <$> check env (.login userID code) := by
  rw [tryBackupCode, check, map_bind]
  congr 1
  funext rows
  exact tryCodes_eq code rows

theorem validateBackupCode_eq (userID : Uuid) (code : String) :
    validateBackupCode env userID code = Option.isSome <$> check env (.manager userID code) := by
  rw [validateBackupCode, check, map_bind]
  congr 1
  funext rows
  cases rows.find? fun row => env.bcrypt.compare row.codeHash code with
  | none => rfl
  | some row => rw [map_bind]; rfl

end Handlers

section Programs

open Prog

variable {env : AuthEnv}

def Spends (w w' : World) (rest : Prog World (Option Uuid)) : Prop :=
  (∀ id, w'.Unused id → w.Unused id) ∧
    ∀ id, w.Unused id → ¬ w'.Unused id → rest = .ret (some id)

def Other (w w' : World) : Prop := ∀ id, w'.Unused id ↔ w.Unused id

theorem spends_refl (w : World) (rest : Prog World (Option Uuid)) : Spends w w rest :=
  ⟨fun _ h => h, fun _ h hnot => absurd h hnot⟩

variable {w w' : World} {id : Uuid}

theorem spends_update {rest : Prog World (Option Uuid)}
    (htables : w'.tables = (w.tables.spendBackupCode id).1)
    (hrest : w.Unused id → rest = .ret (some id)) : Spends w w' rest := by
  have hunused : ∀ id', w'.Unused id' ↔ w.Unused id' ∧ id' ≠ id := by
    intro id'
    unfold World.Unused
    rw [htables]
    exact w.tables.unused_spendBackupCode
  constructor
  · intro id' h
    exact ((hunused id').mp h).1
  · intro id' h hnot
    have hid : id' = id := by
      by_contra hne
      exact hnot ((hunused id').mpr ⟨h, hne⟩)
    rw [hid] at h ⊢
    exact hrest h

theorem acts_trySpend (code : String) (rows : List BackupCode) :
    (trySpend env code rows).Acts Spends := by
  induction rows with
  | nil => trivial
  | cons row rest ih =>
    rw [trySpend]
    split
    · apply acts_modify_bind
      intro w
      split
      · exact ⟨spends_update rfl fun _ => rfl, trivial⟩
      · rename_i hspent
        refine ⟨spends_update rfl fun hunused => ?_, ih⟩
        exact absurd ((w.tables.spendBackupCode_snd row.id).mpr hunused) hspent
    · exact ih

theorem acts_check (c : Check) : (check env c).Acts Spends := by
  cases c with
  | login userID code =>
    intro w
    exact ⟨spends_refl w _, acts_trySpend code _⟩
  | manager userID code =>
    apply acts_read_bind
    intro w
    refine ⟨spends_refl w _, ?_⟩
    split
    · rename_i row _
      intro w
      exact ⟨spends_update (w.tables.markBackupCode_eq row.id) fun _ => rfl, trivial⟩
    · trivial

theorem not_unused_spend (w : World) (id : Uuid)
    (htables : w'.tables = (w.tables.spendBackupCode id).1) : ¬ w'.Unused id := by
  unfold World.Unused
  rw [htables, AuthTables.unused_spendBackupCode]
  exact fun h => h.2 rfl

theorem leaves_trySpend (code : String) (rows : List BackupCode) (w : World) :
    (trySpend env code rows).Leaves (fun w res => ∀ id, res = some id → ¬ w.Unused id) w := by
  induction rows generalizing w with
  | nil => exact leaves_pure nofun
  | cons row rest ih =>
    rw [trySpend]
    split
    · refine leaves_bind (leaves_modify fun w => ?_)
      split
      · rintro id ⟨⟩
        exact not_unused_spend w row.id rfl
      · exact ih _
    · exact ih w

theorem leaves_check (c : Check) (w : World) :
    (check env c).Leaves (fun w res => ∀ id, res = some id → ¬ w.Unused id) w := by
  cases c with
  | login userID code =>
    exact leaves_bind (leaves_of_forall _ fun w rows => leaves_trySpend code rows w)
  | manager userID code =>
    refine leaves_bind (leaves_of_forall _ fun w rows => ?_)
    split
    · rename_i row _
      refine leaves_bind (leaves_modify fun w => ?_)
      rintro id ⟨⟩
      exact not_unused_spend w row.id (w.tables.markBackupCode_eq row.id)
    · exact leaves_pure nofun

theorem keeps_trySpend {seen : List World} (code : String) (rows : List BackupCode) :
    Keeps (fun _ _ _ => True) (fun _ res => ∀ id, res = some id → ∃ row ∈ rows, row.id = id) seen
      (trySpend env code rows) := by
  induction rows generalizing seen with
  | nil => exact keeps_pure nofun
  | cons row rest ih =>
    have hrest : ∀ later, Keeps (fun _ _ _ => True)
        (fun _ res => ∀ id, res = some id → ∃ row' ∈ row :: rest, row'.id = id) later
        (trySpend env code rest) := by
      intro later
      refine keeps_mono ih ?_
      intro _ _ _ h id hid
      obtain ⟨row', hrow', heq⟩ := h id hid
      exact ⟨row', List.mem_cons_of_mem row hrow', heq⟩
    rw [trySpend]
    split
    · have hspend : Keeps (fun _ _ _ => True) (fun _ _ => True) seen
          (exec fun t => t.spendBackupCode row.id) :=
        keeps_modify (fun _ => trivial) fun _ => trivial
      apply keeps_bind hspend
      intro later spent _ _
      split
      · rintro id ⟨⟩
        exact ⟨row, .head _, rfl⟩
      · exact hrest later
    · exact hrest seen

theorem keeps_check (c : Check) :
    Keeps (fun _ _ _ => True) (fun seen res => ∀ id, res = some id → ∃ w ∈ seen, w.Unused id) []
      (check env c) := by
  have hquery : ∀ userID, Keeps (fun _ _ _ => True)
      (fun later rows => ∃ w ∈ later, ∀ row ∈ rows, w.Unused row.id) []
      (query fun t => t.backupCodes.filter fun c => c.userId = userID ∧ c.used = false) := by
    intro userID
    refine keeps_read (fun _ => trivial) fun w => ⟨w, .head _, ?_⟩
    intro row hrow
    obtain ⟨hin, hfilter⟩ := List.mem_filter.mp hrow
    exact ⟨row, hin, rfl, (of_decide_eq_true hfilter).2⟩
  cases c with
  | login userID code =>
    apply keeps_bind (hquery userID)
    intro seen rows _ ⟨w, hw, hrows⟩
    refine keeps_mono (keeps_trySpend code rows) ?_
    intro later res hlater h id hid
    obtain ⟨row, hrow, rfl⟩ := h id hid
    exact ⟨w, hlater.subset hw, hrows row hrow⟩
  | manager userID code =>
    apply keeps_bind (hquery userID)
    intro seen rows _ ⟨w, hw, hrows⟩
    split
    · rename_i row hfind
      have hmark : Keeps (fun _ _ _ => True) (fun _ _ => True) seen
          (exec fun t => (t.markBackupCode row.id, ())) :=
        keeps_modify (fun _ => trivial) fun _ => trivial
      apply keeps_bind hmark
      intro later _ hlater _
      rintro id ⟨⟩
      exact ⟨w, hlater.subset hw, hrows row (List.mem_of_find?_eq_some hfind)⟩
    · exact keeps_pure nofun

theorem trySpend_ne_ret (code : String) (rows : List BackupCode) (id : Uuid) :
    trySpend env code rows ≠ .ret (some id) := by
  induction rows with
  | nil => nofun
  | cons row rest ih =>
    rw [trySpend]
    split
    · nofun
    · exact ih

theorem acts_trySpend_unused (code : String) (rows : List BackupCode) :
    (trySpend env code rows).Acts fun w _ rest => ∀ id, rest = .ret (some id) → w.Unused id := by
  induction rows with
  | nil => trivial
  | cons row rest ih =>
    rw [trySpend]
    split
    · apply acts_modify_bind
      intro w
      split
      · rename_i hspent
        refine ⟨?_, trivial⟩
        rintro id ⟨⟩
        exact (w.tables.spendBackupCode_snd row.id).mp hspent
      · exact ⟨fun id hid => absurd hid (trySpend_ne_ret code rest id), ih⟩
    · exact ih

theorem login_accepts_unused {userID : Uuid} {code : String} {found : List World} (h : (check env (.login userID code)).after (found ++ [w]) =
      some (.ret (some id))) :
    w.Unused id := by
  have hacts : (check env (.login userID code)).Acts fun w _ rest =>
      ∀ id, rest = .ret (some id) → w.Unused id := by
    intro w
    exact ⟨fun id hid => absurd hid (trySpend_ne_ret code _ id), acts_trySpend_unused code _⟩
  obtain ⟨_, hunused⟩ := hacts.of_after h
  exact hunused id rfl

end Programs

abbrev Pool := Interleaving.Pool World Check (Option Uuid)

abbrev Happening := Event World Check (Option Uuid)

def Accepts (id : Uuid) (t : Thread World Check (Option Uuid)) : Prop := t.result = some (some id)

section Runs

variable {env : AuthEnv} {past : List Happening} {p q : Pool} {e : Happening}

structure Inv (env : AuthEnv) (past : List Happening) (p : Pool) : Prop where
  follows : ∀ n, Follows (check env) past n (p.threads n)
  acts : ∀ n, Tracked (fun _ _ rest => rest.Acts Spends) past n (p.threads n)
  settled : Settled (fun _ w res => ∀ id, res = some id → ¬ w.Unused id) p
  spent : ∀ n w id, .act n w ∈ past → w.Unused id →
    p.shared.Unused id ∨ ∃ m, Accepts id (p.threads m)

variable {id : Uuid}

theorem unused_of_step (hstep : Step (check env) Other p e q) (h : Inv env past p)
    (hunused : q.shared.Unused id) : p.shared.Unused id := by
  cases hstep with
  | @act n c update next hrunning =>
    have hacts := h.acts n
    rw [hrunning] at hacts
    exact (hacts.2 p.shared).1.1 id hunused
  | other hother => exact (hother id).mp hunused
  | _ => exact hunused

theorem accepts_of_step (hstep : Step (check env) Other p e q) (h : Inv env past p)
    (hunused : p.shared.Unused id) (hspent : ¬ q.shared.Unused id) :
    ∃ m, Accepts id (q.threads m) := by
  cases hstep with
  | @act n c update next hrunning =>
    have hacts := h.acts n
    rw [hrunning] at hacts
    have hnext := (hacts.2 p.shared).1.2 id hunused hspent
    refine ⟨n, ?_⟩
    simp only [update_self, hnext]
    rfl
  | other hother => exact absurd ((hother id).mpr hunused) hspent
  | _ => exact absurd hunused hspent

theorem inv_step (hstep : Step (check env) Other p e q) (h : Inv env past p) :
    Inv env (past ++ [e]) q where
  follows := follows_step hstep h.follows
  acts := tracked_step acts_check (fun _ _ _ _ s hacts => (hacts s).2) hstep h.acts
  settled := by
    refine settled_step leaves_check ?_ hstep h.settled
    intro _ res hused id hid hunused
    exact hused id hid (unused_of_step hstep h hunused)
  spent := by
    intro n w id hact hunused
    have hnow : p.shared.Unused id ∨ ∃ m, Accepts id (p.threads m) := by
      rcases List.mem_append.mp hact with hact | hact
      · exact h.spent n w id hact hunused
      · obtain rfl := List.mem_singleton.mp hact
        cases hstep with
        | act _ => exact .inl hunused
    rcases hnow with hnow | ⟨m, hm⟩
    · by_cases hstill : q.shared.Unused id
      · exact .inl hstill
      · exact .inr (accepts_of_step hstep h hnow hstill)
    · exact .inr ⟨m, result_step hstep hm⟩

theorem inv_unused (h : ∀ n, p.threads n = .unused) : Inv env [] p where
  follows := by
    intro n
    rw [h n]
    rfl
  acts := by
    intro n
    rw [h n]
    rfl
  settled := settled_unused h
  spent := fun _ _ _ hact => absurd hact List.not_mem_nil

def ManagerFinds (env : AuthEnv) (events : List Happening) : Prop :=
  ∀ past n w later userID code id, events = past ++ .act n w :: later →
    .start n (.manager userID code) ∈ past →
    (check env (.manager userID code)).after (seen n past ++ [w]) = some (.ret (some id)) →
    w.Unused id

theorem managerFinds_of_append (h : ManagerFinds env (past ++ [e])) : ManagerFinds env past := by
  intro first n w later userID code id hpast
  refine h first n w (later ++ [e]) userID code id ?_
  rw [hpast, List.append_assoc, List.cons_append]

def Once (p : Pool) : Prop :=
  ∀ id n m, Accepts id (p.threads n) → Accepts id (p.threads m) → n = m

theorem accepts_before_or_now {n : Nat} (hstep : Step (check env) Other p e q) (h : Inv env past p)
    (hfinds : ManagerFinds env (past ++ [e])) (hn : Accepts id (q.threads n)) :
    Accepts id (p.threads n) ∨ e = .act n p.shared ∧ p.shared.Unused id := by
  rcases result_of_step hstep hn with hold | ⟨c, _, hret⟩ | ⟨c, update, next, he, hrunning, hnext⟩
  · exact .inl hold
  · cases c <;> cases hret
  · have hfollows := h.follows n
    rw [hrunning] at hfollows
    have hafter : (check env c).after (seen n past ++ [p.shared]) = some (.ret (some id)) := by
      rw [Prog.after_snoc hfollows.2, hnext]
    refine .inr ⟨he, ?_⟩
    cases c with
    | login userID code => exact login_accepts_unused hafter
    | manager userID code =>
      exact hfinds past n p.shared [] userID code id (by rw [he]) hfollows.1 hafter

theorem once_step (hstep : Step (check env) Other p e q) (h : Inv env past p)
    (hfinds : ManagerFinds env (past ++ [e])) (honce : Once p) : Once q := by
  have hused : ∀ n id, Accepts id (p.threads n) → ¬ p.shared.Unused id := by
    intro n id hn
    obtain ⟨_, hleft⟩ := settled_result h.settled hn
    exact hleft id rfl
  intro id n m hn hm
  rcases accepts_before_or_now hstep h hfinds hn with hn | ⟨hen, hunused⟩
  · rcases accepts_before_or_now hstep h hfinds hm with hm | ⟨_, hunused⟩
    · exact honce id n m hn hm
    · exact absurd hunused (hused n id hn)
  · rcases accepts_before_or_now hstep h hfinds hm with hm | ⟨hem, _⟩
    · exact absurd hunused (hused m id hm)
    · cases hen.symm.trans hem
      rfl

section Acting

variable {n : Nat} {w : World} {c : Check} {id : Uuid} {r : Pool}

theorem accepts_of_after (h : Inv env past p) (hpast : Run (Step (check env) Other) r past p)
    (hstart : .start n c ∈ past)
    (hafter : (check env c).after (seen n past ++ [w]) = some (.ret (some id)))
    (hstep : Step (check env) Other p (.act n w) q) : Accepts id (q.threads n) := by
  have hrequest := request_of_start hpast hstart
  have hfollows := h.follows n
  cases hstep with
  | act hrunning =>
    rw [hrunning] at hrequest hfollows
    obtain rfl := Option.some.inj hrequest
    have hnext := Option.some.inj ((Prog.after_snoc hfollows.2 p.shared).symm.trans hafter)
    simp only [update_self, hnext]
    rfl

theorem spent_or_unused (h : Inv env past p)
    (hafter : (check env c).after (seen n past ++ [w]) = some (.ret (some id)))
    (hstep : Step (check env) Other p (.act n w) q) :
    w.Unused id ∨ ∃ m, Accepts id (p.threads m) ∧ m ≠ n := by
  have hread := Prog.keeps_after (keeps_check c) hafter
  rw [List.nil_append] at hread
  obtain ⟨w', hw', hunused⟩ := hread id rfl
  rcases List.mem_append.mp hw' with hseen | hlast
  · cases hstep with
    | act hrunning =>
      rcases h.spent n w' id (mem_seen.mp hseen) hunused with hnow | ⟨m, hm⟩
      · exact .inl hnow
      · refine .inr ⟨m, hm, ?_⟩
        rintro rfl
        rw [hrunning] at hm
        cases hm
  · exact .inl (List.mem_singleton.mp hlast ▸ hunused)

end Acting

end Runs

/-- Every code is accepted at most once exactly when the manager marks no code that was
spent since it was read. -/
theorem backup_codes_single_use_iff (env : AuthEnv) {p q : Pool} {events : List Happening}
    (hunused : ∀ n, p.threads n = .unused) (hrun : Run (Step (check env) Other) p events q) :
    Once q ↔ ManagerFinds env events := by
  constructor
  · rintro honce past n w later userID code id rfl hstart hafter
    obtain ⟨s, hpast, hlater⟩ := hrun.of_append
    have hinv : Inv env past s :=
      hpast.history (fun past s e t hstep h => inv_step hstep h) (inv_unused hunused)
    cases hlater with
    | cons hstep hrest =>
      rcases spent_or_unused hinv hafter hstep with hw | ⟨m, hm, hne⟩
      · exact hw
      · have hq : Accepts id (q.threads n) :=
          result_run hrest (accepts_of_after hinv hpast hstart hafter hstep)
        exact absurd (honce id m n (result_run hrest (result_step hstep hm)) hq) hne
  · intro hfinds
    have hall : Inv env events q ∧ (ManagerFinds env events → Once q) := by
      refine hrun.history (I :=
        fun past s => Inv env past s ∧ (ManagerFinds env past → Once s)) ?_ ?_
      · intro past s e t hstep ⟨hinv, honce⟩
        refine ⟨inv_step hstep hinv, fun hfinds => ?_⟩
        exact once_step hstep hinv hfinds (honce (managerFinds_of_append hfinds))
      · refine ⟨inv_unused hunused, fun _ id n m hn => ?_⟩
        rw [hunused n] at hn
        cases hn
    exact hall.2 hfinds

open SessionProvenance (sampleEnv carolTables)

def codeWorld : World :=
  ⟨{ carolTables with backupCodes := [⟨"k", "c", "8hexchar", false⟩] }, 0, []⟩

def codePool : Pool := ⟨codeWorld, fun _ => .unused⟩

/-- The manager has read the code when the login spends it, and marks it once more. -/
theorem code_accepted_twice : ∃ events q,
    Run (Step (check sampleEnv) Other) codePool events q ∧
      Accepts "k" (q.threads 0) ∧ Accepts "k" (q.threads 1) := by
  refine ⟨_, _, Pool.run_play_step [.start 0 (.manager "c" "8hexchar"), .act 0 1,
    .start 1 (.login "c" "8hexchar"), .finish 1, .finish 0] codePool
    ⟨trivial, trivial, trivial, trivial, trivial, trivial⟩, ?_, ?_⟩
  · rfl
  · rfl

def inTurn : List (Move World Check) :=
  [.start 0 (.manager "c" "8hexchar"), .finish 0, .start 1 (.login "c" "8hexchar"), .finish 1]

/-- One after the other: the login finds no code. -/
theorem code_accepted_once : ∃ events q,
    Run (Step (check sampleEnv) Other) codePool events q ∧ Accepts "k" (q.threads 0) ∧
      q.threads 1 = .answered (.login "c" "8hexchar") none ∧ ManagerFinds sampleEnv events := by
  have hrun : Run (Step (check sampleEnv) Other) codePool _ _ :=
    Pool.run_play_step inTurn codePool ⟨trivial, trivial, trivial, trivial, trivial⟩
  have honly : ∀ id n,
      Accepts id ((codePool.play (check sampleEnv) inTurn).1.threads n) → n = 0 := by
    intro id n hn
    match n with
    | 0 => rfl
    | 1 => cases hn
    | _ + 2 => cases hn
  refine ⟨_, _, hrun, rfl, rfl, (backup_codes_single_use_iff sampleEnv (fun _ => rfl) hrun).mp ?_⟩
  intro id n m hn hm
  rw [honly id n hn, honly id m hm]

end BackupCodes

end Outpost
