import Outpost.SessionProvenance
import Outpost.Shared.ReadModifyWrite

/-!
# Counting failed logins

A login with a wrong password writes one more than the counter that it has read with the
row. Logins that overlap read the same counter, and all but one of their failures are lost.
-/

namespace Outpost.LoginFailures

open Interleaving AuthHandler ReadModifyWrite Runs

abbrev Server := Pool World LoginRequest (Except HandlerError LoginResponse)

abbrev Happening := Event World LoginRequest (Except HandlerError LoginResponse)

def wrong : Except HandlerError LoginResponse := .error ⟨401, "invalid credentials"⟩

def failures (p : Server) : Set Nat := {n | (p.threads n).result = some wrong}

def attempts (userID : Uuid) (w : World) : Int := (w.tables.columns userID).failedLoginAttempts

def LockedSince (start : Time) (row : LoginColumns) : Prop :=
  ∃ lockedUntil, row.lockedUntil = some lockedUntil ∧ start + 15 * Time.minute ≤ lockedUntil

def Other (name : String) (userID : Uuid) (w w' : World) : Prop :=
  w'.tables.loginRow name = w.tables.loginRow name ∧
    w'.tables.columns userID = w.tables.columns userID ∧ w.now ≤ w'.now

structure Account (name : String) (u : User) (hash : String) (start : Time) (w : World) : Prop where
  row : w.tables.loginRow name = some (u, hash)
  later : start ≤ w.now

structure Wrong (env : AuthEnv) (name hash : String) (req : LoginRequest) : Prop where
  username : req.username = name
  password : Passwords.checkPassword env.bcrypt hash req.password = false

structure Records (start : Time) (count : Int) (row row' : LoginColumns) : Prop where
  passwordHash : row'.passwordHash = row.passwordHash
  failedLoginAttempts : row'.failedLoginAttempts = count + 1
  locks : 5 ≤ count + 1 → LockedSince start row'
  lockedUntil : count + 1 < 5 → row'.lockedUntil = row.lockedUntil

/-- The rest of a request that has read the counter: it is answered otherwise or records a failure
as its last action. -/
def Pending (start : Time) (userID : Uuid) (count : Int) :
    Prog World (Except HandlerError LoginResponse) → Prop
  | .ret answer => answer ≠ wrong
  | .act update next =>
      (∀ w, update w = w ∧ (start ≤ w.now → Pending start userID count (next w))) ∨
        ∃ f, (∀ row, Records start count row (f row)) ∧
          ∀ w, update w = { w with tables := w.tables.setColumns userID f } ∧ next w = .ret wrong

section Programs

variable {env : AuthEnv} {start : Time} {userID : Uuid} {count : Int}

theorem pending_lockRemaining (lockedUntil : Option Time)
    {f : Option Int → Prog World (Except HandlerError LoginResponse)}
    (h : ∀ remaining, Pending start userID count (f remaining)) :
    Pending start userID count (lockRemaining lockedUntil >>= f) := by
  cases lockedUntil with
  | none => exact h none
  | some t =>
    refine .inl fun w => ⟨rfl, fun _ => ?_⟩
    show Pending start userID count
      ((if w.now < t then _ else _ : Prog World (Option Int)) >>= f)
    split
    · exact .inl fun _ => ⟨rfl, fun _ => h _⟩
    · exact h none

theorem pending_setColumns {f : LoginColumns → LoginColumns}
    (h : ∀ row, Records start count row (f row)) : Pending start userID count
      (exec (fun t => (t.setColumns userID f, ())) >>= fun _ => pure wrong) :=
  .inr ⟨f, h, fun _ => ⟨rfl, rfl⟩⟩

theorem pending_countFailure :
    Pending start userID count (countFailure userID count >>= fun _ => pure wrong) := by
  unfold countFailure
  dsimp only
  split
  · rename_i hfive
    refine .inl fun w => ⟨rfl, fun hnow => ?_⟩
    refine pending_setColumns fun row => ⟨rfl, rfl, ?_, ?_⟩
    · intro _
      exact ⟨_, rfl, Nat.add_le_add_right hnow _⟩
    · intro hless
      exact absurd hfive (Int.not_le.mpr hless)
  · rename_i hfive
    exact pending_setColumns fun row => ⟨rfl, rfl, fun h => absurd h hfive, fun _ => rfl⟩

theorem pending_refused {message : String} :
    Pending start userID count (pure (.error ⟨403, message⟩)) := by
  show (Except.error _ : Except HandlerError LoginResponse) ≠ wrong
  simp [wrong]

theorem pending_login {name hash : String} {u : User} {req : LoginRequest} {w : World}
    {update : World → World} {next : World → Prog World (Except HandlerError LoginResponse)}
    (hreq : Wrong env name hash req) (hw : Account name u hash start w)
    (hlogin : login env req = .act update next) :
    update w = w ∧ Pending start u.id (attempts u.id w) (next w) := by
  unfold login at hlogin
  split at hlogin
  · cases hlogin
  · cases hlogin
    refine ⟨rfl, ?_⟩
    simp only [hreq.username, hw.row, Option.map_some, Prog.bind]
    split
    · exact pending_refused
    · refine pending_lockRemaining _ ?_
      intro remaining
      cases remaining with
      | some remaining => exact pending_refused
      | none =>
        simp only [hreq.password]
        exact pending_countFailure

end Programs

structure Tally where
  attempts : Int
  locked : Prop

def tally (start : Time) (userID : Uuid) (w : World) : Tally :=
  ⟨attempts userID w, LockedSince start (w.tables.columns userID)⟩

structure Fails (snapshot found v : Tally) : Prop where
  attempts : v.attempts = snapshot.attempts + 1
  locks : 5 ≤ v.attempts → v.locked
  locked : v.attempts < 5 → v.locked = found.locked

section Requests

variable (env : AuthEnv) (name hash : String) (u : User) (start : Time)

def Fits (req : LoginRequest) (found : List World)
    (rest : Prog World (Except HandlerError LoginResponse)) : Phase Tally → Prop
  | .idle => Wrong env name hash req ∧ found = [] ∧ rest = login env req
  | .holding snapshot => ∃ w later, found = w :: later ∧ tally start u.id w = snapshot ∧
      Pending start u.id snapshot.attempts rest
  | .wrote snapshot replaced => rest = .ret wrong ∧ ∃ w w', found.head? = some w ∧
      found.getLast? = some w' ∧ tally start u.id w = snapshot ∧ tally start u.id w' = replaced

variable {env name hash u start}

variable {f : LoginColumns → LoginColumns}

theorem loginRow_setColumns {t : AuthTables} {userID : Uuid}
    (h : ∀ row, (f row).passwordHash = row.passwordHash) :
    (t.setColumns userID f).loginRow name = t.loginRow name := by
  unfold AuthTables.loginRow AuthTables.setColumns
  cases t.db.users.find? fun u => u.username = name with
  | none => rfl
  | some u =>
    by_cases hu : u.id = userID
    · simp [hu, h]
    · simp [hu]

theorem fails_of_records {w : World} {count : Int} {snapshot : Tally}
    (hcount : snapshot.attempts = count) (h : ∀ row, Records start count row (f row)) :
    Fails snapshot (tally start u.id w)
      (tally start u.id { w with tables := w.tables.setColumns u.id f }) := by
  have hrow : (w.tables.setColumns u.id f).columns u.id = f (w.tables.columns u.id) := by
    simp [AuthTables.setColumns]
  have hrecords := h (w.tables.columns u.id)
  constructor
  · simp only [tally, attempts, hrow, hrecords.failedLoginAttempts, hcount]
  · simp only [tally, attempts, hrow, hrecords.failedLoginAttempts]
    exact hrecords.locks
  · simp only [tally, attempts, hrow, hrecords.failedLoginAttempts]
    intro hless
    unfold LockedSince
    rw [hrecords.lockedUntil hless]

theorem protocol (env : AuthEnv) (name hash : String) (u : User) (start : Time) :
    Protocol (login env) (Other name u.id) (tally start u.id)
    (Account name u hash start) (Wrong env name hash) (fun _ => Fails)
    (Fits env name hash u start) where
  start := by
    intro req hreq
    exact ⟨hreq, rfl, rfl⟩
  act := by
    intro req found update next ph w hfits hw
    cases ph with
    | idle =>
      obtain ⟨hreq, rfl, hlogin⟩ := hfits
      obtain ⟨hsame, hpending⟩ := pending_login hreq hw hlogin.symm
      rw [hsame]
      exact ⟨hw, _, .read rfl, w, [], rfl, rfl, hpending⟩
    | holding snapshot =>
      obtain ⟨w₀, later, rfl, hsnapshot, hpending⟩ := hfits
      rcases hpending with hquiet | ⟨f, hrecords, hwrites⟩
      · obtain ⟨hsame, hrest⟩ := hquiet w
        rw [hsame]
        exact ⟨hw, _, .quiet rfl, w₀, later ++ [w], rfl, hsnapshot, hrest hw.later⟩
      · obtain ⟨hupdate, hnext⟩ := hwrites w
        rw [hupdate, hnext]
        refine ⟨⟨?_, hw.later⟩, _, .write (fails_of_records rfl hrecords), rfl, w₀, w, rfl, ?_,
          hsnapshot, rfl⟩
        · rw [← hw.row]
          exact loginRow_setColumns fun row => (hrecords row).passwordHash
        · exact List.getLast?_concat
    | wrote snapshot replaced => cases hfits.1
  other := by
    intro w w' hother hw
    refine ⟨⟨hother.1.trans hw.row, hw.later.trans hother.2.2⟩, ?_⟩
    unfold tally attempts
    rw [hother.2.1]

end Requests

section Lock

variable {c₀ : Int} {m m' : Machine Tally} {Writes : Nat → Tally → Tally → Tally → Prop}

structure Locks (c₀ : Int) (m : Machine Tally) : Prop where
  counts : Counts Tally.attempts c₀ m
  locked : m.writers.Nonempty → 5 ≤ m.value.attempts → m.value.locked
  five : m.Current Tally.attempts → m.value.locked → 5 ≤ m.value.attempts

theorem locks_step (hwrites : ∀ n s f v, Writes n s f v → Fails s f v)
    (hstep : ReadModifyWrite.Step Writes m m') (h : Locks c₀ m) : Locks c₀ m' := by
  have hcounts := counts_step (fun n s f v hw => (hwrites n s f v hw).attempts) hstep h.counts
  cases hstep with
  | read hidle =>
    refine ⟨hcounts, ?_, ?_⟩
    · rw [writers_read hidle]
      exact h.locked
    · rw [current_read hidle]
      exact h.five
  | @write n snapshot v hholding hwrite =>
    have hfails := hwrites _ _ _ _ hwrite
    refine ⟨hcounts, fun _ => hfails.locks, ?_⟩
    intro hcurrent hlocked
    show 5 ≤ v.attempts
    obtain ⟨hsame, hbefore⟩ := (current_write hholding).mp hcurrent
    by_contra hless
    -- the lock was there before this failure, which counts on from five
    have hold : m.value.locked := by
      rw [← hfails.locked (Int.not_le.mp hless)]
      exact hlocked
    have hfive := h.five hbefore hold
    have hcount := hfails.attempts
    omega

theorem locks_of_reaches (hwrites : ∀ n s f v, Writes n s f v → Fails s f v) {value : Tally}
    (hunlocked : ¬ value.locked) (hreaches : Reaches Writes (Machine.idle value) m) :
    Locks value.attempts m := by
  induction hreaches with
  | refl =>
    refine ⟨counts_idle value, ?_, fun _ hlocked => absurd hlocked hunlocked⟩
    intro hsome
    rw [writers_idle] at hsome
    exact absurd hsome Set.not_nonempty_empty
  | tail _ hstep ih => exact locks_step hwrites hstep ih

end Lock

section Runs

variable {env : AuthEnv} {name hash : String} {u : User} {start : Time} {q : Server}
variable {events : List Happening} {m : Machine Tally}

variable {t : Thread World LoginRequest (Except HandlerError LoginResponse)} {n : Nat}

theorem failure_of_placed {ph : Phase Tally}
    (h : Placed (Fits env name hash u start) events n ph t) : t.result = some wrong ↔
      ∃ snapshot replaced, ph = .wrote snapshot replaced := by
  have hrest : ∀ req rest, Fits env name hash u start req (seen n events) rest ph →
      (rest = .ret wrong ↔ ∃ snapshot replaced, ph = .wrote snapshot replaced) := by
    intro req rest hfits
    cases ph with
    | idle =>
      obtain ⟨_, _, rfl⟩ := hfits
      refine iff_of_false ?_ nofun
      intro hwrong
      unfold login at hwrong
      split at hwrong
      · cases hwrong
      · cases hwrong
    | holding snapshot =>
      obtain ⟨w, later, _, _, hpending⟩ := hfits
      refine iff_of_false ?_ nofun
      intro hwrong
      rw [hwrong] at hpending
      exact hpending rfl
    | wrote snapshot replaced => exact iff_of_true hfits.1 ⟨snapshot, replaced, rfl⟩
  cases t with
  | unused =>
    rw [h.2]
    exact iff_of_false nofun nofun
  | running req rest =>
    rw [← hrest req rest h.2]
    cases rest with
    | _ => simp [Thread.result]
  | answered req answer =>
    rw [← hrest req (.ret answer) h.2]
    simp [Thread.result]

theorem failures_eq_writers (h : Simulates (tally start u.id) (Account name u hash start)
    (Fits env name hash u start) events q m) : failures q = m.writers := by
  ext n
  exact failure_of_placed (h.threads n)

def Unchanged (userID : Uuid) (found : List World) : Prop :=
  ∀ w w', found.head? = some w → found.getLast? = some w' → attempts userID w = attempts userID w'

theorem fits_of_wrote {snapshot replaced : Tally}
    (h : Placed (Fits env name hash u start) events n (.wrote snapshot replaced) t) :
    ∃ w w', (seen n events).head? = some w ∧ (seen n events).getLast? = some w' ∧
      tally start u.id w = snapshot ∧ tally start u.id w' = replaced := by
  cases t with
  | unused => cases h.2
  | _ => exact h.2.2

theorem current_iff (h : Simulates (tally start u.id) (Account name u hash start)
    (Fits env name hash u start) events q m) :
    m.Current Tally.attempts ↔ ∀ n ∈ failures q, Unchanged u.id (seen n events) := by
  rw [failures_eq_writers h]
  constructor
  · intro hcurrent n hn w w' hw hw'
    obtain ⟨snapshot, replaced, hwrote⟩ := hn
    have hplaced := h.threads n
    rw [hwrote] at hplaced
    obtain ⟨w₀, w₁, hw₀, hw₁, rfl, rfl⟩ := fits_of_wrote hplaced
    cases hw.symm.trans hw₀
    cases hw'.symm.trans hw₁
    exact hcurrent n _ _ hwrote
  · intro hunchanged n snapshot replaced hwrote
    have hplaced := h.threads n
    rw [hwrote] at hplaced
    obtain ⟨w₀, w₁, hw₀, hw₁, rfl, rfl⟩ := fits_of_wrote hplaced
    exact hunchanged n ⟨_, _, hwrote⟩ w₀ w₁ hw₀ hw₁

end Runs

def Counted (userID : Uuid) (p q : Server) : Prop :=
  attempts userID q.shared = attempts userID p.shared + (failures q).ncard ∧
    (5 ≤ (failures q).ncard → LockedSince p.shared.now (q.shared.tables.columns userID))

/-- At every point of every run, the failures are counted exactly when every request wrote over the
counter that it had read, and the first counter does not keep five failures from reaching five. -/
theorem failures_counted_iff (env : AuthEnv) {name hash : String} {u : User} {p q : Server}
    {events : List Happening} (hunused : ∀ n, p.threads n = .unused)
    (hrow : p.shared.tables.loginRow name = some (u, hash))
    (hunlocked : ∀ t ∈ (p.shared.tables.columns u.id).lockedUntil, t ≤ p.shared.now)
    (hwrong : ∀ n req, .start n req ∈ events → Wrong env name hash req)
    (hrun : Run (Interleaving.Step (login env) (Other name u.id)) p events q) :
    (failures q).Finite ∧
      (Counted u.id p q ↔ (∀ n ∈ failures q, Unchanged u.id (seen n events)) ∧
        (5 ≤ (failures q).ncard → 5 ≤ attempts u.id p.shared + (failures q).ncard)) := by
  obtain ⟨m, hreaches, hm⟩ := simulates_run (protocol env name hash u p.shared.now) hunused
    ⟨hrow, Nat.le_refl _⟩ hwrong hrun
  have hnot : ¬ (tally p.shared.now u.id p.shared).locked := by
    intro hlocked
    obtain ⟨t, ht, hlate⟩ := hlocked
    have hminutes : 0 < 15 * Time.minute := by decide
    exact absurd (hlate.trans (hunlocked t ht)) (Nat.not_le.mpr (Nat.lt_add_of_pos_right hminutes))
  have hlocks : Locks (attempts u.id p.shared) m :=
    locks_of_reaches (fun n s f v hw => hw.choose_spec.2) hnot hreaches
  have hattempts : attempts u.id q.shared = m.value.attempts := by
    rw [hm.value_eq]
    rfl
  have hlocked : LockedSince p.shared.now (q.shared.tables.columns u.id) = m.value.locked := by
    rw [hm.value_eq]
    rfl
  unfold Counted
  rw [← current_iff hm, failures_eq_writers hm, hattempts, hlocked]
  refine ⟨hlocks.counts.finite, ?_⟩
  constructor
  · intro hcounted
    have hcurrent := hlocks.counts.exact_iff.mp hcounted.1
    refine ⟨hcurrent, ?_⟩
    intro hfive
    exact hcounted.1 ▸ hlocks.five hcurrent (hcounted.2 hfive)
  · intro hserial
    have hcount := hlocks.counts.exact_iff.mpr hserial.1
    refine ⟨hcount, ?_⟩
    intro hfive
    have hsome : m.writers.Nonempty := Set.nonempty_of_ncard_ne_zero (by omega)
    exact hlocks.locked hsome (hcount ▸ hserial.2 hfive)

open SessionProvenance (sampleEnv carolTables carol)

def guess : LoginRequest := ⟨"carol", "sesame"⟩

def guesses : List Nat := [0, 1, 2, 3, 4]

def atOnce : List (Move World LoginRequest) :=
  guesses.map (.start · guess) ++ guesses.map (.act · 1) ++ guesses.map .finish

def oneByOne : List (Move World LoginRequest) :=
  guesses.flatMap fun n => [.start n guess, .finish n]

def carolServer : Server := ⟨⟨carolTables, 0, []⟩, fun _ => .unused⟩

/-- The counter is at one after five failures, and the account is not locked. -/
theorem guesses_at_once : ∃ events q,
    Run (Interleaving.Step (login sampleEnv) (Other "carol" carol.id)) carolServer events q ∧
      (∀ n ∈ guesses, q.threads n = .answered guess wrong) ∧
      q.shared.tables.columns carol.id = ⟨some "open sesame", false, 1, none⟩ := by
  refine ⟨_, _, Pool.run_play_step atOnce carolServer ?_, ?_, rfl⟩
  · simp [atOnce, guesses, Pool.Playable]
  · simp only [guesses, List.forall_mem_cons]
    refine ⟨rfl, rfl, rfl, rfl, rfl, nofun⟩

theorem guesses_one_by_one : ∃ events q,
    Run (Interleaving.Step (login sampleEnv) (Other "carol" carol.id)) carolServer events q ∧
      q.shared.tables.columns carol.id = ⟨some "open sesame", false, 5, some (15 * Time.minute)⟩ ∧
      (failures q).Finite ∧
      (Counted carol.id carolServer q ↔ (∀ n ∈ failures q, Unchanged carol.id (seen n events)) ∧
        (5 ≤ (failures q).ncard →
          5 ≤ attempts carol.id carolServer.shared + (failures q).ncard)) := by
  have hrun : Run (Interleaving.Step (login sampleEnv) (Other "carol" carol.id)) carolServer
      (carolServer.play (login sampleEnv) oneByOne).2 _ :=
    Pool.run_play_step oneByOne carolServer (by simp [oneByOne, guesses, Pool.Playable])
  refine ⟨_, _, hrun, rfl, ?_⟩
  have hrow : carolServer.shared.tables.loginRow "carol" = some (carol, "open sesame") := rfl
  refine failures_counted_iff sampleEnv (fun _ => rfl) hrow nofun ?_ hrun
  intro n req hstart
  obtain ⟨n', _, hmove⟩ := List.mem_flatMap.mp (Pool.start_mem_of_play hstart)
  have hreq : req = guess := by
    simp at hmove
    exact hmove.2
  exact hreq ▸ ⟨rfl, rfl⟩

end Outpost.LoginFailures
