import Outpost.Shared.AdvisoryLocks
import Outpost.Shared.Runs

/-!
# Tasks of the leader

Each statement of a core runs in some session of its pool: the lock may be taken in one session and
released in another, and an idle session may be closed. Statements succeed, and tasks take no
locks.
-/

namespace Outpost.LeaderLock

open Runs Function

inductive LeaderTask where
  | gatewayHealthMonitor
  | peerStatsPartitions
  | tokenBlacklistCleanup
deriving DecidableEq

def LeaderTask.lockID : LeaderTask → Int
  | .gatewayHealthMonitor => 1
  | .peerStatsPartitions => 2
  | .tokenBlacklistCleanup => 3

theorem LeaderTask.lockID_injective : Function.Injective LeaderTask.lockID := by
  intro task task' h
  cases task <;> cases task' <;> first | rfl | cases h

variable {CoreID Session : Type} [DecidableEq CoreID] [DecidableEq Session]

/-- Where the loop for a task is. The session of the lock is recorded for the statements; the core
does not know it. -/
inductive Phase (Session : Type) where
  | waiting
  | executing (session : Session)
  | finished (session : Session)
deriving DecidableEq

structure Cluster (CoreID Session : Type) where
  locks : AdvisoryLocks Session Int
  pool : Session → Option CoreID
  phase : CoreID → LeaderTask → Phase Session

namespace Cluster

def initial : Cluster CoreID Session := ⟨fun _ => none, fun _ => none, fun _ _ => .waiting⟩

def setPhase (s : Cluster CoreID Session) (core : CoreID) (task : LeaderTask)
    (phase : Phase Session) : Cluster CoreID Session :=
  { s with phase := fun core' task' =>
      if core' = core ∧ task' = task then phase else s.phase core' task' }

end Cluster

inductive Event (CoreID Session : Type) where
  | connect (core : CoreID) (session : Session)
  | disconnect (session : Session)
  | tryAdvisoryLock (core : CoreID) (task : LeaderTask) (session : Session)
  | finish (core : CoreID) (task : LeaderTask)
  | releaseAdvisoryLock (core : CoreID) (task : LeaderTask) (session : Session)

inductive Step : Cluster CoreID Session → Event CoreID Session → Cluster CoreID Session → Prop where
  | connect {s : Cluster CoreID Session} {core : CoreID} {session : Session}
      (hnew : s.pool session = none) :
      Step s (.connect core session)
        { s with pool := update s.pool session (some core) }
  | disconnect (s : Cluster CoreID Session) (session : Session) :
      Step s (.disconnect session)
        { s with
          locks := s.locks.close session
          pool := update s.pool session none }
  | lock {s : Cluster CoreID Session} {core : CoreID} {task : LeaderTask} {session : Session}
      (hpool : s.pool session = some core) (hphase : s.phase core task = .waiting)
      (hacquired : (s.locks.tryLock session task.lockID).1 = true) :
      Step s (.tryAdvisoryLock core task session)
        ({ s with locks := (s.locks.tryLock session task.lockID).2 }.setPhase core task
          (.executing session))
  | refused {s : Cluster CoreID Session} {core : CoreID} {task : LeaderTask} {session : Session}
      (hpool : s.pool session = some core) (hphase : s.phase core task = .waiting)
      (hrefused : (s.locks.tryLock session task.lockID).1 = false) :
      Step s (.tryAdvisoryLock core task session) s
  | finish {s : Cluster CoreID Session} {core : CoreID} {task : LeaderTask} {session : Session}
      (hphase : s.phase core task = .executing session) :
      Step s (.finish core task) (s.setPhase core task (.finished session))
  | release {s : Cluster CoreID Session} {core : CoreID} {task : LeaderTask}
      {session taken : Session}
      (hpool : s.pool session = some core) (hphase : s.phase core task = .finished taken) :
      Step s (.releaseAdvisoryLock core task session)
        ({ s with locks := (s.locks.unlock session task.lockID).2 }.setPhase core task .waiting)

def SparesLeaders (s : Cluster CoreID Session) : Event CoreID Session → Prop
  | .disconnect session => ∀ core task, s.phase core task ≠ .executing session
  | _ => True

def Led (s : Cluster CoreID Session) : Prop :=
  ∀ core task session, s.phase core task = .executing session →
    s.pool session = some core ∧ s.locks.Holds session task.lockID

omit [DecidableEq CoreID] [DecidableEq Session] in
theorem ne_of_pool {s : Cluster CoreID Session} {session session₀ : Session} {core : CoreID}
    (hnew : s.pool session₀ = none) (hpool : s.pool session = some core) : session ≠ session₀ := by
  intro heq
  rw [heq, hnew] at hpool
  cases hpool

section SetPhase

variable {s : Cluster CoreID Session} {core core' : CoreID} {task task' : LeaderTask}
  {phase : Phase Session}

omit [DecidableEq Session]

theorem phase_setPhase : (s.setPhase core task phase).phase core task = phase := if_pos ⟨rfl, rfl⟩

theorem phase_setPhase_other (h : ¬ (core' = core ∧ task' = task)) :
    (s.setPhase core task phase).phase core' task' = s.phase core' task' := if_neg h

theorem executing_setPhase {session : Session}
    (h : (s.setPhase core task phase).phase core' task' = .executing session) :
    (core' = core ∧ task' = task ∧ phase = .executing session) ∨
      s.phase core' task' = .executing session := by
  unfold Cluster.setPhase at h
  dsimp only at h
  split at h
  · rename_i hsame
    exact .inl ⟨hsame.1, hsame.2, h⟩
  · exact .inr h

end SetPhase

theorem led_step {s t : Cluster CoreID Session} {e : Event CoreID Session}
    (hstep : Guarded Step SparesLeaders s e t) (hled : Led s) : Led t := by
  obtain ⟨hstep, hguard⟩ := hstep
  intro core task session hphase
  cases hstep with
  | @connect core₀ session₀ hnew =>
    obtain ⟨hpool, hholds⟩ := hled core task session hphase
    exact ⟨(update_of_ne (ne_of_pool hnew hpool) ..).trans hpool, hholds⟩
  | disconnect session₀ =>
    obtain ⟨hpool, hholds⟩ := hled core task session hphase
    have hne : session ≠ session₀ := by
      intro heq
      exact hguard core task (heq ▸ hphase)
    exact ⟨(update_of_ne hne ..).trans hpool, hholds.close hne⟩
  | @lock core₀ task₀ session₀ hpool₀ _ hacquired =>
    rcases executing_setPhase hphase with ⟨rfl, rfl, hsame⟩ | hbefore
    · obtain rfl := Phase.executing.inj hsame
      exact ⟨hpool₀, AdvisoryLocks.tryLock_holds hacquired⟩
    · obtain ⟨hpool, hholds⟩ := hled core task session hbefore
      exact ⟨hpool, hholds.tryLock session₀ task₀.lockID⟩
  | refused => exact hled core task session hphase
  | finish =>
    rcases executing_setPhase hphase with ⟨_, _, hsame⟩ | hbefore
    · cases hsame
    · exact hled core task session hbefore
  | @release core₀ task₀ session₀ taken hpool₀ hphase₀ =>
    rcases executing_setPhase hphase with ⟨_, _, hsame⟩ | hbefore
    · cases hsame
    · obtain ⟨hpool, hholds⟩ := hled core task session hbefore
      -- the lock that is released is another one: this core has not finished the task
      refine ⟨hpool, hholds.unlock ?_⟩
      by_contra hsame
      rw [not_or, not_not, not_not] at hsame
      obtain ⟨rfl, hkey⟩ := hsame
      obtain rfl := LeaderTask.lockID_injective hkey
      obtain rfl := Option.some.inj (hpool.symm.trans hpool₀)
      rw [hphase₀] at hbefore
      cases hbefore

omit [DecidableEq CoreID] [DecidableEq Session] in
theorem Led.unique {s : Cluster CoreID Session} (h : Led s) {core core' : CoreID}
    {task : LeaderTask} {session session' : Session}
    (hexec : s.phase core task = .executing session)
    (hexec' : s.phase core' task = .executing session') : core = core' := by
  obtain ⟨hpool, hholds⟩ := h core task session hexec
  obtain ⟨hpool', hholds'⟩ := h core' task session' hexec'
  rw [hholds.unique hholds'] at hpool
  exact Option.some.inj (hpool.symm.trans hpool')

def ReleasesOwn (s : Cluster CoreID Session) : Event CoreID Session → Prop
  | .releaseAdvisoryLock core task session =>
    ∀ held, s.pool held = some core → s.locks.Holds held task.lockID → held = session
  | _ => True

/-- A lock is held once, in the session in which a core has taken it for a task that it
executes or has just executed. -/
def Tidy (s : Cluster CoreID Session) : Prop :=
  ∀ key hold, s.locks key = some hold → hold.again = 0 ∧ ∃ core task, key = task.lockID ∧
    s.pool hold.session = some core ∧
    (s.phase core task = .executing hold.session ∨ s.phase core task = .finished hold.session)

section Tidy

variable {s t : Cluster CoreID Session} {e : Event CoreID Session} {core : CoreID}
  {task : LeaderTask} {session : Session}

omit [DecidableEq CoreID] [DecidableEq Session] in
theorem Tidy.taken (h : Tidy s) (hpool : s.pool session = some core)
    (hholds : s.locks.Holds session task.lockID) :
    s.locks task.lockID = some ⟨session, 0⟩ ∧
      (s.phase core task = .executing session ∨ s.phase core task = .finished session) := by
  obtain ⟨again, hlock⟩ := hholds
  obtain ⟨hagain, core', task', hkey, hpool', hphase⟩ := h _ _ hlock
  obtain rfl := LeaderTask.lockID_injective hkey
  obtain rfl := Option.some.inj (hpool.symm.trans hpool')
  dsimp only at hagain
  rw [hagain] at hlock
  exact ⟨hlock, hphase⟩

omit [DecidableEq CoreID] [DecidableEq Session] in
theorem Tidy.not_holds (h : Tidy s) (hphase : s.phase core task = .waiting)
    (hpool : s.pool session = some core) : ¬ s.locks.Holds session task.lockID := by
  intro hholds
  obtain ⟨_, hexec | hfinished⟩ := h.taken hpool hholds
  · rw [hphase] at hexec
    cases hexec
  · rw [hphase] at hfinished
    cases hfinished

omit [DecidableEq CoreID] in
theorem tidy_disconnect (htidy : Tidy s) (session : Session) :
    Tidy { s with
      locks := s.locks.close session
      pool := update s.pool session none } := by
  intro key hold hlock
  obtain ⟨hlock, hne⟩ := AdvisoryLocks.close_eq_some.mp hlock
  obtain ⟨hagain, core, task, hkey, hpool, hphase⟩ := htidy key hold hlock
  exact ⟨hagain, core, task, hkey, (update_of_ne hne ..).trans hpool, hphase⟩

theorem tidy_lock (htidy : Tidy s) (hpool : s.pool session = some core)
    (hphase : s.phase core task = .waiting)
    (hacquired : (s.locks.tryLock session task.lockID).1 = true) :
    Tidy ({ s with locks := (s.locks.tryLock session task.lockID).2 }.setPhase core task
      (.executing session)) := by
  intro key hold hlock
  by_cases hkey : key = task.lockID
  · -- the session has not had the lock before, so that the lock was free
    rcases AdvisoryLocks.tryLock_cases s.locks session task.lockID with
      ⟨_, _, hnew⟩ | hholds | hrefused
    · subst hkey
      obtain rfl := Option.some.inj (hnew.symm.trans hlock)
      exact ⟨rfl, core, task, rfl, hpool, .inl phase_setPhase⟩
    · exact absurd hholds (htidy.not_holds hphase hpool)
    · rw [hrefused] at hacquired
      cases hacquired
  · obtain ⟨hagain, core', task', rfl, hpool', hphase'⟩ := htidy key hold
      ((AdvisoryLocks.tryLock_other hkey).symm.trans hlock)
    refine ⟨hagain, core', task', rfl, hpool', ?_⟩
    rw [phase_setPhase_other fun hsame => hkey (congrArg LeaderTask.lockID hsame.2)]
    exact hphase'

omit [DecidableEq Session] in
theorem tidy_finish (htidy : Tidy s) (hphase : s.phase core task = .executing session) :
    Tidy (s.setPhase core task (.finished session)) := by
  intro key hold hlock
  obtain ⟨hagain, core', task', rfl, hpool, hphase'⟩ := htidy key hold hlock
  refine ⟨hagain, core', task', rfl, hpool, ?_⟩
  by_cases hsame : core' = core ∧ task' = task
  · obtain ⟨rfl, rfl⟩ := hsame
    rw [phase_setPhase]
    rw [hphase] at hphase'
    rcases hphase' with hexec | hfinished
    · exact .inr (congrArg Phase.finished (Phase.executing.inj hexec))
    · cases hfinished
  · rw [phase_setPhase_other hsame]
    exact hphase'

theorem tidy_release_iff (htidy : Tidy s) (hpool : s.pool session = some core) :
    Tidy ({ s with locks := (s.locks.unlock session task.lockID).2 }.setPhase core task .waiting) ↔
      ∀ held, s.pool held = some core → s.locks.Holds held task.lockID → held = session := by
  constructor
  · intro htidy' held hheld hholds
    by_contra hne
    exact htidy'.not_holds phase_setPhase hheld (hholds.unlock (.inl hne))
  · intro hown key hold hlock
    by_cases hkey : key = task.lockID
    · subst hkey
      by_cases hholds : s.locks.Holds session task.lockID
      · have hnone := AdvisoryLocks.unlock_once (htidy.taken hpool hholds).1
        cases hnone.symm.trans hlock
      · have hsame : (s.locks.unlock session task.lockID).2 = s.locks :=
          AdvisoryLocks.unlock_of_not_holds hholds
        have hlock' : s.locks task.lockID = some hold := hsame ▸ hlock
        obtain ⟨hagain, core', task', hkey, hpool', hphase'⟩ := htidy _ _ hlock'
        obtain rfl := LeaderTask.lockID_injective hkey
        have hne : core' ≠ core := by
          intro heq
          have hheld : s.locks.Holds hold.session task.lockID := ⟨hold.again, hlock'⟩
          exact hholds (hown hold.session (heq ▸ hpool') hheld ▸ hheld)
        refine ⟨hagain, core', task, rfl, hpool', ?_⟩
        rw [phase_setPhase_other fun hsame => hne hsame.1]
        exact hphase'
    · obtain ⟨hagain, core', task', rfl, hpool', hphase'⟩ := htidy key hold
        ((AdvisoryLocks.unlock_other hkey).symm.trans hlock)
      refine ⟨hagain, core', task', rfl, hpool', ?_⟩
      rw [phase_setPhase_other fun hsame => hkey (congrArg LeaderTask.lockID hsame.2)]
      exact hphase'

theorem tidy_step_iff (hstep : Step s e t) (htidy : Tidy s) : Tidy t ↔ ReleasesOwn s e := by
  cases hstep with
  | @connect core session hnew =>
    refine iff_of_true ?_ trivial
    intro key hold hlock
    obtain ⟨hagain, core', task', hkey, hpool, hphase⟩ := htidy key hold hlock
    have hne := ne_of_pool hnew hpool
    exact ⟨hagain, core', task', hkey, (update_of_ne hne ..).trans hpool, hphase⟩
  | disconnect session => exact iff_of_true (tidy_disconnect htidy session) trivial
  | lock hpool hphase hacquired =>
    exact iff_of_true (tidy_lock htidy hpool hphase hacquired) trivial
  | refused => exact iff_of_true htidy trivial
  | finish hphase => exact iff_of_true (tidy_finish htidy hphase) trivial
  | release hpool hphase => exact tidy_release_iff htidy hpool

theorem tidy_run_iff {events : List (Event CoreID Session)} :
    Run (Through Step Tidy) .initial events s ↔
      Run (Guarded Step ReleasesOwn) .initial events s := by
  apply Run.through_iff_guarded
  · intro s e t hstep htidy
    exact tidy_step_iff hstep htidy
  · intro key hold hlock
    cases hlock

end Tidy

/-- If no session is closed under a running task, there is one leader; if every release is in the
session that has the lock, no session has it afterwards. -/
theorem leader_lock {events : List (Event CoreID Session)} {s : Cluster CoreID Session} :
    (Run (Guarded Step SparesLeaders) .initial events s → ∀ task core core' session session',
      s.phase core task = .executing session → s.phase core' task = .executing session' →
      core = core') ∧
    ∀ core task session, Run (Guarded Step ReleasesOwn) .initial
        (events ++ [.releaseAdvisoryLock core task session]) s →
      ∀ held, s.pool held = some core → ¬ s.locks.Holds held task.lockID := by
  constructor
  · intro hrun task core core' session session' hexec hexec'
    have hled : Led s := by
      refine hrun.invariant (fun _ _ _ => led_step) ?_
      intro core task session hphase
      cases hphase
    exact hled.unique hexec hexec'
  · intro core task session hrun held hpool
    obtain ⟨mid, _, hlast⟩ := Run.of_append (tidy_run_iff.mpr hrun)
    cases hlast with
    | cons hstep hnil =>
      cases hnil
      obtain ⟨hstep, htidy⟩ := hstep
      cases hstep with
      | release => exact htidy.not_holds phase_setPhase hpool

/-- A core waits while the other has the lock, and the lock is free after its release. -/
theorem one_leader_at_a_time :
    (∃ s : Cluster Nat Nat, Run (Guarded Step SparesLeaders) .initial
        [.connect 0 0, .connect 1 1, .tryAdvisoryLock 0 .gatewayHealthMonitor 0,
          .tryAdvisoryLock 1 .gatewayHealthMonitor 1] s ∧
      s.phase 0 .gatewayHealthMonitor = .executing 0 ∧
      ∀ core session, s.phase core .gatewayHealthMonitor = .executing session → core = 0) ∧
    ∃ s : Cluster Nat Nat, Run (Guarded Step ReleasesOwn) .initial
        ([.connect 0 0, .tryAdvisoryLock 0 .gatewayHealthMonitor 0,
          .finish 0 .gatewayHealthMonitor] ++ [.releaseAdvisoryLock 0 .gatewayHealthMonitor 0]) s ∧
      s.pool 0 = some 0 ∧ ∀ held, s.pool held = some 0 →
        ¬ s.locks.Holds held LeaderTask.gatewayHealthMonitor.lockID := by
  constructor
  · obtain ⟨s, hrun, hexec⟩ : ∃ s : Cluster Nat Nat, Run (Guarded Step SparesLeaders) .initial
        [.connect 0 0, .connect 1 1, .tryAdvisoryLock 0 .gatewayHealthMonitor 0,
          .tryAdvisoryLock 1 .gatewayHealthMonitor 1] s ∧
        s.phase 0 .gatewayHealthMonitor = .executing 0 :=
      ⟨_, .cons ⟨.connect rfl, trivial⟩ (.cons ⟨.connect rfl, trivial⟩
        (.cons ⟨.lock rfl rfl rfl, trivial⟩ (.cons ⟨.refused rfl rfl (by rfl), trivial⟩
          (.nil _)))), rfl⟩
    refine ⟨s, hrun, hexec, ?_⟩
    intro core session hexec'
    exact leader_lock.1 hrun _ core 0 session 0 hexec' hexec
  · obtain ⟨s, hrun, hpool⟩ : ∃ s : Cluster Nat Nat, Run (Guarded Step ReleasesOwn) .initial
        ([.connect 0 0, .tryAdvisoryLock 0 .gatewayHealthMonitor 0,
          .finish 0 .gatewayHealthMonitor] ++ [.releaseAdvisoryLock 0 .gatewayHealthMonitor 0]) s ∧
        s.pool 0 = some 0 :=
      ⟨_, .cons ⟨.connect rfl, trivial⟩ (.cons ⟨.lock rfl rfl rfl, trivial⟩
        (.cons ⟨.finish rfl, trivial⟩ (.cons ⟨.release rfl rfl, fun held _ hholds =>
          hholds.unique ⟨0, rfl⟩⟩ (.nil _)))), rfl⟩
    exact ⟨s, hrun, hpool, leader_lock.2 0 _ 0 hrun⟩

/-- The session with the lock is closed, and another core starts; or the release is in another
session, and the lock stays. -/
theorem two_leaders_and_lost_lock :
    (∃ (events : List (Event Nat Nat)) (s : Cluster Nat Nat), Run Step .initial events s ∧
      s.phase 0 .gatewayHealthMonitor = .executing 0 ∧
      s.phase 1 .gatewayHealthMonitor = .executing 1) ∧
    ∃ (events : List (Event Nat Nat)) (s : Cluster Nat Nat), Run Step .initial
        (events ++ [.releaseAdvisoryLock 0 .gatewayHealthMonitor 1]) s ∧
      s.pool 0 = some 0 ∧ s.locks.Holds 0 LeaderTask.gatewayHealthMonitor.lockID := by
  constructor
  · refine ⟨[.connect 0 0, .connect 1 1, .tryAdvisoryLock 0 .gatewayHealthMonitor 0, .disconnect 0,
      .tryAdvisoryLock 1 .gatewayHealthMonitor 1], _, .cons (.connect rfl) (.cons (.connect rfl)
      (.cons (.lock rfl rfl rfl) (.cons (.disconnect _ 0) (.cons (.lock rfl rfl rfl) (.nil _))))),
      rfl, rfl⟩
  · refine ⟨[.connect 0 0, .connect 0 1, .tryAdvisoryLock 0 .gatewayHealthMonitor 0,
      .finish 0 .gatewayHealthMonitor], _, .cons (.connect rfl) (.cons (.connect rfl)
      (.cons (.lock rfl rfl rfl) (.cons (.finish rfl) (.cons (.release rfl rfl) (.nil _))))),
      rfl, 0, rfl⟩

end Outpost.LeaderLock
