import Mathlib.Logic.Nontrivial.Basic
import Outpost.Shared.Schedules

/-!
# Caches that are reloaded after every change

A request changes a table, reads it again and assigns what it read to a cache; nothing orders the
assignments.
-/

namespace Outpost.ReloadedCache

open Runs Interleaving

variable {τ κ α ρ : Type}

structure Cached (τ κ : Type) where
  table : τ
  cache : κ

def reload (query : τ → κ) : Prog (Cached τ κ) Unit := do
  let found ← Prog.read fun w => query w.table
  Prog.modify fun w => ({ w with cache := found }, ())

/-- The statement answers `none` when it changes nothing. -/
def execute (statement : τ → Option τ) (w : Cached τ κ) : Cached τ κ × Bool :=
  match statement w.table with
  | some table => ({ w with table }, true)
  | none => (w, false)

def changing (statement : τ → Option τ) (query : τ → κ) (changed unchanged : α) :
    Prog (Cached τ κ) α := do
  let done ← Prog.modify (execute statement)
  if done then do
    reload query
    pure changed
  else pure unchanged

def assigning (found : κ) (answer : α) : Prog (Cached τ κ) α := do
  Prog.modify fun w => ({ w with cache := found }, ())
  pure answer

def Assigns : Prog (Cached τ κ) α → Prop
  | .ret _ => False
  | .act update _ => ∃ w, (update w).cache ≠ w.cache

theorem not_assigns_changing (statement : τ → Option τ) (query : τ → κ) (changed unchanged : α) :
    ¬ Assigns (changing statement query changed unchanged) := by
  intro hassigns
  obtain ⟨w, hw⟩ := hassigns
  apply hw
  show (execute statement w).1.cache = w.cache
  unfold execute
  split <;> rfl

variable (Current : τ → κ → Prop)

inductive Stage : Prog (Cached τ κ) α → Prop where
  | statement (statement : τ → Option τ) (query : τ → κ) (changed unchanged : α) :
      (∀ t, Current t (query t)) → Stage (changing statement query changed unchanged)
  | query (query : τ → κ) (answer : α) :
      (∀ t, Current t (query t)) → Stage (do reload query; pure answer)
  | assign (found : κ) (answer : α) : Stage (assigning found answer)
  | answer (value : α) : Stage (.ret value)

def Repairs (t : τ) (rest : Prog (Cached τ κ) α) : Prop :=
  ∀ c, Current (rest.alone ⟨t, c⟩).1.table (rest.alone ⟨t, c⟩).1.cache

def Repaired (p : Pool (Cached τ κ) ρ α) : Prop :=
  ∃ n request rest, p.threads n = .running request rest ∧ Repairs Current p.shared.table rest

def Settling (p : Pool (Cached τ κ) ρ α) : Prop :=
  Current p.shared.table p.shared.cache ∨ Repaired Current p

def InOrder (p : Pool (Cached τ κ) ρ α) : Event (Cached τ κ) ρ α → Prop
  | .act n _ => ∀ request rest, p.threads n = .running request rest → Assigns rest →
      Repaired Current p
  | _ => True

variable {Current}

section Repairs

variable {t : τ}
variable {query : τ → κ} {answer : α} {found : κ}

theorem repairs_query (h : Current t (query t)) :
    Repairs Current t (do reload query; pure answer) :=
  fun _ => h

theorem repairs_assigning (h : Current t found) : Repairs Current t (assigning found answer) :=
  fun _ => h

theorem current_of_repairs_assigning (h : Repairs Current t (assigning found answer)) :
    Current t found :=
  h found

variable (outdated : ∀ t, ∃ c, ¬ Current t c)
include outdated

theorem not_repairs_answer (value : α) : ¬ Repairs Current t (.ret value) := by
  obtain ⟨c, hc⟩ := outdated t
  intro h
  exact hc (h c)

theorem not_repairs_unchanged {statement : τ → Option τ} {changed unchanged : α}
    (hnone : statement t = none) :
    ¬ Repairs Current t (changing statement query changed unchanged) := by
  obtain ⟨c, hc⟩ := outdated t
  intro h
  apply hc
  simpa [changing, execute, hnone] using h c

end Repairs

variable {p : Pool (Cached τ κ) ρ α}

theorem repaired_update {n : Nat} {thread : Thread (Cached τ κ) ρ α} {s : Cached τ κ} :
    Repaired Current (⟨s, Function.update p.threads n thread⟩ : Pool (Cached τ κ) ρ α) ↔
      (∃ request rest, thread = .running request rest ∧ Repairs Current s.table rest) ∨
      ∃ m request rest, m ≠ n ∧ p.threads m = .running request rest ∧
        Repairs Current s.table rest := by
  constructor
  · intro h
    obtain ⟨m, request, rest, hthread, hrest⟩ := h
    by_cases hmn : m = n
    · subst hmn
      exact .inl ⟨request, rest, (Function.update_self m _ _).symm.trans hthread, hrest⟩
    · exact .inr ⟨m, request, rest, hmn, (Function.update_of_ne hmn _ _).symm.trans hthread,
        hrest⟩
  · intro h
    rcases h with ⟨request, rest, hthread, hrest⟩ | ⟨m, request, rest, hmn, hthread, hrest⟩
    · exact ⟨n, request, rest, (Function.update_self n _ _).trans hthread, hrest⟩
    · exact ⟨m, request, rest, (Function.update_of_ne hmn _ _).trans hthread, hrest⟩

theorem repaired_cases (n : Nat) (h : Repaired Current p) :
    (∃ request rest, p.threads n = .running request rest ∧
        Repairs Current p.shared.table rest) ∨
      ∃ m request rest, m ≠ n ∧ p.threads m = .running request rest ∧
        Repairs Current p.shared.table rest := by
  have hself : (⟨p.shared, Function.update p.threads n (p.threads n)⟩ : Pool (Cached τ κ) ρ α) =
      p := by
    rw [Function.update_eq_self]
  exact repaired_update.mp (hself.symm ▸ h)

theorem settling_update {n : Nat} (thread : Thread (Cached τ κ) ρ α) (h : Settling Current p)
    (hnot : ∀ request rest, p.threads n = .running request rest → ¬ Repairs Current p.shared.table rest)
    :
    Settling Current (⟨p.shared, Function.update p.threads n thread⟩ : Pool (Cached τ κ) ρ α) := by
  rcases h with h | h
  · exact .inl h
  · refine .inr (repaired_update.mpr (.inr ?_))
    rcases repaired_cases n h with ⟨request, rest, hthread, hrepairs⟩ | hother
    · exact absurd hrepairs (hnot request rest hthread)
    · exact hother

inductive Effect (Current : τ → κ → Prop) (update : Cached τ κ → Cached τ κ)
    (next : Cached τ κ → Prog (Cached τ κ) α) (w : Cached τ κ) : Prop where
  | repairs : ¬ Assigns (.act update next) → Stage Current (next w) →
      Repairs Current (update w).table (next w) → Effect Current update next w
  | idle (value : α) : ¬ Assigns (.act update next) → next w = .ret value → update w = w →
      ¬ Repairs Current w.table (.act update next) → Effect Current update next w
  | assigns (found : κ) (value : α) : Assigns (.act update next) → next w = .ret value →
      update w = { w with cache := found } →
      (Repairs Current w.table (.act update next) ↔ Current w.table found) →
      Effect Current update next w

section Effects

variable [Nontrivial κ] (outdated : ∀ t, ∃ c, ¬ Current t c)
  {update : Cached τ κ → Cached τ κ} {next : Cached τ κ → Prog (Cached τ κ) α}
include outdated

theorem effect_of_stage (h : Stage Current (.act update next)) (w : Cached τ κ) :
    Effect Current update next w := by
  generalize hrest : Prog.act update next = rest at h
  cases h with
  | statement statement query changed unchanged hquery =>
    cases hrest
    have hkeeps := not_assigns_changing statement query changed unchanged
    cases hstatement : statement w.table with
    | some table =>
      have hexecute : execute statement w = (⟨table, w.cache⟩, true) := by
        rw [execute, hstatement]
      refine .repairs hkeeps ?_ ?_
      · simp only [hexecute]
        exact .query query changed hquery
      · simp only [hexecute]
        exact repairs_query (hquery table)
    | none =>
      have hexecute : execute statement w = (w, false) := by rw [execute, hstatement]
      refine .idle unchanged hkeeps ?_ (congrArg Prod.fst hexecute)
        (not_repairs_unchanged outdated hstatement)
      simp only [hexecute]
      rfl
  | query query answer hquery =>
    cases hrest
    refine .repairs ?_ (.assign _ _) (repairs_assigning (hquery w.table))
    intro hassigns
    obtain ⟨w, hw⟩ := hassigns
    exact hw rfl
  | assign found answer =>
    cases hrest
    obtain ⟨c, hc⟩ := exists_ne found
    exact .assigns found answer ⟨⟨w.table, c⟩, hc.symm⟩ rfl rfl
      ⟨current_of_repairs_assigning, repairs_assigning⟩
  | answer value => cases hrest

end Effects

variable [Nontrivial κ] (outdated : ∀ t, ∃ c, ¬ Current t c)
  {program : ρ → Prog (Cached τ κ) α} {p q : Pool (Cached τ κ) ρ α}
  {e : Event (Cached τ κ) ρ α}

/-- Nobody but the requests writes the table or the cache. -/
def Nobody (_ _ : Cached τ κ) : Prop := False

def Staged (Current : τ → κ → Prop) (p : Pool (Cached τ κ) ρ α) : Prop :=
  ∀ n request rest, p.threads n = .running request rest → Stage Current rest

include outdated

theorem staged_step (hprogram : ∀ request, Stage Current (program request))
    (hstep : Step program Nobody p e q) (h : Staged Current p) : Staged Current q := by
  intro n request rest hq
  cases moves_of_step [] hstep n with
  | stays hthread _ => exact h n request rest (hthread.symm.trans hq)
  | starts _ _ hthread _ _ =>
    cases hthread.symm.trans hq
    exact hprogram request
  | acts _ hrunning hthread _ _ =>
    cases hthread.symm.trans hq
    cases effect_of_stage outdated (h n _ _ hrunning) p.shared with
    | repairs _ hstage _ => exact hstage
    | idle value _ hnext _ _ =>
      rw [hnext]
      exact .answer value
    | assigns found value _ hnext _ _ =>
      rw [hnext]
      exact .answer value
  | answers _ _ hthread _ _ => cases hthread.symm.trans hq

theorem settling_step (hstep : Step program Nobody p e q) (hstaged : Staged Current p)
    (h : Settling Current p) : Settling Current q ↔ InOrder Current p e := by
  cases hstep with
  | @start n request hunused =>
    refine iff_of_true (settling_update _ h ?_) trivial
    intro request' rest hthread
    cases hunused.symm.trans hthread
  | @act n request update next hrunning =>
    cases effect_of_stage outdated (hstaged n _ _ hrunning) p.shared with
    | repairs hkeeps _ hrepairs =>
      refine iff_of_true (.inr (repaired_update.mpr (.inl ⟨_, _, rfl, hrepairs⟩))) ?_
      intro request' rest hthread hassigns
      cases hrunning.symm.trans hthread
      exact absurd hassigns hkeeps
    | idle value hkeeps hnext hupdate hnot =>
      refine iff_of_true ?_ ?_
      · rw [hupdate]
        refine settling_update _ h ?_
        intro request' rest hthread
        cases hrunning.symm.trans hthread
        exact hnot
      · intro request' rest hthread hassigns
        cases hrunning.symm.trans hthread
        exact absurd hassigns hkeeps
    | assigns found value hassigns hnext hupdate hself =>
      rw [hupdate, hnext]
      constructor
      · intro hq request' rest _ _
        rcases hq with hcurrent | hq
        · exact ⟨n, request, _, hrunning, hself.mpr hcurrent⟩
        · rcases repaired_update.mp hq with ⟨request', rest, hthread, hrepairs⟩ | hother
          · cases hthread
            exact absurd hrepairs (not_repairs_answer outdated value)
          · obtain ⟨m, request', rest, _, hthread, hrepairs⟩ := hother
            exact ⟨m, request', rest, hthread, hrepairs⟩
      · intro hguard
        rcases repaired_cases n (hguard request _ hrunning hassigns) with
          ⟨request', rest, hthread, hrepairs⟩ | hother
        · cases hrunning.symm.trans hthread
          exact .inl (hself.mp hrepairs)
        · exact .inr (repaired_update.mpr (.inr hother))
  | @answer n request value hrunning =>
    refine iff_of_true (settling_update _ h ?_) trivial
    intro request' rest hthread
    cases hrunning.symm.trans hthread
    exact not_repairs_answer outdated value
  | other h => exact h.elim

theorem settling_iff {events : List (Event (Cached τ κ) ρ α)}
    (hprogram : ∀ request, Stage Current (program request)) (hstaged : Staged Current p)
    (h : Settling Current p) :
    Run (Through (Step program Nobody) (Settling Current)) p events q ↔
      Run (Guarded (Step program Nobody) (InOrder Current)) p events q :=
  Run.through_iff_guarded_within (fun _ _ _ hstep hs => staged_step outdated hprogram hstep hs)
    (fun _ _ _ hstep hs hi => settling_step outdated hstep hs hi) hstaged h

theorem run_uninterrupted {n : Nat} {request : ρ} (rest : Prog (Cached τ κ) α)
    (hrunning : p.threads n = .running request rest) (hstage : Stage Current rest)
    (hfresh : Assigns rest → Repairs Current p.shared.table rest) :
    Run (Guarded (Step program Nobody) (InOrder Current)) p (aloneEvents n rest p.shared)
      ⟨(rest.alone p.shared).1,
        Function.update p.threads n (.answered request (rest.alone p.shared).2)⟩ := by
  induction rest generalizing p with
  | ret value => exact .single ⟨.answer hrunning, trivial⟩
  | act update next ih =>
    refine .cons ⟨.act hrunning, ?_⟩ ?_
    · intro request' rest hthread hassigns
      cases hrunning.symm.trans hthread
      exact ⟨n, request, _, hrunning, hfresh hassigns⟩
    · have hnext : Stage Current (next p.shared) ∧
          (Assigns (next p.shared) → Repairs Current (update p.shared).table (next p.shared)) := by
        cases effect_of_stage outdated hstage p.shared with
        | repairs _ hstage' hrepairs => exact ⟨hstage', fun _ => hrepairs⟩
        | idle value _ heq _ _ =>
          rw [heq]
          exact ⟨.answer value, False.elim⟩
        | assigns found value _ heq _ _ =>
          rw [heq]
          exact ⟨.answer value, False.elim⟩
      have hrest := ih p.shared
        (p := ⟨update p.shared, Function.update p.threads n (.running request (next p.shared))⟩)
        (Function.update_self n _ p.threads) hnext.1 hnext.2
      rw [Function.update_idem] at hrest
      exact hrest

omit outdated [Nontrivial κ]

theorem current_of_settling (h : Settling Current p)
    (hquiet : ∀ n request rest, p.threads n ≠ .running request rest) :
    Current p.shared.table p.shared.cache := by
  rcases h with h | ⟨n, request, rest, hthread, _⟩
  · exact h
  · exact absurd hthread (hquiet n request rest)

end Outpost.ReloadedCache
