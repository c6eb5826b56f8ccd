import Mathlib.Logic.Function.Basic

/-!
# Session-level advisory locks

A lock is held by one session, once or several times, and has to be released as often. A session
that closes leaves all its locks.
-/

namespace Outpost

open Function

structure LockHold (Session : Type) where
  session : Session
  again : Nat
deriving DecidableEq

abbrev AdvisoryLocks (Session Key : Type) := Key → Option (LockHold Session)

namespace AdvisoryLocks

variable {Session Key : Type}

def Holds (locks : AdvisoryLocks Session Key) (s : Session) (k : Key) : Prop :=
  ∃ again, locks k = some ⟨s, again⟩

theorem Holds.unique {locks : AdvisoryLocks Session Key} {s t : Session} {k : Key}
    (h : locks.Holds s k) (h' : locks.Holds t k) : s = t := by
  obtain ⟨_, h⟩ := h
  obtain ⟨_, h'⟩ := h'
  exact congrArg LockHold.session (Option.some.inj (h.symm.trans h'))

variable [DecidableEq Session] (locks : AdvisoryLocks Session Key)

def close (s : Session) : AdvisoryLocks Session Key :=
  fun k => (locks k).filter fun hold => hold.session ≠ s

section Close

variable {locks} {s t : Session} {k : Key}

theorem close_eq_some {hold : LockHold Session} :
    locks.close s k = some hold ↔ locks k = some hold ∧ hold.session ≠ s := by
  unfold close
  simp

theorem Holds.close (h : locks.Holds t k) (hne : t ≠ s) : Holds (locks.close s) t k := by
  obtain ⟨again, hlock⟩ := h
  exact ⟨again, close_eq_some.mpr ⟨hlock, hne⟩⟩

end Close

variable [DecidableEq Key]

def tryLock (s : Session) (k : Key) : Bool × AdvisoryLocks Session Key :=
  match locks k with
  | none => (true, update locks k (some ⟨s, 0⟩))
  | some hold =>
    if hold.session = s then (true, update locks k (some ⟨s, hold.again + 1⟩))
    else (false, locks)

def unlock (s : Session) (k : Key) : Bool × AdvisoryLocks Session Key :=
  match locks k with
  | none => (false, locks)
  | some ⟨holder, again⟩ =>
    if holder = s then
      (true, update locks k (match again with
        | 0 => none
        | n + 1 => some ⟨s, n⟩))
    else (false, locks)

variable {locks} {s t : Session} {k k' : Key} {again : Nat}

theorem tryLock_holds (h : (locks.tryLock s k).1 = true) : Holds (locks.tryLock s k).2 s k := by
  unfold tryLock at h ⊢
  split
  · exact ⟨0, update_self ..⟩
  · rename_i hold hlock
    rw [hlock] at h
    dsimp only at h
    split at h
    · rename_i hsession
      rw [if_pos hsession]
      exact ⟨_, update_self ..⟩
    · cases h

theorem tryLock_other (hk : k' ≠ k) : (locks.tryLock s k).2 k' = locks k' := by
  unfold tryLock
  split
  · exact update_of_ne hk ..
  · split
    · exact update_of_ne hk ..
    · rfl

theorem tryLock_cases (locks : AdvisoryLocks Session Key) (s : Session) (k : Key) :
    (locks k = none ∧ (locks.tryLock s k).1 = true ∧ (locks.tryLock s k).2 k = some ⟨s, 0⟩) ∨
    locks.Holds s k ∨
    (locks.tryLock s k = (false, locks)) := by
  unfold tryLock
  split
  · rename_i hfree
    exact .inl ⟨hfree, rfl, update_self ..⟩
  · rename_i hold hlock
    by_cases hsession : hold.session = s
    · refine .inr (.inl ⟨hold.again, ?_⟩)
      rw [hlock, ← hsession]
    · exact .inr (.inr (if_neg hsession))

theorem Holds.tryLock (h : locks.Holds t k') (s : Session) (k : Key) :
    Holds (locks.tryLock s k).2 t k' := by
  by_cases hk : k' = k
  · subst hk
    obtain ⟨again, hlock⟩ := h
    unfold AdvisoryLocks.tryLock
    rw [hlock]
    dsimp only
    split
    · rename_i hsession
      subst hsession
      exact ⟨again + 1, update_self ..⟩
    · exact ⟨again, hlock⟩
  · obtain ⟨again, hlock⟩ := h
    exact ⟨again, (tryLock_other hk).trans hlock⟩

theorem unlock_other (hk : k' ≠ k) : (locks.unlock s k).2 k' = locks k' := by
  unfold unlock
  split
  · rfl
  · split
    · exact update_of_ne hk ..
    · rfl

theorem unlock_of_not_holds (h : ¬ locks.Holds s k) : (locks.unlock s k).2 = locks := by
  unfold unlock
  split
  · rfl
  · rename_i holder again hlock
    by_cases hsession : holder = s
    · exact absurd ⟨again, by rw [hlock, hsession]⟩ h
    · rw [if_neg hsession]

theorem unlock_once (h : locks k = some ⟨s, 0⟩) : (locks.unlock s k).2 k = none := by
  unfold unlock
  rw [h]
  dsimp only
  rw [if_pos rfl]
  exact update_self ..

theorem Holds.unlock (h : locks.Holds t k') (hne : t ≠ s ∨ k' ≠ k) :
    Holds (locks.unlock s k).2 t k' := by
  rcases hne with hne | hk
  · by_cases hk : k' = k
    · subst hk
      rw [unlock_of_not_holds fun hholds => hne (h.unique hholds)]
      exact h
    · obtain ⟨again, hlock⟩ := h
      exact ⟨again, (unlock_other hk).trans hlock⟩
  · obtain ⟨again, hlock⟩ := h
    exact ⟨again, (unlock_other hk).trans hlock⟩

end AdvisoryLocks

end Outpost
