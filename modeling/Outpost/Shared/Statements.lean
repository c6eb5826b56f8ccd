import Mathlib.Data.List.Perm.Basic
import Mathlib.Data.List.Forall2

/-!
# Statements that run until one fails

A program runs its statements one after the other without a transaction: it ends at the first that
fails, and what the others have done stays.
-/

namespace Outpost.Statements

variable {σ α β ε : Type} (run : α → σ → σ × Option ε)

def runAll : List α → σ → σ × Option ε
  | [], s => (s, none)
  | a :: rest, s =>
    match run a s with
    | (s, some e) => (s, some e)
    | (s, none) => runAll rest s

variable {run} {s t : σ} {a b : α} {as bs rest : List α}

theorem runAll_cons_of_ok (h : run a s = (t, none)) :
    runAll run (a :: rest) s = runAll run rest t := by
  rw [runAll, h]

theorem runAll_cons_of_failed {e : ε} (h : run a s = (t, some e)) :
    runAll run (a :: rest) s = (t, some e) := by
  rw [runAll, h]

theorem runAll_append :
    runAll run (as ++ bs) s =
      match runAll run as s with
      | (s, some e) => (s, some e)
      | (s, none) => runAll run bs s := by
  induction as generalizing s with
  | nil => rfl
  | cons a as ih =>
    rw [List.cons_append]
    cases hres : run a s with
    | mk u error =>
      cases error with
      | some e => rw [runAll_cons_of_failed hres, runAll_cons_of_failed hres]
      | none => rw [runAll_cons_of_ok hres, runAll_cons_of_ok hres, ih]

theorem runAll_single : runAll run [a] s = run a s := by
  cases hres : run a s with
  | mk u error =>
    cases error with
    | some e => exact runAll_cons_of_failed hres
    | none => exact runAll_cons_of_ok hres

theorem runAll_flatMap (f : β → List α) (l : List β) :
    runAll run (l.flatMap f) s = runAll (fun b => runAll run (f b)) l s := by
  induction l generalizing s with
  | nil => rfl
  | cons b l ih =>
    rw [List.flatMap_cons, runAll_append]
    simp only [ih]
    rfl

theorem runAll_keeps {I : σ → Prop} (keeps : ∀ a s, I s → I (run a s).1) (hs : I s) :
    I (runAll run as s).1 := by
  induction as generalizing s with
  | nil => exact hs
  | cons a as ih =>
    have hfirst := keeps a s hs
    cases hres : run a s with
    | mk u error =>
      rw [hres] at hfirst
      cases error with
      | some e =>
        rw [runAll_cons_of_failed hres]
        exact hfirst
      | none =>
        rw [runAll_cons_of_ok hres]
        exact ih hfirst

theorem runAll_view {τ : Type} {run' : α → τ → τ × Option ε} (view : σ → τ)
    (h : ∀ a s, (view (run a s).1, (run a s).2) = run' a (view s)) (as : List α) (s : σ) :
    (view (runAll run as s).1, (runAll run as s).2) = runAll run' as (view s) := by
  induction as generalizing s with
  | nil => rfl
  | cons a as ih =>
    have hfirst := h a s
    cases hres : run a s with
    | mk u error =>
      rw [hres] at hfirst
      cases error with
      | some e => rw [runAll_cons_of_failed hres, runAll_cons_of_failed hfirst.symm]
      | none =>
        rw [runAll_cons_of_ok hres, runAll_cons_of_ok hfirst.symm]
        exact ih u

end Outpost.Statements
