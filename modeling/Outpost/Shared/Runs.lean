import Mathlib.Logic.Relation

/-!
# Labelled runs of a transition system

`Run Step s as t`: the labelled steps `as`, taken in this order, lead from `s` to `t`. A run
whose steps all meet a condition is a run of the guarded relation.
-/

namespace Outpost.Runs

universe u v

variable {State : Type u} {Label : Type v}

inductive Run (Step : State → Label → State → Prop) : State → List Label → State → Prop where
  | nil (s : State) : Run Step s [] s
  | cons {s t w : State} {a : Label} {as : List Label} :
      Step s a t → Run Step t as w → Run Step s (a :: as) w

def Guarded (Step : State → Label → State → Prop) (guard : State → Label → Prop) :
    State → Label → State → Prop :=
  fun s a t => Step s a t ∧ guard s a

def Through (Step : State → Label → State → Prop) (I : State → Prop) :
    State → Label → State → Prop :=
  fun s a t => Step s a t ∧ I t

namespace Run

variable {Step : State → Label → State → Prop} {s t w : State} {a : Label} {as bs : List Label}

theorem single (h : Step s a t) : Run Step s [a] t := .cons h (.nil t)

theorem trans (h₁ : Run Step s as t) (h₂ : Run Step t bs w) : Run Step s (as ++ bs) w := by
  induction h₁ with
  | nil => exact h₂
  | cons h _ ih => exact .cons h (ih h₂)

theorem of_append (h : Run Step s (as ++ bs) t) : ∃ w, Run Step s as w ∧ Run Step w bs t := by
  induction as generalizing s with
  | nil => exact ⟨s, .nil s, h⟩
  | cons a as ih =>
    cases h with
    | cons hstep hrest =>
      obtain ⟨w, hfirst, hsecond⟩ := ih hrest
      exact ⟨w, .cons hstep hfirst, hsecond⟩

variable {I : State → Prop} {guard : State → Label → Prop}

theorem invariant (preserved : ∀ s a t, Step s a t → I s → I t) (h : Run Step s as t) (hs : I s) :
    I t := by
  induction h with
  | nil => exact hs
  | cons h _ ih => exact ih (preserved _ _ _ h hs)

variable {P : Label → Prop}

theorem guarded_labels_iff :
    Run (Guarded Step fun _ a => P a) s as t ↔ Run Step s as t ∧ ∀ a ∈ as, P a := by
  constructor
  · intro h
    induction h with
    | nil s => exact ⟨.nil s, List.forall_mem_nil P⟩
    | cons h _ ih => exact ⟨.cons h.1 ih.1, List.forall_mem_cons.mpr ⟨h.2, ih.2⟩⟩
  · intro ⟨h, labels⟩
    induction h with
    | nil s => exact .nil s
    | cons h _ ih =>
      obtain ⟨ha, has⟩ := List.forall_mem_cons.mp labels
      exact .cons ⟨h, ha⟩ (ih has)

theorem invariant_of_labels (preserved : ∀ s a t, Step s a t → P a → I s → I t)
    (h : Run Step s as t) (labels : ∀ a ∈ as, P a) (hs : I s) : I t :=
  (guarded_labels_iff.mpr ⟨h, labels⟩).invariant (fun s a t h => preserved s a t h.1 h.2) hs

theorem history {I : List Label → State → Prop}
    (preserved : ∀ past s a t, Step s a t → I past s → I (past ++ [a]) t)
    (h : Run Step s as t) (hs : I [] s) : I as t := by
  have hpast : ∀ past, I past s → I (past ++ as) t := by
    clear hs
    induction h with
    | nil s =>
      intro past hi
      rw [List.append_nil]
      exact hi
    | @cons s t w a as h _ ih =>
      intro past hi
      rw [List.append_cons]
      exact ih (past ++ [a]) (preserved past s a t h hi)
  exact hpast [] hs

theorem through_iff_guarded_within {J : State → Prop} (kept : ∀ s a t, Step s a t → J s → J t)
    (exact : ∀ s a t, Step s a t → J s → I s → (I t ↔ guard s a)) (hj : J s) (hs : I s) :
    Run (Through Step I) s as t ↔ Run (Guarded Step guard) s as t := by
  constructor
  · intro h
    induction h with
    | nil s => exact .nil s
    | cons h _ ih =>
      exact .cons ⟨h.1, (exact _ _ _ h.1 hj hs).mp h.2⟩ (ih (kept _ _ _ h.1 hj) h.2)
  · intro h
    induction h with
    | nil s => exact .nil s
    | cons h _ ih =>
      have hi := (exact _ _ _ h.1 hj hs).mpr h.2
      exact .cons ⟨h.1, hi⟩ (ih (kept _ _ _ h.1 hj) hi)

theorem through_iff_guarded (exact : ∀ s a t, Step s a t → I s → (I t ↔ guard s a)) (hs : I s) :
    Run (Through Step I) s as t ↔ Run (Guarded Step guard) s as t :=
  through_iff_guarded_within (J := fun _ => True) (fun _ _ _ _ h => h)
    (fun s a t hstep _ => exact s a t hstep) trivial hs

theorem mono {Step' : State → Label → State → Prop}
    (le : ∀ s a t, Step s a t → Step' s a t) (h : Run Step s as t) : Run Step' s as t := by
  induction h with
  | nil s => exact .nil s
  | cons h _ ih => exact .cons (le _ _ _ h) ih

theorem of_guarded (h : Run (Guarded Step guard) s as t) : Run Step s as t :=
  h.mono fun _ _ _ hstep => hstep.1

end Run

end Outpost.Runs
