import Outpost.Shared.Interleaving

/-!
# Schedules

A schedule says which request moves next, and what everyone else does in between.
Playing it gives one run of the pool; the runs of examples are built that way.
-/

namespace Outpost.Interleaving

open Runs

variable {σ ρ α : Type}

section Alone

variable {program : ρ → Prog σ α} {Other : σ → σ → Prop}
variable {guard : Pool σ ρ α → Event σ ρ α → Prop} {p : Pool σ ρ α} {n : Nat} {request : ρ}

def aloneEvents (n : Nat) : Prog σ α → σ → List (Event σ ρ α)
  | .ret value, _ => [.answer n value]
  | .act update next, s => .act n s :: aloneEvents n (next s) (update s)

def advanceEvents (n : Nat) : Nat → Prog σ α → σ → List (Event σ ρ α)
  | k + 1, .act update next, s => .act n s :: advanceEvents n k (next s) (update s)
  | _, _, _ => []

variable {rest : Prog σ α} {m : Nat} {s : σ}

theorem start_not_mem_alone :
    (.start m request : Event σ ρ α) ∉ aloneEvents n rest s := by
  induction rest generalizing s with
  | ret value => exact List.not_mem_cons_of_ne_of_not_mem nofun List.not_mem_nil
  | act update next ih => exact List.not_mem_cons_of_ne_of_not_mem nofun (ih s)

theorem start_not_mem_advance (k : Nat) :
    (.start m request : Event σ ρ α) ∉ advanceEvents n k rest s := by
  induction k generalizing rest s with
  | zero => exact List.not_mem_nil
  | succ k ih =>
    cases rest with
    | ret value => exact List.not_mem_nil
    | act update next => exact List.not_mem_cons_of_ne_of_not_mem nofun ih

theorem run_alone (hact : ∀ p n s, guard p (.act n s)) (hanswer : ∀ p n a, guard p (.answer n a))
    (rest : Prog σ α) (h : p.threads n = .running request rest) :
    Run (Guarded (Step program Other) guard) p (aloneEvents n rest p.shared)
      ⟨(rest.alone p.shared).1,
        Function.update p.threads n (.answered request (rest.alone p.shared).2)⟩ := by
  induction rest generalizing p with
  | ret value => exact .single ⟨.answer h, hanswer p n value⟩
  | act update next ih =>
    refine .cons ⟨.act h, hact p n p.shared⟩ ?_
    have hrest := ih p.shared
      (p := ⟨update p.shared, Function.update p.threads n (.running request (next p.shared))⟩)
      (Function.update_self n _ p.threads)
    rw [Function.update_idem] at hrest
    exact hrest

theorem found_alone {P : σ → Prop} {post : List σ → α → Prop} {seen : List σ}
    (hrest : rest.Keeps (fun _ s s' => P s → P s') post seen) (hs : P s) {w : σ}
    (hw : Event.act n w ∈ (aloneEvents n rest s : List (Event σ ρ α))) : P w := by
  induction rest generalizing s seen with
  | ret value =>
    rcases List.mem_singleton.mp hw
  | act update next ih =>
    rcases List.mem_cons.mp hw with heq | hw
    · cases heq
      exact hs
    · exact ih s (hrest s).2 ((hrest s).1 hs) hw

theorem run_advance (hact : ∀ p n s, guard p (.act n s)) (k : Nat) (rest : Prog σ α)
    (h : p.threads n = .running request rest) :
    Run (Guarded (Step program Other) guard) p (advanceEvents n k rest p.shared)
      ⟨(rest.advance k p.shared).2,
        Function.update p.threads n (.running request (rest.advance k p.shared).1)⟩ := by
  induction k generalizing p rest with
  | zero =>
    simp only [Prog.advance, ← h, Function.update_eq_self]
    exact .nil p
  | succ k ih =>
    cases rest with
    | ret value =>
      simp only [Prog.advance, ← h, Function.update_eq_self]
      exact .nil p
    | act update next =>
      refine .cons ⟨.act h, hact p n p.shared⟩ ?_
      have hrest := ih (next p.shared)
        (p := ⟨update p.shared, Function.update p.threads n (.running request (next p.shared))⟩)
        (Function.update_self n _ p.threads)
      rw [Function.update_idem] at hrest
      exact hrest

theorem run_request (hact : ∀ p n s, guard p (.act n s)) (hanswer : ∀ p n a, guard p (.answer n a))
    (hunused : p.threads n = .unused) (hstart : guard p (.start n request)) :
    Run (Guarded (Step program Other) guard) p
      (.start n request :: aloneEvents n (program request) p.shared)
      ⟨((program request).alone p.shared).1,
        Function.update p.threads n (.answered request ((program request).alone p.shared).2)⟩ := by
  refine .cons ⟨.start hunused, hstart⟩ ?_
  have hrest : Run (Guarded (Step program Other) guard) _ _ _ :=
    run_alone hact hanswer (program request)
      (p := ⟨p.shared, Function.update p.threads n (.running request (program request))⟩)
      (Function.update_self n _ p.threads)
  rw [Function.update_idem] at hrest
  exact hrest

end Alone

inductive Move (σ ρ : Type) where
  | start (n : Nat) (request : ρ)
  | act (n k : Nat)
  | finish (n : Nat)
  | other (s : σ)

namespace Pool

variable (program : ρ → Prog σ α)

def move (p : Pool σ ρ α) : Move σ ρ → Pool σ ρ α × List (Event σ ρ α)
  | .start n request =>
    match p.threads n with
    | .unused => (⟨p.shared, Function.update p.threads n (.running request (program request))⟩,
        [.start n request])
    | _ => (p, [])
  | .act n k =>
    match p.threads n with
    | .running request rest =>
      (⟨(rest.advance k p.shared).2,
        Function.update p.threads n (.running request (rest.advance k p.shared).1)⟩,
        advanceEvents n k rest p.shared)
    | _ => (p, [])
  | .finish n =>
    match p.threads n with
    | .running request rest =>
      (⟨(rest.alone p.shared).1,
        Function.update p.threads n (.answered request (rest.alone p.shared).2)⟩,
        aloneEvents n rest p.shared)
    | _ => (p, [])
  | .other s => (⟨s, p.threads⟩, [.other])

def play (p : Pool σ ρ α) : List (Move σ ρ) → Pool σ ρ α × List (Event σ ρ α)
  | [] => (p, [])
  | m :: moves => (((p.move program m).1.play moves).1,
      (p.move program m).2 ++ ((p.move program m).1.play moves).2)

/-- What the schedule lets others do is what they may do, and its starts are allowed. -/
def Playable (Other : σ → σ → Prop) (guard : Pool σ ρ α → Event σ ρ α → Prop) (p : Pool σ ρ α) :
    List (Move σ ρ) → Prop
  | [] => True
  | m :: moves =>
    (match m with
      | .start n request => guard p (.start n request)
      | .other s => Other p.shared s ∧ guard p .other
      | _ => True) ∧ Playable Other guard (p.move program m).1 moves

variable {program} {Other : σ → σ → Prop} {guard : Pool σ ρ α → Event σ ρ α → Prop}

theorem run_play (hact : ∀ p n s, guard p (.act n s)) (hanswer : ∀ p n a, guard p (.answer n a))
    (moves : List (Move σ ρ)) (p : Pool σ ρ α) (h : p.Playable program Other guard moves) :
    Run (Guarded (Step program Other) guard) p (p.play program moves).2
      (p.play program moves).1 := by
  induction moves generalizing p with
  | nil => exact .nil p
  | cons m moves ih =>
    refine Run.trans ?_ (ih (p.move program m).1 h.2)
    cases m with
    | start n request =>
      simp only [move]
      split
      · rename_i hunused
        exact .single ⟨.start hunused, h.1⟩
      · exact .nil p
    | act n k =>
      simp only [move]
      split
      · rename_i request rest hrunning
        exact run_advance hact k rest hrunning
      · exact .nil p
    | finish n =>
      simp only [move]
      split
      · rename_i request rest hrunning
        exact run_alone hact hanswer rest hrunning
      · exact .nil p
    | other s => exact .single ⟨.other h.1.1, h.1.2⟩

theorem play_start_act {p : Pool σ ρ α} {n : Nat} (h : p.threads n = .unused) (request : ρ)
    (k : Nat) : p.play program [.start n request, .act n k] =
      (⟨((program request).advance k p.shared).2, Function.update p.threads n
          (.running request ((program request).advance k p.shared).1)⟩,
        .start n request :: advanceEvents n k (program request) p.shared) := by
  simp [play, move, h]

theorem start_mem_of_play {moves : List (Move σ ρ)} {p : Pool σ ρ α} {n : Nat} {request : ρ}
    (h : .start n request ∈ (p.play program moves).2) : .start n request ∈ moves := by
  induction moves generalizing p with
  | nil => cases h
  | cons m moves ih =>
    rcases List.mem_append.mp h with h | h
    · refine List.mem_cons.mpr (.inl ?_)
      cases m with
      | start n' request' =>
        simp only [move] at h
        split at h
        · cases List.mem_singleton.mp h
          rfl
        · cases h
      | act n' k =>
        simp only [move] at h
        split at h
        · exact absurd h (start_not_mem_advance k)
        · cases h
      | finish n' =>
        simp only [move] at h
        split at h
        · exact absurd h start_not_mem_alone
        · cases h
      | other s => cases List.mem_singleton.mp h
    · exact List.mem_cons_of_mem m (ih h)

theorem run_play_step (moves : List (Move σ ρ)) (p : Pool σ ρ α)
    (h : p.Playable program Other (fun _ _ => True) moves) :
    Run (Step program Other) p (p.play program moves).2 (p.play program moves).1 :=
  (run_play (fun _ _ _ => trivial) (fun _ _ _ => trivial) moves p h).of_guarded

end Pool

end Outpost.Interleaving
