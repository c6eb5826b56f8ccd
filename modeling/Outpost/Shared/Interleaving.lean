import Mathlib.Logic.Function.Basic
import Outpost.Shared.Runs

/-!
# Programs of atomic actions and their interleavings

A program is a finite sequence of atomic actions, each of which may depend on the states that the
earlier ones found; between two actions anything may happen.
-/

namespace Outpost.Interleaving

open Runs

/-- An action finds a state and leaves its update; the rest may depend on what it found. -/
inductive Prog (σ α : Type) where
  | ret (value : α)
  | act (update : σ → σ) (next : σ → Prog σ α)

namespace Prog

variable {σ α β : Type}

def bind : Prog σ α → (α → Prog σ β) → Prog σ β
  | ret value, f => f value
  | act update next, f => act update fun s => (next s).bind f

instance : Monad (Prog σ) where
  pure := ret
  bind := bind

theorem bind_ret (p : Prog σ α) : p.bind ret = p := by
  induction p with
  | ret value => rfl
  | act update next ih => exact congrArg (act update) (funext ih)

theorem bind_assoc {γ : Type} (p : Prog σ α) (f : α → Prog σ β) (g : β → Prog σ γ) :
    (p.bind f).bind g = p.bind fun value => (f value).bind g := by
  induction p with
  | ret value => rfl
  | act update next ih => exact congrArg (act update) (funext ih)

instance lawfulMonad : LawfulMonad (Prog σ) :=
  LawfulMonad.mk' (Prog σ) bind_ret (fun _ _ => rfl) bind_assoc

def read (f : σ → α) : Prog σ α := act id fun s => ret (f s)

def modify (f : σ → σ × α) : Prog σ α := act (fun s => (f s).1) fun s => ret (f s).2

/-- Every action, by a program that has found the states `seen`, is allowed, and the result meets
`post`. -/
def Keeps (ok : List σ → σ → σ → Prop) (post : List σ → α → Prop) : List σ → Prog σ α → Prop
  | seen, ret value => post seen value
  | seen, act update next => ∀ s, ok seen s (update s) ∧ Keeps ok post (seen ++ [s]) (next s)

def alone : Prog σ α → σ → σ × α
  | ret value, s => (s, value)
  | act update next, s => (next s).alone (update s)

def advance : Nat → Prog σ α → σ → Prog σ α × σ
  | k + 1, act update next, s => (next s).advance k (update s)
  | _, p, s => (p, s)

section Alone

variable {f : σ → α} {g : σ → σ × α} {s : σ}

@[simp] theorem alone_pure (value : α) : (pure value : Prog σ α).alone s = (s, value) := rfl

@[simp] theorem alone_bind (p : Prog σ β) (f : β → Prog σ α) :
    (p >>= f).alone s = (f (p.alone s).2).alone (p.alone s).1 := by
  induction p generalizing s with
  | ret value => rfl
  | act update next ih => exact ih s

theorem alone_advance (p : Prog σ α) (k : Nat) (s : σ) :
    p.alone s = (p.advance k s).1.alone (p.advance k s).2 := by
  induction k generalizing p s with
  | zero => cases p <;> rfl
  | succ k ih =>
    cases p with
    | ret value => rfl
    | act update next => exact ih (next s) (update s)

@[simp] theorem alone_map (p : Prog σ β) (f : β → α) :
    (f <$> p).alone s = ((p.alone s).1, f (p.alone s).2) :=
  alone_bind p fun value => pure (f value)

theorem advance_bind {p : Prog σ β} {k : Nat} {s s' : σ} {update : σ → σ} {next : σ → Prog σ β}
    (h : p.advance k s = (act update next, s')) (f : β → Prog σ α) :
    (p >>= f).advance k s = (act update fun s => next s >>= f, s') := by
  induction k generalizing p s with
  | zero =>
    cases p <;> cases h
    rfl
  | succ k ih =>
    cases p with
    | ret value => cases h
    | act update next => exact ih h

@[simp] theorem alone_read : (read f).alone s = (s, f s) := rfl

@[simp] theorem alone_modify : (modify g).alone s = g s := rfl

end Alone

section Rules

variable {ok : List σ → σ → σ → Prop} {post : List σ → α → Prop} {seen : List σ}

theorem keeps_pure {value : α} (h : post seen value) : Keeps ok post seen (pure value) := h

variable {f : β → Prog σ α} {p : Prog σ β}

theorem keeps_bind {mid : List σ → β → Prop} (hp : Keeps ok mid seen p)
    (hf : ∀ later value, seen <+: later → mid later value → Keeps ok post later (f value)) :
    Keeps ok post seen (p >>= f) := by
  induction p generalizing seen with
  | ret value => exact hf seen value (List.prefix_refl seen) hp
  | act update next ih =>
    intro s
    refine ⟨(hp s).1, ih s (hp s).2 ?_⟩
    intro later value hlater
    exact hf later value ((List.prefix_append seen [s]).trans hlater)

theorem keeps_seq (hp : Keeps ok (fun _ _ => True) seen p)
    (hf : ∀ later value, seen <+: later → Keeps ok post later (f value)) :
    Keeps ok post seen (p >>= f) :=
  keeps_bind hp fun later value hlater _ => hf later value hlater

theorem keeps_read {f : σ → α} (hok : ∀ s, ok seen s s) (hpost : ∀ s, post (seen ++ [s]) (f s)) :
    Keeps ok post seen (read f) :=
  fun s => ⟨hok s, hpost s⟩

theorem keeps_read_found {f : σ → α} (hok : ∀ s, ok seen s s) :
    Keeps ok (fun later value => ∃ s, later = seen ++ [s] ∧ f s = value) seen (read f) :=
  keeps_read hok fun s => ⟨s, rfl, rfl⟩

theorem keeps_modify {f : σ → σ × α} (hok : ∀ s, ok seen s (f s).1)
    (hpost : ∀ s, post (seen ++ [s]) (f s).2) : Keeps ok post seen (modify f) :=
  fun s => ⟨hok s, hpost s⟩

theorem keeps_mono {post' : List σ → α → Prop} {p : Prog σ α} (hp : Keeps ok post seen p)
    (h : ∀ later value, seen <+: later → post later value → post' later value) :
    Keeps ok post' seen p := by
  rw [← bind_pure p]
  exact keeps_bind hp h

end Rules

def after : Prog σ α → List σ → Option (Prog σ α)
  | p, [] => some p
  | ret _, _ :: _ => none
  | act _ next, s :: found => (next s).after found

@[simp] theorem after_nil (p : Prog σ α) : p.after [] = some p := by
  cases p <;> rfl

@[simp] theorem after_read_bind (f : σ → β) (g : β → Prog σ α) (s : σ) (found : List σ) :
    (read f >>= g).after (s :: found) = (g (f s)).after found := rfl

variable {p rest : Prog σ α} {found seen : List σ} {ok ok' : List σ → σ → σ → Prop}
  {post : List σ → α → Prop} {R : σ → σ → Prog σ α → Prop} {g : β → Prog σ α}

theorem after_bind {p rest : Prog σ β} (h : p.after found = some rest) (f : β → Prog σ α) :
    (p >>= f).after found = some (rest >>= f) := by
  induction found generalizing p with
  | nil =>
    rw [after_nil, Option.some.injEq] at h
    rw [after_nil, h]
  | cons s found ih =>
    cases p with
    | ret value => cases h
    | act update next => exact ih h

theorem after_append (p : Prog σ α) (found later : List σ) :
    p.after (found ++ later) = (p.after found).bind fun rest => rest.after later := by
  induction found generalizing p with
  | nil => simp
  | cons s found ih =>
    cases p with
    | ret value => rfl
    | act update next => exact ih (next s)

theorem after_snoc {update : σ → σ} {next : σ → Prog σ α}
    (h : p.after found = some (act update next)) (s : σ) :
    p.after (found ++ [s]) = some (next s) := by
  rw [after_append, h]
  exact after_nil (next s)

theorem keeps_after (hp : Keeps ok post seen p) (h : p.after found = some rest) :
    Keeps ok post (seen ++ found) rest := by
  induction found generalizing p seen with
  | nil =>
    rw [after_nil, Option.some.injEq] at h
    rw [← h, List.append_nil]
    exact hp
  | cons s found ih =>
    cases p with
    | ret value => cases h
    | act update next =>
      have hrest := ih (hp s).2 h
      rwa [List.append_assoc, List.singleton_append] at hrest

theorem keeps_imp_later (hp : Keeps ok post seen p)
    (h : ∀ later s s', seen <+: later → ok later s s' → ok' later s s') :
    Keeps ok' post seen p := by
  induction p generalizing seen with
  | ret value => exact hp
  | act update next ih =>
    intro s
    refine ⟨h _ _ _ (List.prefix_refl seen) (hp s).1, ih s (hp s).2 ?_⟩
    intro later w w' hlater
    exact h later w w' ((List.prefix_append seen [s]).trans hlater)

theorem keeps_imp (hp : Keeps ok post seen p) (h : ∀ seen s s', ok seen s s' → ok' seen s s') :
    Keeps ok' post seen p :=
  keeps_imp_later hp fun later s s' _ => h later s s'

/-- The result and the state that the last action leaves meet `post`; the given state
counts where there is no action. -/
def Leaves (post : σ → α → Prop) : Prog σ α → σ → Prop
  | ret value, s => post s value
  | act update next, _ => ∀ s, (next s).Leaves post (update s)

section Leaving

variable {post : σ → α → Prop} {s : σ}

theorem leaves_pure {value : α} (h : post s value) : (pure value : Prog σ α).Leaves post s := h

theorem leaves_bind {p : Prog σ β} {f : β → Prog σ α}
    (h : p.Leaves (fun s value => (f value).Leaves post s) s) : (p >>= f).Leaves post s := by
  induction p generalizing s with
  | ret value => exact h
  | act update next ih => exact fun s => ih s (h s)

theorem leaves_modify {f : σ → σ × α} (h : ∀ s, post (f s).1 (f s).2) :
    (modify f).Leaves post s := h

theorem leaves_mono {post' : σ → α → Prop} {p : Prog σ α} (hp : p.Leaves post s)
    (h : ∀ s value, post s value → post' s value) : p.Leaves post' s := by
  induction p generalizing s with
  | ret value => exact h s value hp
  | act update next ih => exact fun s => ih s (hp s)

theorem leaves_of_forall (p : Prog σ α) (h : ∀ s value, post s value) : p.Leaves post s := by
  induction p generalizing s with
  | ret value => exact h s value
  | act update next ih => exact fun s => ih s

theorem leaves_stable {p : Prog σ α} {s' : σ} (hp : p.Leaves post s)
    (h : ∀ value, post s value → post s' value) : p.Leaves post s' := by
  cases p with
  | ret value => exact h value hp
  | act update next => exact hp

end Leaving

/-- `R` holds of the state that an action finds, the one that it leaves, and the rest. -/
def Acts (R : σ → σ → Prog σ α → Prop) : Prog σ α → Prop
  | ret _ => True
  | act update next => ∀ s, R s (update s) (next s) ∧ (next s).Acts R

theorem acts_read_bind {f : σ → β} (h : ∀ s, R s s (g (f s)) ∧ (g (f s)).Acts R) :
    (read f >>= g).Acts R := h

theorem acts_modify_bind {f : σ → σ × β} (h : ∀ s, R s (f s).1 (g (f s).2) ∧ (g (f s).2).Acts R) :
    (modify f >>= g).Acts R := h

theorem Acts.of_after {s : σ} (h : p.Acts R) (hafter : p.after (found ++ [s]) = some rest) :
    ∃ s', R s s' rest := by
  induction found generalizing p with
  | nil =>
    cases p with
    | ret value => cases hafter
    | act update next =>
      obtain rfl := Option.some.inj ((after_nil (next s)).symm.trans hafter)
      exact ⟨update s, (h s).1⟩
  | cons w found ih =>
    cases p with
    | ret value => cases hafter
    | act update next => exact ih (h w).2 hafter

/-! ### What a program reads

`vary` relates states that differ in one part only. An action reads that part when
what comes next can depend on it. -/

section Reading

variable (vary : σ → σ → Prop)

def Reads : Prog σ α → Prop
  | ret _ => False
  | act _ next => ∃ s s', vary s s' ∧ next s ≠ next s'

def Ignores : Prog σ α → Prop
  | ret _ => True
  | act _ next => (∀ s s', vary s s' → next s = next s') ∧ ∀ s, (next s).Ignores

/-- Of the actions that found these states, the last one that reads found `w`. -/
def LastRead (p : Prog σ α) (found : List σ) (w : σ) : Prop :=
  ∃ before later, found = before ++ w :: later ∧
    (∃ rest, p.after before = some rest ∧ rest.Reads vary) ∧
    ∀ mid s last rest, later = mid ++ s :: last → p.after (before ++ w :: mid) = some rest →
      ¬ rest.Reads vary

variable {vary}

theorem Ignores.not_reads {p : Prog σ α} (h : p.Ignores vary) : ¬ p.Reads vary := by
  cases p with
  | ret value => exact id
  | act update next =>
    intro ⟨s, s', hvary, hne⟩
    exact hne (h.1 s s' hvary)

theorem Ignores.after {p rest : Prog σ α} {found : List σ} (h : p.Ignores vary)
    (hrest : p.after found = some rest) : rest.Ignores vary := by
  induction found generalizing p with
  | nil =>
    rw [after_nil, Option.some.injEq] at hrest
    exact hrest ▸ h
  | cons s found ih =>
    cases p with
    | ret value => cases hrest
    | act update next => exact ih (h.2 s) hrest

theorem ignores_pure (value : α) : (pure value : Prog σ α).Ignores vary := trivial

theorem ignores_bind {p : Prog σ β} {f : β → Prog σ α} (hp : p.Ignores vary)
    (hf : ∀ value, (f value).Ignores vary) : (p >>= f).Ignores vary := by
  induction p with
  | ret value => exact hf value
  | act update next ih =>
    refine ⟨?_, fun s => ih s (hp.2 s)⟩
    intro s s' hvary
    show (next s).bind f = (next s').bind f
    rw [hp.1 s s' hvary]

theorem ignores_read {f : σ → α} (h : ∀ s s', vary s s' → f s = f s') : (read f).Ignores vary := by
  refine ⟨?_, fun _ => trivial⟩
  intro s s' hvary
  exact congrArg ret (h s s' hvary)

theorem ignores_read_bind {f : σ → β} {g : β → Prog σ α}
    (h : ∀ s s', vary s s' → g (f s) = g (f s')) (hg : ∀ s, (g (f s)).Ignores vary) :
    (read f >>= g).Ignores vary :=
  ⟨h, hg⟩

theorem ignores_modify {f : σ → σ × α} (h : ∀ s s', vary s s' → (f s).2 = (f s').2) :
    (modify f).Ignores vary := by
  refine ⟨?_, fun _ => trivial⟩
  intro s s' hvary
  exact congrArg ret (h s s' hvary)

theorem Ignores.not_lastRead {p : Prog σ α} (h : p.Ignores vary) (found : List σ) (w : σ) :
    ¬ p.LastRead vary found w := by
  intro ⟨before, _, _, ⟨rest, hrest, hreads⟩, _⟩
  exact (h.after hrest).not_reads hreads

theorem lastRead_of_ends {p rest acting : Prog σ α} (before : List σ) {later : List σ} {w w' : σ}
    {value : α} (hvary : vary w w') (hends : p.after (before ++ [w']) = some (ret value))
    (hrest : p.after (before ++ [w]) = some rest) (hignores : rest.Ignores vary)
    (hacting : p.after (before ++ w :: later) = some acting)
    (hgoes : ∀ value, acting ≠ ret value) : p.LastRead vary (before ++ w :: later) w := by
  refine ⟨before, later, rfl, ?_, ?_⟩
  · rw [after_append] at hends hrest
    obtain ⟨reading, hreading, hends⟩ := Option.bind_eq_some_iff.mp hends
    refine ⟨reading, hreading, ?_⟩
    cases reading with
    | ret value => cases hends
    | act update next =>
      refine ⟨w, w', hvary, ?_⟩
      intro heq
      have hstop : next w = ret value := heq.trans (Option.some.inj ((after_nil _).symm.trans hends))
      rw [List.append_cons, after_append, after_append, hreading] at hacting
      change ((next w).after []).bind (fun rest => rest.after later) = some acting at hacting
      rw [hstop] at hacting
      cases later with
      | nil => exact hgoes value (Option.some.inj hacting).symm
      | cons s later => cases hacting
  · intro mid s last after _ hafter
    rw [List.append_cons, after_append, hrest] at hafter
    exact (hignores.after hafter).not_reads

end Reading

end Prog

variable {σ ρ α : Type}

inductive Thread (σ ρ α : Type) where
  | unused
  | running (request : ρ) (rest : Prog σ α)
  | answered (request : ρ) (answer : α)

namespace Thread

def request : Thread σ ρ α → Option ρ
  | unused => none
  | running request _ => some request
  | answered request _ => some request

def result : Thread σ ρ α → Option α
  | running _ (.ret value) => some value
  | answered _ answer => some answer
  | _ => none

end Thread

structure Pool (σ ρ α : Type) where
  shared : σ
  threads : Nat → Thread σ ρ α

inductive Event (σ ρ α : Type) where
  | start (n : Nat) (request : ρ)
  | act (n : Nat) (found : σ)
  | answer (n : Nat) (answer : α)
  | other

section Steps

variable (program : ρ → Prog σ α) (Other : σ → σ → Prop)

/-- Each request has a thread of its own; `Other` is what everyone else may do. -/
inductive Step : Pool σ ρ α → Event σ ρ α → Pool σ ρ α → Prop where
  | start {p : Pool σ ρ α} {n : Nat} {request : ρ} :
      p.threads n = .unused →
      Step p (.start n request)
        ⟨p.shared, Function.update p.threads n (.running request (program request))⟩
  | act {p : Pool σ ρ α} {n : Nat} {request : ρ} {update : σ → σ} {next : σ → Prog σ α} :
      p.threads n = .running request (.act update next) →
      Step p (.act n p.shared)
        ⟨update p.shared, Function.update p.threads n (.running request (next p.shared))⟩
  | answer {p : Pool σ ρ α} {n : Nat} {request : ρ} {answer : α} :
      p.threads n = .running request (.ret answer) →
      Step p (.answer n answer)
        ⟨p.shared, Function.update p.threads n (.answered request answer)⟩
  | other {p : Pool σ ρ α} {s : σ} : Other p.shared s → Step p .other ⟨s, p.threads⟩

end Steps

def seen (n : Nat) (past : List (Event σ ρ α)) : List σ :=
  past.filterMap fun e =>
    match e with
    | .act m found => if m = n then some found else none
    | _ => none

variable {n : Nat} {past : List (Event σ ρ α)}

theorem mem_seen {s : σ} : s ∈ seen n past ↔ .act n s ∈ past := by
  unfold seen
  rw [List.mem_filterMap]
  constructor
  · intro ⟨e, he, hsome⟩
    cases e with
    | act m found =>
      simp only [Option.ite_none_right_eq_some, Option.some.injEq] at hsome
      obtain ⟨rfl, rfl⟩ := hsome
      exact he
    | _ => cases hsome
  · intro h
    exact ⟨.act n s, h, if_pos rfl⟩

theorem seen_append (n : Nat) (past later : List (Event σ ρ α)) :
    seen n (past ++ later) = seen n past ++ seen n later :=
  List.filterMap_append

theorem seen_append_act (n : Nat) (past : List (Event σ ρ α)) (s : σ) :
    seen n (past ++ [.act n s]) = seen n past ++ [s] := by
  simp [seen]

theorem seen_append_of_ne {e : Event σ ρ α} (h : ∀ s, e ≠ .act n s) :
    seen n (past ++ [e]) = seen n past := by
  unfold seen
  cases e with
  | act m s =>
    have hne : m ≠ n := fun heq => h s (heq ▸ rfl)
    simp [hne]
  | _ => simp

theorem past_eq_of_seen {past' later later' : List (Event σ ρ α)} {s s' : σ}
    (h : past ++ .act n s :: later = past' ++ .act n s' :: later')
    (hlength : (seen n past).length = (seen n past').length) : past = past' := by
  have hshorter : ∀ {one two rest rest' : List (Event σ ρ α)} {w w' : σ} (more : List (Event σ ρ α)),
      two = one ++ more → .act n w :: rest = more ++ .act n w' :: rest' →
      (seen n one).length = (seen n two).length → one = two := by
    intro one two rest rest' w w' more htwo hrest hsame
    cases more with
    | nil => rw [htwo, List.append_nil]
    | cons e more =>
      obtain ⟨rfl, _⟩ := List.cons.inj hrest
      rw [htwo, List.append_cons, seen_append, seen_append_act] at hsame
      simp at hsame
  rcases List.append_eq_append_iff.mp h with ⟨more, htwo, hrest⟩ | ⟨more, hone, hrest⟩
  · exact hshorter more htwo hrest hlength
  · exact (hshorter more hone hrest hlength.symm).symm

inductive Moves (program : ρ → Prog σ α) (past : List (Event σ ρ α)) (n : Nat) (p : Pool σ ρ α)
    (e : Event σ ρ α) (q : Pool σ ρ α) : Prop where
  | stays : q.threads n = p.threads n → seen n (past ++ [e]) = seen n past → Moves program past n p e q
  | starts {request : ρ} : e = .start n request → p.threads n = .unused →
      q.threads n = .running request (program request) → q.shared = p.shared →
      seen n (past ++ [e]) = seen n past → Moves program past n p e q
  | acts {request : ρ} {update : σ → σ} {next : σ → Prog σ α} : e = .act n p.shared →
      p.threads n = .running request (.act update next) →
      q.threads n = .running request (next p.shared) → q.shared = update p.shared →
      seen n (past ++ [e]) = seen n past ++ [p.shared] → Moves program past n p e q
  | answers {request : ρ} {answer : α} : e = .answer n answer →
      p.threads n = .running request (.ret answer) → q.threads n = .answered request answer →
      q.shared = p.shared → seen n (past ++ [e]) = seen n past → Moves program past n p e q

section Moves

variable {program : ρ → Prog σ α} {Other : σ → σ → Prop} {p q : Pool σ ρ α} {e : Event σ ρ α}

theorem moves_of_step (past : List (Event σ ρ α)) (hstep : Step program Other p e q) (n : Nat) :
    Moves program past n p e q := by
  cases hstep with
  | @start m request hunused =>
    have hseen : seen n (past ++ [.start m request]) = seen n past := seen_append_of_ne nofun
    by_cases hnm : n = m
    · subst hnm
      exact .starts rfl hunused (Function.update_self _ _ _) rfl hseen
    · exact .stays (Function.update_of_ne hnm _ _) hseen
  | @act m request update next hrunning =>
    by_cases hnm : n = m
    · subst hnm
      exact .acts rfl hrunning (Function.update_self _ _ _) rfl (seen_append_act _ _ _)
    · refine .stays (Function.update_of_ne hnm _ _) (seen_append_of_ne ?_)
      intro s heq
      cases heq
      exact hnm rfl
  | @answer m request answer hrunning =>
    have hseen : seen n (past ++ [.answer m answer]) = seen n past := seen_append_of_ne nofun
    by_cases hnm : n = m
    · subst hnm
      exact .answers rfl hrunning (Function.update_self _ _ _) rfl hseen
    · exact .stays (Function.update_of_ne hnm _ _) hseen
  | other _ => exact .stays rfl (seen_append_of_ne nofun)

variable {n : Nat} {request : ρ} {events : List (Event σ ρ α)} {value : α}

theorem first_of_step {past : List (Event σ ρ α)} {s : σ} {rest : List σ}
    (hstep : Step program Other p e q) (hunused : p.threads n = .unused → seen n past = [])
    (hrequest : (q.threads n).request = some request) (hseen : seen n (past ++ [e]) = s :: rest) :
    (p.threads n).request = some request ∧ (∃ rest', seen n past = s :: rest') ∨
      ∃ update next, e = .act n p.shared ∧ p.threads n = .running request (.act update next) ∧
        seen n past = [] ∧ s = p.shared ∧ q.shared = update p.shared := by
  cases moves_of_step past hstep n with
  | stays hthread hsame =>
    rw [hthread] at hrequest
    exact .inl ⟨hrequest, rest, hsame ▸ hseen⟩
  | starts _ hn _ _ hsame =>
    rw [hsame, hunused hn] at hseen
    cases hseen
  | @acts request' update next he hrunning hthread hshared hsame =>
    rw [hthread] at hrequest
    obtain rfl := Option.some.inj hrequest
    rw [hsame] at hseen
    cases hpast : seen n past with
    | nil =>
      rw [hpast] at hseen
      obtain ⟨rfl, _⟩ := List.cons.inj hseen
      exact .inr ⟨update, next, he, hrunning, rfl, rfl, hshared⟩
    | cons s' rest' =>
      rw [hpast] at hseen
      obtain ⟨rfl, _⟩ := List.cons.inj hseen
      rw [hrunning]
      exact .inl ⟨rfl, rest', rfl⟩
  | answers _ hrunning hthread _ hsame =>
    rw [hthread] at hrequest
    rw [hrunning]
    exact .inl ⟨hrequest, rest, hsame ▸ hseen⟩

theorem unused_of_step (hstep : Step program Other p e q) (h : q.threads n = .unused) :
    p.threads n = .unused := by
  cases moves_of_step [] hstep n with
  | stays hn _ => exact hn ▸ h
  | starts _ hn _ _ _ => exact hn
  | acts _ _ hn _ _ => cases hn.symm.trans h
  | answers _ _ hn _ _ => cases hn.symm.trans h

theorem request_step (hstep : Step program Other p e q) (h : (p.threads n).request = some request) :
    (q.threads n).request = some request := by
  cases moves_of_step [] hstep n with
  | stays hn _ => rwa [hn]
  | starts _ hunused _ _ _ =>
    rw [hunused] at h
    cases h
  | acts _ hrunning hn _ _ =>
    rw [hrunning] at h
    rw [hn]
    exact h
  | answers _ hrunning hn _ _ =>
    rw [hrunning] at h
    rw [hn]
    exact h

theorem request_of_start (hrun : Run (Step program Other) p events q)
    (h : .start n request ∈ events) : (q.threads n).request = some request := by
  induction hrun with
  | nil => cases h
  | cons hstep hrest ih =>
    rcases List.mem_cons.mp h with rfl | h
    · refine hrest.invariant (I := fun s => (s.threads n).request = some request)
        (fun _ _ _ hstep h => request_step hstep h) ?_
      cases hstep with
      | start _ => simp [Thread.request]
    · exact ih h

theorem result_step (hstep : Step program Other p e q) (h : (p.threads n).result = some value) :
    (q.threads n).result = some value := by
  cases moves_of_step [] hstep n with
  | stays hn _ => rwa [hn]
  | starts _ hunused _ _ _ =>
    rw [hunused] at h
    cases h
  | acts _ hrunning _ _ _ =>
    rw [hrunning] at h
    cases h
  | answers _ hrunning hn _ _ =>
    rw [hrunning] at h
    rw [hn]
    exact h

theorem result_run (hrun : Run (Step program Other) p events q)
    (h : (p.threads n).result = some value) :
    (q.threads n).result = some value :=
  hrun.invariant (I := fun s => (s.threads n).result = some value)
    (fun _ _ _ hstep h => result_step hstep h) h

theorem result_of_step (hstep : Step program Other p e q) (h : (q.threads n).result = some value) :
    (p.threads n).result = some value ∨
      (∃ request, e = .start n request ∧ program request = .ret value) ∨
      ∃ request update next, e = .act n p.shared ∧
        p.threads n = .running request (.act update next) ∧ next p.shared = .ret value := by
  cases moves_of_step [] hstep n with
  | stays hn _ => exact .inl (hn ▸ h)
  | @starts request he _ hn _ _ =>
    rw [hn] at h
    cases hprogram : program request with
    | ret value' =>
      rw [hprogram] at h
      exact .inr (.inl ⟨request, he, by rw [hprogram, Option.some.inj h]⟩)
    | act update next =>
      rw [hprogram] at h
      cases h
  | @acts request update next he hrunning hn _ _ =>
    rw [hn] at h
    refine .inr (.inr ⟨request, update, next, he, hrunning, ?_⟩)
    cases hnext : next p.shared with
    | ret value' =>
      rw [hnext] at h
      rw [Option.some.inj h]
    | act update' next' =>
      rw [hnext] at h
      cases h
  | answers _ hrunning hn _ _ =>
    rw [hn] at h
    rw [hrunning]
    exact .inl h

theorem running_of_step {rest : Prog σ α} (hstep : Step program Other p e q)
    (h : q.threads n = .running request rest) :
    (∃ rest', p.threads n = .running request rest') ∨ e = .start n request := by
  cases moves_of_step [] hstep n with
  | stays hn _ => exact .inl ⟨rest, hn ▸ h⟩
  | starts he _ hn _ _ =>
    cases hn.symm.trans h
    exact .inr he
  | acts _ hrunning hn _ _ =>
    cases hn.symm.trans h
    exact .inl ⟨_, hrunning⟩
  | answers _ _ hn _ _ => cases hn.symm.trans h

theorem unused_of_start (hrun : Run (Step program Other) p events q) (h : .start n request ∈ events)
    :
    p.threads n = .unused := by
  induction hrun with
  | nil => cases h
  | cons hstep _ ih =>
    rcases List.mem_cons.mp h with rfl | h
    · cases hstep with
      | start hunused => exact hunused
    · exact unused_of_step hstep (ih h)

end Moves

section Accounted

variable {program : ρ → Prog σ α} {Other : σ → σ → Prop}
variable {ok : ρ → List σ → σ → σ → Prop} {post : ρ → List σ → α → Prop}
variable {past : List (Event σ ρ α)} {p q : Pool σ ρ α} {e : Event σ ρ α}

/-- `R` holds of each request, of what its actions have found and of what is left. -/
def Tracked (R : ρ → List σ → Prog σ α → Prop) (past : List (Event σ ρ α)) (n : Nat) :
    Thread σ ρ α → Prop
  | .unused => seen n past = []
  | .running request rest => .start n request ∈ past ∧ R request (seen n past) rest
  | .answered request answer => .start n request ∈ past ∧ R request (seen n past) (.ret answer)

section Tracked

variable {R : ρ → List σ → Prog σ α → Prop}

theorem tracked_step (hstart : ∀ request, R request [] (program request))
    (hact : ∀ request found update next s, R request found (.act update next) →
      R request (found ++ [s]) (next s))
    (hstep : Step program Other p e q) (h : ∀ n, Tracked R past n (p.threads n)) (n : Nat) :
    Tracked R (past ++ [e]) n (q.threads n) := by
  have hn := h n
  cases moves_of_step past hstep n with
  | stays hthread hseen =>
    rw [hthread]
    cases hp : p.threads n with
    | unused =>
      rw [hp] at hn
      exact hseen.trans hn
    | _ =>
      rw [hp] at hn
      exact ⟨List.mem_append_left _ hn.1, hseen ▸ hn.2⟩
  | @starts request he hunused hthread _ hseen =>
    rw [hunused] at hn
    rw [hthread]
    refine ⟨List.mem_append_right _ (by rw [he]; exact List.mem_cons_self), ?_⟩
    rw [hseen, show seen n past = [] from hn]
    exact hstart request
  | acts _ hrunning hthread _ hseen =>
    rw [hrunning] at hn
    rw [hthread]
    refine ⟨List.mem_append_left _ hn.1, ?_⟩
    rw [hseen]
    exact hact _ _ _ _ p.shared hn.2
  | answers _ hrunning hthread _ hseen =>
    rw [hrunning] at hn
    rw [hthread]
    exact ⟨List.mem_append_left _ hn.1, hseen ▸ hn.2⟩

theorem tracked_run {events : List (Event σ ρ α)} (hstart : ∀ request, R request [] (program request))
    (hact : ∀ request found update next s, R request found (.act update next) →
      R request (found ++ [s]) (next s))
    (hunused : ∀ n, p.threads n = .unused) (hrun : Run (Step program Other) p events q) (n : Nat) :
    Tracked R events n (q.threads n) := by
  have hall : ∀ n, Tracked R events n (q.threads n) := by
    refine hrun.history (I := fun past p => ∀ n, Tracked R past n (p.threads n)) ?_ ?_
    · intro past s e t hstep h
      exact tracked_step hstart hact hstep h
    · intro n
      rw [hunused n]
      rfl
  exact hall n

end Tracked

/-- The thread is where its request gets with what its actions have found. -/
def Follows (program : ρ → Prog σ α) : List (Event σ ρ α) → Nat → Thread σ ρ α → Prop :=
  Tracked fun request found rest => (program request).after found = some rest

theorem follows_step (hstep : Step program Other p e q)
    (h : ∀ n, Follows program past n (p.threads n)) (n : Nat) :
    Follows program (past ++ [e]) n (q.threads n) :=
  tracked_step (fun _ => Prog.after_nil _)
    (fun _ _ _ _ s hafter => Prog.after_snoc hafter s) hstep h n

variable {events : List (Event σ ρ α)}

theorem follows_run (hunused : ∀ n, p.threads n = .unused)
    (hrun : Run (Step program Other) p events q) (n : Nat) :
    Follows program events n (q.threads n) :=
  tracked_run (fun _ => Prog.after_nil _) (fun _ _ _ _ s hafter => Prog.after_snoc hafter s)
    hunused hrun n

def Accounted (ok : ρ → List σ → σ → σ → Prop) (post : ρ → List σ → α → Prop)
    (past : List (Event σ ρ α)) (n : Nat) : Thread σ ρ α → Prop
  | .unused => seen n past = []
  | .running request rest =>
    .start n request ∈ past ∧ (rest.Keeps (ok request) (post request) (seen n past))
  | .answered request answer => .start n request ∈ past ∧ post request (seen n past) answer

theorem accounted_step (programs : ∀ request,
      (program request).Keeps (ok request) (post request) [])
    (hstep : Step program Other p e q) (h : ∀ n, Accounted ok post past n (p.threads n)) (n : Nat) :
    Accounted ok post (past ++ [e]) n (q.threads n) := by
  exact tracked_step programs (fun _ _ _ _ s hkeeps => (hkeeps s).2) hstep h n

theorem accounted_run (programs : ∀ request,
      (program request).Keeps (ok request) (post request) [])
    (hunused : ∀ n, p.threads n = .unused) (hrun : Run (Step program Other) p events q) (n : Nat) :
    Accounted ok post events n (q.threads n) := by
  exact tracked_run programs (fun _ _ _ _ s hkeeps => (hkeeps s).2) hunused hrun n

theorem shared_step (hstep : Step program Other p e q)
    (h : ∀ n, Accounted ok post past n (p.threads n)) :
    q.shared = p.shared ∨ Other p.shared q.shared ∨
      ∃ n request, .start n request ∈ past ∧ ok request (seen n past) p.shared q.shared := by
  cases hstep with
  | @act n request update next hrunning =>
    have hkeeps := h n
    rw [hrunning] at hkeeps
    exact .inr (.inr ⟨n, request, hkeeps.1, (hkeeps.2 p.shared).1⟩)
  | other hother => exact .inr (.inl hother)
  | _ => exact .inl rfl

end Accounted

variable {program : ρ → Prog σ α} {Other : σ → σ → Prop} {p q : Pool σ ρ α} {e : Event σ ρ α}

/-- Every request that has come to its end finds what it left behind still there. -/
def Settled (post : ρ → σ → α → Prop) (p : Pool σ ρ α) : Prop :=
  ∀ n, match p.threads n with
    | .unused => True
    | .running request rest => rest.Leaves (post request) p.shared
    | .answered request answer => post request p.shared answer

variable {post : ρ → σ → α → Prop}

theorem settled_unused (h : ∀ n, p.threads n = .unused) : Settled post p := by
  intro n
  rw [h n]
  trivial

theorem settled_result {n : Nat} {value : α} (h : Settled post p)
    (hresult : (p.threads n).result = some value) : ∃ request, post request p.shared value := by
  have hn := h n
  cases hthread : p.threads n with
  | unused =>
    rw [hthread] at hresult
    cases hresult
  | running request rest =>
    rw [hthread] at hresult hn
    cases rest with
    | ret value' =>
      obtain rfl := Option.some.inj hresult
      exact ⟨request, hn⟩
    | act update next => cases hresult
  | answered request answer =>
    rw [hthread] at hresult hn
    obtain rfl := Option.some.inj hresult
    exact ⟨request, hn⟩

theorem settled_step (programs : ∀ request s, (program request).Leaves (post request) s)
    (stable : ∀ request value, post request p.shared value → post request q.shared value)
    (hstep : Step program Other p e q) (h : Settled post p) : Settled post q := by
  intro n
  have hn := h n
  cases moves_of_step [] hstep n with
  | stays hthread _ =>
    rw [hthread]
    split at hn
    · trivial
    · exact Prog.leaves_stable hn fun value => stable _ value
    · exact stable _ _ hn
  | starts _ _ hthread _ _ =>
    rw [hthread]
    exact programs _ q.shared
  | acts _ hrunning hthread hshared _ =>
    rw [hrunning] at hn
    rw [hthread, hshared]
    exact hn p.shared
  | answers _ hrunning hthread hshared _ =>
    rw [hrunning] at hn
    rw [hthread, hshared]
    exact hn

end Outpost.Interleaving
