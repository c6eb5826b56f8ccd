import Mathlib.Data.Set.Card
import Outpost.Shared.Interleaving

/-!
# Reading and writing back

Threads read a value in one step and write one computed from it in a later step; what others have
written in between is lost. Pools of programs follow the machine, phase by phase.
-/

namespace Outpost.ReadModifyWrite

open Interleaving Runs Function

variable {V : Type}

inductive Phase (V : Type) where
  | idle
  | holding (snapshot : V)
  | wrote (snapshot found : V)

structure Machine (V : Type) where
  value : V
  phase : Nat → Phase V

namespace Machine

def idle (value : V) : Machine V := ⟨value, fun _ => .idle⟩

def writers (m : Machine V) : Set Nat := {n | ∃ snapshot found, m.phase n = .wrote snapshot found}

/-- Whoever has written wrote over what it had read, as far as `f` tells. -/
def Current {β : Type} (f : V → β) (m : Machine V) : Prop :=
  ∀ n snapshot found, m.phase n = .wrote snapshot found → f snapshot = f found

end Machine

inductive Step (Writes : Nat → V → V → V → Prop) : Machine V → Machine V → Prop where
  | read {m : Machine V} {n : Nat} : m.phase n = .idle →
      Step Writes m ⟨m.value, update m.phase n (.holding m.value)⟩
  | write {m : Machine V} {n : Nat} {snapshot v : V} : m.phase n = .holding snapshot →
      Writes n snapshot m.value v →
      Step Writes m ⟨v, update m.phase n (.wrote snapshot m.value)⟩

abbrev Reaches (Writes : Nat → V → V → V → Prop) : Machine V → Machine V → Prop :=
  Relation.ReflTransGen (Step Writes)

theorem reaches_mono {Writes Writes' : Nat → V → V → V → Prop} {m m' : Machine V}
    (h : ∀ n s f v, Writes n s f v → Writes' n s f v) (hreaches : Reaches Writes m m') :
    Reaches Writes' m m' := by
  induction hreaches with
  | refl => exact .refl
  | tail _ hstep ih =>
    refine ih.tail ?_
    cases hstep with
    | read hidle => exact .read hidle
    | write hholding hwrites => exact .write hholding (h _ _ _ _ hwrites)

variable {n : Nat}

theorem of_update {α : Type} {f : Nat → α} {n' : Nat} {a b : α} (h : update f n a n' = b) :
    n' = n ∧ a = b ∨ n' ≠ n ∧ f n' = b := by
  by_cases hn : n' = n
  · subst hn
    rw [update_self] at h
    exact .inl ⟨rfl, h⟩
  · rw [update_of_ne hn] at h
    exact .inr ⟨hn, h⟩

section Steps

variable {m : Machine V} {n : Nat} {snapshot v : V}

theorem writers_idle (value : V) : (Machine.idle value).writers = ∅ := by
  apply Set.eq_empty_of_forall_notMem
  intro n hn
  obtain ⟨_, _, hwrote⟩ := hn
  cases hwrote

theorem wrote_read_iff (hidle : m.phase n = .idle) {n' : Nat} {s f : V} :
    update m.phase n (.holding v) n' = .wrote s f ↔ m.phase n' = .wrote s f := by
  by_cases hn : n' = n
  · subst hn
    simp [hidle]
  · rw [update_of_ne hn]

theorem wrote_write_iff (h : m.phase n = .holding snapshot) {n' : Nat} {s f : V} :
    update m.phase n (.wrote snapshot v) n' = .wrote s f ↔
      n' = n ∧ snapshot = s ∧ v = f ∨ m.phase n' = .wrote s f := by
  by_cases hn : n' = n
  · subst hn
    simp [h]
  · simp [hn]

theorem writers_read (hidle : m.phase n = .idle) :
    (Machine.mk m.value (update m.phase n (.holding m.value))).writers = m.writers := by
  simp [Machine.writers, wrote_read_iff hidle]

theorem writers_write (h : m.phase n = .holding snapshot) :
    (Machine.mk v (update m.phase n (.wrote snapshot m.value))).writers =
      insert n m.writers := by
  ext n'
  simp only [Machine.writers, wrote_write_iff h]
  constructor
  · intro hwrote
    obtain ⟨s, f, ⟨heq, _⟩ | hold⟩ := hwrote
    · exact .inl heq
    · exact .inr ⟨s, f, hold⟩
  · intro hin
    rcases hin with heq | ⟨s, f, hold⟩
    · exact ⟨snapshot, m.value, .inl ⟨heq, rfl, rfl⟩⟩
    · exact ⟨s, f, .inr hold⟩

theorem not_mem_writers (h : m.phase n = .holding snapshot) : n ∉ m.writers := by
  intro hn
  obtain ⟨_, _, hwrote⟩ := hn
  cases h.symm.trans hwrote

theorem current_write {β : Type} {f : V → β} (h : m.phase n = .holding snapshot) :
    (Machine.mk v (update m.phase n (.wrote snapshot m.value))).Current f ↔
      f snapshot = f m.value ∧ m.Current f := by
  simp only [Machine.Current, wrote_write_iff h]
  constructor
  · intro hcurrent
    refine ⟨hcurrent n _ _ (.inl ⟨rfl, rfl, rfl⟩), ?_⟩
    intro n' s g hold
    exact hcurrent n' s g (.inr hold)
  · intro hcurrent n' s g hwrote
    rcases hwrote with ⟨_, rfl, rfl⟩ | hold
    · exact hcurrent.1
    · exact hcurrent.2 n' s g hold

theorem current_read {β : Type} {f : V → β} (hidle : m.phase n = .idle) :
    (Machine.mk m.value (update m.phase n (.holding m.value))).Current f ↔
      m.Current f := by
  simp only [Machine.Current, wrote_read_iff hidle]

end Steps

section Counters

variable {count : V → Int} {c₀ : Int} {m m' : Machine V} {Writes : Nat → V → V → V → Prop}

/-- The counter is at most what it should be. Once it is behind, so is all that was read. -/
structure Counts (count : V → Int) (c₀ : Int) (m : Machine V) : Prop where
  finite : m.writers.Finite
  value_le : count m.value ≤ c₀ + m.writers.ncard
  holding_le : ∀ n s, m.phase n = .holding s → count s ≤ c₀ + m.writers.ncard
  holding_lt : count m.value < c₀ + m.writers.ncard →
    ∀ n s, m.phase n = .holding s → count s < c₀ + m.writers.ncard
  exact_iff : count m.value = c₀ + m.writers.ncard ↔ m.Current count

theorem counts_idle (value : V) : Counts count (count value) (Machine.idle value) := by
  have hcard : (Machine.idle value).writers.ncard = 0 := by
    rw [writers_idle, Set.ncard_empty]
  constructor
  · rw [writers_idle]
    exact Set.finite_empty
  · simp [Machine.idle]
  · intro n s h
    cases h
  · intro _ n s h
    cases h
  · rw [hcard]
    refine iff_of_true (add_zero _).symm ?_
    intro n s f h
    cases h

theorem counts_read {n : Nat} (hidle : m.phase n = .idle) (h : Counts count c₀ m) :
    Counts count c₀ ⟨m.value, update m.phase n (.holding m.value)⟩ := by
  have hholding : ∀ n' s, update m.phase n (.holding m.value) n' = .holding s →
      count s = count m.value ∨ m.phase n' = .holding s := by
    intro n' s hs
    rcases of_update hs with ⟨_, heq⟩ | ⟨_, hold⟩
    · cases heq
      exact .inl rfl
    · exact .inr hold
  have hwriters := writers_read hidle
  constructor
  · rw [hwriters]
    exact h.finite
  · rw [hwriters]
    exact h.value_le
  · intro n' s hs
    rw [hwriters]
    rcases hholding n' s hs with heq | hold
    · exact heq ▸ h.value_le
    · exact h.holding_le n' s hold
  · intro hlt n' s hs
    rw [hwriters] at hlt ⊢
    rcases hholding n' s hs with heq | hold
    · exact heq ▸ hlt
    · exact h.holding_lt hlt n' s hold
  · rw [hwriters, current_read hidle]
    exact h.exact_iff

theorem counts_write {n : Nat} {snapshot v : V} (hcount : count v = count snapshot + 1)
    (hholding : m.phase n = .holding snapshot) (h : Counts count c₀ m) :
    Counts count c₀ ⟨v, update m.phase n (.wrote snapshot m.value)⟩ := by
  have hle := h.holding_le n snapshot hholding
  have hwriters := writers_write (v := v) hholding
  have hcard : (insert n m.writers).ncard = m.writers.ncard + 1 :=
    Set.ncard_insert_of_notMem (not_mem_writers hholding) h.finite
  -- what others have read is from before this write
  have hbehind : ∀ n' s, update m.phase n (.wrote snapshot m.value) n' = .holding s →
      count s < c₀ + ↑(m.writers.ncard + 1) := by
    intro n' s hs
    rcases of_update hs with ⟨_, heq⟩ | ⟨_, hold⟩
    · cases heq
    · have := h.holding_le n' s hold
      omega
  constructor
  · rw [hwriters]
    exact h.finite.insert n
  · rw [hwriters]
    show count v ≤ _
    omega
  · intro n' s hs
    rw [hwriters, hcard]
    exact (hbehind n' s hs).le
  · intro _ n' s hs
    rw [hwriters, hcard]
    exact hbehind n' s hs
  · rw [hwriters, current_write hholding, ← h.exact_iff]
    show count v = _ ↔ _
    have hlt := fun hlt => h.holding_lt hlt n snapshot hholding
    have hvalue := h.value_le
    constructor
    · intro heq
      omega
    · intro heq
      omega

theorem counts_step (hwrites : ∀ n s f v, Writes n s f v → count v = count s + 1)
    (hstep : Step Writes m m') (h : Counts count c₀ m) : Counts count c₀ m' := by
  cases hstep with
  | read hidle => exact counts_read hidle h
  | write hholding hwrite => exact counts_write (hwrites _ _ _ _ hwrite) hholding h

end Counters

section LastWriter

variable {m m' : Machine V} {Writes : Nat → V → V → V → Prop} {value : V}

theorem last_writer (hreaches : Reaches Writes (Machine.idle value) m) :
    m.value = value ∧ m.writers = ∅ ∨
      ∃ n snapshot found, m.phase n = .wrote snapshot found ∧ Writes n snapshot found m.value := by
  induction hreaches with
  | refl => exact .inl ⟨rfl, writers_idle value⟩
  | tail _ hstep ih =>
    cases hstep with
    | @read n hidle =>
      rcases ih with ⟨hvalue, hnone⟩ | ⟨n', s, f, hwrote, hwrites⟩
      · exact .inl ⟨hvalue, (writers_read hidle).trans hnone⟩
      · exact .inr ⟨n', s, f, (wrote_read_iff hidle).mpr hwrote, hwrites⟩
    | write _ hwrites => exact .inr ⟨_, _, _, update_self _ _ _, hwrites⟩

theorem reflects_of_current {β : Type} {f : V → β} {Reflects : Nat → β → Prop}
    (hown : ∀ n s g v, Writes n s g v → Reflects n (f v))
    (hkept : ∀ n n' s g v, Writes n s g v → Reflects n' (f s) → Reflects n' (f v))
    (hreaches : Reaches Writes (Machine.idle value) m) (hcurrent : m.Current f) :
    ∀ n ∈ m.writers, Reflects n (f m.value) := by
  induction hreaches with
  | refl =>
    intro n hn
    rw [writers_idle] at hn
    cases hn
  | tail _ hstep ih =>
    cases hstep with
    | read hidle =>
      rw [writers_read hidle]
      exact ih ((current_read hidle).mp hcurrent)
    | write hholding hwrites =>
      obtain ⟨hsame, hbefore⟩ := (current_write hholding).mp hcurrent
      rw [writers_write hholding]
      intro n' hn'
      rcases Set.mem_insert_iff.mp hn' with rfl | hold
      · exact hown _ _ _ _ hwrites
      · exact hkept _ n' _ _ _ hwrites (hsame ▸ ih hbefore n' hold)

end LastWriter

variable {σ ρ α : Type}

inductive Advances (value : σ → V) (W : V → V → V → Prop) (s s' : σ) :
    Phase V → Phase V → Prop where
  | quiet {ph : Phase V} : value s' = value s → Advances value W s s' ph ph
  | read : value s' = value s → Advances value W s s' .idle (.holding (value s))
  | write {snapshot : V} : W snapshot (value s) (value s') →
      Advances value W s s' (.holding snapshot) (.wrote snapshot (value s))

/-- In which phase a program is, from what its actions have found and what is left of it. -/
structure Protocol (program : ρ → Prog σ α) (Other : σ → σ → Prop) (value : σ → V)
    (Good : σ → Prop) (Allowed : ρ → Prop) (W : ρ → V → V → V → Prop)
    (Fits : ρ → List σ → Prog σ α → Phase V → Prop) : Prop where
  start : ∀ r, Allowed r → Fits r [] (program r) .idle
  act : ∀ r found update next ph s, Fits r found (.act update next) ph → Good s →
    Good (update s) ∧ ∃ ph', Advances value (W r) s (update s) ph ph' ∧
      Fits r (found ++ [s]) (next s) ph'
  other : ∀ s s', Other s s' → Good s → Good s' ∧ value s' = value s

def Placed (Fits : ρ → List σ → Prog σ α → Phase V → Prop) (past : List (Event σ ρ α)) (n : Nat)
    (ph : Phase V) : Thread σ ρ α → Prop
  | .unused => seen n past = [] ∧ ph = .idle
  | .running r rest => .start n r ∈ past ∧ Fits r (seen n past) rest ph
  | .answered r answer => .start n r ∈ past ∧ Fits r (seen n past) (.ret answer) ph

structure Simulates (value : σ → V) (Good : σ → Prop)
    (Fits : ρ → List σ → Prog σ α → Phase V → Prop) (past : List (Event σ ρ α)) (p : Pool σ ρ α)
    (m : Machine V) : Prop where
  good : Good p.shared
  value_eq : m.value = value p.shared
  threads : ∀ n, Placed Fits past n (m.phase n) (p.threads n)

def WritesOf (W : ρ → V → V → V → Prop) (events : List (Event σ ρ α)) (n : Nat) (s f v : V) :
    Prop :=
  ∃ r, .start n r ∈ events ∧ W r s f v

variable {program : ρ → Prog σ α} {Other : σ → σ → Prop} {value : σ → V} {Good : σ → Prop}
variable {Allowed : ρ → Prop} {W : ρ → V → V → V → Prop}
variable {Fits : ρ → List σ → Prog σ α → Phase V → Prop}
variable {past events : List (Event σ ρ α)} {p q : Pool σ ρ α} {e : Event σ ρ α} {m : Machine V}

theorem Placed.stays {ph : Phase V} {t t' : Thread σ ρ α} (h : Placed Fits past n ph t)
    (hthread : t' = t) (hseen : seen n (past ++ [e]) = seen n past) :
    Placed Fits (past ++ [e]) n ph t' := by
  rw [hthread]
  cases t with
  | unused => exact ⟨hseen.trans h.1, h.2⟩
  | _ => exact ⟨List.mem_append_left _ h.1, hseen ▸ h.2⟩

theorem placed_act {r : ρ} {next : σ → Prog σ α} {phase : Nat → Phase V} {ph' : Phase V}
    (hn : .start n r ∈ past) (hfits : Fits r (seen n past ++ [p.shared]) (next p.shared) ph')
    (hothers : ∀ n', n' ≠ n → phase n' = m.phase n') (hself : phase n = ph')
    (h : ∀ n, Placed Fits past n (m.phase n) (p.threads n)) (n' : Nat) :
    Placed Fits (past ++ [.act n p.shared]) n' (phase n')
      (update p.threads n (.running r (next p.shared)) n') := by
  by_cases hn' : n' = n
  · subst hn'
    rw [update_self, hself]
    exact ⟨List.mem_append_left _ hn, seen_append_act (ρ := ρ) (α := α) _ past _ ▸ hfits⟩
  · rw [hothers n' hn']
    refine (h n').stays (update_of_ne hn' _ _) (seen_append_of_ne ?_)
    intro s heq
    cases heq
    exact hn' rfl

theorem placed_update {t : Thread σ ρ α} (hseen : ∀ n', seen n' (past ++ [e]) = seen n' past)
    (hself : Placed Fits (past ++ [e]) n (m.phase n) t)
    (h : ∀ n, Placed Fits past n (m.phase n) (p.threads n)) (n' : Nat) :
    Placed Fits (past ++ [e]) n' (m.phase n') (update p.threads n t n') := by
  by_cases hn : n' = n
  · subst hn
    rw [update_self]
    exact hself
  · exact (h n').stays (update_of_ne hn _ _) (hseen n')

theorem simulates_step (protocol : Protocol program Other value Good Allowed W Fits)
    (hstep : Interleaving.Step program Other p e q) (hallowed : ∀ n r, e = .start n r → Allowed r)
    (h : Simulates value Good Fits past p m) :
    ∃ m', Reaches (WritesOf W past) m m' ∧ Simulates value Good Fits (past ++ [e]) q m' := by
  cases hstep with
  | @start n r hunused =>
    have hseen : ∀ n', seen n' (past ++ [.start n r]) = seen n' past :=
      fun _ => seen_append_of_ne nofun
    have hplaced := h.threads n
    rw [hunused] at hplaced
    obtain ⟨hnone, hidle⟩ := hplaced
    refine ⟨m, .refl, h.good, h.value_eq, placed_update hseen ?_ h.threads⟩
    refine ⟨List.mem_append_right _ List.mem_cons_self, ?_⟩
    rw [hseen n, hnone, hidle]
    exact protocol.start r (hallowed n r rfl)
  | @act n r update next hrunning =>
    have hplaced := h.threads n
    rw [hrunning] at hplaced
    obtain ⟨hn, hfits⟩ := hplaced
    obtain ⟨hgood, ph', hadvances, hfits'⟩ := protocol.act r _ update next _ _ hfits h.good
    generalize hph : m.phase n = ph at hadvances
    cases hadvances with
    | quiet hvalue =>
      exact ⟨m, .refl, hgood, h.value_eq.trans hvalue.symm,
        placed_act hn hfits' (fun _ _ => rfl) hph h.threads⟩
    | read hvalue =>
      rw [← h.value_eq] at hfits'
      exact ⟨_, .single (.read hph), hgood, h.value_eq.trans hvalue.symm,
        placed_act hn hfits' (fun _ hne => update_of_ne hne _ _)
          (update_self _ _ _) h.threads⟩
    | write hwrites =>
      rw [← h.value_eq] at hfits' hwrites
      exact ⟨_, .single (.write hph ⟨r, hn, hwrites⟩), hgood, rfl,
        placed_act hn hfits' (fun _ hne => update_of_ne hne _ _)
          (update_self _ _ _) h.threads⟩
  | @answer n r answer hrunning =>
    have hseen : ∀ n', seen n' (past ++ [.answer n answer]) = seen n' past :=
      fun _ => seen_append_of_ne nofun
    have hplaced := h.threads n
    rw [hrunning] at hplaced
    refine ⟨m, .refl, h.good, h.value_eq, placed_update hseen ?_ h.threads⟩
    exact ⟨List.mem_append_left _ hplaced.1, hseen n ▸ hplaced.2⟩
  | other hother =>
    obtain ⟨hgood, hvalue⟩ := protocol.other _ _ hother h.good
    refine ⟨m, .refl, hgood, h.value_eq.trans hvalue.symm, ?_⟩
    intro n'
    exact (h.threads n').stays rfl (seen_append_of_ne nofun)

theorem simulates_run (protocol : Protocol program Other value Good Allowed W Fits)
    (hunused : ∀ n, p.threads n = .unused) (hgood : Good p.shared)
    (hallowed : ∀ n r, .start n r ∈ events → Allowed r)
    (hrun : Run (Interleaving.Step program Other) p events q) :
    ∃ m, Reaches (WritesOf W events) (Machine.idle (value p.shared)) m ∧
      Simulates value Good Fits events q m := by
  refine hrun.history (I := fun past s => (∀ n r, .start n r ∈ past → Allowed r) →
    ∃ m, Reaches (WritesOf W past) (Machine.idle (value p.shared)) m ∧
      Simulates value Good Fits past s m) ?_ ?_ hallowed
  · intro past s e t hstep ih hallowed
    obtain ⟨m, hreaches, hm⟩ := ih fun n r hr => hallowed n r (List.mem_append_left _ hr)
    have hstart : ∀ n r, e = .start n r → Allowed r := by
      intro n r he
      exact hallowed n r (List.mem_append_right _ (he ▸ List.mem_cons_self))
    obtain ⟨m', hmore, hm'⟩ := simulates_step protocol hstep hstart hm
    refine ⟨m', reaches_mono ?_ (hreaches.trans hmore), hm'⟩
    intro n s f v hwrites
    obtain ⟨r, hr, hwrites⟩ := hwrites
    exact ⟨r, List.mem_append_left _ hr, hwrites⟩
  · intro _
    refine ⟨_, .refl, hgood, rfl, ?_⟩
    intro n
    rw [hunused n]
    exact ⟨rfl, rfl⟩

end Outpost.ReadModifyWrite
